import CMakeGrammar.Text.Blank
/-! Cutting a text at a character, and replacing one text by another everywhere. -/
namespace CMakeGrammar.Text

def splitStep (sep c : Char) : List (List Char) → List (List Char)
  | [] => if c = sep then [[], []] else [[c]]
  | part :: parts => if c = sep then [] :: part :: parts else (c :: part) :: parts

def splitAtChar (sep : Char) (cs : List Char) : List (List Char) :=
  cs.foldr (splitStep sep) [[]]

@[simp] theorem splitAtChar_nil (sep : Char) : splitAtChar sep [] = [[]] := rfl

@[simp] theorem splitAtChar_cons (sep c : Char) (cs : List Char) :
    splitAtChar sep (c :: cs) = splitStep sep c (splitAtChar sep cs) := rfl

theorem splitAtChar_ne_nil (sep : Char) (cs : List Char) : splitAtChar sep cs ≠ [] := by
  cases cs with
  | nil => simp
  | cons c cs =>
    rw [splitAtChar_cons]
    cases splitAtChar sep cs <;> simp only [splitStep] <;> split <;> simp

def lines (s : String) : List String :=
  let parts := (splitAtChar '\n' s.toList).map String.ofList
  if parts.getLast? = some "" then parts.dropLast else parts

def replaceFrom (old new : List Char) : Nat → List Char → List Char
  | _, [] => []
  | skip + 1, _ :: cs => replaceFrom old new skip cs
  | 0, c :: cs =>
    if !old.isEmpty && old.isPrefixOf (c :: cs) then
      new ++ replaceFrom old new (old.length - 1) cs
    else c :: replaceFrom old new 0 cs

/-- Replaces the occurrences of `old`, leftmost first and without overlap, by `new`. The empty
text occurs nowhere. -/
def replaceAll (old new cs : List Char) : List Char :=
  replaceFrom old new 0 cs

@[simp] theorem replaceAll_nil (old new : List Char) : replaceAll old new [] = [] := rfl

@[simp] theorem replaceFrom_zero_empty (new cs : List Char) : replaceFrom [] new 0 cs = cs := by
  induction cs with
  | nil => rfl
  | cons c cs ih => simp [replaceFrom, ih]

end CMakeGrammar.Text
