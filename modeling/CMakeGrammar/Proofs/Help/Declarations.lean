import Mathlib.Data.List.TakeWhile
import CMakeGrammar.Proofs.Help.Shape
/-! What a module's help declares and what is read of it. A directive declares the whole identifier
behind it; what is read ends in front of the first digit, so a name with a digit in it is cut to
another name. -/
namespace CMakeGrammar.Help
open Text (isAsciiWordChar collapseChars)

def IsIdentifier (name : List Char) : Prop :=
  ∃ first rest, name = first :: rest ∧ (first.isAlpha = true ∨ first = '_') ∧
    ∀ c ∈ rest, c.isAlphanum = true ∨ c = '_'

/-- The name is the whole identifier behind a directive of the text. -/
def IsDeclared (text name : List Char) : Prop :=
  IsIdentifier name ∧ ∃ before after, text = before ++ (directive ++ (name ++ after)) ∧
    ∀ c ∈ after.head?, ¬(c.isAlphanum = true ∨ c = '_')

theorem isAsciiWordChar_iff {c : Char} :
    isAsciiWordChar c = true ↔ c.isAlphanum = true ∨ c = '_' := by
  simp [isAsciiWordChar]

theorem isAlpha_of_isDigit {c : Char} (digit : c.isDigit = true) : c.isAlpha = false := by
  have upTo : c.val ≤ '9'.val := of_decide_eq_true (Bool.and_eq_true_iff.mp digit).2
  have notUpper : c.isUpper = false :=
    decide_eq_false fun range => absurd (UInt32.le_trans range.1 upTo) (by decide)
  have notLower : c.isLower = false :=
    Bool.and_eq_false_iff.mpr
      (.inl (decide_eq_false fun above => absurd (UInt32.le_trans above upTo) (by decide)))
  exact Bool.or_eq_false_iff.mpr ⟨notUpper, notLower⟩

theorem isAlpha_eq (c : Char) : c.isAlpha = (c.isAlphanum && !c.isDigit) := by
  cases digit : c.isDigit with
  | false => rw [Char.isAlphanum, digit, Bool.or_false, Bool.not_false, Bool.and_true]
  | true => rw [isAlpha_of_isDigit digit, Bool.not_true, Bool.and_false]

theorem isDirectiveNameChar_eq (c : Char) :
    isDirectiveNameChar c = (isAsciiWordChar c && !c.isDigit) := by
  rw [isDirectiveNameChar, isAsciiWordChar, isAlpha_eq]
  cases underscore : c == '_' with
  | false => rw [Bool.or_false, Bool.or_false]
  | true =>
    rw [beq_iff_eq.mp underscore]
    decide

theorem takeWhile_isDirectiveNameChar (cs : List Char) :
    cs.takeWhile isDirectiveNameChar = (cs.takeWhile isAsciiWordChar).takeWhile (!·.isDigit) := by
  rw [List.takeWhile_takeWhile]
  congr 1
  funext c
  rw [isDirectiveNameChar_eq, Bool.decide_and, Bool.decide_eq_true, Bool.decide_eq_true,
    Bool.and_comm]

theorem isIdentifier_iff {name : List Char} :
    IsIdentifier name ↔
      (∀ c ∈ name, isAsciiWordChar c = true) ∧ name.takeWhile (!·.isDigit) ≠ [] := by
  constructor
  · rintro ⟨first, rest, rfl, begins, others⟩
    have isName : isDirectiveNameChar first = true := isDirectiveNameChar_iff.mpr begins
    rw [isDirectiveNameChar_eq, Bool.and_eq_true] at isName
    refine ⟨List.forall_mem_cons.mpr ⟨isName.1,
      fun c mem => isAsciiWordChar_iff.mpr (others c mem)⟩, ?_⟩
    have notDigit : first.isDigit = false := by simpa using isName.2
    rw [List.takeWhile_cons, notDigit]
    exact List.cons_ne_nil _ _
  · rintro ⟨all, some⟩
    cases name with
    | nil => exact absurd rfl some
    | cons first rest =>
      obtain ⟨isWord, others⟩ := List.forall_mem_cons.mp all
      have notDigit : (!first.isDigit) = true := by
        cases digit : first.isDigit with
        | false => rfl
        | true =>
          rw [List.takeWhile_cons, digit] at some
          exact absurd rfl some
      have isName : isDirectiveNameChar first = true := by
        rw [isDirectiveNameChar_eq, isWord, notDigit]
        rfl
      exact ⟨first, rest, rfl, isDirectiveNameChar_iff.mp isName,
        fun c mem => isAsciiWordChar_iff.mp (others c mem)⟩

theorem declarationAt?_eq_some_iff {cs name : List Char} :
    declarationAt? cs = some name ↔
      ∃ rest, cs = directive ++ rest ∧ rest.takeWhile isDirectiveNameChar = name ∧ name ≠ [] := by
  rw [declarationAt?, Option.bind_eq_some_iff]
  refine exists_congr fun rest => and_congr Text.after?_eq_some_iff ?_
  dsimp only
  split
  · rename_i none
    rw [List.isEmpty_iff.mp none]
    constructor
    · intro h
      cases h
    · rintro ⟨rfl, some⟩
      exact absurd rfl some
  · rename_i some
    rw [Option.some.injEq]
    refine ⟨fun same => ⟨same, ?_⟩, And.left⟩
    rw [← same]
    simpa using some

/-- What is read of a text are the identifiers that are declared, each up to its first digit. -/
theorem mem_declarationsOf {text name : List Char} :
    name ∈ declarationsOf text ↔
      ∃ whole, IsDeclared text whole ∧ name = whole.takeWhile (!·.isDigit) := by
  rw [declarationsOf, Text.mem_everywhere]
  constructor
  · rintro ⟨before, after, rfl, -, found⟩
    obtain ⟨rest, rfl, isName, some⟩ := declarationAt?_eq_some_iff.mp found
    rw [takeWhile_isDirectiveNameChar] at isName
    refine ⟨rest.takeWhile isAsciiWordChar, ⟨isIdentifier_iff.mpr ⟨?_, isName ▸ some⟩, before,
      rest.dropWhile isAsciiWordChar, by rw [List.takeWhile_append_dropWhile], ?_⟩, isName.symm⟩
    · exact List.all_eq_true.mp List.all_takeWhile
    · intro c first
      rw [← isAsciiWordChar_iff, Text.stops_of_head?_dropWhile _ rest c first]
      exact Bool.false_ne_true
  · rintro ⟨whole, ⟨identifier, before, after, rfl, stops⟩, rfl⟩
    obtain ⟨all, some⟩ := isIdentifier_iff.mp identifier
    have isWhole : (whole ++ after).takeWhile isAsciiWordChar = whole := by
      refine Text.takeWhile_append_of_head? all fun c first => ?_
      rw [← Bool.not_eq_true, isAsciiWordChar_iff]
      exact stops c first
    refine ⟨before, directive ++ (whole ++ after), rfl,
      List.append_ne_nil_of_left_ne_nil (by decide) _, ?_⟩
    refine declarationAt?_eq_some_iff.mpr ⟨whole ++ after, rfl, ?_, some⟩
    rw [takeWhile_isDirectiveNameChar, isWhole]

theorem moduleFunctions?_eq_none_iff {help : String} :
    moduleFunctions? help = none ↔ declarationsOf (collapseChars help.toList) = [] := by
  unfold moduleFunctions?
  split <;> simp_all

theorem mem_moduleFunctions? {help name : String} :
    name ∈ (moduleFunctions? help).getD ∅ ↔
      name.toList ∈ declarationsOf (collapseChars help.toList) := by
  unfold moduleFunctions?
  split
  · rename_i none
    simp [none]
  · rw [Option.getD_some, NameSet.mem_ofList, List.mem_map]
    constructor
    · rintro ⟨found, mem, rfl⟩
      rwa [String.toList_ofList]
    · exact fun mem => ⟨name.toList, mem, String.ofList_toList⟩

/-- A module has no commands if nothing is declared, and otherwise they are the declared
identifiers, each up to its first digit. So they are what is declared exactly if no declared
identifier has a digit in it. -/
theorem moduleFunctions?_declared (help : String) :
    (moduleFunctions? help = none ↔ ∀ whole, ¬IsDeclared (collapseChars help.toList) whole) ∧
    (∀ name, name ∈ (moduleFunctions? help).getD ∅ ↔
      ∃ whole, IsDeclared (collapseChars help.toList) whole ∧
        name.toList = whole.takeWhile (!·.isDigit)) ∧
    ((∀ name, name ∈ (moduleFunctions? help).getD ∅ ↔
        IsDeclared (collapseChars help.toList) name.toList) ↔
      ∀ whole, IsDeclared (collapseChars help.toList) whole → ∀ c ∈ whole, c.isDigit = false) := by
  have members (name : String) : name ∈ (moduleFunctions? help).getD ∅ ↔
      ∃ whole, IsDeclared (collapseChars help.toList) whole ∧
        name.toList = whole.takeWhile (!·.isDigit) :=
    mem_moduleFunctions?.trans mem_declarationsOf
  refine ⟨?_, members, ?_, ?_⟩
  · rw [moduleFunctions?_eq_none_iff, List.eq_nil_iff_forall_not_mem]
    constructor
    · exact fun none whole declared => none _ (mem_declarationsOf.mpr ⟨whole, declared, rfl⟩)
    · rintro none name mem
      obtain ⟨whole, declared, -⟩ := mem_declarationsOf.mp mem
      exact none whole declared
  · intro same whole declared c mem
    have isRead : String.ofList whole ∈ (moduleFunctions? help).getD ∅ :=
      (same _).mpr (by rwa [String.toList_ofList])
    obtain ⟨other, -, isPart⟩ := (members _).mp isRead
    rw [String.toList_ofList] at isPart
    rw [isPart] at mem
    simpa using List.all_eq_true.mp List.all_takeWhile c mem
  · intro plain name
    have uncut {whole : List Char} (declared : IsDeclared (collapseChars help.toList) whole) :
        whole.takeWhile (!·.isDigit) = whole :=
      List.takeWhile_eq_self_iff.mpr fun c mem => by rw [plain whole declared c mem]; rfl
    rw [members]
    constructor
    · rintro ⟨whole, declared, isPart⟩
      rwa [isPart, uncut declared]
    · exact fun declared => ⟨name.toList, declared, (uncut declared).symm⟩

def python3Help : String := ".. command:: Python3_add_library\n\n  Python3_add_library(<target>)\n"

theorem moduleFunctions?_not_declared :
    ¬∀ help name : String, name ∈ (moduleFunctions? help).getD ∅ ↔
      IsDeclared (collapseChars help.toList) name.toList := by
  intro same
  have identifier : IsIdentifier "Python3_add_library".toList :=
    isIdentifier_iff.mpr ⟨List.all_eq_true.mp (by decide), by decide⟩
  have declared : IsDeclared (collapseChars python3Help.toList) "Python3_add_library".toList := by
    refine ⟨identifier, [], " Python3_add_library(<target>)".toList, by decide +kernel, ?_⟩
    rintro c ⟨⟩
    decide
  have isRead := (same python3Help "Python3_add_library").mpr declared
  revert isRead
  decide +kernel

end CMakeGrammar.Help
