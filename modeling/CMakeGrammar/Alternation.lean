import CMakeGrammar.NameSet
/-! Alternations in the pattern language of TextMate grammars: names joined by bars, with every
character that means something in a pattern escaped by a backslash. -/
namespace CMakeGrammar.Alternation

/-- The characters that mean something in a pattern, or may in some place of one. -/
def metaChars : List Char := "\\.+*?()|[]\x7b\x7d^$#&-~".toList

def escapeChar (c : Char) : List Char :=
  if metaChars.contains c then ['\\', c] else [c]

def escapeChars (cs : List Char) : List Char :=
  cs.flatMap escapeChar

def escape (s : String) : String :=
  String.ofList (escapeChars s.toList)

def arrange (names : List String) : List String :=
  names.mergeSort fun a b => a ≤ b

def ofNames (names : List String) : String :=
  "|".intercalate ((arrange names).map escape)

@[simp] theorem escapeChars_nil : escapeChars [] = [] := rfl

@[simp] theorem escapeChars_cons (c : Char) (cs : List Char) :
    escapeChars (c :: cs) = escapeChar c ++ escapeChars cs := rfl

@[simp] theorem escapeChars_append (a b : List Char) :
    escapeChars (a ++ b) = escapeChars a ++ escapeChars b := by
  simp [escapeChars]

theorem toList_escape (name : String) : (escape name).toList = escapeChars name.toList :=
  String.toList_ofList

def join (names : List String) : String := "|".intercalate (names.map escape)

theorem toList_join_singleton (name : String) :
    (join [name]).toList = escapeChars name.toList := by
  rw [join, List.map_singleton, String.intercalate_singleton, toList_escape]

theorem toList_join_cons_cons (name other : String) (others : List String) :
    (join (name :: other :: others)).toList =
      escapeChars name.toList ++ '|' :: (join (other :: others)).toList := by
  rw [join, List.map_cons, List.map_cons, String.intercalate_cons_cons, String.toList_append,
    String.toList_append, toList_escape, List.append_assoc]
  rfl

theorem ofNames_of_pairwise {names : List String} (sorted : names.Pairwise (· < ·)) :
    ofNames names = join names := by
  have arranged : arrange names = names := by
    apply List.mergeSort_of_pairwise
    exact sorted.imp fun less => by simpa using String.not_lt.mp (String.lt_asymm less)
  rw [ofNames, arranged, join]

end CMakeGrammar.Alternation
