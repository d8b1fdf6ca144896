import CMakeGrammar.Alternation
/-! The pieces of an alternation: it falls apart at each bar that no backslash stands before. Names
that were joined come apart again, each of them escaped. -/
namespace CMakeGrammar.Alternation

/-- Cuts a pattern at its bars. A backslash takes the next character with it. -/
def pieces : List Char → List (List Char)
  | [] => [[]]
  | '\\' :: c :: rest => (pieces rest).modifyHead (['\\', c] ++ ·)
  | '|' :: rest => [] :: pieces rest
  | c :: rest => (pieces rest).modifyHead ([c] ++ ·)

/-- An alternation that says what to match: it has a piece, and none of its pieces is empty. -/
def IsFull (pattern : String) : Prop :=
  pieces pattern.toList ≠ [] ∧ ∀ piece ∈ pieces pattern.toList, piece ≠ []

theorem pieces_of_plain {c : Char} (notBackslash : c ≠ '\\') (notBar : c ≠ '|') (rest : List Char) :
    pieces (c :: rest) = (pieces rest).modifyHead ([c] ++ ·) := by
  rw [pieces]
  · intro _ _ same
    exact absurd same notBackslash
  · exact notBar

theorem pieces_escapeChar_append (c : Char) (rest : List Char) :
    pieces (escapeChar c ++ rest) = (pieces rest).modifyHead (escapeChar c ++ ·) := by
  unfold escapeChar
  split
  · rfl
  · rename_i plain
    -- both the backslash and the bar are escaped themselves
    have notBackslash : c ≠ '\\' := by
      rintro rfl
      exact plain (by decide)
    have notBar : c ≠ '|' := by
      rintro rfl
      exact plain (by decide)
    exact pieces_of_plain notBackslash notBar rest

theorem pieces_escapeChars_append (cs rest : List Char) :
    pieces (escapeChars cs ++ rest) = (pieces rest).modifyHead (escapeChars cs ++ ·) := by
  induction cs with
  | nil =>
    rw [escapeChars_nil, List.nil_append]
    exact (congrFun List.modifyHead_id (pieces rest)).symm
  | cons c cs ih =>
    rw [escapeChars_cons, List.append_assoc, pieces_escapeChar_append, ih,
      List.modifyHead_modifyHead]
    simp only [Function.comp_def, List.append_assoc]

theorem pieces_escapeChars (cs : List Char) : pieces (escapeChars cs) = [escapeChars cs] := by
  have whole := pieces_escapeChars_append cs []
  rw [List.append_nil] at whole
  rw [whole, pieces, List.modifyHead_cons, List.append_nil]

theorem pieces_join {names : List String} (some : names ≠ []) :
    pieces (join names).toList = names.map fun name => escapeChars name.toList := by
  induction names with
  | nil => exact absurd rfl some
  | cons name others ih =>
    cases others with
    | nil => rw [toList_join_singleton, pieces_escapeChars, List.map_singleton]
    | cons other others =>
      rw [toList_join_cons_cons, pieces_escapeChars_append, pieces, ih (List.cons_ne_nil _ _),
        List.modifyHead_cons, List.append_nil]
      rfl

theorem escapeChars_eq_nil_iff {cs : List Char} : escapeChars cs = [] ↔ cs = [] := by
  cases cs with
  | nil => simp
  | cons c cs =>
    rw [escapeChars_cons, escapeChar]
    split <;> simp

theorem isFull_join_iff {names : List String} (some : names ≠ []) :
    IsFull (join names) ↔ "" ∉ names := by
  rw [IsFull, pieces_join some]
  simp only [ne_eq, List.map_eq_nil_iff, some, not_false_eq_true, true_and, List.mem_map,
    forall_exists_index, and_imp, forall_apply_eq_imp_iff₂, escapeChars_eq_nil_iff,
    String.toList_eq_nil_iff]
  exact ⟨fun h mem => h "" mem rfl, fun h name mem empty => h (empty ▸ mem)⟩

theorem isFull_ofNames {names : NameSet} (any : names.isEmpty = false)
    (named : ∀ name ∈ names, name.toList ≠ []) : IsFull (ofNames names.toList) := by
  rw [ofNames_of_pairwise names.ascending, isFull_join_iff (NameSet.toList_ne_nil any)]
  intro mem
  exact named "" mem rfl

end CMakeGrammar.Alternation
