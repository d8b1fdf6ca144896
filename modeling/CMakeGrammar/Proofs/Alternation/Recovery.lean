import CMakeGrammar.Template.Helper
import CMakeGrammar.Proofs.Alternation.Pieces
import CMakeGrammar.Proofs.Json.Literal
/-! The names of an alternation are recovered from it: its pieces without their backslashes are the
names in ascending order, whatever characters they are made of. So two alternations are the same
only if they have the same names, each as often. -/
namespace CMakeGrammar.Alternation
open Template (Argument Failure Invocation Rendering Scope)

def unescape : List Char → List Char
  | [] => []
  | '\\' :: c :: rest => c :: unescape rest
  | c :: rest => c :: unescape rest

theorem unescape_of_plain {c : Char} (plain : c ≠ '\\') (rest : List Char) :
    unescape (c :: rest) = c :: unescape rest := by
  rw [unescape]
  intro _ _ same
  exact absurd same plain

theorem unescape_escapeChar_append (c : Char) (rest : List Char) :
    unescape (escapeChar c ++ rest) = c :: unescape rest := by
  unfold escapeChar
  split
  · rfl
  · rename_i plain
    have notBackslash : c ≠ '\\' := by
      rintro rfl
      exact plain (by decide)
    exact unescape_of_plain notBackslash rest

theorem unescape_escapeChars (cs : List Char) : unescape (escapeChars cs) = cs := by
  induction cs with
  | nil => rfl
  | cons c cs ih => rw [escapeChars_cons, unescape_escapeChar_append, ih]

/-- The names that the pieces of a pattern are escaped from. -/
def namesOf (pattern : String) : List String :=
  (pieces pattern.toList).map fun piece => String.ofList (unescape piece)

theorem namesOf_join {names : List String} (some : names ≠ []) : namesOf (join names) = names := by
  rw [namesOf, pieces_join some, List.map_map]
  have same (name : String) :
      ((fun piece => String.ofList (unescape piece)) ∘ fun name => escapeChars name.toList) name =
        name := by
    rw [Function.comp_apply, unescape_escapeChars, String.ofList_toList]
  rw [List.map_congr_left fun name _ => same name, List.map_id']

theorem arrange_perm (names : List String) : (arrange names).Perm names :=
  List.mergeSort_perm names _

theorem pairwise_arrange (names : List String) : (arrange names).Pairwise (· ≤ ·) := by
  have sorted : (arrange names).Pairwise fun a b => decide (a ≤ b) = true := by
    refine List.pairwise_mergeSort (fun a b c ab bc => ?_) (fun a b => ?_) names
    · rw [decide_eq_true_eq] at *
      exact String.le_trans ab bc
    · simpa using String.le_total a b
  exact sorted.imp of_decide_eq_true

theorem arrange_eq_iff {names other : List String} :
    arrange names = arrange other ↔ names.Perm other := by
  constructor
  · intro same
    exact (arrange_perm names).symm.trans (same ▸ arrange_perm other)
  · intro perm
    have arranged := ((arrange_perm names).trans perm).trans (arrange_perm other).symm
    exact arranged.eq_of_pairwise (fun a b _ _ => String.le_antisymm) (pairwise_arrange names)
      (pairwise_arrange other)

theorem namesOf_ofNames {names : List String} (some : names ≠ []) :
    namesOf (ofNames names) = arrange names := by
  have arranged : arrange names ≠ [] := by
    intro none
    exact some (none ▸ arrange_perm names).symm.eq_nil
  rw [ofNames, ← join, namesOf_join arranged]

theorem ofNames_eq_iff {names other : List String} (some : names ≠ []) (some' : other ≠ []) :
    ofNames names = ofNames other ↔ names.Perm other := by
  rw [← arrange_eq_iff]
  constructor
  · intro same
    rw [← namesOf_ofNames some, same, namesOf_ofNames some']
  · intro same
    rw [ofNames, same, ofNames]

/-- What comes of filling in the alternation of a value: text that says between double quotes what
the alternation of its strings is, or a failure if it is neither a string nor an array. -/
def IsFilledIn (s : Scope) (outcome : Rendering Failure (List Char × Scope)) : Json → Prop
  | .array items => ∃ text, outcome = pure (text, s) ∧
      Json.unescape? text = some (ofNames (Json.strings items)).toList
  | .string item => ∃ text, outcome = pure (text, s) ∧
      Json.unescape? text = some (ofNames [item]).toList
  | _ => outcome = .fail (.failed ⟨.notNames, none⟩)

theorem isFilledIn_call (i : Invocation) (a : Argument) (s : Scope) :
    IsFilledIn s ((Invocation.call .alternation { i with args := a :: i.args }).run s)
      a.value.value := by
  have called : (Invocation.call .alternation { i with args := a :: i.args }).run s =
      Invocation.alternation a >>= fun text => pure (text, s) := rfl
  rw [called, Invocation.alternation]
  cases a.value.value with
  | array items => exact ⟨_, rfl, Json.unescape?_escapeChars _⟩
  | string item => exact ⟨_, rfl, Json.unescape?_escapeChars _⟩
  | _ => rfl

/-- The pieces of an alternation without their backslashes are its names, each as often as it was
given, in ascending order. Alternations are the same exactly if their names are the same up to their
order. Filled in between double quotes, an alternation is read back as it is. -/
theorem ofNames_recovered {names other : List String} (some : names ≠ []) (some' : other ≠ []) :
    namesOf (ofNames names) = arrange names ∧ (arrange names).Perm names ∧
      (arrange names).Pairwise (· ≤ ·) ∧ (ofNames names = ofNames other ↔ names.Perm other) ∧
      ∀ (i : Invocation) (a : Argument) (s : Scope),
        IsFilledIn s ((Invocation.call .alternation { i with args := a :: i.args }).run s)
          a.value.value :=
  ⟨namesOf_ofNames some, arrange_perm names, pairwise_arrange names, ofNames_eq_iff some some',
    isFilledIn_call⟩

/-- Names with a bar, a backslash and no character at all, the last one given twice. -/
theorem ofNames_recovered_bars :
    (["b|\\", "", "a", ""] ≠ [] ∧ ["", "a", "", "b|\\"] ≠ []) ∧
      namesOf (ofNames ["b|\\", "", "a", ""]) = ["", "", "a", "b|\\"] ∧
      ofNames ["b|\\", "", "a", ""] = ofNames ["", "a", "", "b|\\"] := by
  have given : ["b|\\", "", "a", ""] ≠ [] ∧ ["", "a", "", "b|\\"] ≠ [] := by decide
  obtain ⟨isArranged, perm, sorted, same, -⟩ := ofNames_recovered given.1 given.2
  have inOrder : arrange ["b|\\", "", "a", ""] = ["", "", "a", "b|\\"] :=
    (perm.trans (by decide)).eq_of_pairwise (fun _ _ _ _ => String.le_antisymm) sorted (by decide)
  exact ⟨given, isArranged.trans inOrder, same.mpr (by decide)⟩

end CMakeGrammar.Alternation
