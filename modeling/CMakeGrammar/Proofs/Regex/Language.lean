import CMakeGrammar.Proofs.Regex.Alternatives
/-! The language of an expression: the texts that it can match. All the ways to match from some
place go over a text of the language (`exists_mem_run_iff`), whichever of them is preferred. -/
namespace CMakeGrammar.Regex.Expression

def Matches : Expression → List Char → Prop
  | nothing, text => text = []
  | character c, text => text = [c]
  | both first second, text =>
    ∃ front back, text = front ++ back ∧ first.Matches front ∧ second.Matches back
  | either first second, text => first.Matches text ∨ second.Matches text
  | maybe e, text => e.Matches text ∨ text = []
  | group _ e, text => e.Matches text

section
variable {e first second : Expression} {text : List Char}

theorem matches_nothing : nothing.Matches text ↔ text = [] := Iff.rfl

theorem matches_character {c : Char} : (character c).Matches text ↔ text = [c] := Iff.rfl

theorem matches_both : (both first second).Matches text ↔
    ∃ front back, text = front ++ back ∧ first.Matches front ∧ second.Matches back := Iff.rfl

theorem matches_either :
    (either first second).Matches text ↔ first.Matches text ∨ second.Matches text := Iff.rfl

theorem matches_maybe : (maybe e).Matches text ↔ e.Matches text ∨ text = [] := Iff.rfl

theorem matches_group {index : Nat} : (group index e).Matches text ↔ e.Matches text := Iff.rfl

end

/-- There is a way to match up to some point exactly if a text of the language ends there. -/
theorem exists_mem_run_iff {e : Expression} {p : Progress} {after : List Char} :
    (∃ q ∈ e.run p, q.rest = after) ↔ ∃ text, e.Matches text ∧ p.rest = text ++ after := by
  induction e generalizing p after with
  | nothing => simp [run, matches_nothing]
  | character c =>
    rw [run]
    cases rest : p.rest with
    | nil => simp [matches_character]
    | cons d others => by_cases same : d = c <;> simp [matches_character, same]
  | both first second ihFirst ihSecond =>
    constructor
    · rintro ⟨q, mem, ends⟩
      obtain ⟨r, isFirst, isSecond⟩ := List.mem_flatMap.mp mem
      obtain ⟨front, matchesFront, whole⟩ := ihFirst.mp ⟨r, isFirst, rfl⟩
      obtain ⟨back, matchesBack, rest⟩ := ihSecond.mp ⟨q, isSecond, ends⟩
      exact ⟨front ++ back, ⟨front, back, rfl, matchesFront, matchesBack⟩,
        by rw [whole, rest, List.append_assoc]⟩
    · rintro ⟨_, ⟨front, back, rfl, matchesFront, matchesBack⟩, whole⟩
      rw [List.append_assoc] at whole
      obtain ⟨r, isFirst, rest⟩ := ihFirst.mpr ⟨front, matchesFront, whole⟩
      obtain ⟨q, isSecond, ends⟩ := ihSecond.mpr ⟨back, matchesBack, rest⟩
      exact ⟨q, List.mem_flatMap.mpr ⟨r, isFirst, isSecond⟩, ends⟩
  | either first second ihFirst ihSecond =>
    simp only [run, matches_either, List.mem_append, or_and_right, exists_or, ihFirst, ihSecond]
  | maybe e ih =>
    simp only [run, matches_maybe, List.mem_append, List.mem_singleton, or_and_right, exists_or, ih,
      exists_eq_left, List.nil_append]
  | group index e ih =>
    simp only [matches_group, ← ih, run]
    constructor
    · rintro ⟨_, mem, ends⟩
      obtain ⟨q, isInner, rfl⟩ := List.mem_map.mp mem
      exact ⟨q, isInner, ends⟩
    · rintro ⟨q, isInner, ends⟩
      exact ⟨_, List.mem_map_of_mem isInner, ends⟩

theorem matches_literal {cs text : List Char} : (literal cs).Matches text ↔ text = cs := by
  induction cs generalizing text with
  | nil => rfl
  | cons c cs ih =>
    have parts : literal (c :: cs) = both (character c) (literal cs) := rfl
    simp [parts, matches_both, matches_character, ih]

theorem matches_alternation {names : List (List Char)} (some : names ≠ []) {text : List Char} :
    (alternation names).Matches text ↔ text ∈ names := by
  induction names with
  | nil => exact absurd rfl some
  | cons name others ih =>
    cases others with
    | nil => rw [alternation, matches_literal, List.mem_singleton]
    | cons other others =>
      have branches : alternation (name :: other :: others) =
          either (literal name) (alternation (other :: others)) := rfl
      rw [branches, matches_either, matches_literal, ih (List.cons_ne_nil _ _), ← List.mem_cons]

def oneOf (cs : List Char) : Expression := alternation (cs.map ([·]))

def upTo : Nat → Expression → Expression
  | 0, _ => nothing
  | n + 1, e => maybe (both e (upTo n e))

variable {cs text : List Char}

theorem matches_oneOf (some : cs ≠ []) : (oneOf cs).Matches text ↔ ∃ c ∈ cs, text = [c] := by
  rw [oneOf, matches_alternation (by simpa using some), List.mem_map]
  simp only [eq_comm]

theorem matches_upTo_oneOf (some : cs ≠ []) {n : Nat} :
    (upTo n (oneOf cs)).Matches text ↔ text.length ≤ n ∧ ∀ c ∈ text, c ∈ cs := by
  induction n generalizing text with
  | zero =>
    rw [upTo, matches_nothing, Nat.le_zero, List.length_eq_zero_iff]
    constructor
    · rintro rfl
      exact ⟨rfl, List.forall_mem_nil _⟩
    · exact And.left
  | succ n ih =>
    rw [upTo, matches_maybe, matches_both]
    cases text with
    | nil => simp
    | cons c text =>
      rw [List.length_cons, Nat.add_le_add_iff_right, List.forall_mem_cons, or_iff_left
        (List.cons_ne_nil c text)]
      constructor
      · rintro ⟨front, back, whole, isFirst, isBack⟩
        obtain ⟨d, mem, rfl⟩ := (matches_oneOf some).mp isFirst
        obtain ⟨rfl, rfl⟩ := List.cons.inj whole
        obtain ⟨fits, all⟩ := ih.mp isBack
        exact ⟨fits, mem, all⟩
      · rintro ⟨fits, mem, all⟩
        exact ⟨[c], text, rfl, (matches_oneOf some).mpr ⟨c, mem, rfl⟩, ih.mpr ⟨fits, all⟩⟩

end CMakeGrammar.Regex.Expression
