import CMakeGrammar.Text.Occurrence
import CMakeGrammar.Proofs.Regex.Language
/-! The preferred way to match. A match takes the first way from which what comes behind it goes on,
and goes back to the next one where that fails (`firstOf`). A repetition prefers to be long; it is
as long as it can be unless only a shorter one lets what is behind it go on (`firstOf_many`). -/
namespace CMakeGrammar.Regex

structure CharClass where
  has : Char → Bool
  chars : List Char
  ne_nil : chars ≠ []
  mem_iff : ∀ c, c ∈ chars ↔ has c = true

namespace CharClass

theorem mem_filter_range {has : Char → Bool} {bound : Nat}
    (within : ∀ c, has c = true → c.toNat < bound) (c : Char) :
    c ∈ ((List.range bound).map Char.ofNat).filter has ↔ has c = true := by
  rw [List.mem_filter, List.mem_map]
  refine ⟨And.right, fun belongs => ⟨⟨c.toNat, ?_, Char.ofNat_toNat c⟩, belongs⟩⟩
  exact List.mem_range.mpr (within c belongs)

def below (has : Char → Bool) (bound : Nat) (within : ∀ c, has c = true → c.toNat < bound)
    (some : ∃ c, has c = true) : CharClass where
  has := has
  chars := ((List.range bound).map Char.ofNat).filter has
  ne_nil := some.elim fun c belongs => List.ne_nil_of_mem ((mem_filter_range within c).mpr belongs)
  mem_iff := mem_filter_range within

def many (k : CharClass) (n : Nat) : Expression :=
  .both (.oneOf k.chars) (.upTo n (.oneOf k.chars))

end CharClass

namespace Expression
variable {α : Type}

def firstOf (e : Expression) (p : Progress) (next : Progress → Option α) : Option α :=
  (e.run p).findSome? next

theorem head?_run (e : Expression) (p : Progress) : (e.run p).head? = e.firstOf p some := by
  rw [firstOf, ← List.head?_filterMap, List.filterMap_some]

section
variable {p : Progress} {next : Progress → Option α}

theorem firstOf_both (first second : Expression) :
    (both first second).firstOf p next = first.firstOf p fun q => second.firstOf q next := by
  simp only [firstOf, run, ← List.head?_filterMap, List.filterMap_flatMap, List.head?_flatMap]

theorem firstOf_maybe (e : Expression) :
    (maybe e).firstOf p next = (e.firstOf p next).or (next p) := by
  rw [firstOf, run, List.findSome?_append, List.findSome?_singleton, firstOf]

theorem firstOf_group (index : Nat) (e : Expression) :
    (group index e).firstOf p next = e.firstOf p fun q =>
      next ⟨(index, p.rest.take (p.rest.length - q.rest.length)) :: q.groups, q.rest⟩ := by
  rw [firstOf, run, List.findSome?_map]
  rfl

theorem firstOf_literal (cs : List Char) : (literal cs).firstOf p next =
    (Text.after? cs p.rest).bind fun rest => next ⟨p.groups, rest⟩ := by
  rw [firstOf, run_literal, Text.after?]
  split
  · rw [List.findSome?_singleton, Option.bind_some]
  · rfl

end

section
variable {groups : List (Nat × List Char)} {next : Progress → Option α}

theorem firstOf_oneOf_nil {cs : List Char} (some : cs ≠ []) :
    (oneOf cs).firstOf ⟨groups, []⟩ next = none := by
  have none : (oneOf cs).run ⟨groups, []⟩ = [] := by
    rw [oneOf, run_alternation (by simpa using some), List.map_eq_nil_iff, List.filter_eq_nil_iff]
    intro name mem
    obtain ⟨c, -, rfl⟩ := List.mem_map.mp mem
    simp
  rw [firstOf, none, List.findSome?_nil]

theorem firstOf_oneOf_cons {cs : List Char} (some : cs ≠ []) (c : Char) (rest : List Char) :
    (oneOf cs).firstOf ⟨groups, c :: rest⟩ next = if c ∈ cs then next ⟨groups, rest⟩ else none := by
  have begins (d : Char) : [d].isPrefixOf (c :: rest) = (d == c) := by simp [List.isPrefixOf]
  have ways : (oneOf cs).run ⟨groups, c :: rest⟩ = List.replicate (cs.count c) ⟨groups, rest⟩ := by
    rw [oneOf, run_alternation (by simpa using some), List.filter_map, List.map_map]
    simp only [Function.comp_def, begins, List.filter_beq, List.map_replicate]
    rfl
  rw [firstOf, ways, List.findSome?_replicate]
  by_cases mem : c ∈ cs <;> simp [mem, List.count_eq_zero]

variable (k : CharClass) {n : Nat} {front behind : List Char}

/-- A repetition takes all characters of its class that come next, if nothing comes of fewer of them
where nothing comes of all. -/
theorem firstOf_upTo (all : ∀ c ∈ front, k.has c = true) (fits : front.length ≤ n)
    (stops : ∀ c ∈ behind.head?, k.has c = false)
    (greedy : next ⟨groups, behind⟩ = none →
      ∀ c, k.has c = true → ∀ rest, next ⟨groups, c :: rest⟩ = none) :
    (upTo n (oneOf k.chars)).firstOf ⟨groups, front ++ behind⟩ next = next ⟨groups, behind⟩ := by
  induction front generalizing n with
  | nil =>
    cases n with
    | zero => exact List.findSome?_singleton
    | succ n =>
      have ended : (oneOf k.chars).firstOf ⟨groups, behind⟩
          (fun q => (upTo n (oneOf k.chars)).firstOf q next) = none := by
        cases behind with
        | nil => exact firstOf_oneOf_nil k.ne_nil
        | cons c behind =>
          have notListed : c ∉ k.chars := by
            rw [k.mem_iff, stops c rfl]
            exact Bool.false_ne_true
          rw [firstOf_oneOf_cons k.ne_nil, if_neg notListed]
      rw [List.nil_append, upTo, firstOf_maybe, firstOf_both, ended, Option.none_or]
  | cons c front ih =>
    obtain ⟨first, others⟩ := List.forall_mem_cons.mp all
    rw [List.length_cons] at fits
    obtain ⟨m, rfl⟩ := Nat.exists_eq_add_of_le' (Nat.le_trans (Nat.succ_pos _) fits)
    rw [List.cons_append, upTo, firstOf_maybe, firstOf_both, firstOf_oneOf_cons k.ne_nil,
      if_pos ((k.mem_iff c).mpr first), ih others (Nat.le_of_succ_le_succ fits)]
    cases longest : next ⟨groups, behind⟩ with
    | some a => rfl
    | none => rw [Option.none_or, greedy longest c first]

theorem firstOf_many (some : front ≠ []) (all : ∀ c ∈ front, k.has c = true)
    (fits : front.length ≤ n) (stops : ∀ c ∈ behind.head?, k.has c = false)
    (greedy : next ⟨groups, behind⟩ = none →
      ∀ c, k.has c = true → ∀ rest, next ⟨groups, c :: rest⟩ = none) :
    (k.many n).firstOf ⟨groups, front ++ behind⟩ next = next ⟨groups, behind⟩ := by
  obtain ⟨c, front, rfl⟩ := List.exists_cons_of_ne_nil some
  obtain ⟨first, others⟩ := List.forall_mem_cons.mp all
  rw [CharClass.many, firstOf_both, List.cons_append, firstOf_oneOf_cons k.ne_nil,
    if_pos ((k.mem_iff c).mpr first), firstOf_upTo k others (Nat.le_of_succ_le fits) stops greedy]

end

theorem take_front (front behind : List Char) :
    (front ++ behind).take ((front ++ behind).length - behind.length) = front := by
  rw [List.length_append, Nat.add_sub_cancel, List.take_left]

theorem matches_many {k : CharClass} {n : Nat} {text : List Char} :
    (k.many n).Matches text ↔ text ≠ [] ∧ (∀ c ∈ text, k.has c = true) ∧ text.length ≤ n + 1 := by
  rw [CharClass.many, matches_both]
  simp only [matches_oneOf k.ne_nil, matches_upTo_oneOf k.ne_nil, k.mem_iff]
  constructor
  · rintro ⟨_, back, rfl, ⟨c, first, rfl⟩, fits, others⟩
    exact ⟨List.cons_ne_nil _ _, List.forall_mem_cons.mpr ⟨first, others⟩, Nat.succ_le_succ fits⟩
  · rintro ⟨some, all, fits⟩
    obtain ⟨c, back, rfl⟩ := List.exists_cons_of_ne_nil some
    obtain ⟨first, others⟩ := List.forall_mem_cons.mp all
    exact ⟨[c], back, rfl, ⟨c, first, rfl⟩, Nat.le_of_succ_le_succ fits, others⟩

theorem head?_run_eq_none_iff {e : Expression} {p : Progress} :
    (e.run p).head? = none ↔ ∀ text, e.Matches text → ¬text <+: p.rest := by
  rw [List.head?_eq_none_iff]
  constructor
  · rintro none text isMatch ⟨after, whole⟩
    obtain ⟨q, mem, -⟩ := exists_mem_run_iff.mpr ⟨text, isMatch, whole.symm⟩
    rw [none] at mem
    cases mem
  · intro none
    refine List.eq_nil_iff_forall_not_mem.mpr fun q mem => ?_
    obtain ⟨text, isMatch, whole⟩ := exists_mem_run_iff.mp ⟨q, mem, rfl⟩
    exact none text isMatch ⟨q.rest, whole.symm⟩

end Expression
end CMakeGrammar.Regex
