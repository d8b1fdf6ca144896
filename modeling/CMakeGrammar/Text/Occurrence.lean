/-! Looking for something at every position of a text. `mem_everywhere` says that nothing that
stands at a position is missed; `firstWhere` is the leftmost of them. -/
namespace CMakeGrammar.Text
variable {α : Type}

/-- What `at?` reads at each position where it reads something, from left to right. It is given the
text from that position on. -/
def everywhere (at? : List Char → Option α) : List Char → List α
  | [] => []
  | c :: cs =>
    match at? (c :: cs) with
    | some a => a :: everywhere at? cs
    | none => everywhere at? cs

def firstWhere (at? : List Char → Option α) : List Char → Option α
  | [] => none
  | c :: cs => (at? (c :: cs)).or (firstWhere at? cs)

@[simp] theorem everywhere_nil (at? : List Char → Option α) : everywhere at? [] = [] := rfl

theorem everywhere_cons (at? : List Char → Option α) (c : Char) (cs : List Char) :
    everywhere at? (c :: cs) = (at? (c :: cs)).toList ++ everywhere at? cs := by
  rw [everywhere]
  cases at? (c :: cs) <;> rfl

theorem mem_everywhere {at? : List Char → Option α} {a : α} {cs : List Char} :
    a ∈ everywhere at? cs ↔
      ∃ before after, cs = before ++ after ∧ after ≠ [] ∧ at? after = some a := by
  induction cs with
  | nil =>
    simp only [everywhere_nil, List.not_mem_nil, false_iff]
    rintro ⟨before, after, eq, ne, -⟩
    exact ne (List.append_eq_nil_iff.1 eq.symm).2
  | cons c cs ih =>
    rw [everywhere_cons, List.mem_append, ih]
    constructor
    · rintro (h | ⟨before, after, rfl, ne, h⟩)
      · exact ⟨[], c :: cs, rfl, by simp, by simpa using h⟩
      · exact ⟨c :: before, after, rfl, ne, h⟩
    · rintro ⟨before, after, eq, ne, h⟩
      cases before with
      | nil => exact .inl (by simp_all)
      | cons b before =>
        cases eq
        exact .inr ⟨before, after, rfl, ne, h⟩

theorem firstWhere_eq_head? (at? : List Char → Option α) (cs : List Char) :
    firstWhere at? cs = (everywhere at? cs).head? := by
  induction cs with
  | nil => rfl
  | cons c cs ih =>
    rw [firstWhere, everywhere_cons, ih]
    cases at? (c :: cs) <;> rfl

theorem firstWhere_eq_some_iff {at? : List Char → Option α} {a : α} {cs : List Char} :
    firstWhere at? cs = some a ↔ ∃ before after, cs = before ++ after ∧ after ≠ [] ∧
      at? after = some a ∧
      ∀ front back, before = front ++ back → back ≠ [] → at? (back ++ after) = none := by
  induction cs with
  | nil =>
    refine iff_of_false nofun ?_
    rintro ⟨before, after, nothing, ne, -⟩
    exact ne (List.append_eq_nil_iff.mp nothing.symm).2
  | cons c cs ih =>
    rw [firstWhere]
    cases here : at? (c :: cs) with
    | some b =>
      rw [Option.some_or]
      constructor
      · rintro ⟨⟩
        refine ⟨[], c :: cs, rfl, List.cons_ne_nil c cs, here, fun front back nothing ne => ?_⟩
        exact absurd (List.append_eq_nil_iff.mp nothing.symm).2 ne
      · rintro ⟨before, after, whole, -, read, first⟩
        cases before with
        | nil => rw [← here, whole, List.nil_append, read]
        | cons d before =>
          have none := first [] (d :: before) rfl (List.cons_ne_nil d before)
          rw [← whole, here] at none
          cases none
    | none =>
      rw [Option.none_or, ih]
      constructor
      · rintro ⟨before, after, rfl, ne, read, first⟩
        refine ⟨c :: before, after, rfl, ne, read, fun front back isSplit some => ?_⟩
        cases front with
        | nil =>
          obtain rfl : c :: before = back := isSplit
          exact here
        | cons d front => exact first front back (List.cons.inj isSplit).2 some
      · rintro ⟨before, after, whole, ne, read, first⟩
        cases before with
        | nil =>
          rw [← List.nil_append after, ← whole, here] at read
          cases read
        | cons d before =>
          obtain ⟨rfl, rfl⟩ := List.cons.inj whole
          exact ⟨before, after, rfl, ne, read, fun front back isSplit =>
            first (c :: front) back (by rw [isSplit, List.cons_append])⟩

def after? (start cs : List Char) : Option (List Char) :=
  if start.isPrefixOf cs then some (cs.drop start.length) else none

theorem after?_eq_some_iff {start cs rest : List Char} :
    after? start cs = some rest ↔ cs = start ++ rest := by
  rw [after?]
  constructor
  · intro h
    split at h
    · rename_i isStart
      obtain ⟨t, rfl⟩ := List.isPrefixOf_iff_prefix.1 isStart
      simpa using h
    · cases h
  · rintro rfl
    simp

theorem after?_cons_of_ne {c d : Char} (ne : d ≠ c) (start cs : List Char) :
    after? (c :: start) (d :: cs) = none := by
  rw [after?, if_neg]
  simp [List.isPrefixOf, Ne.symm ne]

end CMakeGrammar.Text
