import CMakeGrammar.Proofs.Text.Collapsing
/-! What stands in a collapsed text stood in the text before it was collapsed, with some blanks in
the place of each space (`append_suffix_collapseChars`, `collapseBehind_eq_space_append`). So a text
without blanks stands in the one exactly if it stands in the other (`infix_collapseChars`). -/
namespace CMakeGrammar.Text

def IsGap (gap : List Char) : Prop := gap ≠ [] ∧ ∀ c ∈ gap, isBlank c = true

theorem toNat_lt_of_isBlank {c : Char} (blank : isBlank c = true) : c.toNat < 0x3001 :=
  lt_of_inRanges (by decide) blank

theorem solid_of_all {cs : List Char} (h : cs.all (!isBlank ·) = true) :
    ∀ c ∈ cs, isBlank c = false := by
  simpa using h

section
variable {c : Char} {cs front back : List Char}

theorem collapseBehind_eq_cons (h : isBlank c = false) :
    collapseBehind cs = c :: back ↔ ∃ rest, cs = c :: rest ∧ collapseBehind rest = back := by
  constructor
  · intro written
    cases cs with
    | nil => cases written
    | cons d cs =>
      cases blank : isBlank d with
      | false =>
        rw [collapseBehind_cons cs blank, List.cons.injEq] at written
        exact ⟨cs, by rw [written.1], written.2⟩
      | true =>
        rw [collapseBehind_cons_of_blank cs blank] at written
        split at written
        · cases written
        · obtain rfl : ' ' = c := (List.cons.inj written).1
          cases h
  · rintro ⟨rest, rfl, rfl⟩
    exact collapseBehind_cons rest h

theorem collapseBehind_eq_append (solid : ∀ c ∈ front, isBlank c = false) :
    collapseBehind cs = front ++ back ↔ ∃ rest, cs = front ++ rest ∧
    collapseBehind rest = back := by
  induction front generalizing cs with
  | nil => simp
  | cons c front ih =>
    obtain ⟨first, others⟩ := List.forall_mem_cons.mp solid
    rw [List.cons_append, collapseBehind_eq_cons first]
    constructor
    · rintro ⟨rest, rfl, written⟩
      obtain ⟨rest, rfl, isBack⟩ := (ih others).mp written
      exact ⟨rest, rfl, isBack⟩
    · rintro ⟨rest, rfl, isBack⟩
      exact ⟨front ++ rest, rfl, (ih others).mpr ⟨rest, rfl, isBack⟩⟩

theorem collapseChars_eq_cons (h : isBlank c = false) :
    collapseChars cs = c :: back ↔ ∃ gap rest, cs = gap ++ c :: rest ∧
      (∀ d ∈ gap, isBlank d = true) ∧ collapseBehind rest = back := by
  constructor
  · intro written
    induction cs with
    | nil => cases written
    | cons d cs ih =>
      cases blank : isBlank d with
      | false =>
        rw [collapseChars_cons cs blank, List.cons.injEq] at written
        exact ⟨[], cs, by rw [written.1, List.nil_append], List.forall_mem_nil _, written.2⟩
      | true =>
        rw [collapseChars_cons_of_blank cs blank] at written
        obtain ⟨gap, rest, rfl, blanks, isBack⟩ := ih written
        exact ⟨d :: gap, rest, rfl, List.forall_mem_cons.mpr ⟨blank, blanks⟩, isBack⟩
  · rintro ⟨gap, rest, rfl, blanks, rfl⟩
    rw [collapseChars_append_of_blank blanks, collapseChars_cons rest h]

theorem collapseBehind_eq_space_cons (h : isBlank c = false) :
    collapseBehind cs = ' ' :: c :: back ↔
      ∃ gap rest, cs = gap ++ c :: rest ∧ IsGap gap ∧ collapseBehind rest = back := by
  cases cs with
  | nil => simp
  | cons d cs =>
    cases blank : isBlank d with
    | false =>
      rw [collapseBehind_cons cs blank]
      constructor
      · intro written
        obtain rfl : d = ' ' := (List.cons.inj written).1
        cases blank
      · rintro ⟨gap, rest, isSplit, ⟨some, blanks⟩, -⟩
        obtain ⟨e, gap, rfl⟩ := List.exists_cons_of_ne_nil some
        obtain rfl : d = e := (List.cons.inj isSplit).1
        have isBlank := blanks d List.mem_cons_self
        rw [blank] at isBlank
        cases isBlank
    | true =>
      have begins : collapseBehind (d :: cs) = ' ' :: c :: back ↔ collapseChars cs = c :: back := by
        rw [collapseBehind_cons_of_blank cs blank]
        split
        · rename_i none
          simp [none]
        · rw [List.cons.injEq, and_iff_right rfl]
      rw [begins, collapseChars_eq_cons h]
      constructor
      · rintro ⟨gap, rest, rfl, blanks, isBack⟩
        exact ⟨d :: gap, rest, rfl, ⟨List.cons_ne_nil _ _,
          List.forall_mem_cons.mpr ⟨blank, blanks⟩⟩, isBack⟩
      · rintro ⟨gap, rest, isSplit, ⟨some, blanks⟩, isBack⟩
        obtain ⟨e, gap, rfl⟩ := List.exists_cons_of_ne_nil some
        rw [List.cons_append, List.cons.injEq] at isSplit
        exact ⟨gap, rest, isSplit.2, (List.forall_mem_cons.mp blanks).2, isBack⟩

/-- A character that is not blank stands in a collapsed text where it stands in the text, and what
is behind it there is what is behind it in the text, collapsed. -/
theorem cons_suffix_collapseChars (h : isBlank c = false) :
    c :: back <:+ collapseChars cs ↔ ∃ rest, c :: rest <:+ cs ∧ collapseBehind rest = back := by
  constructor
  · have later {d : Char} {cs : List Char} :
        (∃ rest, c :: rest <:+ cs ∧ collapseBehind rest = back) →
          ∃ rest, c :: rest <:+ d :: cs ∧ collapseBehind rest = back :=
      fun ⟨rest, isEnd, isBack⟩ => ⟨rest, isEnd.trans (List.suffix_cons d cs), isBack⟩
    have here {d : Char} {cs : List Char}
        (ih : c :: back <:+ collapseBehind cs → ∃ rest, c :: rest <:+ cs ∧
          collapseBehind rest = back)
        (isEnd : c :: back <:+ d :: collapseBehind cs) :
        ∃ rest, c :: rest <:+ d :: cs ∧ collapseBehind rest = back := by
      rcases List.suffix_cons_iff.mp isEnd with same | inner
      · obtain ⟨rfl, rfl⟩ := List.cons.inj same
        exact ⟨cs, List.suffix_rfl, rfl⟩
      · exact later (ih inner)
    refine (collapse_induction
      (fun cs => c :: back <:+ collapseChars cs → ∃ rest, c :: rest <:+ cs ∧
        collapseBehind rest = back)
      (fun cs => c :: back <:+ collapseBehind cs → ∃ rest, c :: rest <:+ cs ∧
        collapseBehind rest = back)
      ?_ ?_ ?_ ?_ ?_ ?_ cs).1
    · exact fun isEnd => absurd (List.suffix_nil.mp isEnd) (List.cons_ne_nil _ _)
    · intro d cs notBlank ih isEnd
      rw [collapseChars_cons cs notBlank] at isEnd
      exact here ih isEnd
    · intro d cs blank ih isEnd
      rw [collapseChars_cons_of_blank cs blank] at isEnd
      exact later (ih isEnd)
    · exact fun isEnd => absurd (List.suffix_nil.mp isEnd) (List.cons_ne_nil _ _)
    · intro d cs notBlank ih isEnd
      rw [collapseBehind_cons cs notBlank] at isEnd
      exact here ih isEnd
    · intro d cs blank ih isEnd
      rw [collapseBehind_cons_of_blank cs blank] at isEnd
      split at isEnd
      · exact absurd (List.suffix_nil.mp isEnd) (List.cons_ne_nil _ _)
      · rcases List.suffix_cons_iff.mp isEnd with same | inner
        · obtain rfl : c = ' ' := (List.cons.inj same).1
          cases h
        · exact later (ih inner)
  · rintro ⟨rest, ⟨front, rfl⟩, rfl⟩
    obtain ⟨lead, written⟩ := exists_collapseChars_append_cons h front
    exact ⟨lead, (written rest).symm⟩

section words
variable {word : List Char} (some : word ≠ []) (solid : ∀ c ∈ word, isBlank c = false)
include some solid

theorem collapseBehind_eq_space_append :
    collapseBehind cs = ' ' :: (word ++ back) ↔
      ∃ gap rest, cs = gap ++ (word ++ rest) ∧ IsGap gap ∧ collapseBehind rest = back := by
  obtain ⟨c, word, rfl⟩ := List.exists_cons_of_ne_nil some
  obtain ⟨first, others⟩ := List.forall_mem_cons.mp solid
  rw [List.cons_append, collapseBehind_eq_space_cons first]
  constructor
  · rintro ⟨gap, _, rfl, isGap, written⟩
    obtain ⟨rest, rfl, isBack⟩ := (collapseBehind_eq_append others).mp written
    exact ⟨gap, rest, rfl, isGap, isBack⟩
  · rintro ⟨gap, rest, rfl, isGap, isBack⟩
    exact ⟨gap, word ++ rest, rfl, isGap, (collapseBehind_eq_append others).mpr ⟨rest, rfl, isBack⟩⟩

theorem append_suffix_collapseChars :
    word ++ back <:+ collapseChars cs ↔ ∃ rest, word ++ rest <:+ cs ∧
    collapseBehind rest = back := by
  obtain ⟨c, word, rfl⟩ := List.exists_cons_of_ne_nil some
  obtain ⟨first, others⟩ := List.forall_mem_cons.mp solid
  rw [List.cons_append, cons_suffix_collapseChars first]
  constructor
  · rintro ⟨_, isEnd, written⟩
    obtain ⟨rest, rfl, isBack⟩ := (collapseBehind_eq_append others).mp written
    exact ⟨rest, isEnd, isBack⟩
  · rintro ⟨rest, isEnd, isBack⟩
    exact ⟨word ++ rest, isEnd, (collapseBehind_eq_append others).mpr ⟨rest, rfl, isBack⟩⟩

end words

/-- Collapsing a text destroys no text without blanks in it and creates none. -/
theorem infix_collapseChars {part : List Char} (solid : ∀ c ∈ part, isBlank c = false) :
    part <:+: collapseChars cs ↔ part <:+: cs := by
  by_cases some : part = []
  · subst some
    exact iff_of_true List.nil_infix List.nil_infix
  · rw [List.infix_iff_prefix_suffix, List.infix_iff_prefix_suffix]
    constructor
    · rintro ⟨_, ⟨back, rfl⟩, isEnd⟩
      obtain ⟨rest, isEnd, -⟩ := (append_suffix_collapseChars some solid).mp isEnd
      exact ⟨part ++ rest, List.prefix_append part rest, isEnd⟩
    · rintro ⟨_, ⟨rest, rfl⟩, isEnd⟩
      refine ⟨part ++ collapseBehind rest, List.prefix_append part _, ?_⟩
      exact (append_suffix_collapseChars some solid).mpr ⟨rest, isEnd, rfl⟩

end

theorem length_collapseChars_le (cs : List Char) : (collapseChars cs).length ≤ cs.length := by
  refine (collapse_induction (fun cs => (collapseChars cs).length ≤ cs.length)
    (fun cs => (collapseBehind cs).length ≤ cs.length) (Nat.le_refl 0) ?_ ?_
    (Nat.le_refl 0) ?_ ?_ cs).1
  · intro c cs notBlank shorter
    rw [collapseChars_cons cs notBlank]
    exact Nat.succ_le_succ shorter
  · intro c cs blank shorter
    rw [collapseChars_cons_of_blank cs blank]
    exact Nat.le_succ_of_le shorter
  · intro c cs notBlank shorter
    rw [collapseBehind_cons cs notBlank]
    exact Nat.succ_le_succ shorter
  · intro c cs blank shorter
    rw [collapseBehind_cons_of_blank cs blank]
    split
    · exact Nat.zero_le _
    · exact Nat.succ_le_succ shorter

theorem length_collapseChars_toList_le (s : String) (more : Nat) :
    (collapseChars s.toList).length ≤ s.length + more := by
  have shorter := length_collapseChars_le s.toList
  rw [String.length_toList] at shorter
  exact Nat.le_add_right_of_le shorter

theorem head?_collapseBehind_iff {p : Char → Bool} (h : ∀ c, isBlank c = true → p c = false)
    (cs : List Char) : (∀ c ∈ (collapseBehind cs).head?, p c = false) ↔
    ∀ c ∈ cs.head?, p c = false := by
  cases cs with
  | nil => rfl
  | cons d cs =>
    cases blank : isBlank d with
    | false => rw [collapseBehind_cons cs blank]; rfl
    | true =>
      refine iff_of_true ?_ ?_
      · rw [collapseBehind_cons_of_blank cs blank]
        split
        · simp
        · rintro c ⟨⟩
          exact h ' ' isBlank_space
      · rintro c ⟨⟩
        exact h d blank

end CMakeGrammar.Text
