import CMakeGrammar.Text.Runs
import CMakeGrammar.Text.WordChar
/-! Places in a text where another text stands. The runs of a text are what stands at the places
that cannot be made longer; two such places are the same, or one ends before the other begins. -/
namespace CMakeGrammar.Text

def IsWord (name : String) : Prop := name ≠ "" ∧ ∀ c ∈ name.toList, isWordChar c = true

instance (name : String) : Decidable (IsWord name) :=
  decidable_of_iff (name ≠ "" ∧ name.toList.all isWordChar = true)
    (by rw [IsWord, List.all_eq_true])

theorem takeWhile_append_cons {p : Char → Bool} {front : List Char} {c : Char}
    (all : ∀ d ∈ front, p d = true) (stops : p c = false) (after : List Char) :
    (front ++ c :: after).takeWhile p = front := by
  rw [List.takeWhile_append_of_pos all, List.takeWhile_cons_of_neg (by simp [stops]),
    List.append_nil]

theorem takeWhile_append_of_head? {p : Char → Bool} {front after : List Char}
    (all : ∀ c ∈ front, p c = true) (stops : ∀ c ∈ after.head?, p c = false) :
    (front ++ after).takeWhile p = front := by
  cases after with
  | nil => rw [List.takeWhile_append_of_pos all, List.takeWhile_nil, List.append_nil]
  | cons c after => exact takeWhile_append_cons all (stops c rfl) after

theorem stops_of_head?_dropWhile (p : Char → Bool) (cs : List Char) :
    ∀ c ∈ (cs.dropWhile p).head?, p c = false := by
  intro c first
  have stops := List.head?_dropWhile_not p cs
  rw [Option.mem_def.mp first] at stops
  simpa using stops

structure Place where
  before : List Char
  inside : List Char
  after : List Char
  deriving DecidableEq, Repr

namespace Place

def text (o : Place) : List Char := o.before ++ (o.inside ++ o.after)
def start (o : Place) : Nat := o.before.length
def stop (o : Place) : Nat := o.before.length + o.inside.length

/-- What stands there is a run, and neither neighbour belongs to it. -/
structure IsRun (p : Char → Bool) (o : Place) : Prop where
  ne_nil : o.inside ≠ []
  all : ∀ c ∈ o.inside, p c = true
  before : ∀ c ∈ o.before.getLast?, p c = false
  after : ∀ c ∈ o.after.head?, p c = false

variable {p : Char → Bool} {o e : Place}

theorem inside_eq_takeWhile (h : o.IsRun p) : o.inside = (o.inside ++ o.after).takeWhile p :=
  (takeWhile_append_of_head? h.all h.after).symm

theorem eq_of_before_eq (ho : o.IsRun p) (he : e.IsRun p) (text : o.text = e.text)
    (before : o.before = e.before) : o = e := by
  have rest : o.inside ++ o.after = e.inside ++ e.after := by
    rw [Place.text, Place.text, before] at text
    exact List.append_cancel_left text
  have inside : o.inside = e.inside := by
    rw [inside_eq_takeWhile ho, rest, ← inside_eq_takeWhile he]
  rw [inside] at rest
  have after : o.after = e.after := List.append_cancel_left rest
  cases o
  cases e
  cases before
  cases inside
  cases after
  rfl

theorem eq_or_stop_le_start (ho : o.IsRun p) (he : e.IsRun p) (text : o.text = e.text)
    (order : o.start ≤ e.start) : o = e ∨ o.stop ≤ e.start := by
  obtain ⟨between, isBefore⟩ : o.before <+: e.before := by
    have begins : e.before <+: o.text := ⟨_, text.symm⟩
    exact List.prefix_of_prefix_length_le (List.prefix_append _ _) begins order
  have rest : o.inside ++ o.after = between ++ (e.inside ++ e.after) := by
    rw [Place.text, Place.text, ← isBefore, List.append_assoc] at text
    exact List.append_cancel_left text
  have start : e.start = o.before.length + between.length := by
    rw [Place.start, ← isBefore, List.length_append]
  rcases Nat.lt_or_ge between.length o.inside.length with inner | beyond
  · left
    have inside : between <+: o.inside := by
      have begins : between <+: o.inside ++ o.after := ⟨_, rest.symm⟩
      exact List.prefix_of_prefix_length_le begins (List.prefix_append _ _) (Nat.le_of_lt inner)
    have nothing : between = [] := by
      cases last : between.getLast? with
      | none => exact List.getLast?_eq_none_iff.mp last
      | some c =>
        have belongs := ho.all c (inside.subset (List.mem_of_getLast? last))
        have stops := he.before c (by rw [← isBefore, List.getLast?_append, last]; rfl)
        rw [belongs] at stops
        cases stops
    rw [nothing, List.append_nil] at isBefore
    exact eq_of_before_eq ho he text isBefore
  · right
    rw [start, stop]
    omega

theorem IsRun.behind {c : Char} (stops : p c = false) (front : List Char) (h : o.IsRun p) :
    IsRun p ⟨front ++ c :: o.before, o.inside, o.after⟩ := by
  refine ⟨h.ne_nil, h.all, fun d last => ?_, h.after⟩
  rw [List.getLast?_append, List.getLast?_cons] at last
  cases before : o.before.getLast? with
  | none =>
    rw [before] at last
    cases last
    exact stops
  | some e =>
    rw [before] at last
    cases last
    exact h.before e before

end Place

theorem mem_runs_of_isRun {p : Char → Bool} {o : Place} (h : o.IsRun p) :
    o.inside ∈ runs p o.text := by
  have alone : o.inside ∈ runs p (o.inside ++ o.after) := by
    cases rest : o.after with
    | nil =>
      rw [List.append_nil, runs_of_all h.ne_nil h.all]
      exact List.mem_singleton_self _
    | cons c cs =>
      have stops : p c = false := h.after c (by rw [rest]; rfl)
      rw [runs_append_cons_of_neg stops, runs_of_all h.ne_nil h.all]
      exact List.mem_cons_self
  rcases List.eq_nil_or_concat o.before with nothing | ⟨earlier, c, isLast⟩
  · rwa [Place.text, nothing]
  · have stops : p c = false := h.before c (by simp [isLast])
    rw [Place.text, isLast, List.concat_eq_append, List.append_assoc, List.singleton_append,
      runs_append_cons_of_neg stops]
    exact List.mem_append_right _ alone

theorem exists_isRun_of_mem_runs {p : Char → Bool} {cs run : List Char} (h : run ∈ runs p cs) :
    ∃ o : Place, o.text = cs ∧ o.IsRun p ∧ o.inside = run := by
  have first : ∀ c ∈ cs.takeWhile p, p c = true := List.all_eq_true.mp List.all_takeWhile
  have halves := List.takeWhile_append_dropWhile (p := p) (l := cs)
  cases rest : cs.dropWhile p with
  | nil =>
    rw [rest, List.append_nil] at halves
    rw [halves] at first
    have some : cs ≠ [] := by
      rintro rfl
      cases h
    rw [runs_of_all some first, List.mem_singleton] at h
    exact ⟨⟨[], cs, []⟩, by simp [Place.text], ⟨some, first, by simp, by simp⟩, h.symm⟩
  | cons c others =>
    have stops : p c = false := stops_of_head?_dropWhile p cs c (by rw [rest]; rfl)
    rw [rest] at halves
    rw [← halves, runs_append_cons_of_neg stops] at h
    rcases List.mem_append.mp h with here | later
    · have some : cs.takeWhile p ≠ [] := by
        intro nothing
        rw [nothing] at here
        cases here
      rw [runs_of_all some first, List.mem_singleton] at here
      exact ⟨⟨[], cs.takeWhile p, c :: others⟩, halves,
        ⟨some, first, by simp, by simpa using stops⟩, here.symm⟩
    · have less : others.length < cs.length := by
        rw [← halves, List.length_append, List.length_cons]
        omega
      obtain ⟨o, text, isRun, inside⟩ := exists_isRun_of_mem_runs later
      refine ⟨⟨cs.takeWhile p ++ c :: o.before, o.inside, o.after⟩, ?_, isRun.behind stops _,
        inside⟩
      rw [Place.text, List.append_assoc, List.cons_append]
      exact (congrArg (cs.takeWhile p ++ c :: ·) text).trans halves
termination_by cs.length

/-- The runs of a text are what stands at the places that cannot be made longer. -/
theorem mem_runs_iff {p : Char → Bool} {cs run : List Char} :
    run ∈ runs p cs ↔ ∃ o : Place, o.text = cs ∧ o.IsRun p ∧ o.inside = run := by
  constructor
  · exact exists_isRun_of_mem_runs
  · rintro ⟨o, rfl, isRun, rfl⟩
    exact mem_runs_of_isRun isRun

theorem isBoundary_iff {a b : Option Char} (word : b.any isWordChar = true) :
    isBoundary a b = true ↔ ∀ c ∈ a, isWordChar c = false := by
  rw [isBoundary, word]
  cases a <;> simp

theorem any_head?_of_isWord {name : String} (h : IsWord name) (after : List Char) :
    (name.toList ++ after).head?.any isWordChar = true := by
  obtain ⟨some, all⟩ := h
  cases letters : name.toList with
  | nil => exact absurd (String.toList_eq_nil_iff.mp letters) some
  | cons c cs => exact all c (by rw [letters]; exact List.mem_cons_self)

theorem any_getLast?_of_isWord {name : String} (h : IsWord name) (before : List Char) :
    (before ++ name.toList).getLast?.any isWordChar = true := by
  obtain ⟨some, all⟩ := h
  rw [List.getLast?_append]
  cases last : name.toList.getLast? with
  | none => exact absurd (String.toList_eq_nil_iff.mp (List.getLast?_eq_none_iff.mp last)) some
  | some c => exact all c (List.mem_of_getLast? last)

theorem isRun_iff_isBoundary {name : String} (h : IsWord name) (before after : List Char) :
    Place.IsRun isWordChar ⟨before, name.toList, after⟩ ↔
      isBoundary before.getLast? (name.toList ++ after).head? = true ∧
        isBoundary (before ++ name.toList).getLast? after.head? = true := by
  rw [isBoundary_iff (any_head?_of_isWord h after), isBoundary_comm,
    isBoundary_iff (any_getLast?_of_isWord h before)]
  constructor
  · intro isRun
    exact ⟨isRun.before, isRun.after⟩
  · rintro ⟨free, freeBehind⟩
    exact ⟨fun nothing => h.1 (String.toList_eq_nil_iff.mp nothing), h.2, free, freeBehind⟩

end CMakeGrammar.Text
