import CMakeGrammar.Text.Runs
import CMakeGrammar.Text.WordChar
/-! Collapsed texts, character by character. A blank is skipped; behind another character follows
what `collapseBehind` writes, which begins with a space if blanks stood there. So all blanks of a
collapsed text are single spaces (`isSpaced_collapseChars`), and runs that blanks do not belong to
are those of the text before it was collapsed (`runs_collapseChars`). -/
namespace CMakeGrammar.Text

/-- What collapsing writes behind a character that is not blank. -/
def collapseBehind (cs : List Char) : List Char :=
  [' '].intercalate ((openRuns (fun c => !isBlank c) cs).1 :: (openRuns (fun c => !isBlank c) cs).2)

@[simp] theorem collapseChars_nil : collapseChars [] = [] := rfl

@[simp] theorem collapseBehind_nil : collapseBehind [] = [] := rfl

theorem intercalate_cons (c : Char) (run : List Char) (done : List (List Char)) :
    [' '].intercalate ((c :: run) :: done) = c :: [' '].intercalate (run :: done) := by
  cases done <;> simp [List.intercalate]

section
variable {c : Char} (cs : List Char)

theorem collapseChars_cons_of_blank (blank : isBlank c = true) :
    collapseChars (c :: cs) = collapseChars cs := by
  have parted := runs_append_cons_of_neg (p := fun c => !isBlank c) (by simpa using blank) [] cs
  exact congrArg [' '].intercalate parted

theorem collapseChars_cons (h : isBlank c = false) :
    collapseChars (c :: cs) = c :: collapseBehind cs := by
  rw [collapseChars, pieces, runs, openRuns_cons, runsStep, if_pos (by simpa using h),
    closeRun_cons, intercalate_cons, collapseBehind]

theorem collapseBehind_cons (h : isBlank c = false) :
    collapseBehind (c :: cs) = c :: collapseBehind cs := by
  rw [collapseBehind, openRuns_cons, runsStep, if_pos (by simpa using h), intercalate_cons,
    collapseBehind]

theorem collapseBehind_cons_of_blank (blank : isBlank c = true) :
    collapseBehind (c :: cs) = if collapseChars cs = [] then [] else ' ' :: collapseChars cs := by
  have opened : collapseBehind (c :: cs) = [' '].intercalate ([] :: pieces cs) := by
    rw [collapseBehind, openRuns_cons, runsStep, if_neg (by simpa using blank), pieces, runs]
  rw [opened, collapseChars]
  cases all : pieces cs with
  | nil => rfl
  | cons piece others =>
    have some := (mem_runs (r := piece) (by rw [← pieces, all]; exact List.mem_cons_self)).1
    obtain ⟨first, rest, rfl⟩ := List.exists_cons_of_ne_nil some
    rw [intercalate_cons, if_neg (List.cons_ne_nil _ _), ← intercalate_cons]
    simp [List.intercalate]

end

/-- Induction along a text that is collapsed: what holds of it from some position on, and what holds
of it behind a character that is not blank. -/
theorem collapse_induction (text behind : List Char → Prop) (nil : text [])
    (cons : ∀ c cs, isBlank c = false → behind cs → text (c :: cs))
    (blank : ∀ c cs, isBlank c = true → text cs → text (c :: cs))
    (behind_nil : behind []) (behind_cons : ∀ c cs, isBlank c = false → behind cs →
    behind (c :: cs))
    (behind_blank : ∀ c cs, isBlank c = true → text cs → behind (c :: cs)) (cs : List Char) :
    text cs ∧ behind cs := by
  induction cs with
  | nil => exact ⟨nil, behind_nil⟩
  | cons c cs ih =>
    cases isBlank : isBlank c with
    | false => exact ⟨cons c cs isBlank ih.2, behind_cons c cs isBlank ih.2⟩
    | true => exact ⟨blank c cs isBlank ih.1, behind_blank c cs isBlank ih.1⟩

theorem first_collapseChars {cs : List Char} :
    ∀ c ∈ (collapseChars cs).head?, isBlank c = false := by
  induction cs with
  | nil => simp
  | cons c cs ih =>
    cases blank : isBlank c with
    | false => simpa [collapseChars_cons cs blank] using blank
    | true => rwa [collapseChars_cons_of_blank cs blank]

theorem head?_collapseChars_append (front cs : List Char) :
    (collapseChars (front ++ cs)).head? = (collapseChars front).head?.or
    (collapseChars cs).head? := by
  induction front with
  | nil => rfl
  | cons c front ih =>
    cases blank : isBlank c with
    | false => rw [List.cons_append, collapseChars_cons _ blank, collapseChars_cons _ blank]; rfl
    | true =>
      rw [List.cons_append, collapseChars_cons_of_blank _ blank,
        collapseChars_cons_of_blank _ blank, ih]

theorem exists_collapseChars_append_cons {c : Char} (h : isBlank c = false) (front : List Char) :
    ∃ lead, ∀ cs, collapseChars (front ++ c :: cs) = lead ++ c :: collapseBehind cs := by
  refine (collapse_induction
    (fun front => ∃ lead, ∀ cs, collapseChars (front ++ c :: cs) = lead ++ c :: collapseBehind cs)
    (fun front => ∃ lead, ∀ cs, collapseBehind (front ++ c :: cs) = lead ++ c :: collapseBehind cs)
    ?_ ?_ ?_ ?_ ?_ ?_ front).1
  · exact ⟨[], fun cs => collapseChars_cons cs h⟩
  · rintro d front notBlank ⟨lead, written⟩
    refine ⟨d :: lead, fun cs => ?_⟩
    rw [List.cons_append, collapseChars_cons _ notBlank, written, List.cons_append]
  · rintro d front blank ⟨lead, written⟩
    refine ⟨lead, fun cs => ?_⟩
    rw [List.cons_append, collapseChars_cons_of_blank _ blank, written]
  · exact ⟨[], fun cs => collapseBehind_cons cs h⟩
  · rintro d front notBlank ⟨lead, written⟩
    refine ⟨d :: lead, fun cs => ?_⟩
    rw [List.cons_append, collapseBehind_cons _ notBlank, written, List.cons_append]
  · rintro d front blank ⟨lead, written⟩
    refine ⟨' ' :: lead, fun cs => ?_⟩
    rw [List.cons_append, collapseBehind_cons_of_blank _ blank, written, if_neg (by simp),
      List.cons_append]

theorem collapseChars_append_of_blank {gap : List Char} (blank : ∀ c ∈ gap, isBlank c = true)
    (cs : List Char) : collapseChars (gap ++ cs) = collapseChars cs := by
  induction gap with
  | nil => rfl
  | cons c gap ih =>
    obtain ⟨first, rest⟩ := List.forall_mem_cons.mp blank
    rw [List.cons_append, collapseChars_cons_of_blank _ first, ih rest]

def IsSpaced (text : List Char) : Prop :=
  ∀ gap, gap <:+: text → (∀ c ∈ gap, isBlank c = true) → gap = [] ∨ gap = [' ']

theorem isSpaced_nil : IsSpaced [] := fun _ part _ => .inl (List.infix_nil.mp part)

theorem IsSpaced.cons {c : Char} {cs : List Char} (spaced : IsSpaced cs) (h : isBlank c = false) :
    IsSpaced (c :: cs) := by
  intro gap part blank
  rcases List.infix_cons_iff.mp part with begins | inner
  · rcases List.prefix_cons_iff.mp begins with rfl | ⟨rest, rfl, -⟩
    · exact .inl rfl
    · have isBlank := blank c List.mem_cons_self
      rw [h] at isBlank
      cases isBlank
  · exact spaced gap inner blank

theorem IsSpaced.space {cs : List Char} (spaced : IsSpaced cs)
    (first : ∀ c ∈ cs.head?, isBlank c = false) : IsSpaced (' ' :: cs) := by
  intro gap part blank
  rcases List.infix_cons_iff.mp part with begins | inner
  · rcases List.prefix_cons_iff.mp begins with rfl | ⟨rest, rfl, more⟩
    · exact .inl rfl
    · cases rest with
      | nil => exact .inr rfl
      | cons d rest =>
        obtain ⟨others, rfl⟩ := more
        have isBlank := blank d (List.mem_cons_of_mem _ List.mem_cons_self)
        rw [first d rfl] at isBlank
        cases isBlank
  · exact spaced gap inner blank

theorem isSpaced_collapseChars (cs : List Char) : IsSpaced (collapseChars cs) := by
  refine (collapse_induction (fun cs => IsSpaced (collapseChars cs))
    (fun cs => IsSpaced (collapseBehind cs)) isSpaced_nil ?_ ?_ isSpaced_nil ?_ ?_ cs).1
  · intro c cs h spaced
    rw [collapseChars_cons cs h]
    exact spaced.cons h
  · intro c cs blank spaced
    rwa [collapseChars_cons_of_blank cs blank]
  · intro c cs h spaced
    rw [collapseBehind_cons cs h]
    exact spaced.cons h
  · intro c cs blank spaced
    rw [collapseBehind_cons_of_blank cs blank]
    split
    · exact isSpaced_nil
    · exact spaced.space first_collapseChars

theorem runs_collapseChars {p : Char → Bool} (h : ∀ c, isBlank c = true → p c = false)
    (cs : List Char) : runs p (collapseChars cs) = runs p cs := by
  have parted {c : Char} (blank : isBlank c = true) (front cs : List Char) :
      runs p (front ++ c :: cs) = runs p front ++ runs p cs :=
    runs_append_cons_of_neg (h c blank) front cs
  refine (collapse_induction (fun cs => runs p (collapseChars cs) = runs p cs)
    (fun cs => ∀ front, runs p (front ++ collapseBehind cs) = runs p (front ++ cs))
    rfl ?_ ?_ (fun _ => rfl) ?_ ?_ cs).1
  · intro c cs notBlank same
    rw [collapseChars_cons cs notBlank]
    exact same [c]
  · intro c cs blank same
    rw [collapseChars_cons_of_blank cs blank, same]
    exact (parted blank [] cs).symm
  · intro c cs notBlank same front
    rw [collapseBehind_cons cs notBlank]
    simpa using same (front ++ [c])
  · intro c cs blank same front
    rw [collapseBehind_cons_of_blank cs blank, parted blank, ← same]
    split
    · rename_i none
      rw [none, List.append_nil, runs_nil, List.append_nil]
    · exact parted isBlank_space front _

theorem collapseChars_collapseChars (cs : List Char) :
    collapseChars (collapseChars cs) = collapseChars cs :=
  congrArg [' '].intercalate (runs_collapseChars (by simp) cs)

theorem mem_collapseChars {c : Char} (h : isBlank c = false) {cs : List Char} :
    c ∈ collapseChars cs ↔ c ∈ cs := by
  have same := congrArg List.flatten (runs_collapseChars (p := fun c => !isBlank c) (by simp) cs)
  rw [flatten_runs, flatten_runs] at same
  have kept (text : List Char) : c ∈ text ↔ c ∈ text.filter fun c => !isBlank c := by
    simp [h]
  rw [kept, same, ← kept]

theorem mem_collapseBehind {c : Char} (h : isBlank c = false) {cs : List Char} :
    c ∈ collapseBehind cs ↔ c ∈ cs := by
  cases cs with
  | nil => rfl
  | cons d cs =>
    cases blank : isBlank d with
    | false => rw [collapseBehind_cons cs blank, ← collapseChars_cons cs blank, mem_collapseChars h]
    | true =>
      have ne : c ≠ d := by
        rintro rfl
        rw [h] at blank
        cases blank
      have notSpace : c ≠ ' ' := by
        rintro rfl
        cases h
      have inner : c ∈ collapseChars cs ↔ c ∈ cs := mem_collapseChars h
      rw [collapseBehind_cons_of_blank cs blank, List.mem_cons, or_iff_right ne, ← inner]
      split
      · rename_i none
        rw [none]
      · rw [List.mem_cons, or_iff_right notSpace]

theorem collapseBehind_isBlank_iff {cs : List Char} :
    (∀ c ∈ collapseBehind cs, isBlank c = true) ↔ ∀ c ∈ cs, isBlank c = true := by
  have same (c : Char) : (c ∈ collapseBehind cs → isBlank c = true) ↔
      (c ∈ cs → isBlank c = true) := by
    cases blank : isBlank c with
    | false => rw [mem_collapseBehind blank]
    | true => simp
  exact forall_congr' same

theorem inRanges_iff_mem {ranges : List (Nat × Nat)} {n : Nat} :
    inRanges ranges n = true ↔
      n ∈ ranges.flatMap fun range => List.range' range.1 (range.2 + 1 - range.1) := by
  simp only [inRanges_iff, List.mem_flatMap, List.mem_range'_1]
  refine exists_congr fun range => and_congr_right fun _ => ?_
  omega

theorem isWordChar_of_isBlank {c : Char} (blank : isBlank c = true) : isWordChar c = false := by
  have all : ∀ n ∈ blankRanges.flatMap (fun range => List.range' range.1 (range.2 + 1 - range.1)),
      isWordChar (Char.ofNat n) = false := by decide +kernel
  rw [← Char.ofNat_toNat c]
  exact all c.toNat (inRanges_iff_mem.mp blank)

end CMakeGrammar.Text
