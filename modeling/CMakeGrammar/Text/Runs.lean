import CMakeGrammar.Text.Blank
/-! Maximal runs: a text falls into the longest stretches of characters that share a property.
`flatten_runs` and `mem_runs` say that no such character is lost and no other is kept. Collapsing
writes the runs between blanks with one space after each but the last. -/
namespace CMakeGrammar.Text

def closeRun (run : List Char) (done : List (List Char)) : List (List Char) :=
  if run.isEmpty then done else run :: done

def runsStep (p : Char → Bool) (c : Char) (s : List Char × List (List Char)) :
    List Char × List (List Char) :=
  if p c then (c :: s.1, s.2) else ([], closeRun s.1 s.2)

def openRuns (p : Char → Bool) (cs : List Char) : List Char × List (List Char) :=
  cs.foldr (runsStep p) ([], [])

def runs (p : Char → Bool) (cs : List Char) : List (List Char) :=
  closeRun (openRuns p cs).1 (openRuns p cs).2

@[simp] theorem closeRun_nil (done : List (List Char)) : closeRun [] done = done := rfl

@[simp] theorem closeRun_cons (c : Char) (run : List Char) (done : List (List Char)) :
    closeRun (c :: run) done = (c :: run) :: done := rfl

@[simp] theorem openRuns_nil (p : Char → Bool) : openRuns p [] = ([], []) := rfl

@[simp] theorem openRuns_cons (p : Char → Bool) (c : Char) (cs : List Char) :
    openRuns p (c :: cs) = runsStep p c (openRuns p cs) := rfl

@[simp] theorem runs_nil (p : Char → Bool) : runs p [] = [] := rfl

theorem closeRun_append (run : List Char) (done others : List (List Char)) :
    closeRun run (done ++ others) = closeRun run done ++ others := by
  cases run <;> rfl

theorem openRuns_append_cons_of_neg {p : Char → Bool} {c : Char} (h : p c = false)
    (before after : List Char) :
    openRuns p (before ++ c :: after) =
      ((openRuns p before).1, (openRuns p before).2 ++ runs p after) := by
  induction before with
  | nil => simp [runsStep, h, runs]
  | cons b before ih =>
    rw [List.cons_append, openRuns_cons, ih, openRuns_cons, runsStep, runsStep]
    split
    · rfl
    · rw [closeRun_append]

theorem runs_append_cons_of_neg {p : Char → Bool} {c : Char} (h : p c = false)
    (before after : List Char) :
    runs p (before ++ c :: after) = runs p before ++ runs p after := by
  rw [runs, openRuns_append_cons_of_neg h, closeRun_append]
  rfl

theorem openRuns_of_all {p : Char → Bool} {cs : List Char} (h : ∀ c ∈ cs, p c = true) :
    openRuns p cs = (cs, []) := by
  induction cs with
  | nil => rfl
  | cons c cs ih =>
    obtain ⟨first, others⟩ := List.forall_mem_cons.mp h
    rw [openRuns_cons, ih others, runsStep, if_pos first]

theorem runs_of_all {p : Char → Bool} {cs : List Char} (some : cs ≠ [])
    (h : ∀ c ∈ cs, p c = true) : runs p cs = [cs] := by
  rw [runs, openRuns_of_all h]
  cases cs with
  | nil => exact absurd rfl some
  | cons c cs => rfl

theorem flatten_closeRun (run : List Char) (done : List (List Char)) :
    (closeRun run done).flatten = run ++ done.flatten := by
  cases run <;> simp

theorem flatten_runs (p : Char → Bool) (cs : List Char) : (runs p cs).flatten = cs.filter p := by
  induction cs with
  | nil => rfl
  | cons c cs ih =>
    rw [runs, flatten_closeRun] at ih ⊢
    by_cases h : p c <;> simp [runsStep, h, flatten_closeRun, ih]

theorem mem_closeRun {r run : List Char} {done : List (List Char)} :
    r ∈ closeRun run done ↔ (r = run ∧ run ≠ []) ∨ r ∈ done := by
  cases run <;> simp

theorem mem_runs {p : Char → Bool} {cs r : List Char} (h : r ∈ runs p cs) :
    r ≠ [] ∧ ∀ c ∈ r, p c = true := by
  suffices inv : (∀ c ∈ (openRuns p cs).1, p c = true) ∧
      ∀ r ∈ (openRuns p cs).2, r ≠ [] ∧ ∀ c ∈ r, p c = true by
    rw [runs, mem_closeRun] at h
    rcases h with ⟨rfl, hne⟩ | h
    · exact ⟨hne, inv.1⟩
    · exact inv.2 r h
  clear h
  induction cs with
  | nil => simp
  | cons c cs ih =>
    by_cases hc : p c
    · simpa [runsStep, hc] using ih
    · simp only [openRuns_cons, runsStep, hc]
      refine ⟨by simp, fun r hr => ?_⟩
      rcases mem_closeRun.1 hr with ⟨rfl, hne⟩ | hr
      · exact ⟨hne, ih.1⟩
      · exact ih.2 r hr

def pieces (cs : List Char) : List (List Char) :=
  runs (fun c => !isBlank c) cs

def collapseChars (cs : List Char) : List Char :=
  [' '].intercalate (pieces cs)

/-- Every stretch of blanks becomes one space, and those at the ends go. -/
def collapse (s : String) : String :=
  String.ofList (collapseChars s.toList)

@[simp] theorem toList_collapse (s : String) : (collapse s).toList = collapseChars s.toList := by
  simp [collapse]

end CMakeGrammar.Text
