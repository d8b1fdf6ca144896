import CMakeGrammar.Proofs.Regex.Expression
import CMakeGrammar.Proofs.Text.Places
/-! Searching a text for an expression that word boundaries divide into parts. The search takes the
preferred match at the leftmost position that has one and goes on where that match ends. Whatever
the parts are, the matches lie in the text one behind the other, and what matches at a position is
found unless a match that is found reaches beyond that position. -/
namespace CMakeGrammar.Regex
open Text (Place)

/-- The parts of a pattern, with a word boundary between each two. A backslash belongs to what
stands behind it. -/
def cut : List Char → List (List Char)
  | [] => [[]]
  | '\\' :: 'b' :: rest => [] :: cut rest
  | '\\' :: c :: rest => (cut rest).modifyHead (['\\', c] ++ ·)
  | c :: rest => (cut rest).modifyHead ([c] ++ ·)

def Expression.isEither : Expression → Bool
  | .either _ _ => true
  | _ => false

def readParts? (pattern : String) : Option (List Expression) := do
  let parts ← (cut pattern.toList).mapM (readFrom 0 ⟨0, [], []⟩ [])
  if 1 < parts.length && parts.any (·.isEither) then none else some parts

def Progress.isAtBoundary (text : List Char) (p : Progress) : Bool :=
  Text.isBoundary (text.take (text.length - p.rest.length)).getLast? p.rest.head?

def runParts (text : List Char) : List Expression → Progress → List Progress
  | [], p => [p]
  | [e], p => e.run p
  | e :: others, p => ((e.run p).filter (·.isAtBoundary text)).flatMap (runParts text others)

def matchAt? (parts : List Expression) (before rest : List Char) : Option Place :=
  (runParts (before ++ rest) parts ⟨[], rest⟩).head?.map fun q =>
    ⟨before, rest.take (rest.length - q.rest.length), q.rest⟩

/-- The match of a search at a position, if the match before it does not reach beyond that. -/
def found? (parts : List Expression) (before : List Char) (reach : Nat) (rest : List Char) :
    Option Place :=
  if reach = 0 then matchAt? parts before rest else none

def reachBehind (reach : Nat) (found : Option Place) : Nat :=
  found.elim reach (·.inside.length) - 1

/-- The matches that begin here or later, where a match still has some more characters. -/
def searchFrom (parts : List Expression) (before : List Char) (reach : Nat) :
    List Char → List Place
  | [] => (found? parts before reach []).toList
  | c :: rest =>
    let found := found? parts before reach (c :: rest)
    found.toList ++ searchFrom parts (before ++ [c]) (reachBehind reach found) rest

def search (parts : List Expression) (text : List Char) : List Place := searchFrom parts [] 0 text

theorem Expression.suffix_of_mem_run {e : Expression} {p q : Progress} (h : q ∈ e.run p) :
    q.rest <:+ p.rest := by
  induction e generalizing p q with
  | nothing =>
    obtain rfl := List.mem_singleton.mp h
    exact List.suffix_rfl
  | character c =>
    rw [run] at h
    split at h
    · rw [List.mem_singleton.mp h]
      exact List.tail_suffix p.rest
    · cases h
  | both first second ihFirst ihSecond =>
    obtain ⟨r, isFirst, isSecond⟩ := List.mem_flatMap.mp h
    exact (ihSecond isSecond).trans (ihFirst isFirst)
  | either first second ihFirst ihSecond =>
    rcases List.mem_append.mp h with isFirst | isSecond
    · exact ihFirst isFirst
    · exact ihSecond isSecond
  | maybe e ih =>
    rcases List.mem_append.mp h with matched | skipped
    · exact ih matched
    · obtain rfl := List.mem_singleton.mp skipped
      exact List.suffix_rfl
  | group index e ih =>
    obtain ⟨r, matched, rfl⟩ := List.mem_map.mp h
    have isEnd : r.rest <:+ p.rest := ih matched
    exact isEnd

theorem suffix_of_mem_runParts {text : List Char} {parts : List Expression} {p q : Progress}
    (h : q ∈ runParts text parts p) : q.rest <:+ p.rest := by
  induction parts generalizing p with
  | nil =>
    obtain rfl := List.mem_singleton.mp h
    exact List.suffix_rfl
  | cons e others ih =>
    cases others with
    | nil => exact Expression.suffix_of_mem_run h
    | cons other others =>
      obtain ⟨r, isFirst, matched⟩ := List.mem_flatMap.mp h
      exact (ih matched).trans (Expression.suffix_of_mem_run (List.mem_filter.mp isFirst).1)

section
variable {parts : List Expression} {before rest : List Char} {reach : Nat} {o : Place}

theorem before_of_matchAt? (h : matchAt? parts before rest = some o) : o.before = before := by
  obtain ⟨q, -, rfl⟩ := Option.map_eq_some_iff.mp h
  rfl

theorem rest_of_matchAt? (h : matchAt? parts before rest = some o) :
    o.inside ++ o.after = rest := by
  obtain ⟨q, first, rfl⟩ := Option.map_eq_some_iff.mp h
  exact List.suffix_iff_eq_append.mp (suffix_of_mem_runParts (List.mem_of_head? first))

theorem found?_eq_some_iff :
    found? parts before reach rest = some o ↔ reach = 0 ∧ matchAt? parts before rest = some o := by
  rw [found?]
  split <;> simp_all

theorem reach_le (parts : List Expression) (before rest : List Char) (reach : Nat) :
    reach ≤ reachBehind reach (found? parts before reach rest) + 1 := by
  cases found : found? parts before reach rest with
  | none =>
    rw [reachBehind, Option.elim_none]
    omega
  | some e =>
    rw [(found?_eq_some_iff.mp found).1]
    exact Nat.zero_le _

theorem reachBehind_le {c : Char} (fits : reach ≤ (c :: rest).length) :
    reachBehind reach (found? parts before reach (c :: rest)) ≤ rest.length := by
  rw [List.length_cons] at fits
  cases found : found? parts before reach (c :: rest) with
  | none =>
    rw [reachBehind, Option.elim_none]
    omega
  | some e =>
    have whole := congrArg List.length (rest_of_matchAt? (found?_eq_some_iff.mp found).2)
    rw [List.length_append, List.length_cons] at whole
    rw [reachBehind, Option.elim_some]
    omega

/-- What a search at a position reports: a preferred match of the text, where the match before it
ends or later. -/
structure IsReported (parts : List Expression) (before : List Char) (reach : Nat) (rest : List Char)
    (o : Place) : Prop where
  text : o.text = before ++ rest
  start : before.length + reach ≤ o.start
  isMatch : matchAt? parts o.before (o.inside ++ o.after) = some o

theorem isReported_of_found? (h : found? parts before reach rest = some o) :
    IsReported parts before reach rest o := by
  obtain ⟨rfl, isMatch⟩ := found?_eq_some_iff.mp h
  have isBefore := before_of_matchAt? isMatch
  have isRest := rest_of_matchAt? isMatch
  refine ⟨?_, ?_, ?_⟩
  · rw [Place.text, isBefore, isRest]
  · rw [Place.start, isBefore]
    exact Nat.le_refl _
  · rwa [isBefore, isRest]

theorem IsReported.found? (h : IsReported parts before reach rest o)
    (here : o.start = before.length) : found? parts before reach rest = some o := by
  obtain ⟨isBefore, isRest⟩ := List.append_inj h.text here
  have start := h.start
  rw [found?_eq_some_iff, ← isBefore, ← isRest]
  exact ⟨by omega, h.isMatch⟩

theorem isReported_of_mem_searchFrom (fits : reach ≤ rest.length)
    (h : o ∈ searchFrom parts before reach rest) : IsReported parts before reach rest o := by
  induction rest generalizing before reach with
  | nil => exact isReported_of_found? (Option.mem_toList.mp h)
  | cons c rest ih =>
    rcases List.mem_append.mp h with here | later
    · exact isReported_of_found? (Option.mem_toList.mp here)
    · obtain ⟨text, start, isMatch⟩ := ih (reachBehind_le fits) later
      rw [List.append_assoc] at text
      rw [List.length_append, List.length_singleton] at start
      have less := reach_le parts before (c :: rest) reach
      exact ⟨text, by omega, isMatch⟩

theorem pairwise_searchFrom (fits : reach ≤ rest.length) :
    (searchFrom parts before reach rest).Pairwise fun o e => o.stop ≤ e.start := by
  induction rest generalizing before reach with
  | nil =>
    rw [searchFrom]
    cases found? parts before reach [] <;> simp
  | cons c rest ih =>
    rw [searchFrom, List.pairwise_append]
    refine ⟨?_, ih (reachBehind_le fits), fun o found e later => ?_⟩
    · cases found? parts before reach (c :: rest) <;> simp
    · have start := (isReported_of_mem_searchFrom (reachBehind_le fits) later).start
      have isFound := Option.mem_toList.mp found
      have isBefore := before_of_matchAt? (found?_eq_some_iff.mp isFound).2
      rw [isFound, reachBehind, Option.elim_some, List.length_append,
        List.length_singleton] at start
      rw [Place.stop, isBefore]
      omega

theorem mem_searchFrom (h : IsReported parts before reach rest o) :
    o ∈ searchFrom parts before reach rest ∨
      ∃ e ∈ searchFrom parts before reach rest, e.start < o.start ∧ o.start < e.stop := by
  induction rest generalizing before reach with
  | nil =>
    have size := congrArg List.length h.text
    have start := h.start
    rw [Place.text, List.append_nil, List.length_append] at size
    rw [Place.start] at start
    exact .inl (Option.mem_toList.mpr (h.found? (by rw [Place.start]; omega)))
  | cons c rest ih =>
    obtain here | later : o.start = before.length ∨ before.length < o.start := by
      have start := h.start
      omega
    · exact .inl (List.mem_append_left _ (Option.mem_toList.mpr (h.found? here)))
    rcases Nat.lt_or_ge o.start (before.length + 1 +
        reachBehind reach (found? parts before reach (c :: rest))) with inner | beyond
    · -- only a match that is found here can reach so far
      cases isFound : found? parts before reach (c :: rest) with
      | none =>
        have start := h.start
        rw [isFound, reachBehind, Option.elim_none] at inner
        omega
      | some e =>
        have isBefore := before_of_matchAt? (found?_eq_some_iff.mp isFound).2
        refine .inr ⟨e, List.mem_append_left _ (Option.mem_toList.mpr isFound), ?_, ?_⟩
        · rwa [Place.start, isBefore]
        · rw [isFound, reachBehind, Option.elim_some] at inner
          rw [Place.stop, isBefore]
          omega
    · have text : o.text = before ++ [c] ++ rest := by rw [h.text, List.append_assoc]; rfl
      have start : (before ++ [c]).length +
          reachBehind reach (found? parts before reach (c :: rest)) ≤ o.start := by
        rwa [List.length_append, List.length_singleton]
      rcases ih ⟨text, start, h.isMatch⟩ with mem | ⟨e, mem, reaches⟩
      · exact .inl (List.mem_append_right _ mem)
      · exact .inr ⟨e, List.mem_append_right _ mem, reaches⟩

theorem text_of_mem_search {text : List Char} (h : o ∈ search parts text) : o.text = text :=
  (isReported_of_mem_searchFrom (Nat.zero_le _) h).text

theorem matchAt?_of_mem_search {text : List Char} (h : o ∈ search parts text) :
    matchAt? parts o.before (o.inside ++ o.after) = some o :=
  (isReported_of_mem_searchFrom (Nat.zero_le _) h).isMatch

theorem pairwise_search (parts : List Expression) (text : List Char) :
    (search parts text).Pairwise fun o e => o.stop ≤ e.start :=
  pairwise_searchFrom (Nat.zero_le _)

theorem mem_search (h : matchAt? parts o.before (o.inside ++ o.after) = some o) :
    o ∈ search parts o.text ∨ ∃ e ∈ search parts o.text, e.start < o.start ∧ o.start < e.stop := by
  have reported : IsReported parts [] 0 o.text o := ⟨rfl, Nat.zero_le _, h⟩
  exact mem_searchFrom reported

end

end CMakeGrammar.Regex
