import CMakeGrammar.Proofs.Regex.Language
import CMakeGrammar.Proofs.Regex.Search
/-! Searching for words between word boundaries. What is found are the whole words that the
expression matches (`mem_search_between`), whichever match it would prefer. So names that begin with
each other may stand in any order: where the boundary behind a shorter one is missing, the match
goes back to the names that are left. -/
namespace CMakeGrammar.Regex
open Text (IsWord Place isBoundary isWordChar)

def wordParts (names : List String) : List Expression :=
  [.nothing, .both (.group 1 (.alternation (names.map String.toList))) .nothing, .nothing]

def IsUncut (text : List Char) : Prop :=
  ∀ rest, cut (text ++ rest) = (cut rest).modifyHead (text ++ ·)

theorem isUncut_nil : IsUncut [] := by
  intro rest
  cases h : cut rest <;> simp [h]

theorem IsUncut.append {first second : List Char} (hf : IsUncut first) (hs : IsUncut second) :
    IsUncut (first ++ second) := by
  intro rest
  rw [List.append_assoc, hf, hs, List.modifyHead_modifyHead]
  congr 1
  funext text
  exact (List.append_assoc first second text).symm

theorem isUncut_singleton {c : Char} (plain : c ≠ '\\') : IsUncut [c] := by
  intro rest
  rw [List.singleton_append, cut]
  all_goals simp [plain]

theorem isUncut_escapeChar (c : Char) : IsUncut (Alternation.escapeChar c) := by
  rw [Alternation.escapeChar]
  cases sign : Alternation.metaChars.contains c with
  | true =>
    have other : c ≠ 'b' := by
      rintro rfl
      revert sign
      decide
    intro rest
    rw [if_pos rfl, List.cons_append, List.singleton_append, cut]
    exact other
  | false => exact isUncut_singleton (not_sign sign).1

theorem isUncut_escapeChars (name : List Char) : IsUncut (Alternation.escapeChars name) := by
  induction name with
  | nil => exact isUncut_nil
  | cons c name ih => exact (isUncut_escapeChar c).append ih

theorem isUncut_join (names : List String) : IsUncut (Alternation.join names).toList := by
  induction names with
  | nil => exact isUncut_nil
  | cons name others ih =>
    cases others with
    | nil =>
      rw [Alternation.toList_join_singleton]
      exact isUncut_escapeChars name.toList
    | cons other others =>
      rw [Alternation.toList_join_cons_cons]
      exact (isUncut_escapeChars _).append ((isUncut_singleton (by decide)).append ih)

theorem readParts?_words {names : List String} (some : names ≠ [])
    (sorted : names.Pairwise (· < ·)) :
    readParts? ("\\b(" ++ Alternation.ofNames names ++ ")\\b") = .some (wordParts names) := by
  have signs : ("\\b(" ++ Alternation.ofNames names ++ ")\\b").toList =
      '\\' :: 'b' :: (['('] ++ (Alternation.join names).toList ++ [')'] ++ ['\\', 'b']) := by
    rw [Alternation.ofNames_of_pairwise sorted, String.toList_append, String.toList_append]
    simp
  have opening : IsUncut ['('] := isUncut_singleton (by decide)
  have closing : IsUncut [')'] := isUncut_singleton (by decide)
  have uncut := (opening.append (isUncut_join names)).append closing
  have parts : cut ("\\b(" ++ Alternation.ofNames names ++ ")\\b").toList =
      [[], ['('] ++ (Alternation.join names).toList ++ [')'], []] := by
    rw [signs, cut, uncut, cut]
    simp [cut]
  have nothing : readFrom 0 ⟨0, [], []⟩ [] [] = .some .nothing := rfl
  have group : readFrom 0 ⟨0, [], []⟩ [] (['('] ++ (Alternation.join names).toList ++ [')']) =
      .some (.both (.group 1 (.alternation (names.map String.toList))) .nothing) := by
    rw [List.append_assoc, List.singleton_append, readFrom, readFrom_names some]
    rfl
  rw [readParts?, parts]
  simp only [List.mapM_cons, List.mapM_nil, nothing, group, Option.pure_def, Option.bind_eq_bind,
    Option.bind_some]
  rfl

def between (e : Expression) : List Expression := [.nothing, e, .nothing]

theorem isAtBoundary_append (groups : List (Nat × List Char)) (before after : List Char) :
    Progress.isAtBoundary (before ++ after) ⟨groups, after⟩ =
      isBoundary before.getLast? after.head? := by
  rw [Progress.isAtBoundary, List.length_append, Nat.add_sub_cancel, List.take_left]

/-- What is made of word characters is a whole word of a text exactly if there are boundaries before
and behind it. -/
theorem isRun_iff_isAtBoundary {inside : List Char} (h : IsWord (String.ofList inside))
    (before after : List Char) (groups captured : List (Nat × List Char)) :
    Place.IsRun isWordChar ⟨before, inside, after⟩ ↔
      Progress.isAtBoundary (before ++ (inside ++ after)) ⟨groups, inside ++ after⟩ ∧
        Progress.isAtBoundary (before ++ (inside ++ after)) ⟨captured, after⟩ := by
  have atEnd : Progress.isAtBoundary (before ++ (inside ++ after)) ⟨captured, after⟩ =
      isBoundary (before ++ inside).getLast? after.head? := by
    rw [← List.append_assoc, isAtBoundary_append]
  have bounds := Text.isRun_iff_isBoundary h before after
  rw [String.toList_ofList] at bounds
  rw [isAtBoundary_append, atEnd, bounds]

section
variable {e : Expression} {text : List Char} {o : Place}

theorem mem_runParts_between {p q : Progress} :
    q ∈ runParts text (between e) p ↔
      p.isAtBoundary text = true ∧ q.isAtBoundary text = true ∧ q ∈ e.run p := by
  simp only [between, runParts, Expression.run, List.mem_flatMap, List.mem_filter,
    List.mem_singleton]
  constructor
  · rintro ⟨_, ⟨rfl, atStart⟩, _, ⟨isWay, atEnd⟩, rfl⟩
    exact ⟨atStart, atEnd, isWay⟩
  · rintro ⟨atStart, atEnd, isWay⟩
    exact ⟨p, ⟨rfl, atStart⟩, q, ⟨isWay, atEnd⟩, rfl⟩

variable (words : ∀ text, e.Matches text → IsWord (String.ofList text))
include words

theorem isRun_of_matchAt?_between
    (h : matchAt? (between e) o.before (o.inside ++ o.after) = some o) :
    o.IsRun isWordChar ∧ e.Matches o.inside := by
  obtain ⟨q, first, same⟩ := Option.map_eq_some_iff.mp h
  obtain ⟨before, inside, after⟩ := o
  obtain ⟨atStart, atEnd, isWay⟩ := mem_runParts_between.mp (List.mem_of_head? first)
  obtain ⟨groups, behind⟩ := q
  obtain rfl : behind = after := congrArg Place.after same
  obtain ⟨matched, isMatch, whole⟩ := Expression.exists_mem_run_iff.mp ⟨_, isWay, rfl⟩
  obtain rfl : inside = matched := List.append_cancel_right whole
  exact ⟨(isRun_iff_isAtBoundary (words inside isMatch) _ _ _ _).mpr ⟨atStart, atEnd⟩, isMatch⟩

theorem matchAt?_between :
    matchAt? (between e) o.before (o.inside ++ o.after) = some o ↔
      o.IsRun isWordChar ∧ e.Matches o.inside := by
  refine ⟨isRun_of_matchAt?_between words, fun ⟨isRun, isMatch⟩ => ?_⟩
  obtain ⟨⟨captured, behind⟩, isWay, ends⟩ :
      ∃ q ∈ e.run ⟨[], o.inside ++ o.after⟩, q.rest = o.after :=
    Expression.exists_mem_run_iff.mpr ⟨o.inside, isMatch, rfl⟩
  obtain rfl : behind = o.after := ends
  have bounds := isRun_iff_isAtBoundary (words _ isMatch) o.before o.after [] captured
  obtain ⟨atStart, atEnd⟩ := bounds.mp isRun
  have isTried := mem_runParts_between.mpr ⟨atStart, atEnd, isWay⟩
  -- the match that is taken is a whole word as well, and begins where this one does
  cases taken : matchAt? (between e) o.before (o.inside ++ o.after) with
  | none =>
    rw [matchAt?, Option.map_eq_none_iff, List.head?_eq_none_iff] at taken
    rw [taken] at isTried
    cases isTried
  | some other =>
    have isBefore := before_of_matchAt? taken
    have isRest := rest_of_matchAt? taken
    rw [← isBefore, ← isRest] at taken
    have text : other.text = o.text := by rw [Place.text, Place.text, isBefore, isRest]
    rw [Place.eq_of_before_eq (isRun_of_matchAt?_between words taken).1 isRun text isBefore]

theorem mem_search_between :
    o ∈ search (between e) text ↔ o.text = text ∧ o.IsRun isWordChar ∧ e.Matches o.inside := by
  constructor
  · intro found
    exact ⟨text_of_mem_search found,
      isRun_of_matchAt?_between words (matchAt?_of_mem_search found)⟩
  · rintro ⟨rfl, isRun, isMatch⟩
    rcases mem_search ((matchAt?_between words).mpr ⟨isRun, isMatch⟩) with
      found | ⟨other, found, early, reaches⟩
    · exact found
    · -- words do not overlap, so no match reaches into another word
      have isWhole := (isRun_of_matchAt?_between words (matchAt?_of_mem_search found)).1
      rcases Place.eq_or_stop_le_start isWhole isRun (text_of_mem_search found)
        (Nat.le_of_lt early) with rfl | apart
      · exact absurd early (Nat.lt_irrefl _)
      · exact absurd reaches (Nat.not_lt.mpr apart)

end

/-- A search for some names finds exactly the words of the text that are among them. -/
theorem mem_search_wordParts {names : List String} (some : names ≠ [])
    (words : ∀ name ∈ names, IsWord name) {text : List Char} {o : Place} :
    o ∈ search (wordParts names) text ↔
      o.text = text ∧ o.IsRun isWordChar ∧ String.ofList o.inside ∈ names := by
  have isName {word : List Char} :
      (Expression.both (.group 1 (.alternation (names.map String.toList))) .nothing).Matches word ↔
        String.ofList word ∈ names := by
    have listed : names.map String.toList ≠ [] := by simpa using some
    simp only [Expression.matches_both, Expression.matches_group, Expression.matches_nothing,
      Expression.matches_alternation listed, List.mem_map]
    constructor
    · rintro ⟨_, _, rfl, ⟨name, mem, rfl⟩, rfl⟩
      rwa [List.append_nil, String.ofList_toList]
    · intro mem
      exact ⟨word, [], (List.append_nil word).symm, ⟨_, mem, String.toList_ofList⟩, rfl⟩
  rw [← isName]
  exact mem_search_between fun word isMatch => words _ (isName.mp isMatch)

example : (search (wordParts ["A", "AB"]) "AB BA A".toList).map (·.inside) =
    ["AB".toList, "A".toList] := by
  decide

end CMakeGrammar.Regex
