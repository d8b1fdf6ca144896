import CMakeGrammar.Proofs.Help.Segments
/-! Entries cut at their segments. A scan from left to right takes the leftmost innermost segment
and goes on behind it, which cuts each entry in one way (`exists_leftmost`, `IsLeftmost.unique`).
Looking for segments everywhere and replacing the placeholder everywhere touch the segments of that
division and nothing else. -/
namespace CMakeGrammar.Help
open Text (replaceAll)

/-- A text cut into `t₀ s₁ t₁ … sₙ tₙ`. -/
inductive Division
  | plain (text : List Char)
  | cut (text segment : List Char) (behind : Division)
  deriving DecidableEq, Repr

/-- No innermost segment of the whole begins in its first part. -/
def IsPassed (text behind : List Char) : Prop :=
  ∀ front back segment, text = front ++ back → back ≠ [] → IsInnermost segment →
    ¬segment <+: back ++ behind

namespace Division

def whole : Division → List Char
  | plain text => text
  | cut text segment behind => text ++ (segment ++ behind.whole)

def segments : Division → List (List Char)
  | plain _ => []
  | cut _ segment behind => segment :: behind.segments

def texts : Division → List (List Char)
  | plain text => [text]
  | cut text _ behind => text :: behind.texts

def fill (name : List Char) : Division → List Char
  | plain text => text
  | cut text _ behind => text ++ (name ++ behind.fill name)

/-- Every segment is the first one behind the segment before it, and behind the last there is
none. -/
def IsLeftmost : Division → Prop
  | plain text => IsPassed text []
  | cut text segment behind =>
    IsPassed text (segment ++ behind.whole) ∧ IsInnermost segment ∧ behind.IsLeftmost

def push (c : Char) : Division → Division
  | plain text => plain (c :: text)
  | cut text segment behind => cut (c :: text) segment behind

theorem whole_push (c : Char) (d : Division) : (d.push c).whole = c :: d.whole := by
  cases d <;> rfl

end Division

section passing
variable {text behind : List Char} {c : Char}

theorem isPassed_nil (behind : List Char) : IsPassed [] behind := by
  rintro front back segment isText some - -
  exact some (List.append_eq_nil_iff.mp isText.symm).2

theorem isPassed_cons :
    IsPassed (c :: text) behind ↔ segmentAt? (c :: (text ++ behind)) = none ∧
    IsPassed text behind := by
  constructor
  · intro passed
    refine ⟨?_, fun front back segment isText =>
      passed (c :: front) back segment (by rw [isText]; rfl)⟩
    rw [Option.eq_none_iff_forall_ne_some]
    intro segment found
    obtain ⟨innermost, begins⟩ := segmentAt?_eq_some_iff.mp found
    exact passed [] (c :: text) segment rfl (List.cons_ne_nil c text) innermost begins
  · rintro ⟨nothing, passed⟩ front back segment isText some innermost
    cases front with
    | nil =>
      obtain rfl : c :: text = back := isText
      intro begins
      have found := segmentAt?_eq_some_iff.mpr ⟨innermost, begins⟩
      rw [List.cons_append, nothing] at found
      cases found
    | cons d front =>
      rw [List.cons_append, List.cons.injEq] at isText
      exact passed front back segment isText.2 some innermost

theorem segmentsOf_append_of_isPassed (passed : IsPassed text behind) :
    segmentsOf (text ++ behind) = segmentsOf behind := by
  induction text with
  | nil => rfl
  | cons c text ih =>
    obtain ⟨nothing, passed⟩ := isPassed_cons.mp passed
    rw [List.cons_append, segmentsOf, Text.everywhere_cons, nothing, Option.toList_none,
      List.nil_append, ← segmentsOf, ih passed]

theorem replaceAll_append_of_isPassed {old : List Char} (new : List Char)
    (innermost : IsInnermost old) (passed : IsPassed text behind) :
    replaceAll old new (text ++ behind) = text ++ replaceAll old new behind := by
  induction text with
  | nil => rfl
  | cons c text ih =>
    have misfit : old.isPrefixOf (c :: (text ++ behind)) = false := by
      rw [← Bool.not_eq_true, List.isPrefixOf_iff_prefix]
      exact passed [] (c :: text) old rfl (List.cons_ne_nil c text) innermost
    rw [List.cons_append, replaceAll, Text.replaceFrom, misfit, Bool.and_false, if_neg (by simp),
      ← replaceAll, ih (isPassed_cons.mp passed).2, List.cons_append]

end passing

section innermost
variable {segment : List Char}

theorem IsInnermost.ne_nil (innermost : IsInnermost segment) : segment ≠ [] := by
  obtain ⟨body, rfl, -⟩ := innermost
  exact List.cons_ne_nil _ _

theorem segmentsOf_append_of_innermost (innermost : IsInnermost segment) (behind : List Char) :
    segmentsOf (segment ++ behind) = segment :: segmentsOf behind := by
  have here := segmentAt?_eq_some_iff.mpr ⟨innermost, List.prefix_append segment behind⟩
  obtain ⟨body, rfl, plain⟩ := innermost
  have notOpened : '<' ∉ body ++ ['>'] := by
    simp only [List.mem_append, List.mem_singleton, not_or]
    exact ⟨fun mem => (isBracket_eq_false_iff.mp (plain _ mem)).1 rfl, by decide⟩
  rw [List.cons_append] at here
  rw [List.cons_append, segmentsOf, Text.everywhere_cons, here, ← segmentsOf,
    segmentsOf_append_of_not_mem notOpened]
  rfl

theorem IsInnermost.unique {other entry : List Char} (innermost : IsInnermost segment)
    (otherInnermost : IsInnermost other) (begins : segment <+: entry)
    (otherBegins : other <+: entry) :
    segment = other := by
  have here := segmentAt?_eq_some_iff.mpr ⟨innermost, begins⟩
  have there := segmentAt?_eq_some_iff.mpr ⟨otherInnermost, otherBegins⟩
  exact Option.some.inj (here.symm.trans there)

theorem IsPassed.length_le {text behind front rest : List Char} (passed : IsPassed text behind)
    (innermost : IsInnermost segment) (same : text ++ behind = front ++ (segment ++ rest)) :
    text.length ≤ front.length := by
  refine Nat.le_of_not_lt fun longer => ?_
  obtain ⟨back, isText⟩ : front <+: text :=
    List.prefix_of_prefix_length_le ⟨_, same.symm⟩ (List.prefix_append text behind)
      (Nat.le_of_lt longer)
  have some : back ≠ [] := by
    rintro rfl
    rw [List.append_nil] at isText
    exact absurd longer (by rw [isText]; exact Nat.lt_irrefl _)
  refine passed front back segment isText.symm some innermost ⟨rest, ?_⟩
  rw [← isText, List.append_assoc] at same
  exact (List.append_cancel_left same).symm

end innermost

namespace Division
variable {d e : Division}

theorem IsLeftmost.push {c : Char} (leftmost : d.IsLeftmost)
    (nothing : segmentAt? (c :: d.whole) = none) : (d.push c).IsLeftmost := by
  cases d with
  | plain text => exact isPassed_cons.mpr ⟨by rwa [List.append_nil], leftmost⟩
  | cut text segment behind =>
    obtain ⟨passed, rest⟩ := leftmost
    exact ⟨isPassed_cons.mpr ⟨nothing, passed⟩, rest⟩

theorem exists_leftmost (entry : List Char) : ∃ d : Division, d.whole = entry ∧ d.IsLeftmost := by
  cases entry with
  | nil => exact ⟨.plain [], rfl, isPassed_nil []⟩
  | cons c cs =>
    cases found : segmentAt? (c :: cs) with
    | none =>
      obtain ⟨d, rfl, leftmost⟩ := exists_leftmost cs
      exact ⟨d.push c, whole_push c d, leftmost.push found⟩
    | some segment =>
      obtain ⟨innermost, behind, isEntry⟩ := segmentAt?_eq_some_iff.mp found
      have shorter : behind.length < cs.length + 1 := by
        rw [← List.length_cons, ← isEntry, List.length_append]
        have := List.length_pos_iff.mpr innermost.ne_nil
        omega
      obtain ⟨d, rfl, leftmost⟩ := exists_leftmost behind
      exact ⟨.cut [] segment d, isEntry, isPassed_nil _, innermost, leftmost⟩
termination_by entry.length

theorem IsLeftmost.unique (leftmost : d.IsLeftmost) (other : e.IsLeftmost)
    (same : d.whole = e.whole) : d = e := by
  induction d generalizing e with
  | plain text =>
    cases e with
    | plain text' => rw [show text = text' from same]
    | cut text' segment' behind' =>
      have short := IsPassed.length_le leftmost other.2.1 ((List.append_nil text).trans same)
      have lengths := congrArg List.length same
      have some := List.length_pos_iff.mpr other.2.1.ne_nil
      simp only [whole, List.length_append] at lengths
      omega
  | cut text segment behind ih =>
    obtain ⟨passed, innermost, leftmost⟩ := leftmost
    cases e with
    | plain text' =>
      have short := IsPassed.length_le other innermost ((List.append_nil text').trans same.symm)
      have lengths := congrArg List.length same
      have some := List.length_pos_iff.mpr innermost.ne_nil
      simp only [whole, List.length_append] at lengths
      omega
    | cut text' segment' behind' =>
      obtain ⟨passed', innermost', leftmost'⟩ := other
      have length := Nat.le_antisymm (passed.length_le innermost' same)
        (passed'.length_le innermost same.symm)
      obtain ⟨rfl, rest⟩ := List.append_inj same length
      obtain rfl := innermost.unique innermost' (List.prefix_append _ _) ⟨_, rest.symm⟩
      rw [ih leftmost leftmost' (List.append_cancel_left rest)]

theorem IsLeftmost.segmentsOf_whole (leftmost : d.IsLeftmost) :
    segmentsOf d.whole = d.segments := by
  induction d with
  | plain text =>
    have nothing := segmentsOf_append_of_isPassed leftmost
    rwa [List.append_nil] at nothing
  | cut text segment behind ih =>
    obtain ⟨passed, innermost, leftmost⟩ := leftmost
    rw [whole, segmentsOf_append_of_isPassed passed, segmentsOf_append_of_innermost innermost,
      ih leftmost, segments]

/-- If all segments are the placeholder, replacing it rewrites them and nothing else. -/
theorem IsLeftmost.replaceAll_whole {placeholder : List Char} (name : List Char)
    (leftmost : d.IsLeftmost) (all : ∀ s ∈ d.segments, s = placeholder)
    (innermost : IsInnermost placeholder) :
    replaceAll placeholder name d.whole = d.fill name := by
  induction d with
  | plain text =>
    have untouched := replaceAll_append_of_isPassed name innermost leftmost
    rwa [List.append_nil, Text.replaceAll_nil, List.append_nil] at untouched
  | cut text segment behind ih =>
    obtain ⟨passed, -, leftmost⟩ := leftmost
    obtain ⟨rfl, others⟩ := List.forall_mem_cons.mp all
    rw [whole, replaceAll_append_of_isPassed name innermost passed,
      Text.replaceAll_append innermost.ne_nil, ih leftmost others, fill]

theorem IsLeftmost.innermost_of_mem {segment : List Char} (leftmost : d.IsLeftmost)
    (mem : segment ∈ d.segments) : IsInnermost segment := by
  rw [← leftmost.segmentsOf_whole] at mem
  exact (mem_segmentsOf.mp mem).1

theorem texts_of_segments (nothing : d.segments = []) : d.texts = [d.whole] := by
  cases d with
  | plain text => rfl
  | cut text segment behind => cases nothing

theorem not_mem_fill {c : Char} {name : List Char} (texts : ∀ t ∈ d.texts, c ∉ t)
    (notNamed : c ∉ name) : c ∉ d.fill name := by
  induction d with
  | plain text => exact texts text (List.mem_singleton_self text)
  | cut text segment behind ih =>
    obtain ⟨first, others⟩ := List.forall_mem_cons.mp texts
    rw [fill, List.mem_append, List.mem_append]
    rintro (inText | inName | later)
    · exact first inText
    · exact notNamed inName
    · exact ih others later

end Division

theorem not_opened_name (l : Language) : '<' ∉ l.name.toList := by
  cases l <;> decide

section expanding
variable {placeholder entry : String} {languages : List Language} {d : Division}

theorem expandEntry_of_segmentsOf (none : segmentsOf entry.toList = []) :
    expandEntry placeholder languages entry = [entry] := by
  rw [expandEntry, none]
  rfl

theorem expandEntry_of_not_opened (notOpened : '<' ∉ entry.toList) :
    expandEntry placeholder languages entry = [entry] := by
  have none := segmentsOf_append_of_not_mem notOpened []
  rw [List.append_nil] at none
  exact expandEntry_of_segmentsOf none

theorem expandEntry_of_none (whole : d.whole = entry.toList) (leftmost : d.IsLeftmost)
    (none : d.segments = []) : expandEntry placeholder languages entry = [entry] :=
  expandEntry_of_segmentsOf (by rw [← whole, leftmost.segmentsOf_whole, none])

theorem expandEntry_of_other (whole : d.whole = entry.toList) (leftmost : d.IsLeftmost)
    (other : ∃ s ∈ d.segments, s ≠ placeholder.toList) :
    expandEntry placeholder languages entry = [] := by
  obtain ⟨segment, mem, ne⟩ := other
  rw [← leftmost.segmentsOf_whole, whole] at mem
  have unsupported : isUnsupported placeholder entry = true :=
    List.any_eq_true.mpr ⟨segment, mem, bne_iff_ne.mpr ne⟩
  rw [expandEntry, unsupported, if_neg (by simpa using List.ne_nil_of_mem mem), if_pos rfl]

theorem expandEntry_of_all (whole : d.whole = entry.toList) (leftmost : d.IsLeftmost)
    (some : d.segments ≠ []) (all : ∀ s ∈ d.segments, s = placeholder.toList) :
    expandEntry placeholder languages entry =
      languages.map fun l => String.ofList (d.fill l.name.toList) := by
  have segments : segmentsOf entry.toList = d.segments := by
    rw [← whole, leftmost.segmentsOf_whole]
  have supported : isUnsupported placeholder entry = false := by
    rw [isUnsupported, segments, ← Bool.not_eq_true, List.any_eq_true]
    rintro ⟨segment, mem, ne⟩
    exact bne_iff_ne.mp ne (all segment mem)
  have innermost : IsInnermost placeholder.toList := by
    obtain ⟨segment, others, isSegments⟩ := List.exists_cons_of_ne_nil some
    have mem : segment ∈ d.segments := by rw [isSegments]; exact List.mem_cons_self
    rw [← all segment mem]
    exact leftmost.innermost_of_mem mem
  rw [expandEntry, segments, supported, if_neg (by simpa using some), if_neg (by simp)]
  refine List.map_congr_left fun l _ => ?_
  rw [substitute, ← whole, leftmost.replaceAll_whole _ all innermost]

theorem not_opened_of_mem {name : String} (whole : d.whole = entry.toList)
    (leftmost : d.IsLeftmost) (texts : ∀ t ∈ d.texts, '<' ∉ t)
    (mem : name ∈ expandEntry placeholder languages entry) : '<' ∉ name.toList := by
  by_cases none : d.segments = []
  · rw [expandEntry_of_none whole leftmost none, List.mem_singleton] at mem
    rw [mem, ← whole]
    exact texts _ (by rw [Division.texts_of_segments none]; exact List.mem_singleton_self _)
  · by_cases all : ∀ s ∈ d.segments, s = placeholder.toList
    · rw [expandEntry_of_all whole leftmost none all] at mem
      obtain ⟨l, -, rfl⟩ := List.mem_map.mp mem
      rw [String.toList_ofList]
      exact Division.not_mem_fill texts (not_opened_name l)
    · have other : ∃ s ∈ d.segments, s ≠ placeholder.toList := by simpa using all
      rw [expandEntry_of_other whole leftmost other] at mem
      cases mem

end expanding

/-- An entry is cut in one way at its leftmost segments. It stands for itself if there are none, for
nothing if one of them is not the placeholder, and else for itself with the name of each language
in their place. Without brackets around the segments nothing is left to expand. -/
theorem expandEntry_division (placeholder entry : String) (languages : List Language) :
    ∃ d : Division,
      (d.whole = entry.toList ∧ d.IsLeftmost ∧
        ∀ e : Division, e.whole = entry.toList → e.IsLeftmost → e = d) ∧
      (d.segments = [] → expandEntry placeholder languages entry = [entry]) ∧
      ((∃ s ∈ d.segments, s ≠ placeholder.toList) → expandEntry placeholder languages entry = []) ∧
      (d.segments ≠ [] → (∀ s ∈ d.segments, s = placeholder.toList) →
        expandEntry placeholder languages entry =
          languages.map fun l => String.ofList (d.fill l.name.toList)) ∧
      ((∀ t ∈ d.texts, ∀ c ∈ t, isBracket c = false) →
        ∀ name ∈ expandEntry placeholder languages entry, ∀ other others,
          expandEntry other others name = [name]) := by
  obtain ⟨d, whole, leftmost⟩ := Division.exists_leftmost entry.toList
  refine ⟨d, ⟨whole, leftmost, fun e same other => other.unique leftmost (same.trans whole.symm)⟩,
    expandEntry_of_none whole leftmost, expandEntry_of_other whole leftmost,
    expandEntry_of_all whole leftmost, fun plain name mem other others => ?_⟩
  have texts : ∀ t ∈ d.texts, '<' ∉ t :=
    fun t isText opens => (isBracket_eq_false_iff.mp (plain t isText _ opens)).1 rfl
  exact expandEntry_of_not_opened (not_opened_of_mem whole leftmost texts mem)

end CMakeGrammar.Help
