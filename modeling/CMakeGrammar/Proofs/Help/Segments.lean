import CMakeGrammar.Extraction
import CMakeGrammar.Help.Listing
/-! Bracketed segments of entries. What is found in an entry are its innermost segments, so a
placeholder with brackets inside of it, which settings may have, is never found: whatever holds it
is left out. -/
namespace CMakeGrammar

namespace Text
variable {old new : List Char}

theorem replaceFrom_length (before cs : List Char) :
    replaceFrom old new before.length (before ++ cs) = replaceAll old new cs := by
  induction before with
  | nil => rfl
  | cons c before ih => exact ih

theorem replaceAll_append (some : old ≠ []) (cs : List Char) :
    replaceAll old new (old ++ cs) = new ++ replaceAll old new cs := by
  cases old with
  | nil => exact absurd rfl some
  | cons first rest =>
    rw [List.cons_append, replaceAll, replaceFrom, if_pos (by simp), List.length_cons,
      Nat.add_sub_cancel, replaceFrom_length]

theorem replaceAll_append_of_not_mem {first : Char} {rest : List Char}
    (begins : old = first :: rest)
    {before : List Char} (other : first ∉ before) (cs : List Char) :
    replaceAll old new (before ++ cs) = before ++ replaceAll old new cs := by
  subst begins
  induction before with
  | nil => rfl
  | cons c before ih =>
    rw [List.mem_cons, not_or] at other
    have misfit : (first :: rest).isPrefixOf (c :: (before ++ cs)) = false := by
      simp [List.isPrefixOf, other.1]
    rw [List.cons_append, replaceAll, replaceFrom, misfit, Bool.and_false, if_neg (by simp),
      ← replaceAll, ih other.2, List.cons_append]

end Text

namespace Extraction

theorem accepted_iff {e : Extraction} :
    e.fault? = none ↔ isSegment e.placeholder = true ∧ e.languages ≠ [] ∧
      (Text.trim e.manual).isEmpty = false := by
  unfold fault?
  cases isSegment e.placeholder <;> cases e.languages <;> cases (Text.trim e.manual).isEmpty <;>
    simp

theorem exists_inside_of_isSegment {s : String} (h : isSegment s = true) :
    ∃ inside, s.toList = '<' :: (inside ++ ['>']) := by
  unfold isSegment at h
  rw [Bool.and_eq_true, beq_iff_eq, beq_iff_eq] at h
  obtain ⟨rest, opens⟩ := List.head?_eq_some_iff.mp h.1
  obtain ⟨before, closes⟩ := List.getLast?_eq_some_iff.mp h.2
  rw [opens] at closes
  cases before with
  | nil => simp at closes
  | cons first before =>
    rw [List.cons_append, List.cons.injEq] at closes
    exact ⟨before, by rw [opens, closes.2]⟩

end Extraction

namespace Help

/-- A segment without brackets inside of it. -/
def IsInnermost (segment : List Char) : Prop :=
  ∃ body, segment = '<' :: (body ++ ['>']) ∧ ∀ c ∈ body, isBracket c = false

theorem isBracket_eq_false_iff {c : Char} : isBracket c = false ↔ c ≠ '<' ∧ c ≠ '>' := by
  simp [isBracket]

theorem segmentAt?_of_ne {c : Char} (other : c ≠ '<') (cs : List Char) :
    segmentAt? (c :: cs) = none := by
  rw [segmentAt?]
  simp [other]

theorem takeWhile_body {body behind : List Char} (plain : ∀ c ∈ body, isBracket c = false) :
    (body ++ '>' :: behind).takeWhile (!isBracket ·) = body := by
  rw [List.takeWhile_append_of_pos fun c mem => by rw [plain c mem, Bool.not_false],
    List.takeWhile_cons_of_neg (by decide), List.append_nil]

theorem segmentAt?_eq_some_iff {cs segment : List Char} :
    segmentAt? cs = some segment ↔ IsInnermost segment ∧ segment <+: cs := by
  constructor
  · intro h
    unfold segmentAt? at h
    split at h
    · rename_i rest
      have plain : ∀ c ∈ rest.takeWhile (!isBracket ·), isBracket c = false := by
        intro c mem
        simpa using List.all_eq_true.mp List.all_takeWhile c mem
      obtain ⟨left, whole⟩ := List.takeWhile_prefix (l := rest) (!isBracket ·)
      dsimp only at h
      generalize rest.takeWhile (!isBracket ·) = body at h plain whole
      split at h
      · rename_i closes
        cases h
        rw [← whole, List.drop_left, beq_iff_eq] at closes
        obtain ⟨behind, rfl⟩ := List.head?_eq_some_iff.mp closes
        exact ⟨⟨body, rfl, plain⟩, behind, by simp [← whole]⟩
      · cases h
    · cases h
  · rintro ⟨⟨body, rfl, plain⟩, behind, rfl⟩
    have whole : '<' :: (body ++ ['>']) ++ behind = '<' :: (body ++ '>' :: behind) := by simp
    rw [whole, segmentAt?, takeWhile_body plain, List.drop_left, List.head?_cons]
    rfl

instance (segment : List Char) : Decidable (IsInnermost segment) :=
  decidable_of_iff (segmentAt? segment = some segment)
    ⟨fun found => (segmentAt?_eq_some_iff.mp found).1,
      fun innermost => segmentAt?_eq_some_iff.mpr ⟨innermost, List.prefix_rfl⟩⟩

theorem mem_segmentsOf {entry segment : List Char} :
    segment ∈ segmentsOf entry ↔ IsInnermost segment ∧ segment <:+: entry := by
  rw [segmentsOf, Text.mem_everywhere]
  constructor
  · rintro ⟨before, after, rfl, -, found⟩
    obtain ⟨innermost, here⟩ := segmentAt?_eq_some_iff.mp found
    exact ⟨innermost, here.isInfix.trans (List.suffix_append before after).isInfix⟩
  · rintro ⟨innermost, before, behind, rfl⟩
    have some : segment ++ behind ≠ [] := by
      obtain ⟨body, rfl, -⟩ := innermost
      exact List.cons_ne_nil _ _
    exact ⟨before, segment ++ behind, List.append_assoc .., some,
      segmentAt?_eq_some_iff.mpr ⟨innermost, List.prefix_append segment behind⟩⟩

theorem exists_innermost (inside : List Char) :
    ∃ segment, IsInnermost segment ∧ segment <:+: '<' :: (inside ++ ['>']) := by
  -- the first closing bracket, and the last opening one in front of it
  have closes : '>' ∈ inside ++ ['>'] := by simp
  obtain ⟨before, behind, first, notClosed⟩ := List.eq_append_cons_of_mem closes
  have opens : '<' ∈ ('<' :: before).reverse := by simp
  obtain ⟨body, outer, last, notOpened⟩ := List.eq_append_cons_of_mem opens
  have start : '<' :: before = outer.reverse ++ '<' :: body.reverse := by
    simpa using congrArg List.reverse last
  refine ⟨'<' :: (body.reverse ++ ['>']), ⟨body.reverse, rfl, ?_⟩, outer.reverse, behind, ?_⟩
  · intro c mem
    have early : c ∈ '<' :: before := by
      rw [start]
      exact List.mem_append_right _ (List.mem_cons_of_mem _ mem)
    rw [isBracket_eq_false_iff]
    refine ⟨fun same => notOpened (same ▸ List.mem_reverse.mp mem), ?_⟩
    rintro rfl
    exact notClosed (by simpa using early)
  · have whole : '<' :: (inside ++ ['>']) = ('<' :: before) ++ '>' :: behind := by
      rw [first, List.cons_append]
    rw [whole, start]
    simp

theorem segmentsOf_append_of_not_mem {before : List Char} (other : '<' ∉ before) (cs : List Char) :
    segmentsOf (before ++ cs) = segmentsOf cs := by
  induction before with
  | nil => rfl
  | cons c before ih =>
    rw [List.mem_cons, not_or] at other
    rw [List.cons_append, segmentsOf, Text.everywhere_cons, segmentAt?_of_ne (Ne.symm other.1),
      Option.toList_none, List.nil_append, ← segmentsOf, ih other.2]

theorem segmentsOf_around {before segment after : List Char} (innermost : IsInnermost segment)
    (plainBefore : '<' ∉ before) (plainAfter : '<' ∉ after) :
    segmentsOf (before ++ (segment ++ after)) = [segment] := by
  have here : segmentAt? (segment ++ after) = some segment :=
    segmentAt?_eq_some_iff.mpr ⟨innermost, List.prefix_append segment after⟩
  obtain ⟨body, rfl, plain⟩ := innermost
  have behind : '<' ∉ body ++ ['>'] ++ after := by
    simp only [List.mem_append, List.mem_singleton, not_or]
    exact ⟨⟨fun mem => (isBracket_eq_false_iff.mp (plain _ mem)).1 rfl, by decide⟩, plainAfter⟩
  have rest := segmentsOf_append_of_not_mem behind []
  rw [List.append_nil] at rest
  rw [List.cons_append] at here
  rw [segmentsOf_append_of_not_mem plainBefore, List.cons_append, segmentsOf, Text.everywhere_cons,
    here, ← segmentsOf, rest]
  rfl

section
variable {placeholder : String} {before after : String} (languages : List Language)

theorem expandEntry_of_innermost (innermost : IsInnermost placeholder.toList)
    (plainBefore : '<' ∉ before.toList) (plainAfter : '<' ∉ after.toList) :
    expandEntry placeholder languages (before ++ placeholder ++ after) =
      languages.map fun l => before ++ l.name ++ after := by
  have segments : segmentsOf (before ++ placeholder ++ after).toList = [placeholder.toList] := by
    rw [String.toList_append, String.toList_append, List.append_assoc]
    exact segmentsOf_around innermost plainBefore plainAfter
  have supported : isUnsupported placeholder (before ++ placeholder ++ after) = false := by
    rw [isUnsupported, segments]
    simp
  have replaced (l : Language) : substitute placeholder (before ++ placeholder ++ after) l.name =
      before ++ l.name ++ after := by
    obtain ⟨body, opens, -⟩ := innermost
    have some : placeholder.toList ≠ [] := by simp [opens]
    have rest : Text.replaceAll placeholder.toList l.name.toList after.toList = after.toList := by
      rw [← List.append_nil after.toList, Text.replaceAll_append_of_not_mem opens plainAfter,
        Text.replaceAll_nil]
    rw [← String.toList_inj, substitute, String.toList_ofList, String.toList_append,
      String.toList_append, List.append_assoc, Text.replaceAll_append_of_not_mem opens plainBefore,
      Text.replaceAll_append some, rest, String.toList_append, String.toList_append,
      List.append_assoc]
  rw [expandEntry, segments, supported, if_neg (by simp), if_neg (by simp)]
  exact List.map_congr_left fun l _ => replaced l

/-- A placeholder with brackets inside of it is none of the segments, but there are some. -/
theorem expandEntry_of_not_innermost (isSegment : Extraction.isSegment placeholder = true)
    (nested : ¬IsInnermost placeholder.toList) :
    expandEntry placeholder languages (before ++ placeholder ++ after) = [] := by
  obtain ⟨inside, whole⟩ := Extraction.exists_inside_of_isSegment isSegment
  obtain ⟨segment, innermost, isPart⟩ := exists_innermost inside
  have mem : segment ∈ segmentsOf (before ++ placeholder ++ after).toList := by
    refine mem_segmentsOf.mpr ⟨innermost, isPart.trans ?_⟩
    rw [String.toList_append, String.toList_append, ← whole]
    exact ⟨before.toList, after.toList, rfl⟩
  have unsupported : isUnsupported placeholder (before ++ placeholder ++ after) = true := by
    refine List.any_eq_true.mpr ⟨segment, mem, bne_iff_ne.mpr ?_⟩
    rintro rfl
    exact nested innermost
  rw [expandEntry, unsupported, if_neg (by simpa using List.ne_nil_of_mem mem), if_pos rfl]

end

/-- What an entry around an accepted placeholder stands for: one name per language exactly if the
placeholder has no brackets inside of it, and otherwise nothing. -/
theorem expandEntry_around {e : Extraction} (accepted : e.fault? = none) {before after : String}
    (plainBefore : ∀ c ∈ before.toList, isBracket c = false)
    (plainAfter : ∀ c ∈ after.toList, isBracket c = false) :
    (expandEntry e.placeholder e.languages (before ++ e.placeholder ++ after) =
        (e.languages.map fun l => before ++ l.name ++ after) ↔
      IsInnermost e.placeholder.toList) ∧
    (¬IsInnermost e.placeholder.toList →
      expandEntry e.placeholder e.languages (before ++ e.placeholder ++ after) = []) := by
  obtain ⟨isSegment, some, -⟩ := Extraction.accepted_iff.mp accepted
  refine ⟨⟨fun expanded => ?_, fun innermost => ?_⟩, expandEntry_of_not_innermost _ isSegment⟩
  · by_cases innermost : IsInnermost e.placeholder.toList
    · exact innermost
    · rw [expandEntry_of_not_innermost _ isSegment innermost, eq_comm,
        List.map_eq_nil_iff] at expanded
      exact absurd expanded some
  · have unopened {s : String} (plain : ∀ c ∈ s.toList, isBracket c = false) : '<' ∉ s.toList :=
      fun mem => (isBracket_eq_false_iff.mp (plain _ mem)).1 rfl
    exact expandEntry_of_innermost _ innermost (unopened plainBefore) (unopened plainAfter)

theorem plain_of_all {s : String} (h : s.toList.all (!isBracket ·) = true) :
    ∀ c ∈ s.toList, isBracket c = false := by
  simpa using h

def nestedSettings : Extraction := { Extraction.standard with placeholder := "<LANG><CONFIG>" }

theorem expandEntry_around_nested :
    nestedSettings.fault? = none ∧ (∀ c ∈ "CMAKE_".toList, isBracket c = false) ∧
      (∀ c ∈ "_FLAGS".toList, isBracket c = false) ∧
      (expandEntry nestedSettings.placeholder nestedSettings.languages
          ("CMAKE_" ++ nestedSettings.placeholder ++ "_FLAGS") =
          (nestedSettings.languages.map fun l => "CMAKE_" ++ l.name ++ "_FLAGS") ↔
        IsInnermost nestedSettings.placeholder.toList) ∧
      ¬IsInnermost nestedSettings.placeholder.toList ∧
      expandEntry nestedSettings.placeholder nestedSettings.languages
        ("CMAKE_" ++ nestedSettings.placeholder ++ "_FLAGS") = [] := by
  have accepted : nestedSettings.fault? = none := by decide +kernel
  have plainBefore : ∀ c ∈ "CMAKE_".toList, isBracket c = false := plain_of_all (by decide)
  have plainAfter : ∀ c ∈ "_FLAGS".toList, isBracket c = false := plain_of_all (by decide)
  have nested : ¬IsInnermost nestedSettings.placeholder.toList := by decide
  obtain ⟨expanded, dropped⟩ := expandEntry_around accepted plainBefore plainAfter
  exact ⟨accepted, plainBefore, plainAfter, expanded, nested, dropped nested⟩

/-- An accepted placeholder may be one that no entry is expanded by. -/
theorem expandEntry_not_around :
    ¬∀ e : Extraction, e.fault? = none → ∀ before after : String,
      (∀ c ∈ before.toList, isBracket c = false) → (∀ c ∈ after.toList, isBracket c = false) →
        expandEntry e.placeholder e.languages (before ++ e.placeholder ++ after) =
          e.languages.map fun l => before ++ l.name ++ after := by
  intro expanded
  have plain : ∀ c ∈ "".toList, isBracket c = false := plain_of_all (by decide)
  have here := expanded nestedSettings (by decide +kernel) "" "" plain plain
  revert here
  decide +kernel

end Help
end CMakeGrammar
