import CMakeGrammar.Help.Listing
/-! Listings up to what does not count in them: their entries are their lines without the blanks
around them (`mem_listingEntries`), to which blanks around the whole belong (`listingEntries_trim`),
and what its entries are expanded to is a matter of which entries and which languages there are, not
of their order (`expand_congr`). -/
namespace CMakeGrammar

namespace Text

theorem trimChars_cons_of_blank {c : Char} (blank : isBlank c = true) (cs : List Char) :
    trimChars (c :: cs) = trimChars cs := by
  rw [trimChars, trimChars, List.dropWhile_cons_of_pos blank]

theorem trimChars_append_of_blank {c : Char} (blank : isBlank c = true) (cs : List Char) :
    trimChars (cs ++ [c]) = trimChars cs := by
  induction cs with
  | nil => simp [trimChars, blank]
  | cons first cs ih =>
    by_cases leading : isBlank first = true
    · rw [List.cons_append, trimChars_cons_of_blank leading, ih, trimChars_cons_of_blank leading]
    · rw [trimChars, trimChars, List.cons_append, List.dropWhile_cons_of_neg leading,
        List.dropWhile_cons_of_neg leading]
      simp [dropBlankEnd, blank]

theorem splitAtChar_append_sep (sep : Char) (cs : List Char) :
    splitAtChar sep (cs ++ [sep]) = splitAtChar sep cs ++ [[]] := by
  induction cs with
  | nil => simp [splitStep]
  | cons c cs ih =>
    rw [List.cons_append, splitAtChar_cons, ih, splitAtChar_cons]
    cases parts : splitAtChar sep cs with
    | nil => exact absurd parts (splitAtChar_ne_nil sep cs)
    | cons part parts =>
      simp only [splitStep, List.cons_append]
      split <;> rfl

theorem splitAtChar_append_of_ne {sep c : Char} (ne : c ≠ sep) (cs : List Char) :
    ∃ before last, splitAtChar sep cs = before ++ [last] ∧
      splitAtChar sep (cs ++ [c]) = before ++ [last ++ [c]] := by
  induction cs with
  | nil => exact ⟨[], [], rfl, by simp [splitStep, ne]⟩
  | cons first cs ih =>
    obtain ⟨before, last, parts, longer⟩ := ih
    rw [List.cons_append, splitAtChar_cons, splitAtChar_cons, parts, longer]
    by_cases isSep : first = sep
    · exact ⟨[] :: before, last, by cases before <;> simp [splitStep, isSep],
        by cases before <;> simp [splitStep, isSep]⟩
    · cases before with
      | nil => exact ⟨[], first :: last, by simp [splitStep, isSep], by simp [splitStep, isSep]⟩
      | cons part before =>
        exact ⟨(first :: part) :: before, last, by simp [splitStep, isSep],
          by simp [splitStep, isSep]⟩

end Text

namespace Help
open Text (isBlank trimChars dropBlankEnd splitAtChar splitStep)

def trimmedLines (cs : List Char) : List (List Char) :=
  ((splitAtChar '\n' cs).map trimChars).filter (!·.isEmpty)

/-- A line of a text that is not blank, without the blanks around it. -/
def IsTrimmedLine (output line : String) : Prop :=
  line ≠ "" ∧ ∃ whole ∈ splitAtChar '\n' output.toList, trimChars whole = line.toList

theorem mem_listingEntries {output entry : String} :
    entry ∈ listingEntries output ↔ IsTrimmedLine output entry := by
  simp only [listingEntries, List.mem_map, List.mem_filter]
  constructor
  · rintro ⟨_, ⟨⟨whole, isLine, rfl⟩, some⟩, rfl⟩
    refine ⟨fun blank => ?_, whole, isLine, by simp⟩
    simp_all
  · rintro ⟨some, whole, isLine, trimmed⟩
    refine ⟨entry.toList, ⟨⟨whole, isLine, trimmed⟩, ?_⟩, String.ofList_toList⟩
    simpa using some

theorem listingEntries_eq (output : String) :
    listingEntries output = (trimmedLines output.toList).map String.ofList := rfl

theorem trimmedLines_cons_of_blank {c : Char} (blank : isBlank c = true) (cs : List Char) :
    trimmedLines (c :: cs) = trimmedLines cs := by
  rw [trimmedLines, trimmedLines, Text.splitAtChar_cons]
  cases parts : splitAtChar '\n' cs with
  | nil => exact absurd parts (Text.splitAtChar_ne_nil '\n' cs)
  | cons part parts =>
    rw [splitStep]
    split
    · simp
    · rw [List.map_cons, List.map_cons, Text.trimChars_cons_of_blank blank]

theorem trimmedLines_append_of_blank {c : Char} (blank : isBlank c = true) (cs : List Char) :
    trimmedLines (cs ++ [c]) = trimmedLines cs := by
  rw [trimmedLines, trimmedLines]
  by_cases isNewline : c = '\n'
  · rw [isNewline, Text.splitAtChar_append_sep]
    simp
  · obtain ⟨before, last, parts, longer⟩ := Text.splitAtChar_append_of_ne isNewline cs
    rw [parts, longer, List.map_append, List.map_append, List.map_singleton, List.map_singleton,
      Text.trimChars_append_of_blank blank]

theorem trimmedLines_dropWhile (cs : List Char) :
    trimmedLines (cs.dropWhile isBlank) = trimmedLines cs := by
  induction cs with
  | nil => rfl
  | cons c cs ih =>
    by_cases blank : isBlank c = true
    · rw [List.dropWhile_cons_of_pos blank, ih, trimmedLines_cons_of_blank blank]
    · rw [List.dropWhile_cons_of_neg blank]

theorem trimmedLines_reverse_dropWhile (cs : List Char) :
    trimmedLines (cs.dropWhile isBlank).reverse = trimmedLines cs.reverse := by
  induction cs with
  | nil => rfl
  | cons c cs ih =>
    by_cases blank : isBlank c = true
    · rw [List.dropWhile_cons_of_pos blank, ih, List.reverse_cons,
        trimmedLines_append_of_blank blank]
    · rw [List.dropWhile_cons_of_neg blank]

theorem listingEntries_trim (output : String) :
    listingEntries (Text.trim output) = listingEntries output := by
  rw [listingEntries_eq, Text.toList_trim, trimChars, dropBlankEnd,
    trimmedLines_reverse_dropWhile, List.reverse_reverse, trimmedLines_dropWhile, listingEntries_eq]

theorem mem_expandEntry_congr {placeholder entry name : String} {languages others : List Language}
    (same : ∀ l, l ∈ languages ↔ l ∈ others) :
    name ∈ expandEntry placeholder languages entry ↔
      name ∈ expandEntry placeholder others entry := by
  rw [expandEntry, expandEntry]
  split
  · rfl
  · split
    · rfl
    · simp only [List.mem_map, same]

theorem expand_congr {placeholder : String} {languages otherLanguages : List Language}
    {entries otherEntries : List String} (sameLanguages : ∀ l, l ∈ languages ↔ l ∈ otherLanguages)
    (sameEntries : ∀ entry, entry ∈ entries ↔ entry ∈ otherEntries) :
    expand placeholder languages entries = expand placeholder otherLanguages otherEntries := by
  apply NameSet.ext
  intro name
  simp only [mem_expand, sameEntries, mem_expandEntry_congr sameLanguages]

end Help
end CMakeGrammar
