import CMakeGrammar.Help.Listing
/-! Entries: texts on one line that are not empty and have no blanks at their ends. The lines of a
listing are entries, and so is everything that they are expanded to, whatever is replaced. -/
namespace CMakeGrammar.Text

structure IsEntry (cs : List Char) : Prop where
  ne_nil : cs ≠ []
  first : ∀ c ∈ cs.head?, isBlank c = false
  last : ∀ c ∈ cs.getLast?, isBlank c = false
  oneLine : '\n' ∉ cs

theorem not_mem_of_mem_splitAtChar {sep : Char} {cs part : List Char}
    (h : part ∈ splitAtChar sep cs) : sep ∉ part := by
  induction cs generalizing part with
  | nil =>
    rw [splitAtChar_nil, List.mem_singleton] at h
    simp [h]
  | cons c cs ih =>
    rw [splitAtChar_cons] at h
    cases rest : splitAtChar sep cs with
    | nil => exact absurd rest (splitAtChar_ne_nil sep cs)
    | cons next others =>
      rw [rest, splitStep] at h
      have tail : ∀ p ∈ next :: others, sep ∉ p := fun p mem => ih (by rw [rest]; exact mem)
      split at h
      · rcases List.mem_cons.mp h with rfl | mem
        · simp
        · exact tail part mem
      · rename_i other
        rcases List.mem_cons.mp h with rfl | mem
        · have isNext := tail next List.mem_cons_self
          simp [isNext, Ne.symm other]
        · exact tail part (List.mem_cons_of_mem _ mem)

theorem dropBlankEnd_isPrefix (cs : List Char) : dropBlankEnd cs <+: cs := by
  rw [dropBlankEnd, ← List.reverse_suffix, List.reverse_reverse]
  exact List.dropWhile_suffix isBlank

theorem trimChars_sublist (cs : List Char) : (trimChars cs).Sublist cs :=
  (dropBlankEnd_isPrefix _).sublist.trans (List.dropWhile_sublist isBlank)

theorem first_trimChars {cs : List Char} {c : Char} (h : c ∈ (trimChars cs).head?) :
    isBlank c = false := by
  obtain ⟨dropped, whole⟩ := dropBlankEnd_isPrefix (cs.dropWhile isBlank)
  have first : (cs.dropWhile isBlank).head? = some c := by
    rw [← whole, List.head?_append, ← trimChars, Option.mem_def.mp h, Option.some_or]
  have rule := List.head?_dropWhile_not isBlank cs
  rw [first] at rule
  exact rule

theorem last_trimChars {cs : List Char} {c : Char} (h : c ∈ (trimChars cs).getLast?) :
    isBlank c = false := by
  have first : ((cs.dropWhile isBlank).reverse.dropWhile isBlank).head? = some c := by
    rwa [trimChars, dropBlankEnd, List.getLast?_reverse] at h
  have rule := List.head?_dropWhile_not isBlank (cs.dropWhile isBlank).reverse
  rw [first] at rule
  exact rule

theorem isEntry_trimChars {line : List Char} (oneLine : '\n' ∉ line) (left : trimChars line ≠ []) :
    IsEntry (trimChars line) where
  ne_nil := left
  first _ h := first_trimChars h
  last _ h := last_trimChars h
  oneLine h := oneLine ((trimChars_sublist line).subset h)

section
variable {old new : List Char}

theorem mem_replaceFrom {skip : Nat} {cs : List Char} {c : Char}
    (h : c ∈ replaceFrom old new skip cs) : c ∈ cs ∨ c ∈ new := by
  fun_induction replaceFrom old new skip cs with
  | case1 => exact .inl h
  | case2 skip d cs ih => exact (ih h).imp_left (List.mem_cons_of_mem _)
  | case3 d cs _ ih =>
    rcases List.mem_append.mp h with isNew | later
    · exact .inr isNew
    · exact (ih later).imp_left (List.mem_cons_of_mem _)
  | case4 d cs _ ih =>
    rcases List.mem_cons.mp h with rfl | later
    · exact .inl List.mem_cons_self
    · exact (ih later).imp_left (List.mem_cons_of_mem _)

theorem replaceAll_ne_nil (some : new ≠ []) {cs : List Char} (h : cs ≠ []) :
    replaceAll old new cs ≠ [] := by
  cases cs with
  | nil => exact absurd rfl h
  | cons c cs =>
    rw [replaceAll, replaceFrom]
    split
    · exact List.append_ne_nil_of_left_ne_nil some _
    · exact List.cons_ne_nil _ _

variable {p : Char → Prop} (all : ∀ c ∈ new, p c)
include all

theorem first_replaceAll (some : new ≠ []) {cs : List Char} (h : ∀ c ∈ cs.head?, p c) :
    ∀ c ∈ (replaceAll old new cs).head?, p c := by
  cases cs with
  | nil => exact h
  | cons c cs =>
    rw [replaceAll, replaceFrom]
    split
    · intro d first
      rw [List.head?_append, List.head?_eq_some_head some, Option.some_or] at first
      obtain rfl := Option.some.inj first
      exact all _ (List.head_mem some)
    · exact h

theorem last_replaceFrom (some : new ≠ []) {skip : Nat} {cs : List Char}
    (h : ∀ c ∈ cs.getLast?, p c) : ∀ c ∈ (replaceFrom old new skip cs).getLast?, p c := by
  have behind {d : Char} {cs : List Char} (h : ∀ c ∈ (d :: cs).getLast?, p c) :
      ∀ c ∈ cs.getLast?, p c := by
    intro c last
    apply h
    rw [List.getLast?_cons, Option.mem_def.mp last]
    rfl
  fun_induction replaceFrom old new skip cs with
  | case1 => exact h
  | case2 skip d cs ih => exact ih (behind h)
  | case3 d cs _ ih =>
    intro c last
    rw [List.getLast?_append] at last
    cases rest : (replaceFrom old new (old.length - 1) cs).getLast? with
    | some e =>
      rw [rest] at last
      exact ih (behind h) c (rest.trans last)
    | none =>
      rw [rest] at last
      exact all c (List.mem_of_mem_getLast? last)
  | case4 d cs _ ih =>
    intro c last
    cases cs with
    | nil => exact h c last
    | cons e es =>
      have more : replaceFrom old new 0 (e :: es) ≠ [] :=
        replaceAll_ne_nil some (List.cons_ne_nil e es)
      rw [List.getLast?_cons_of_ne_nil more] at last
      exact ih (behind h) c last

end

theorem IsEntry.replaceAll {old new cs : List Char} (h : IsEntry cs) (some : new ≠ [])
    (plain : ∀ c ∈ new, isBlank c = false) : IsEntry (replaceAll old new cs) where
  ne_nil := replaceAll_ne_nil some h.ne_nil
  first := first_replaceAll plain some h.first
  last := last_replaceFrom plain some h.last
  oneLine mem := by
    rcases mem_replaceFrom mem with inText | inNew
    · exact h.oneLine inText
    · have blank := plain _ inNew
      rw [isBlank_newline] at blank
      cases blank

end CMakeGrammar.Text

namespace CMakeGrammar

theorem Language.name_plain (l : Language) :
    l.name.toList ≠ [] ∧ ∀ c ∈ l.name.toList, Text.isBlank c = false := by
  have plain : l.name.toList.all (fun c => !Text.isBlank c) = true := by cases l <;> decide
  exact ⟨by cases l <;> decide, by simpa using plain⟩

namespace Help

theorem isEntry_of_mem_listingEntries {output entry : String}
    (h : entry ∈ listingEntries output) : Text.IsEntry entry.toList := by
  obtain ⟨trimmed, mem, rfl⟩ := List.mem_map.mp h
  obtain ⟨isLine, some⟩ := List.mem_filter.mp mem
  obtain ⟨line, isPart, rfl⟩ := List.mem_map.mp isLine
  rw [String.toList_ofList]
  apply Text.isEntry_trimChars (Text.not_mem_of_mem_splitAtChar isPart)
  simpa using some

theorem isEntry_of_mem_expandEntry {placeholder entry name : String} {languages : List Language}
    (isEntry : Text.IsEntry entry.toList) (h : name ∈ expandEntry placeholder languages entry) :
    Text.IsEntry name.toList := by
  unfold expandEntry at h
  split at h
  · rwa [List.mem_singleton.mp h]
  · split at h
    · cases h
    · obtain ⟨l, -, rfl⟩ := List.mem_map.mp h
      rw [substitute, String.toList_ofList]
      exact isEntry.replaceAll l.name_plain.1 l.name_plain.2

theorem isEntry_of_mem_expand {placeholder output name : String} {languages : List Language}
    (h : name ∈ expand placeholder languages (listingEntries output)) :
    Text.IsEntry name.toList := by
  obtain ⟨entry, isListed, mem⟩ := mem_expand.mp h
  exact isEntry_of_mem_expandEntry (isEntry_of_mem_listingEntries isListed) mem

end Help
end CMakeGrammar
