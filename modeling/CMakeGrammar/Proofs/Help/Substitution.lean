import Mathlib.Data.Finset.Card
import Mathlib.Data.Finset.Image
import CMakeGrammar.Proofs.Help.Division
/-! How many names an entry stands for. Entries with different names in the place of their segments
are different, also where one name begins like another: the lengths of the wholes tell the lengths
of the names (`Division.length_fill`), and then the first segment tells the names. So an entry
stands for as many names as there are languages, and sets of names are put together entry by entry
and language by language. -/
namespace CMakeGrammar

theorem NameSet.card_toFinset (s : NameSet) : s.toList.toFinset.card = s.size :=
  List.toFinset_card_of_nodup (s.ascending.imp String.ne_of_lt)

namespace Help

section filling
variable {d : Division}

theorem Division.length_fill (d : Division) (name : List Char) :
    (d.fill name).length = (d.fill []).length + d.segments.length * name.length := by
  induction d with
  | plain text => simp [fill, segments]
  | cut text segment behind ih =>
    have one : (behind.segments.length + 1) * name.length =
        behind.segments.length * name.length + name.length := Nat.succ_mul ..
    simp only [fill, segments, List.length_append, List.length_cons, List.length_nil, ih, one]
    omega

/-- Whichever names are put in the place of the segments, they can be told from what comes of it. -/
theorem Division.fill_injective (some : d.segments ≠ []) : Function.Injective (d.fill ·) := by
  intro name other same
  have sizes := congrArg List.length same
  dsimp only at sizes
  rw [length_fill, length_fill d other] at sizes
  have sameLength : name.length = other.length :=
    Nat.eq_of_mul_eq_mul_left (List.length_pos_iff.mpr some) (Nat.add_left_cancel sizes)
  cases d with
  | plain text => exact absurd rfl some
  | cut text segment behind =>
    exact (List.append_inj (List.append_cancel_left same) sameLength).1

end filling

section substituting
variable {placeholder entry : String}

/-- Some segments stand in the entry, and all of them are the placeholder. -/
structure IsGeneric (placeholder entry : String) : Prop where
  exists_segment : ∃ segment, IsInnermost segment ∧ segment <:+: entry.toList
  eq_placeholder : ∀ segment, IsInnermost segment → segment <:+: entry.toList →
    segment = placeholder.toList

theorem isGeneric_iff : IsGeneric placeholder entry ↔
    segmentsOf entry.toList ≠ [] ∧ ∀ s ∈ segmentsOf entry.toList, s = placeholder.toList := by
  constructor
  · rintro ⟨⟨segment, innermost, isPart⟩, all⟩
    refine ⟨List.ne_nil_of_mem (mem_segmentsOf.mpr ⟨innermost, isPart⟩), fun s mem => ?_⟩
    obtain ⟨innermost, isPart⟩ := mem_segmentsOf.mp mem
    exact all s innermost isPart
  · rintro ⟨some, all⟩
    obtain ⟨segment, mem⟩ := List.exists_mem_of_ne_nil _ some
    exact ⟨⟨segment, mem_segmentsOf.mp mem⟩, fun s innermost isPart =>
      all s (mem_segmentsOf.mpr ⟨innermost, isPart⟩)⟩

instance (placeholder entry : String) : Decidable (IsGeneric placeholder entry) :=
  decidable_of_iff _ isGeneric_iff.symm

theorem IsGeneric.substitute_eq (generic : IsGeneric placeholder entry) :
    ∃ d : Division, d.segments ≠ [] ∧
      ∀ name, substitute placeholder entry name = String.ofList (d.fill name.toList) := by
  obtain ⟨some, all⟩ := isGeneric_iff.mp generic
  obtain ⟨segment, innermost, isPart⟩ := generic.exists_segment
  rw [generic.eq_placeholder segment innermost isPart] at innermost
  obtain ⟨d, whole, leftmost⟩ := Division.exists_leftmost entry.toList
  rw [← whole, leftmost.segmentsOf_whole] at some all
  refine ⟨d, some, fun name => ?_⟩
  rw [substitute, ← whole, leftmost.replaceAll_whole _ all innermost]

theorem IsGeneric.substitute_injective (generic : IsGeneric placeholder entry) :
    Function.Injective (substitute placeholder entry) := by
  obtain ⟨d, some, filled⟩ := generic.substitute_eq
  intro name other same
  rw [filled, filled, String.ofList_inj] at same
  exact String.toList_inj.mp (Division.fill_injective some same)

theorem IsGeneric.expandEntry_eq (generic : IsGeneric placeholder entry)
    (languages : List Language) :
    expandEntry placeholder languages entry =
      languages.map fun l => substitute placeholder entry l.name := by
  obtain ⟨some, all⟩ := isGeneric_iff.mp generic
  have supported : isUnsupported placeholder entry = false := by
    simpa [isUnsupported] using all
  rw [expandEntry, supported, if_neg (by simpa using some), if_neg (by simp)]

theorem IsGeneric.names_injective (generic : IsGeneric placeholder entry) :
    Function.Injective fun l : Language => substitute placeholder entry l.name :=
  fun _ _ same => Language.name_injective (generic.substitute_injective same)

theorem IsGeneric.size_expand (generic : IsGeneric placeholder entry) (languages : List Language) :
    (expand placeholder languages [entry]).size = languages.toFinset.card := by
  have names : (expand placeholder languages [entry]).toList.toFinset =
      languages.toFinset.image fun l => substitute placeholder entry l.name := by
    ext name
    rw [List.mem_toFinset, ← NameSet.mem_def, mem_expand]
    simp [generic.expandEntry_eq]
  rw [← NameSet.card_toFinset, names, Finset.card_image_of_injective _ generic.names_injective]

end substituting

section unions
variable (placeholder : String) (languages others : List Language) (entries : List String)

theorem expand_eq_foldr : expand placeholder languages entries =
    entries.foldr (fun entry names => expand placeholder languages [entry] ∪ names) ∅ := by
  induction entries with
  | nil => rfl
  | cons entry entries ih =>
    rw [List.foldr_cons, ← ih]
    apply NameSet.ext
    intro name
    simp [mem_expand]

theorem mem_expandEntry_append {entry name : String} :
    name ∈ expandEntry placeholder (languages ++ others) entry ↔
      name ∈ expandEntry placeholder languages entry ∨
      name ∈ expandEntry placeholder others entry := by
  unfold expandEntry
  split
  · simp
  · split <;> simp

theorem expand_append : expand placeholder (languages ++ others) entries =
    expand placeholder languages entries ∪ expand placeholder others entries := by
  apply NameSet.ext
  intro name
  simp only [NameSet.mem_union, mem_expand, mem_expandEntry_append, and_or_left, exists_or]

theorem expand_of_plain {entry : String}
    (plain : ∀ segment, IsInnermost segment → ¬segment <:+: entry.toList) :
    expand placeholder languages [entry] = .ofList [entry] := by
  have none : segmentsOf entry.toList = [] := by
    refine List.eq_nil_iff_forall_not_mem.mpr fun segment mem => ?_
    obtain ⟨innermost, isPart⟩ := mem_segmentsOf.mp mem
    exact plain segment innermost isPart
  rw [expand, List.flatMap_singleton, expandEntry_of_segmentsOf none]

end unions

/-- An entry all of whose segments are the placeholder stands for one name per language: no two
languages give the same. What a list of entries stands for is put together from its entries, and
what it stands for in two lists of languages from both; an entry without segments stands for itself,
without languages as well. -/
theorem expand_substituted (placeholder : String) (languages : List Language) :
    (∀ entry, IsGeneric placeholder entry →
      expandEntry placeholder languages entry =
          (languages.map fun l => substitute placeholder entry l.name) ∧
        (Function.Injective fun l : Language => substitute placeholder entry l.name) ∧
        (expand placeholder languages [entry]).size = languages.toFinset.card) ∧
    (∀ entries, expand placeholder languages entries =
      entries.foldr (fun entry names => expand placeholder languages [entry] ∪ names) ∅) ∧
    (∀ others entries, expand placeholder (languages ++ others) entries =
      expand placeholder languages entries ∪ expand placeholder others entries) ∧
    ∀ entry, (∀ segment, IsInnermost segment → ¬segment <:+: entry.toList) →
      expand placeholder languages [entry] = .ofList [entry] :=
  ⟨fun _ generic => ⟨generic.expandEntry_eq languages, generic.names_injective,
      generic.size_expand languages⟩,
    expand_eq_foldr placeholder languages, expand_append placeholder languages,
    fun _ => expand_of_plain placeholder languages⟩

theorem expand_substituted_twice :
    IsGeneric "<LANG>" "<LANG>_TO_<LANG>" ∧
    (expand "<LANG>" [.c, .cxx, .c] ["<LANG>_TO_<LANG>"]).size = 2 ∧
    (∀ segment, IsInnermost segment → ¬segment <:+: "SOURCES".toList) ∧
    expand "<LANG>" [] ["SOURCES"] = .ofList ["SOURCES"] := by
  have generic : IsGeneric "<LANG>" "<LANG>_TO_<LANG>" := by decide +kernel
  have none : segmentsOf "SOURCES".toList = [] := by decide
  have plain : ∀ segment, IsInnermost segment → ¬segment <:+: "SOURCES".toList := by
    intro segment innermost isPart
    have mem : segment ∈ segmentsOf "SOURCES".toList := mem_segmentsOf.mpr ⟨innermost, isPart⟩
    rw [none] at mem
    cases mem
  obtain ⟨expanded, -⟩ := expand_substituted "<LANG>" [.c, .cxx, .c]
  obtain ⟨-, -, -, unchanged⟩ := expand_substituted "<LANG>" []
  exact ⟨generic, (expanded _ generic).2.2, plain, unchanged _ plain⟩

end Help
end CMakeGrammar
