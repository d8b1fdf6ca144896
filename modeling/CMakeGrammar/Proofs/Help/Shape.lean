import CMakeGrammar.Help.Directive
import CMakeGrammar.Help.GeneratorExpression
import CMakeGrammar.Help.Signature
import CMakeGrammar.Help.Version
import CMakeGrammar.Proofs.Text.Places
/-! Shapes of what is read out of help texts: versions, keywords, generator expressions and the
commands of modules. They hold of every text. -/
namespace CMakeGrammar.Help

def IsVersion (version : List Char) : Prop :=
  ∃ major minor patch, version = major ++ '.' :: (minor ++ '.' :: patch) ∧
    ∀ digits ∈ [major, minor, patch], digits ≠ [] ∧ ∀ c ∈ digits, Text.isDecimalDigit c = true

def IsKeyword (word : List Char) : Prop :=
  ∃ first rest, word = first :: rest ∧ first.isUpper = true ∧ rest ≠ [] ∧
    ∀ c ∈ rest, c.isUpper = true ∨ c = '_'

def IsExpressionName (name : List Char) : Prop :=
  name ≠ [] ∧ ∀ c ∈ name, c.isUpper = true ∨ c = '_'

def IsDeclaredName (name : List Char) : Prop :=
  name ≠ [] ∧ ∀ c ∈ name, c.isAlpha = true ∨ c = '_'

theorem isKeywordChar_iff {c : Char} : isKeywordChar c = true ↔ c.isUpper = true ∨ c = '_' := by
  simp [isKeywordChar]

theorem isDirectiveNameChar_iff {c : Char} :
    isDirectiveNameChar c = true ↔ c.isAlpha = true ∨ c = '_' := by
  simp [isDirectiveNameChar]

theorem isKeyword_iff {word : List Char} : isKeyword word = true ↔ IsKeyword word := by
  constructor
  · intro h
    unfold isKeyword at h
    split at h
    · rw [Bool.and_eq_true, List.all_eq_true] at h
      exact ⟨_, _, rfl, h.1, List.cons_ne_nil _ _, fun c mem => isKeywordChar_iff.mp (h.2 c mem)⟩
    · cases h
  · rintro ⟨first, rest, rfl, upper, some, all⟩
    cases rest with
    | nil => exact absurd rfl some
    | cons second rest =>
      rw [isKeyword, upper, Bool.true_and, List.all_eq_true]
      exact fun c mem => isKeywordChar_iff.mpr (all c mem)

theorem isKeyword_of_mem_keywords {stoplist : NameSet} {text word : String}
    (h : word ∈ keywords stoplist text) : IsKeyword word.toList ∧ word ∉ stoplist := by
  obtain ⟨⟨-, isKey⟩, stop⟩ := mem_keywords.mp h
  exact ⟨isKeyword_iff.mp isKey, stop⟩

theorem isWord_of_mem_keywords {stoplist : NameSet} {text word : String}
    (h : word ∈ keywords stoplist text) : Text.IsWord word := by
  obtain ⟨some, all⟩ := Text.mem_runs (mem_keywords.mp h).1.1
  exact ⟨fun nothing => some (String.toList_eq_nil_iff.mpr nothing), all⟩

theorem mem_keywords_iff_of_isRun {stoplist : NameSet} {o : Text.Place}
    (h : o.IsRun Text.isWordChar) :
    String.ofList o.inside ∈ keywords stoplist (String.ofList o.text) ↔
      IsKeyword o.inside ∧ String.ofList o.inside ∉ stoplist := by
  have isWord : o.inside ∈ words o.text := Text.mem_runs_of_isRun h
  rw [mem_keywords, String.toList_ofList, String.toList_ofList, isKeyword_iff]
  simp only [isWord, true_and]

theorem exists_isRun_of_mem_keywords {stoplist : NameSet} {text : List Char} {word : String}
    (h : word ∈ keywords stoplist (String.ofList text)) :
    ∃ o : Text.Place, o.text = text ∧ o.IsRun Text.isWordChar ∧ o.inside = word.toList := by
  have isWord := (mem_keywords.mp h).1.1
  rw [String.toList_ofList] at isWord
  exact Text.mem_runs_iff.mp isWord

theorem mem_signatureKeywords {stoplist : NameSet} {command help word : String} :
    word ∈ signatureKeywords stoplist command help ↔
      ∃ arguments ∈ signatures command help, word ∈ keywords stoplist arguments := by
  rw [signatureKeywords]
  induction signatures command help with
  | nil => simp
  | cons arguments others ih => simp [ih]

theorem isKeyword_of_mem_signatureKeywords {stoplist : NameSet} {command help word : String}
    (h : word ∈ signatureKeywords stoplist command help) :
    IsKeyword word.toList ∧ word ∉ stoplist := by
  obtain ⟨arguments, -, mem⟩ := mem_signatureKeywords.mp h
  exact isKeyword_of_mem_keywords mem

theorem isExpressionName_of_generatorExpressionAt? {cs name : List Char}
    (h : generatorExpressionAt? cs = some name) : IsExpressionName name := by
  unfold generatorExpressionAt? at h
  split at h
  · rename_i rest
    dsimp only at h
    split at h
    · rename_i found
      rw [Bool.and_eq_true] at found
      cases h
      refine ⟨by simpa using found.1, fun c mem => ?_⟩
      exact isKeywordChar_iff.mp (List.all_eq_true.mp List.all_takeWhile c mem)
    · cases h
  · cases h

theorem isExpressionName_of_mem {help name : String} (h : name ∈ generatorExpressions help) :
    IsExpressionName name.toList := by
  obtain ⟨found, mem, rfl⟩ := List.mem_map.mp (NameSet.mem_ofList.mp h)
  obtain ⟨before, after, -, -, here⟩ := Text.mem_everywhere.mp mem
  rw [String.toList_ofList]
  exact isExpressionName_of_generatorExpressionAt? here

theorem isDeclaredName_of_declarationAt? {cs name : List Char}
    (h : declarationAt? cs = some name) : IsDeclaredName name := by
  obtain ⟨rest, -, here⟩ := Option.bind_eq_some_iff.mp h
  dsimp only at here
  split at here
  · cases here
  · rename_i some
    cases here
    refine ⟨by simpa using some, fun c mem => ?_⟩
    exact isDirectiveNameChar_iff.mp (List.all_eq_true.mp List.all_takeWhile c mem)

theorem isDeclaredName_of_mem {help : String} {functions : NameSet}
    (h : moduleFunctions? help = some functions) :
    (∃ name, name ∈ functions) ∧ ∀ name ∈ functions, IsDeclaredName name.toList := by
  unfold moduleFunctions? at h
  split at h
  · cases h
  · rename_i names some
    cases h
    refine ⟨?_, fun name mem => ?_⟩
    · obtain ⟨first, others, eq⟩ := List.exists_cons_of_ne_nil some
      exact ⟨String.ofList first, by simp [eq]⟩
    · obtain ⟨found, declared, rfl⟩ := List.mem_map.mp (NameSet.mem_ofList.mp mem)
      obtain ⟨before, after, -, -, here⟩ := Text.mem_everywhere.mp declared
      rw [String.toList_ofList]
      exact isDeclaredName_of_declarationAt? here

theorem digits_of_number? {cs digits rest : List Char} (h : number? cs = some (digits, rest)) :
    digits ≠ [] ∧ ∀ c ∈ digits, Text.isDecimalDigit c = true := by
  unfold number? at h
  dsimp only at h
  split at h
  · cases h
  · rename_i some
    cases h
    exact ⟨by simpa using some, List.all_eq_true.mp List.all_takeWhile⟩

theorem isVersion_of_versionNumber? {cs version : List Char}
    (h : versionNumber? cs = some version) : IsVersion version := by
  simp only [versionNumber?, Option.bind_eq_bind, Option.bind_eq_some_iff] at h
  obtain ⟨⟨major, rest⟩, isMajor, rest, -, ⟨minor, rest⟩, isMinor, rest, -, ⟨patch, rest⟩, isPatch,
    made⟩ := h
  refine ⟨major, minor, patch, by simp [← Option.some.inj made], ?_⟩
  intro digits mem
  simp only [List.mem_cons, List.not_mem_nil, or_false] at mem
  rcases mem with rfl | rfl | rfl
  · exact digits_of_number? isMajor
  · exact digits_of_number? isMinor
  · exact digits_of_number? isPatch

theorem isVersion_of_version? {output version : String} (h : version? output = some version) :
    IsVersion version.toList := by
  obtain ⟨found, first, rfl⟩ := Option.map_eq_some_iff.mp h
  rw [Text.firstWhere_eq_head?] at first
  obtain ⟨before, after, -, -, here⟩ := Text.mem_everywhere.mp (List.mem_of_mem_head? first)
  obtain ⟨rest, -, number⟩ := Option.bind_eq_some_iff.mp here
  rw [String.toList_ofList]
  exact isVersion_of_versionNumber? number

end CMakeGrammar.Help
