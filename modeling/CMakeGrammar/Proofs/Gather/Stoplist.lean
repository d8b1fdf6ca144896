import CMakeGrammar.Proofs.Gather.Comparison
import CMakeGrammar.Proofs.Help.Shape
/-! The stoplist concerns keywords and nothing else: it has no part in which queries are put and in
whether a run ends well, and what it does to a vocabulary is to take its words out of the keyword
sets (`Vocabulary.without`). -/
namespace CMakeGrammar

/-- A vocabulary with some words taken out of every set of keywords. -/
def Vocabulary.without (v : Vocabulary) (words : NameSet) : Vocabulary :=
  { v with
    commands := v.commands.map (· \ words)
    modules := v.modules.map fun m => { m with keywords := m.keywords \ words } }

namespace Help
variable {stoplist : NameSet}

theorem keywords_eq_sdiff (text : String) :
    keywords stoplist text = keywords ∅ text \ stoplist := by
  apply NameSet.ext
  intro word
  simp only [mem_keywords, NameSet.mem_sdiff, NameSet.not_mem_empty, not_false_eq_true, and_true]

theorem signatureKeywords_eq_sdiff (command help : String) :
    signatureKeywords stoplist command help = signatureKeywords ∅ command help \ stoplist := by
  apply NameSet.ext
  intro word
  rw [NameSet.mem_sdiff, mem_signatureKeywords, mem_signatureKeywords]
  constructor
  · rintro ⟨arguments, isSignature, mem⟩
    rw [keywords_eq_sdiff, NameSet.mem_sdiff] at mem
    exact ⟨⟨arguments, isSignature, mem.1⟩, mem.2⟩
  · rintro ⟨⟨arguments, isSignature, mem⟩, notStopped⟩
    refine ⟨arguments, isSignature, ?_⟩
    rw [keywords_eq_sdiff, NameSet.mem_sdiff]
    exact ⟨mem, notStopped⟩

end Help

namespace Gather
variable {c : Client} {e : Extraction} {stoplist : NameSet}

theorem commandKeywords_stoplist {command : String} {keywords : NameSet} :
    (commandKeywords c { e with stoplist } command).result = .ok keywords ↔
      ∃ all, (commandKeywords c { e with stoplist := ∅ } command).result = .ok all ∧
        all \ stoplist = keywords := by
  simp only [commandKeywords_eq_ok_iff]
  constructor
  · rintro ⟨help, answered, searchable, rfl⟩
    exact ⟨_, ⟨help, answered, searchable, rfl⟩,
      (Help.signatureKeywords_eq_sdiff command help).symm⟩
  · rintro ⟨_, ⟨help, answered, searchable, rfl⟩, rfl⟩
    exact ⟨help, answered, searchable, Help.signatureKeywords_eq_sdiff command help⟩

theorem moduleEntry_stoplist {name : String} {entry : ModuleEntry} :
    (moduleEntry c { e with stoplist } name).result = .ok entry ↔
      ∃ all, (moduleEntry c { e with stoplist := ∅ } name).result = .ok all ∧
        { all with keywords := all.keywords \ stoplist } = entry := by
  have stopped (help : String) : Help.moduleKeywords stoplist help =
      Help.moduleKeywords ∅ help \ stoplist := Help.keywords_eq_sdiff _
  simp only [moduleEntry_eq_ok_iff, stopped]
  constructor
  · rintro ⟨help, answered, functions, found, rfl⟩
    exact ⟨_, ⟨help, answered, functions, found, rfl⟩, rfl⟩
  · rintro ⟨_, ⟨help, answered, functions, found, rfl⟩, rfl⟩
    exact ⟨help, answered, functions, found, rfl⟩

theorem commandMap_stoplist {all commands : NameMap NameSet}
    (h : (commandMap c { e with stoplist := ∅ }).result = .ok all)
    (h' : (commandMap c { e with stoplist }).result = .ok commands) :
    commands = all.map (· \ stoplist) := by
  apply NameMap.ext_get?
  intro command keywords
  rw [get?_of_commandMap h', NameMap.get?_map_eq_some_iff, commandKeywords_stoplist]
  simp only [get?_of_commandMap h, and_assoc, exists_and_left]
  rfl

theorem modules_stoplist {all found : NameMap ModuleEntry}
    (h : (modules c { e with stoplist := ∅ }).result = .ok all)
    (h' : (modules c { e with stoplist }).result = .ok found) :
    found = all.map fun m => { m with keywords := m.keywords \ stoplist } := by
  apply NameMap.ext_get?
  intro name entry
  rw [get?_of_modules h', NameMap.get?_map_eq_some_iff, moduleEntry_stoplist]
  simp only [get?_of_modules h, and_assoc, exists_and_left]

theorem ends_stoplist (c : Client) (e : Extraction) (s t : NameSet) :
    (vocabulary c { e with stoplist := s }).queries =
        (vocabulary c { e with stoplist := t }).queries ∧
      error? (vocabulary c { e with stoplist := s }).result =
        error? (vocabulary c { e with stoplist := t }).result :=
  queries_vocabulary_congr rfl fun _ _ => rfl

theorem vocabulary_without {v : Vocabulary}
    (h : (vocabulary c { e with stoplist := ∅ }).result = .ok v) :
    (vocabulary c { e with stoplist }).result = .ok (v.without stoplist) := by
  obtain ⟨w, ok⟩ := exists_ok_of_error?_eq (ends_stoplist c e ∅ stoplist).2 h
  have all := isGathered_of_ok _ _ h
  have stopped := isGathered_of_ok _ _ ok
  rw [ok]
  congr 1
  apply eq_of_parts
  · exact ok_unique stopped.version all.version
  · exact ok_unique stopped.variableNames all.variableNames
  · exact commandMap_stoplist all.commands stopped.commands
  · exact ok_unique stopped.generatorExpressions all.generatorExpressions
  · exact ok_unique stopped.properties all.properties
  · exact modules_stoplist all.modules stopped.modules

/-- Runs that differ in the stoplist put the same queries and fail in the same way; if they end
well, what they gather is what is gathered without a stoplist, less the words of each. -/
theorem vocabulary_stoplist (c : Client) (e : Extraction) (s t : NameSet) :
    (vocabulary c { e with stoplist := s }).queries =
        (vocabulary c { e with stoplist := t }).queries ∧
      ((∃ error, (vocabulary c { e with stoplist := s }).result = .error error ∧
          (vocabulary c { e with stoplist := t }).result = .error error) ∨
        ∃ v, (vocabulary c { e with stoplist := ∅ }).result = .ok v ∧
          (vocabulary c { e with stoplist := s }).result = .ok (v.without s) ∧
          (vocabulary c { e with stoplist := t }).result = .ok (v.without t)) := by
  refine ⟨(ends_stoplist c e s t).1, ?_⟩
  cases all : (vocabulary c { e with stoplist := ∅ }).result with
  | ok v => exact .inr ⟨v, rfl, vocabulary_without all, vocabulary_without all⟩
  | error error =>
    have same (words : NameSet) :
        (vocabulary c { e with stoplist := words }).result = .error error := by
      have ends := (ends_stoplist c e ∅ words).2
      rw [all] at ends
      exact error?_eq_some_iff.mp ends.symm
    exact .inl ⟨error, same s, same t⟩

end Gather
end CMakeGrammar
