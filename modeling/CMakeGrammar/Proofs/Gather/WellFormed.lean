import CMakeGrammar.Proofs.Gather.Answers
import CMakeGrammar.Proofs.Help.Shape
import CMakeGrammar.Proofs.Text.Entry
/-! What holds of every vocabulary that is gathered, whatever a client answers and whatever the
settings are: the shapes of its names, what is kept out of it, and which modules it has. -/
namespace CMakeGrammar.Gather

structure IsWellFormedModule (e : Extraction) (name : String) (m : ModuleEntry) : Prop where
  name : m.name = name
  declares : ∃ function, function ∈ m.functions
  functions : ∀ function ∈ m.functions, Help.IsDeclaredName function.toList
  keywords : ∀ word ∈ m.keywords, Help.IsKeyword word.toList ∧ word ∉ e.stoplist

structure IsWellFormed (e : Extraction) (v : Vocabulary) : Prop where
  version : Help.IsVersion v.version.toList
  variableNames : ∀ name ∈ v.variableNames, Text.IsEntry name.toList
  commands : ∀ command ∈ v.commands.keys,
    Text.IsEntry command.toList ∧ command ∉ e.excludedCommands
  commandKeywords : ∀ keywords ∈ v.commands.values, ∀ word ∈ keywords,
    Help.IsKeyword word.toList ∧ word ∉ e.stoplist
  generatorExpressions : ∀ name ∈ v.generatorExpressions, Help.IsExpressionName name.toList
  properties : ∀ name ∈ v.properties, Text.IsEntry name.toList
  modules : ∀ name, name ∈ v.modules.keys ↔ name ∈ e.modules
  moduleEntries : ∀ entry ∈ v.modules.entries, IsWellFormedModule e entry.1 entry.2

variable {c : Client} {e : Extraction}

theorem isVersion_of_ok {v : String} (h : (version c).result = .ok v) :
    Help.IsVersion v.toList := by
  obtain ⟨output, -, found⟩ := version_eq_ok_iff.mp h
  exact Help.isVersion_of_version? found

theorem isEntry_of_listing {q : Query} {names : NameSet} (h : (listing c e q).result = .ok names) :
    ∀ name ∈ names, Text.IsEntry name.toList := by
  obtain ⟨output, -, rfl⟩ := listing_eq_ok_iff.mp h
  exact fun name mem => Help.isEntry_of_mem_expand mem

theorem isEntry_of_mem_kept {command : String} (h : command ∈ kept c e) :
    Text.IsEntry command.toList ∧ command ∉ e.excludedCommands := by
  unfold kept at h
  split at h
  · obtain ⟨isListed, isKept⟩ := NameSet.mem_sdiff.mp h
    exact ⟨Help.isEntry_of_mem_listingEntries (NameSet.mem_ofList.mp isListed), isKept⟩
  · exact absurd h (NameSet.not_mem_empty command)

theorem isKeyword_of_commandKeywords {command : String} {keywords : NameSet}
    (h : (commandKeywords c e command).result = .ok keywords) :
    ∀ word ∈ keywords, Help.IsKeyword word.toList ∧ word ∉ e.stoplist := by
  obtain ⟨help, -, -, rfl⟩ := commandKeywords_eq_ok_iff.mp h
  exact fun word mem => Help.isKeyword_of_mem_signatureKeywords mem

theorem commandMap_of_ok {commands : NameMap NameSet} (h : (commandMap c e).result = .ok commands) :
    (∀ command ∈ commands.keys,
      Text.IsEntry command.toList ∧ command ∉ e.excludedCommands) ∧
    ∀ keywords ∈ commands.values, ∀ word ∈ keywords,
      Help.IsKeyword word.toList ∧ word ∉ e.stoplist := by
  refine ⟨fun command mem => ?_, fun keywords mem => ?_⟩
  · rw [keys_of_commandMap h] at mem
    exact isEntry_of_mem_kept mem
  · obtain ⟨entry, isEntry, rfl⟩ := List.mem_map.mp mem
    obtain ⟨-, gathered⟩ := (get?_of_commandMap h).mp (NameMap.get?_eq_some_iff.mpr isEntry)
    exact isKeyword_of_commandKeywords gathered

theorem isExpressionName_of_ok {names : NameSet}
    (h : (generatorExpressions c e).result = .ok names) :
    ∀ name ∈ names, Help.IsExpressionName name.toList := by
  obtain ⟨help, -, rfl⟩ := generatorExpressions_eq_ok_iff.mp h
  exact fun name mem => Help.isExpressionName_of_mem mem

theorem isWellFormedModule_of_ok {name : String} {m : ModuleEntry}
    (h : (moduleEntry c e name).result = .ok m) : IsWellFormedModule e name m := by
  obtain ⟨help, -, functions, found, rfl⟩ := moduleEntry_eq_ok_iff.mp h
  obtain ⟨declares, names⟩ := Help.isDeclaredName_of_mem found
  exact ⟨rfl, declares, names, fun word mem => Help.isKeyword_of_mem_keywords mem⟩

theorem modules_of_ok {found : NameMap ModuleEntry} (h : (modules c e).result = .ok found) :
    (∀ name, name ∈ found.keys ↔ name ∈ e.modules) ∧
      ∀ entry ∈ found.entries, IsWellFormedModule e entry.1 entry.2 := by
  refine ⟨fun name => mem_keys_of_modules h, fun entry mem => ?_⟩
  obtain ⟨-, gathered⟩ := (get?_of_modules h).mp (NameMap.get?_eq_some_iff.mpr mem)
  exact isWellFormedModule_of_ok gathered

/-- Whatever a client answers, a vocabulary that is gathered is well formed. -/
theorem vocabulary_wellFormed {v : Vocabulary} (h : (vocabulary c e).result = .ok v) :
    IsWellFormed e v := by
  have gathered := isGathered_of_ok c e h
  obtain ⟨commands, commandKeywords⟩ := commandMap_of_ok gathered.commands
  obtain ⟨modules, moduleEntries⟩ := modules_of_ok gathered.modules
  exact {
    version := isVersion_of_ok gathered.version
    variableNames := isEntry_of_listing gathered.variableNames
    commands, commandKeywords
    generatorExpressions := isExpressionName_of_ok gathered.generatorExpressions
    properties := isEntry_of_listing gathered.properties
    modules, moduleEntries }

/-- The help of an installation with one command and one module. -/
def smallHelp : NameMap String := .ofList
  [("--version", "cmake version 3.28.3-rc1\n"),
    ("--help-variable-list", "\n CMAKE_<LANG>_FLAGS \n<CONFIG>_POSTFIX\n"),
    ("--help-command-list", "if\n project\n"),
    ("--help-command project", "project(<name>\n LANGUAGES CXX)"),
    ("--help-manual genex", "$<TARGET_FILE:tgt> $<lower:x>"),
    ("--help-property-list", "OUTPUT_NAME"),
    ("--help-module FetchContent", ".. command::\n FetchContent_Declare\n GIT_TAG")]

def smallSettings : Extraction :=
  ⟨"<LANG>", [.c, .cxx], .ofList ["CXX"], .ofList ["if"], ["FetchContent"], "genex"⟩

def smallVocabulary : Vocabulary where
  version := "3.28.3"
  variableNames := .ofList ["CMAKE_CXX_FLAGS", "CMAKE_C_FLAGS"]
  commands := .ofList [("project", .ofList ["LANGUAGES"])]
  generatorExpressions := .ofList ["TARGET_FILE"]
  properties := .ofList ["OUTPUT_NAME"]
  modules := .ofList [("FetchContent",
    ⟨"FetchContent", .ofList ["FetchContent_Declare"], .ofList ["GIT_TAG"]⟩)]

theorem ok_of_toOption {ε α : Type} {result : Except ε α} {value : α}
    (h : result.toOption = some value) : result = .ok value := by
  cases result with
  | error problem => cases h
  | ok found =>
    cases h
    rfl

theorem gathered_small :
    (vocabulary (.ofTable smallHelp) smallSettings).result = .ok smallVocabulary :=
  ok_of_toOption (by decide +kernel)

theorem vocabulary_wellFormed_small :
    (vocabulary (.ofTable smallHelp) smallSettings).result = .ok smallVocabulary ∧
      IsWellFormed smallSettings smallVocabulary :=
  ⟨gathered_small, vocabulary_wellFormed gathered_small⟩

end CMakeGrammar.Gather
