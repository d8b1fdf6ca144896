import CMakeGrammar.Proofs.Gather.Comparison
import CMakeGrammar.Proofs.Gather.WellFormed
import CMakeGrammar.Proofs.Help.Listing
/-! Excluded commands: they are not asked about and have no entry, and that is all. Whoever excludes
more gets the same run less the queries about those commands, and the same vocabulary less their
entries. -/
namespace CMakeGrammar.Gather

/-- A command map of a run over a table: the lines of the command list that are not excluded, those
among them whose help shows no signature without keywords. -/
structure HoldsKept (responses : NameMap String) (e : Extraction) (commands : NameMap NameSet) :
    Prop where
  keys : ∃ output, responses.get? Query.commandList.line = some output ∧
    ∀ command, command ∈ commands.keys ↔
      Help.IsTrimmedLine output command ∧ command ∉ e.excludedCommands
  unsigned : ∀ command ∈ commands.keys, ∃ help,
    responses.get? (Query.command command).line = some help ∧
      (Help.signatures command (Text.trim help) = [] → commands.get? command = some ∅)

variable {responses : NameMap String} {c : Client} {e : Extraction} {excluded : NameSet}

theorem holdsKept_of_ok {commands : NameMap NameSet}
    (h : (commandMap (.ofTable responses) e).result = .ok commands) :
    HoldsKept responses e commands where
  keys := by
    obtain ⟨names, areNames, -⟩ := ok_of_bind h
    obtain ⟨answer, answered, -⟩ := query_bind_eq_ok_iff.mp areNames
    obtain ⟨output, found, rfl⟩ := exists_response answered
    refine ⟨output, found, fun command => ?_⟩
    rw [keys_of_commandMap h, ← NameSet.mem_def]
    simp only [kept, answered, NameSet.mem_sdiff, NameSet.mem_ofList, Help.listingEntries_trim,
      Help.mem_listingEntries]
  unsigned command mem := by
    obtain ⟨keywords, isEntry⟩ := NameMap.mem_keys_iff.mp mem
    obtain ⟨-, gathered⟩ := (get?_of_commandMap h).mp isEntry
    obtain ⟨answer, answered, -, rfl⟩ := commandKeywords_eq_ok_iff.mp gathered
    obtain ⟨help, found, rfl⟩ := exists_response answered
    refine ⟨help, found, fun unsigned => ?_⟩
    rw [isEntry, Help.signatureKeywords, unsigned]
    rfl

theorem kept_excluding (larger : ∀ name ∈ e.excludedCommands, name ∈ excluded) :
    kept c { e with excludedCommands := excluded } = (kept c e).filter (· ∉ excluded) := by
  apply NameSet.ext
  intro command
  have outside : command ∉ excluded → command ∉ e.excludedCommands := mt (larger command)
  unfold kept
  cases c.answer Query.commandList.arguments with
  | error problem => simp
  | ok output =>
    simp only [NameSet.mem_sdiff, NameSet.mem_filter, decide_eq_true_eq, and_assoc]
    exact and_congr_right fun _ => ⟨fun out => ⟨outside out, out⟩, And.right⟩

def linesAbout (names : NameSet) : List String :=
  names.toList.map fun name => (Query.command name).line

theorem line_mem_linesAbout {names : NameSet} {q : Query} :
    q.line ∈ linesAbout names ↔ ∃ name ∈ names, q = .command name := by
  rw [linesAbout, List.mem_map]
  constructor
  · rintro ⟨name, mem, same⟩
    exact ⟨name, mem, (Query.line_injective same).symm⟩
  · rintro ⟨name, mem, rfl⟩
    exact ⟨name, mem, rfl⟩

theorem plan_eq (commands : List String) (e : Extraction) :
    plan commands e = [.version, .variableList, .commandList] ++ (commands.map .command ++
      (.manual e.manual :: .propertyList :: e.modules.map .moduleHelp)) := by
  simp [plan]

theorem filter_plan (names : NameSet) (commands : List String) (e : Extraction) :
    (plan commands e).filter (fun q => q.line ∉ linesAbout names) =
      plan (commands.filter (· ∉ names)) e := by
  have stay {queries : List Query} (others : ∀ q ∈ queries, ∀ name, q ≠ .command name) :
      queries.filter (fun q => q.line ∉ linesAbout names) = queries := by
    apply List.filter_eq_self.mpr
    intro q mem
    rw [decide_eq_true_eq, line_mem_linesAbout]
    rintro ⟨name, -, same⟩
    exact others q mem name same
  have asked : (commands.map Query.command).filter (fun q => q.line ∉ linesAbout names) =
      (commands.filter (· ∉ names)).map .command := by
    rw [List.filter_map]
    congr 1
    apply List.filter_congr
    intro name _
    simp only [Function.comp_apply, line_mem_linesAbout, Query.command.injEq, exists_eq_right']
  rw [plan_eq, plan_eq, List.filter_append, List.filter_append, asked, stay (by simp),
    stay (by simp)]

theorem plan_excluding (larger : ∀ name ∈ e.excludedCommands, name ∈ excluded) :
    plan (kept c { e with excludedCommands := excluded }).toList
        { e with excludedCommands := excluded } =
      (plan (kept c e).toList e).filter fun q =>
        q.line ∉ linesAbout (excluded \ e.excludedCommands) := by
  -- what is kept is not excluded at first, so only the names that are excluded now can be lost
  have same : (kept c e).toList.filter (· ∉ excluded \ e.excludedCommands) =
      (kept c e).toList.filter (· ∉ excluded) := by
    apply List.filter_congr
    intro name mem
    simp only [NameSet.mem_sdiff, (isEntry_of_mem_kept mem).2, not_false_eq_true, and_true]
  rw [filter_plan, same, kept_excluding larger]
  rfl

theorem commandMap_excluding (larger : ∀ name ∈ e.excludedCommands, name ∈ excluded)
    {commands fewer : NameMap NameSet} (h : (commandMap c e).result = .ok commands)
    (h' : (commandMap c { e with excludedCommands := excluded }).result = .ok fewer) :
    fewer = commands.restrict (· ∉ excluded) := by
  apply NameMap.ext_get?
  intro command keywords
  rw [get?_of_commandMap h', NameMap.get?_restrict_eq_some_iff, get?_of_commandMap h,
    kept_excluding larger, NameSet.mem_filter, decide_eq_true_eq, and_right_comm]
  rfl

/-- The commands of a map are those that are listed and not excluded. To exclude more is to lose the
queries about the commands that are now excluded, and their entries. -/
theorem vocabulary_excluding (responses : NameMap String) (e : Extraction) :
    (∀ commands, (commandMap (.ofTable responses) e).result = .ok commands →
      HoldsKept responses e commands) ∧
    ∀ v, (vocabulary (.ofTable responses) e).result = .ok v →
      HoldsKept responses e v.commands ∧
      ∀ excluded : NameSet, (∀ name ∈ e.excludedCommands, name ∈ excluded) →
        (vocabulary (.ofTable responses) { e with excludedCommands := excluded }).result =
            .ok { v with commands := v.commands.restrict (· ∉ excluded) } ∧
          askedLines responses { e with excludedCommands := excluded } =
            (askedLines responses e).filter fun line =>
              line ∉ linesAbout (excluded \ e.excludedCommands) := by
  refine ⟨fun _ => holdsKept_of_ok, fun v ok => ?_⟩
  have gathered := isGathered_of_ok _ _ ok
  refine ⟨holdsKept_of_ok gathered.commands, fun excluded larger => ?_⟩
  have passed : ∀ q ∈
      plan (kept (.ofTable responses) { e with excludedCommands := excluded }).toList
        { e with excludedCommands := excluded },
      failure? (.ofTable responses) q = none := by
    intro q mem
    rw [plan_excluding larger] at mem
    exact (queries_of_ok ok).2 q (List.mem_filter.mp mem).1
  obtain ⟨w, ok'⟩ := exists_ok_of_passed passed
  have fewer := isGathered_of_ok _ _ ok'
  refine ⟨?_, ?_⟩
  · rw [ok']
    congr 1
    apply eq_of_parts
    · exact ok_unique fewer.version gathered.version
    · exact ok_unique fewer.variableNames gathered.variableNames
    · exact commandMap_excluding larger gathered.commands fewer.commands
    · exact ok_unique fewer.generatorExpressions gathered.generatorExpressions
    · exact ok_unique fewer.properties gathered.properties
    · exact modules_unique fewer.modules gathered.modules rfl fun _ _ => Iff.rfl
  · rw [askedLines_of_ok ok', askedLines_of_ok ok, plan_excluding larger, List.filter_map]
    rfl

/-- `smallHelp` with help for the command that `smallSettings` excludes, which has no signature. -/
def unsignedHelp : NameMap String :=
  smallHelp.insert "--help-command if" "if\n--\n\nConditionally executes a group of commands.\n"

def openSettings : Extraction := { smallSettings with excludedCommands := ∅ }

def openVocabulary : Vocabulary :=
  { smallVocabulary with commands := .ofList [("if", ∅), ("project", .ofList ["LANGUAGES"])] }

theorem vocabulary_excluding_project :
    (vocabulary (.ofTable unsignedHelp) openSettings).result = .ok openVocabulary ∧
      (∀ name ∈ openSettings.excludedCommands, name ∈ NameSet.ofList ["project"]) ∧
      HoldsKept unsignedHelp openSettings openVocabulary.commands ∧
      (vocabulary (.ofTable unsignedHelp)
          { openSettings with excludedCommands := .ofList ["project"] }).result =
        .ok { openVocabulary with
          commands := openVocabulary.commands.restrict (· ∉ NameSet.ofList ["project"]) } ∧
      askedLines unsignedHelp { openSettings with excludedCommands := .ofList ["project"] } =
        (askedLines unsignedHelp openSettings).filter fun line =>
          line ∉ linesAbout (.ofList ["project"] \ openSettings.excludedCommands) := by
  have gathered : (vocabulary (.ofTable unsignedHelp) openSettings).result = .ok openVocabulary :=
    ok_of_toOption (by decide +kernel)
  have larger : ∀ name ∈ openSettings.excludedCommands, name ∈ NameSet.ofList ["project"] := by
    intro name mem
    exact absurd mem (NameSet.not_mem_empty name)
  obtain ⟨holdsKept, excluding⟩ := (vocabulary_excluding unsignedHelp openSettings).2 _ gathered
  exact ⟨gathered, larger, holdsKept, excluding _ larger⟩

end CMakeGrammar.Gather
