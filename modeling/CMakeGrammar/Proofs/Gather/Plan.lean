import CMakeGrammar.Proofs.Gather.Following
import CMakeGrammar.Proofs.Help.Listing
/-! The plan of a whole run, of which a part depends on an answer: the list of commands says which
commands are asked about. A run follows its plan up to the first failure. -/
namespace CMakeGrammar

namespace Query

theorem line_injective {p q : Query} (h : p.line = q.line) : p = q := by
  rw [← String.toList_inj] at h
  -- unlike queries differ in a letter of their options, like ones in what stands behind the option
  cases p <;> cases q <;> simp_all [line, argumentLine, arguments, String.toList_inj]

theorem argumentLine_append (option name : String) :
    argumentLine [option, name] = option ++ " " ++ name := by
  rw [← String.toList_inj]
  simp [argumentLine]

theorem line_command (name : String) : (command name).line = "--help-command " ++ name :=
  argumentLine_append _ _

theorem line_manual (name : String) : (manual name).line = "--help-manual " ++ name :=
  argumentLine_append _ _

theorem line_moduleHelp (name : String) : (moduleHelp name).line = "--help-module " ++ name :=
  argumentLine_append _ _

end Query

namespace Gather
open Gathering (say sayAll)

/-- The commands that are asked about: none where the list of them is not to be had. -/
def kept (c : Client) (e : Extraction) : NameSet :=
  match c.answer Query.commandList.arguments with
  | .ok output => .ofList (Help.listingEntries output) \ e.excludedCommands
  | .error _ => ∅

def plan (commands : List String) (e : Extraction) : List Query :=
  [.version] ++ ([.variableList] ++ ((.commandList :: commands.map .command) ++
    ([.manual e.manual] ++ ([.propertyList] ++ e.modules.map .moduleHelp))))

variable (c : Client) (e : Extraction)

theorem follows_version : Follows c [.version] (version c) := by
  refine follows_query ?_ ?_
  · intro output
    cases found : Help.version? output <;> rfl
  · intro output
    cases found : Help.version? output <;> simp [rejection?, found] <;> rfl

theorem follows_listing {q : Query} (taken : ∀ output, rejection? c output q = none) :
    Follows c [q] (listing c e q) := by
  refine follows_query ?_ ?_
  · intro output
    rw [queries_bind_of_ok (a := ()) rfl, queries_sayAll]
    rfl
  · intro output
    rw [taken]
    rfl

theorem follows_commands : Follows c [.commandList] (commands c e) := by
  refine follows_query ?_ ?_
  · intro output
    rfl
  · intro output
    rfl

theorem toList_commands {names : NameSet} (h : (commands c e).result = .ok names) :
    names = kept c e := by
  rw [commands, Recorded.result_bind, Client.result_query] at h
  unfold kept
  cases answer : c.answer Query.commandList.arguments with
  | ok output =>
    rw [answer] at h
    exact (Except.ok.inj h).symm
  | error error =>
    rw [answer] at h
    cases h

theorem follows_commandKeywords (command : String) :
    Follows c [.command command] (commandKeywords c e command) := by
  refine follows_query ?_ ?_
  · intro output
    unfold signatureKeywords
    split
    · rw [queries_bind_of_ok (a := ()) rfl, queries_sayAll]
      rfl
    · rfl
  · intro output
    simp only [signatureKeywords, rejection?]
    split <;> rfl

theorem follows_keywordsOf (commands : List String) :
    Follows c (commands.map .command) (keywordsOf c e commands) := by
  induction commands with
  | nil => exact follows_pure _
  | cons command others ih =>
    refine (follows_commandKeywords c e command).bind fun keywords _ => ?_
    refine (follows_say _).bind fun _ _ => ?_
    have rest := ih.bind fun found _ => follows_pure ((command, keywords) :: found)
    rwa [List.append_nil] at rest

theorem follows_commandMap :
    Follows c (.commandList :: (kept c e).toList.map .command) (commandMap c e) := by
  refine (follows_commands c e).bind fun names ok => ?_
  rw [toList_commands c e ok]
  have rest := (follows_keywordsOf c e (kept c e).toList).bind fun found _ =>
    follows_pure (NameMap.ofList found)
  rwa [List.append_nil] at rest

theorem follows_generatorExpressions :
    Follows c [.manual e.manual] (generatorExpressions c e) := by
  refine follows_query ?_ ?_
  · intro output
    rfl
  · intro output
    rfl

theorem follows_moduleEntry (name : String) :
    Follows c [.moduleHelp name] (moduleEntry c e name) := by
  refine follows_query ?_ ?_
  · intro output
    cases found : Help.moduleFunctions? output <;> rfl
  · intro output
    cases found : Help.moduleFunctions? output <;> simp [rejection?, found] <;> rfl

theorem follows_entriesOf (names : List String) :
    Follows c (names.map .moduleHelp) (entriesOf c e names) := by
  induction names with
  | nil => exact follows_pure _
  | cons name others ih =>
    refine (follows_moduleEntry c e name).bind fun entry _ => ?_
    have rest := ih.bind fun found _ => follows_pure ((name, entry) :: found)
    rwa [List.append_nil] at rest

theorem follows_modules : Follows c (e.modules.map .moduleHelp) (modules c e) := by
  have rest := (follows_entriesOf c e e.modules).bind fun found _ =>
    follows_pure (NameMap.ofList found)
  rwa [List.append_nil] at rest

theorem follows_vocabulary : Follows c (plan (kept c e).toList e) (vocabulary c e) := by
  refine (follows_say _).bind fun _ _ => ?_
  refine (follows_version c).bind fun version _ => ?_
  refine (follows_say _).bind fun _ _ => ?_
  refine (follows_listing c e fun _ => rfl).bind fun variableNames _ => ?_
  refine (follows_commandMap c e).bind fun commands _ => ?_
  refine (follows_generatorExpressions c e).bind fun generatorExpressions _ => ?_
  refine (follows_listing c e fun _ => rfl).bind fun properties _ => ?_
  have rest := (follows_modules c e).bind fun modules _ =>
    (follows_sayAll (countNotes ⟨version, variableNames, commands, generatorExpressions,
      properties, modules⟩)).bind fun _ _ => follows_pure (⟨version, variableNames, commands,
        generatorExpressions, properties, modules⟩ : Vocabulary)
  rwa [List.append_nil, List.append_nil] at rest

theorem queries_ne_nil : (vocabulary c e).queries ≠ [] := by
  rw [(follows_vocabulary c e).queries, plan, List.singleton_append, follow]
  split <;> simp

theorem ok_of_bind {α β : Type} {x : Gathering α} {f : α → Gathering β} {b : β}
    (h : (x >>= f).result = .ok b) : ∃ a, x.result = .ok a ∧ (f a).result = .ok b := by
  rw [Recorded.result_bind] at h
  cases result : x.result with
  | ok a =>
    rw [result] at h
    exact ⟨a, rfl, h⟩
  | error error =>
    rw [result] at h
    cases h

/-- Each part of a vocabulary is what its own operation gives. -/
structure IsGathered (v : Vocabulary) : Prop where
  version : (version c).result = .ok v.version
  variableNames : (variableNames c e).result = .ok v.variableNames
  commands : (commandMap c e).result = .ok v.commands
  generatorExpressions : (generatorExpressions c e).result = .ok v.generatorExpressions
  properties : (properties c e).result = .ok v.properties
  modules : (modules c e).result = .ok v.modules

theorem isGathered_of_ok {v : Vocabulary} (h : (vocabulary c e).result = .ok v) :
    IsGathered c e v := by
  obtain ⟨_, -, h⟩ := ok_of_bind h
  obtain ⟨version, isVersion, h⟩ := ok_of_bind h
  obtain ⟨_, -, h⟩ := ok_of_bind h
  obtain ⟨variableNames, areVariables, h⟩ := ok_of_bind h
  obtain ⟨commands, areCommands, h⟩ := ok_of_bind h
  obtain ⟨generatorExpressions, areExpressions, h⟩ := ok_of_bind h
  obtain ⟨properties, areProperties, h⟩ := ok_of_bind h
  obtain ⟨modules, areModules, h⟩ := ok_of_bind h
  obtain ⟨_, -, h⟩ := ok_of_bind h
  cases h
  exact ⟨isVersion, areVariables, areCommands, areExpressions, areProperties, areModules⟩

/-- How the query with a line ends a run over a table. -/
inductive Ends (responses : NameMap String) : String → Error → Prop
  | noResponse {line : String} : responses.get? line = none →
      Ends responses line (.externalTool s!"mock-cmake {line}"
        s!"no response registered for '{line}'")
  | missingVersion {output : String} : responses.get? "--version" = some output →
      Help.version? (Text.trim output) = none →
      Ends responses "--version" (.missingVersion "mock-cmake --version" (Text.trim output))
  | unsearchable {command output : String} :
      responses.get? ("--help-command " ++ command) = some output →
      Help.isSearchable command = false →
      Ends responses ("--help-command " ++ command)
        (.pattern (s!"signature pattern for '{command}': Compiled regex exceeds size limit of " ++
          s!"{Help.searchLimit} bytes."))
  | emptyModule {name output : String} :
      responses.get? ("--help-module " ++ name) = some output →
      Help.moduleFunctions? (Text.trim output) = none →
      Ends responses ("--help-module " ++ name)
        (.emptyModule name ("mock-cmake --help-module " ++ name))

theorem answer_of_none {responses : NameMap String} {q : Query}
    (h : responses.get? q.line = none) : (Client.ofTable responses).answer q.arguments =
      .error (.externalTool s!"mock-cmake {q.line}" s!"no response registered for '{q.line}'") := by
  rw [Query.line] at h ⊢
  simp only [Client.ofTable, h]

theorem answer_of_some {responses : NameMap String} {q : Query} {output : String}
    (h : responses.get? q.line = some output) :
    (Client.ofTable responses).answer q.arguments = .ok (Text.trim output) := by
  rw [Query.line] at h
  simp only [Client.ofTable, h]

theorem failure?_of_none {responses : NameMap String} {q : Query}
    (h : responses.get? q.line = none) :
    failure? (.ofTable responses) q = some (.externalTool s!"mock-cmake {q.line}"
      s!"no response registered for '{q.line}'") := by
  rw [failure?, answer_of_none h]

theorem failure?_of_some {responses : NameMap String} {q : Query} {output : String}
    (h : responses.get? q.line = some output) :
    failure? (.ofTable responses) q =
      rejection? (.ofTable responses) (Text.trim output) q := by
  rw [failure?, answer_of_some h]

theorem commandLine_moduleHelp (name : String) :
    Client.commandLine "mock-cmake" (Query.moduleHelp name).arguments =
      "mock-cmake --help-module " ++ name := by
  rw [← String.toList_inj]
  simp [Client.commandLine, argumentLine, Query.arguments]

theorem ends_of_failure? {responses : NameMap String} {q : Query} {error : Error}
    (h : failure? (.ofTable responses) q = some error) : Ends responses q.line error := by
  cases found : responses.get? q.line with
  | none =>
    rw [failure?_of_none found] at h
    cases h
    exact .noResponse found
  | some output =>
    rw [failure?_of_some found] at h
    cases q with
    | version =>
      rw [rejection?] at h
      split at h
      · cases h
      · rename_i none
        cases h
        exact .missingVersion found none
    | command name =>
      rw [rejection?] at h
      split at h
      · cases h
      · rename_i tooLarge
        cases h
        rw [Query.line_command] at found ⊢
        exact .unsearchable found (Bool.eq_false_iff.mpr tooLarge)
    | moduleHelp name =>
      rw [rejection?] at h
      split at h
      · cases h
      · rename_i none
        cases h
        rw [Query.line_moduleHelp] at found ⊢
        have printed := commandLine_moduleHelp name
        exact printed ▸ .emptyModule found none
    | _ => cases h

theorem failure?_of_ends {responses : NameMap String} {q : Query} {error : Error}
    (h : Ends responses q.line error) : failure? (.ofTable responses) q = some error := by
  generalize same : q.line = line at h
  cases h with
  | noResponse none =>
    subst same
    exact failure?_of_none none
  | missingVersion found none =>
    obtain rfl : q = .version := Query.line_injective same
    rw [failure?_of_some found, rejection?, none]
    rfl
  | @unsearchable command _ found tooLarge =>
    rw [← Query.line_command] at same found
    obtain rfl : q = .command command := Query.line_injective same
    rw [failure?_of_some found, rejection?, tooLarge]
    rfl
  | @emptyModule name _ found none =>
    rw [← Query.line_moduleHelp] at same found
    obtain rfl : q = .moduleHelp name := Query.line_injective same
    rw [failure?_of_some found, rejection?, none, ← commandLine_moduleHelp]
    rfl

theorem not_ends_iff {responses : NameMap String} {q : Query} :
    (∀ error, ¬Ends responses q.line error) ↔ failure? (.ofTable responses) q = none := by
  rw [Option.eq_none_iff_forall_ne_some]
  constructor
  · intro h error failed
    exact h error (ends_of_failure? failed)
  · intro h error ends
    exact h error (failure?_of_ends ends)

def askedLines (responses : NameMap String) (e : Extraction) : List String :=
  (vocabulary (.ofTable responses) e).queries.map argumentLine

/-- A run over a table goes through the lines of a plan: all of them, or up to the one that ends the
run. -/
structure GoesThrough (responses : NameMap String) (e : Extraction) (plan : List String) :
    Prop where
  isPart : askedLines responses e <+: plan
  ok : (∃ v, (vocabulary (.ofTable responses) e).result = .ok v) ↔
    askedLines responses e = plan ∧ ∀ line ∈ plan, ∀ error, ¬Ends responses line error
  gathered : ∀ v, (vocabulary (.ofTable responses) e).result = .ok v →
    IsGathered (.ofTable responses) e v
  failed : ∀ error, (vocabulary (.ofTable responses) e).result = .error error →
    ∃ done last rest, plan = done ++ last :: rest ∧ askedLines responses e = done ++ [last] ∧
      (∀ line ∈ done, ∀ error, ¬Ends responses line error) ∧ Ends responses last error

theorem goesThrough_plan (responses : NameMap String) (e : Extraction) :
    GoesThrough responses e ((plan (kept (.ofTable responses) e).toList e).map Query.line) := by
  have follows := follows_vocabulary (.ofTable responses) e
  have asked : askedLines responses e =
      (follow (.ofTable responses) (plan (kept (.ofTable responses) e).toList e)).1.map
        Query.line := by
    rw [askedLines, follows.queries, List.map_map]
    rfl
  have ended := follows.error
  cases result : (vocabulary (.ofTable responses) e).result with
  | ok v =>
    rw [result, error?] at ended
    obtain ⟨all, passed⟩ := follow_of_none ended.symm
    rw [all] at asked
    refine ⟨asked ▸ List.prefix_rfl, ⟨fun _ => ⟨asked, ?_⟩, fun _ => ⟨v, result⟩⟩,
      fun v => isGathered_of_ok _ _, ?_⟩
    · rw [List.forall_mem_map]
      exact fun q mem => not_ends_iff.mpr (passed q mem)
    · intro error failed
      rw [result] at failed
      cases failed
  | error error =>
    rw [result, error?] at ended
    obtain ⟨done, q, rest, split, isAsked, passed, failed⟩ := follow_of_some ended.symm
    have ends := ends_of_failure? failed
    rw [isAsked] at asked
    rw [split]
    refine ⟨?_, ⟨?_, ?_⟩, fun v => isGathered_of_ok _ _, ?_⟩
    · rw [asked, List.append_cons done q rest]
      exact (List.prefix_append _ rest).map Query.line
    · rintro ⟨v, ok⟩
      rw [result] at ok
      cases ok
    · rintro ⟨-, none⟩
      exact absurd ends (none q.line (List.mem_map_of_mem (by simp)) error)
    · intro error' result'
      rw [result] at result'
      cases result'
      refine ⟨done.map Query.line, q.line, rest.map Query.line, by simp, by simpa using asked, ?_,
        ends⟩
      rw [List.forall_mem_map]
      exact fun p mem => not_ends_iff.mpr (passed p mem)

theorem mem_kept {responses : NameMap String} {e : Extraction} {command : String} :
    command ∈ kept (.ofTable responses) e ↔
      (∃ output, responses.get? "--help-command-list" = some output ∧
        Help.IsTrimmedLine output command) ∧ command ∉ e.excludedCommands := by
  have line : Query.commandList.line = "--help-command-list" := rfl
  rw [kept, ← line]
  cases found : responses.get? Query.commandList.line with
  | none =>
    rw [answer_of_none found]
    simp
  | some output =>
    rw [answer_of_some found]
    simp [Help.listingEntries_trim, Help.mem_listingEntries]

theorem map_line_plan (commands : List String) (e : Extraction) :
    (plan commands e).map Query.line =
      ["--version", "--help-variable-list", "--help-command-list"] ++
        commands.map ("--help-command " ++ ·) ++
          ["--help-manual " ++ e.manual, "--help-property-list"] ++
            e.modules.map ("--help-module " ++ ·) := by
  have version : Query.version.line = "--version" := rfl
  have variableList : Query.variableList.line = "--help-variable-list" := rfl
  have commandList : Query.commandList.line = "--help-command-list" := rfl
  have propertyList : Query.propertyList.line = "--help-property-list" := rfl
  simp [plan, Function.comp_def, version, variableList, commandList, propertyList,
    Query.line_command, Query.line_manual, Query.line_moduleHelp]

/-- A run asks for the version, the variables and the commands, then about each command that is
kept in ascending order, and then for the manual, the properties and each module. It ends well if
nothing ends it; otherwise the query that ends it is the last. -/
theorem vocabulary_ofTable (responses : NameMap String) (e : Extraction) :
    ∃ kept : List String, kept.Pairwise (· < ·) ∧
      (∀ command, command ∈ kept ↔
        (∃ output, responses.get? "--help-command-list" = some output ∧
          Help.IsTrimmedLine output command) ∧ command ∉ e.excludedCommands) ∧
      GoesThrough responses e
        (["--version", "--help-variable-list", "--help-command-list"] ++
          kept.map ("--help-command " ++ ·) ++
            ["--help-manual " ++ e.manual, "--help-property-list"] ++
              e.modules.map ("--help-module " ++ ·)) := by
  refine ⟨(kept (.ofTable responses) e).toList, (kept (.ofTable responses) e).ascending,
    fun command => mem_kept, ?_⟩
  rw [← map_line_plan]
  exact goesThrough_plan responses e

end Gather
end CMakeGrammar
