import CMakeGrammar.Gather
/-! Failures of a gathering: those of its client, and those of an answer that is not taken. A client
that runs commands fails as they do, so the two can be told apart. -/
namespace CMakeGrammar

inductive Error.IsOfCommand : Error → Prop
  | externalTool (command stderr : String) : IsOfCommand (.externalTool command stderr)
  | launch (command reason : String) : IsOfCommand (.launch command reason)

namespace Client

/-- All failures of the client are those of commands. -/
def FailsAsCommand (c : Client) : Prop :=
  ∀ arguments error, c.answer arguments = .error error → error.IsOfCommand

theorem failsAsCommand_ofTable (responses : NameMap String) :
    (ofTable responses).FailsAsCommand := by
  intro arguments error failed
  simp only [ofTable] at failed
  split at failed
  · cases failed
  · cases failed
    exact .externalTool _ _

theorem failsAsCommand_failing (stderr : String) : (failing stderr).FailsAsCommand := by
  rintro arguments error ⟨⟩
  exact .externalTool _ _

theorem failsAsCommand_ofExecutable (executable : String)
    (run : List String → Except String Output) : (ofExecutable executable run).FailsAsCommand := by
  intro arguments error failed
  simp only [ofExecutable] at failed
  split at failed
  · cases failed
    exact .launch _ _
  · split at failed
    · cases failed
    · cases failed
      exact .externalTool _ _

end Client

namespace Gather
variable {c : Client} {e : Extraction} {error : Error} {name : String}

theorem query_bind_eq_error_iff {α : Type} {q : Query} {f : String → Gathering α} :
    (c.query q >>= f).result = .error error ↔ c.answer q.arguments = .error error ∨
      ∃ output, c.answer q.arguments = .ok output ∧ (f output).result = .error error := by
  rw [Recorded.result_bind, Client.result_query]
  cases c.answer q.arguments <;> simp [bind, Except.bind]

theorem version_eq_error_iff : (version c).result = .error error ↔
    c.answer Query.version.arguments = .error error ∨
      ∃ output, c.answer Query.version.arguments = .ok output ∧ Help.version? output = none ∧
        error = .missingVersion (Client.commandLine c.name Query.version.arguments) output := by
  refine query_bind_eq_error_iff.trans (or_congr_right (exists_congr fun output =>
    and_congr_right fun _ => ?_))
  cases found : Help.version? output <;> simp [eq_comm]

theorem moduleEntry_eq_error_iff : (moduleEntry c e name).result = .error error ↔
    c.answer (Query.moduleHelp name).arguments = .error error ∨
      ∃ help, c.answer (Query.moduleHelp name).arguments = .ok help ∧
        Help.moduleFunctions? help = none ∧
        error = .emptyModule name (Client.commandLine c.name
          (Query.moduleHelp name).arguments) := by
  refine query_bind_eq_error_iff.trans (or_congr_right (exists_congr fun help =>
    and_congr_right fun _ => ?_))
  cases found : Help.moduleFunctions? help <;> simp [eq_comm]

/-- Where the client fails as a command, a missing version is that of an answer. -/
theorem exists_missingVersion_iff (fails : c.FailsAsCommand) :
    (∃ command output, (version c).result = .error (.missingVersion command output)) ↔
      ∃ output, c.answer Query.version.arguments = .ok output ∧ Help.version? output = none := by
  simp only [version_eq_error_iff]
  constructor
  · rintro ⟨command, _, failed | ⟨output, answered, none, -⟩⟩
    · cases fails _ _ failed
    · exact ⟨output, answered, none⟩
  · rintro ⟨output, answered, none⟩
    exact ⟨_, output, .inr ⟨output, answered, none, rfl⟩⟩

theorem exists_emptyModule_iff (fails : c.FailsAsCommand) :
    (∃ moduleName command,
        (moduleEntry c e name).result = .error (.emptyModule moduleName command)) ↔
      ∃ help, c.answer (Query.moduleHelp name).arguments = .ok help ∧
        Help.moduleFunctions? help = none := by
  simp only [moduleEntry_eq_error_iff]
  constructor
  · rintro ⟨moduleName, command, failed | ⟨help, answered, none, -⟩⟩
    · cases fails _ _ failed
    · exact ⟨help, answered, none⟩
  · rintro ⟨help, answered, none⟩
    exact ⟨name, _, .inr ⟨help, answered, none, rfl⟩⟩

end Gather
end CMakeGrammar
