/-! What can go wrong in a run, by kind, and the wording of each. -/
namespace CMakeGrammar

inductive Error
  | externalTool (command stderr : String)
  | launch (command reason : String)
  | missingVersion (command output : String)
  | emptyModule (moduleName command : String)
  | pattern (reason : String)
  | config (reason : String)
  | template (reason : String)
  | io (reason : String)
  | internal (reason : String)
  deriving DecidableEq, Repr

namespace Error

def message : Error → String
  | externalTool command stderr => s!"Command `{command}` failed with error: {stderr}"
  | launch command reason => s!"Could not run `{command}`: {reason}"
  | missingVersion command output =>
    s!"Could not determine CMake version from `{command}` output: {output}"
  | emptyModule moduleName command =>
    s!"No functions found for module {moduleName} in `{command}` output"
  | pattern reason => s!"Pattern error: {reason}"
  | config reason => s!"Configuration error: {reason}"
  | template reason => s!"Template error: {reason}"
  | io reason => s!"I/O error: {reason}"
  | internal reason => s!"Internal error: {reason}"

def category : Error → String
  | externalTool .. => "CMake Error"
  | launch .. => "CMake Error"
  | missingVersion .. => "Version Error"
  | emptyModule .. => "Module Error"
  | pattern _ => "Pattern Error"
  | config _ => "Configuration Error"
  | template _ => "Template Error"
  | io _ => "I/O Error"
  | internal _ => "Internal Error"

end Error
end CMakeGrammar
