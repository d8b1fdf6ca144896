/-! The questions that are put to a CMake executable. -/
namespace CMakeGrammar

inductive Query
  | version
  | variableList
  | commandList
  | propertyList
  | command (name : String)
  | manual (name : String)
  | moduleHelp (name : String)
  deriving DecidableEq, Repr

def argumentLine (arguments : List String) : String := " ".intercalate arguments

namespace Query

def arguments : Query → List String
  | version => ["--version"]
  | variableList => ["--help-variable-list"]
  | commandList => ["--help-command-list"]
  | propertyList => ["--help-property-list"]
  | command name => ["--help-command", name]
  | manual name => ["--help-manual", name]
  | moduleHelp name => ["--help-module", name]

def line (q : Query) : String := argumentLine q.arguments

end Query
end CMakeGrammar
