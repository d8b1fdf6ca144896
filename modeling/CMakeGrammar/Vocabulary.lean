import CMakeGrammar.NameSet
import CMakeGrammar.NameMap
/-! The vocabulary of one CMake installation: what its help names, by kind. -/
namespace CMakeGrammar

/-- The commands that a module declares, and the uppercase words of its help. -/
structure ModuleEntry where
  name : String
  functions : NameSet
  keywords : NameSet
  deriving DecidableEq, Inhabited

structure Vocabulary where
  version : String
  variableNames : NameSet
  /-- Each command with the keywords of its signatures. -/
  commands : NameMap NameSet
  generatorExpressions : NameSet
  properties : NameSet
  modules : NameMap ModuleEntry
  deriving DecidableEq, Inhabited

inductive Category
  | variableNames | commands | generatorExpressions | properties | moduleFunctions | moduleKeywords
  deriving DecidableEq, Repr

namespace Category

def all : List Category :=
  [variableNames, commands, generatorExpressions, properties, moduleFunctions, moduleKeywords]

def label : Category → String
  | variableNames => "variables"
  | commands => "commands"
  | generatorExpressions => "generator expressions"
  | properties => "properties"
  | moduleFunctions => "module functions"
  | moduleKeywords => "module keywords"

theorem mem_all (c : Category) : c ∈ all := by cases c <;> simp [all]

end Category

namespace Vocabulary

def count (v : Vocabulary) : Category → Nat
  | .variableNames => v.variableNames.size
  | .commands => v.commands.size
  | .generatorExpressions => v.generatorExpressions.size
  | .properties => v.properties.size
  | .moduleFunctions => (v.modules.values.flatMap (·.functions.toList)).length
  | .moduleKeywords => (v.modules.values.flatMap (·.keywords.toList)).length

def commandsWithoutKeywords (v : Vocabulary) : List String :=
  (v.commands.entries.filter (·.2.isEmpty)).map Prod.fst

end Vocabulary
end CMakeGrammar
