import CMakeGrammar.Language
import CMakeGrammar.NameSet
import CMakeGrammar.Text.Blank
/-! Settings of a gathering run: what to ask for, what to leave out, and how to expand entries. -/
namespace CMakeGrammar

structure Extraction where
  placeholder : String
  languages : List Language
  stoplist : NameSet
  excludedCommands : NameSet
  modules : List String
  manual : String
  deriving DecidableEq

namespace Extraction

def standardStoplist : NameSet :=
  .ofList ["VS", "CXX", "IDE", "NOTFOUND", "NO_", "DFOO", "DBAR", "NEW", "GNU"]

/-- The commands that the grammar treats by rules of their own. -/
def standardExclusions : NameSet :=
  .ofList ["if", "elseif", "while", "macro", "function", "break", "continue", "return", "else",
    "endif", "endwhile", "endforeach", "endmacro", "endfunction"]

def standardModules : List String :=
  ["CMakePackageConfigHelpers", "ExternalProject", "FetchContent"]

def standard : Extraction where
  placeholder := "<LANG>"
  languages := Language.all
  stoplist := standardStoplist
  excludedCommands := standardExclusions
  modules := standardModules
  manual := "cmake-generator-expressions"

instance : Inhabited Extraction := ⟨standard⟩

inductive Fault
  | placeholder (written : String)
  | noLanguage
  | blankManual
  deriving DecidableEq, Repr

namespace Fault

def message : Fault → String
  | placeholder written =>
    s!"Placeholder '{written}' must be an angle-bracketed segment such as <LANG>"
  | noLanguage => "At least one language is required"
  | blankManual => "Generator expression manual name must not be empty"

end Fault

def isSegment (s : String) : Bool :=
  s.toList.head? == some '<' && s.toList.getLast? == some '>'

def fault? (e : Extraction) : Option Fault :=
  if !isSegment e.placeholder then some (.placeholder e.placeholder)
  else if e.languages.isEmpty then some .noLanguage
  else if (Text.trim e.manual).isEmpty then some .blankManual
  else none

theorem standard_fault? : standard.fault? = none := by decide +kernel

end Extraction
end CMakeGrammar
