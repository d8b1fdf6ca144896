import CMakeGrammar.Shell.Program.Search
import CMakeGrammar.Shell.Program.System
import CMakeGrammar.Shell.Program.Value
/-! The programs of the system, by their names, and how programs are run. -/
namespace CMakeGrammar.Shell

def magic : Chars := "\x7fELF".toList

def fileOf (name : String) : List UInt8 := bytesOfChars (magic ++ name.toList)

namespace Program

open Shell.Action

def test (isBracketed : Bool) (arguments : List Chars) : Action Unit := do
  let name := if isBracketed then "[" else "test"
  if isBracketed && arguments.getLast? ≠ some [']'] then say name "missing ']'".toList 2
  else
    let words := if isBracketed then arguments.dropLast else arguments
    match Condition.holds (Builtin.pathsIn (← get).files) words with
    | .ok answer => setStatus (if answer then 0 else 1)
    | .error fault => say name fault.message 2

def all (self : Interpreter) : List (String × (List Chars → Action Unit)) :=
  [("[", test true), ("cat", cat), ("cut", cut), ("echo", echo), ("env", env self), ("expr", expr),
    ("false", fun _ => setStatus 1), ("grep", grep), ("head", printing "head" startOf),
    ("printf", printf), ("pwd", pwd), ("sed", sed), ("sleep", sleep),
    ("tail", printing "tail" endOf), ("test", test false), ("tr", tr),
    ("true", fun _ => setStatus 0), ("wc", wc)]

end Program

namespace Interpreter

open Shell.Action

def runTool (self : Interpreter) (tool : Chars) (words : List Chars) : Action Unit := do
  match String.ofList tool, (Program.all self).lookup (String.ofList tool) with
  | _, some act => self.inSubshell (act words.tail)
  | "sh", none => self.inNewShell (words.headD tool) (self.enterBy words.tail)
  | "dash", none => self.inNewShell (words.headD tool) (self.enterBy words.tail)
  | _, none => return

def launch (self : Interpreter) (path : Chars) (words : List Chars) : Action Unit := do
  let files := (← get).files
  let bytes := match files.read (pathOf path) with
    | .ok bytes => charsOfBytes bytes
    | .error _ => []
  if magic.isPrefixOf bytes then runTool self (bytes.drop magic.length) words
  else if ['#', '!'].isPrefixOf bytes then
    let isBlank (c : Char) : Bool := c = ' ' || c = '\t'
    let line := ((bytes.drop 2).takeWhile (· ≠ '\n')).dropWhile isBlank
    let runner := line.takeWhile (!isBlank ·)
    let behind := (line.drop runner.length).dropWhile isBlank
    let argument := (behind.reverse.dropWhile isBlank).reverse
    let arguments := if argument.isEmpty then [path] else [argument, path]
    match files.find (pathOf runner) with
    | .ok (.program ..) => self.execute (.program runner (runner :: arguments ++ words.tail))
    | .ok _ =>
      complain (words.headD path ++ ": Permission denied".toList)
      setStatus 126
    | .error _ =>
      complain (words.headD path ++ ": not found".toList)
      setStatus 127
  else self.inNewShell path (self.enterFile path words.tail)

end Interpreter
end CMakeGrammar.Shell
