import CMakeGrammar.FileSystem
import CMakeGrammar.Json.Reader
/-! Executables that answer from a table: each line of arguments has its reply, and any other line
is refused. -/
namespace CMakeGrammar

/-- An exit code counts only up to multiples of 256. -/
structure Reply where
  stdout : String
  stderr : String
  exitCode : Int
  deriving DecidableEq, Repr

namespace Reply

def printing (stdout : String) : Reply := ⟨stdout, "", 0⟩

def refusing (line : String) : Reply := ⟨"", s!"CMake Error: Unknown argument {line}\n", 1⟩

def output (r : Reply) : Output :=
  ⟨r.exitCode % 256 = 0, Text.Utf8.encode r.stdout, Text.Utf8.encode r.stderr⟩

def ofJson? : Json → Option Reply
  | .string stdout => some (printing stdout)
  | .object members =>
    match members.lookup "stdout", members.lookup "stderr", members.lookup "exit" with
    | some (.string stdout), some (.string stderr), some (.integer exitCode) =>
      some ⟨stdout, stderr, exitCode⟩
    | _, _, _ => none
  | _ => none

def table? : Json → Option (NameMap Reply)
  | .object members =>
    (members.mapM fun member => (ofJson? member.2).map (member.1, ·)).map NameMap.ofList
  | _ => none

def behaviour (replies : NameMap Reply) : Behaviour := fun _ arguments =>
  let line := argumentLine arguments
  ((replies.get? line).getD (refusing line)).output

end Reply
end CMakeGrammar
