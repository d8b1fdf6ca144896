import CMakeGrammar.Shell.Builtin.Control
import CMakeGrammar.Shell.Builtin.Name
import CMakeGrammar.Shell.Builtin.Place
import CMakeGrammar.Shell.Builtin.Process
import CMakeGrammar.Shell.Builtin.Variable
import CMakeGrammar.Shell.Printing
/-! The commands that the shell knows by itself, by their names. -/
namespace CMakeGrammar.Shell.Builtin

open Shell.Action

def print (arguments : List Chars) : Action Unit :=
  withOptions "" arguments fun given => do
    match given.operands with
    | [] => fail "usage: printf format [arg ...]".toList
    | format :: arguments =>
      let printed := printf format arguments
      complainAll printed.complaints
      emit printed.text printed.status

def times : Chars := "0m0.000000s 0m0.000000s\n0m0.000000s 0m0.000000s\n".toList

def named? (self : Interpreter) (name : Chars) : Option (List Chars → Action Unit) :=
  match String.ofList name with
  | ":" => some fun _ => setStatus 0
  | "." => some (source self)
  | "[" => some bracketed
  | "alias" => some setAliases
  | "bg" => some control
  | "break" => some (leaveLoops .leaving)
  | "cd" => some changeDirectory
  | "chdir" => some changeDirectory
  | "continue" => some (leaveLoops .again)
  | "echo" => some fun arguments => emit (echo arguments) 0
  | "eval" => some fun arguments => runText self false ([' '].intercalate arguments)
  | "exit" => some (leave .exiting)
  | "export" =>
    some (declare "export" Binding.isExported fun b => { b with isExported := true })
  | "false" => some fun _ => setStatus 1
  | "fg" => some control
  | "getopts" => some nextOption
  | "hash" => some hash
  | "jobs" => some jobs
  | "kill" => some (kill self)
  | "local" => some declareLocal
  | "printf" => some print
  | "pwd" => some workingDirectory
  | "read" => some read
  | "readonly" => some (declare "readonly" Binding.isFixed fun b => { b with isFixed := true })
  | "return" => some (leave .returning)
  | "set" => some fun arguments =>
    if arguments.isEmpty then listVariables else setOptions arguments
  | "shift" => some shift
  | "test" => some test
  | "times" => some fun _ => emit times 0
  | "trap" => some trap
  | "true" => some fun _ => setStatus 0
  | "type" => some type
  | "ulimit" => some ulimit
  | "umask" => some umask
  | "unalias" => some unalias
  | "unset" => some unset
  | "wait" => some wait
  | _ => none

end CMakeGrammar.Shell.Builtin
