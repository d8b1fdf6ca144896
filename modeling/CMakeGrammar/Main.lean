import CMakeGrammar.Program
import CMakeGrammar.Reply
/-! The program. It looks at the files that a run can read, does the run, and carries out what comes
of it. The executable is not started: its file holds a table of its replies. -/
namespace CMakeGrammar.Main

def observe (path : String) : IO (Option Entry) := do
  try
    let content := (← IO.FS.readBinFile path).toList
    match ((Text.Utf8.decode? content).bind Json.parse?).bind Reply.table? with
    | some replies => return some (.program content (Reply.behaviour replies))
    | none => return some (.file content)
  catch
    | .inappropriateType .. => return some .directory
    | _ => return none

def look (files : FileSystem) (paths : List String) : IO FileSystem :=
  paths.foldlM (fun files path => return match ← observe path with
    | some entry => files.add path entry
    | none => files) files

def holder (path : String) : String :=
  match FileSystem.parts path with
  | [_] => "."
  | parts => "/".intercalate parts.dropLast ++ "/"

def candidates (searchPath name : String) : List String :=
  if name.toList.contains '/' then [name]
  else (Text.splitAtChar ':' searchPath.toList).map fun directory =>
    String.ofList directory ++ "/" ++ name

def paths (e : Environment) (c : CommandLine) (config : Config) : List String :=
  let output := config.outputFor c.output
  (config.templateFor c.template).toList ++ [output, holder output] ++
    candidates e.path (config.executableFor c.cmake)

def lookAround (e : Environment) (c : CommandLine) (files : FileSystem) : IO FileSystem := do
  let files ← look files [".", c.configPath e]
  match Config.load files (c.configPath e) with
  | .ok config => look files (paths e c config)
  | .error _ => return files

def environment : IO Environment := do
  return {
    cmake := ← IO.getEnv "CMAKE"
    home := ← IO.getEnv "HOME"
    configHome := ← IO.getEnv "XDG_CONFIG_HOME"
    log := ← IO.getEnv "RUST_LOG"
    path := (← IO.getEnv "PATH").getD "/bin:/usr/bin" }

def files (e : Environment) (arguments : List String) : IO FileSystem := do
  let current := (FileSystem.parts (← IO.currentDir).toString).filter (· ≠ "")
  match CommandLine.parse e.cmake arguments with
  | .ok c => lookAround e c ⟨[], current⟩
  | .error _ => return ⟨[], current⟩

/-- The stack is not measured: inclusions go as deep as this. -/
def stack : Nat := 4096

/-- What a shell gives as the exit code of a program that was aborted. -/
def aborted : UInt32 := 134

def run (arguments : List String) : IO UInt32 := do
  let e ← environment
  let host : Host := ⟨e, ← files e arguments, true, stack⟩
  let (outcome, log) := Program.start host arguments
  for entry in log do IO.eprintln entry.line
  IO.print outcome.printed
  for (place, content) in host.files.changes outcome.files do
    IO.FS.writeBinFile ("/" ++ "/".intercalate place) ⟨content.toArray⟩
  match outcome.exitCode with
  | some code => return code.toUInt32
  | none =>
    IO.eprintln "thread 'main' has overflowed its stack"
    return aborted

end CMakeGrammar.Main

def main (arguments : List String) : IO UInt32 := CMakeGrammar.Main.run arguments
