import CMakeGrammar.Shell.Builtin
/-! Calling a shell: by its arguments it reads a script from one of them, from a file, or from its
input. -/
namespace CMakeGrammar.Shell

def usualValues (parent : Nat) : List (Chars × Binding) :=
  [("IFS", usualSeparators), ("OPTIND", ['1']), ("PATH", usualPath.toList), ("PS1", "# ".toList),
    ("PS2", "> ".toList), ("PS4", "+ ".toList), ("PPID", decimal parent)].map fun (name, value) =>
    (name.toList, ⟨some value, false, false⟩)

def inherited (parent : Nat) (values : List (Chars × Binding)) : List (Chars × Binding) :=
  let usual := usualValues parent
  let fixed := ["IFS", "OPTIND", "PPID"]
  let given := values.filter fun v =>
    v.2.isExported && v.2.value.isSome && !fixed.contains (String.ofList v.1)
  given.map (fun v => (v.1, { v.2 with isFixed := false })) ++
    usual.filter fun v => (given.lookup v.1).isNone

namespace Interpreter

open Shell.Action

def refuseCall (text : Chars) : Action Unit := do
  complainPlainly ((← get).name ++ ": 0: ".toList ++ text)
  setStatus 2
  setFlow .exiting

def enter (self : Interpreter) (isShown : Bool) (name : Chars) (arguments : List Chars)
    (text : Chars) : Action Unit := do
  modify fun s => { s with name, arguments }
  self.execute (.script (.ofText (← get).aliases text) isShown)

def enterInput (self : Interpreter) (arguments : List Chars) : Action Unit := do
  match ← readAll with
  | .ok text => enter self true (← get).name arguments text
  | .error _ => return

def enterFile (self : Interpreter) (path : Chars) (arguments : List Chars) : Action Unit := do
  match (← get).files.read (pathOf path) with
  | .ok content => enter self true path arguments (charsOfBytes content)
  | .error .isADirectory => enter self true path arguments []
  | .error refusal =>
    refuseCall ("cannot open ".toList ++ path ++ ": ".toList ++
      (openReason "No such file" refusal).toList)

def enterBy (self : Interpreter) (arguments : List Chars) : Action Unit := do
  match Switched.read true [] arguments with
  | .error message => refuseCall message
  | .ok r =>
    let _ ← write 1 r.listing
    let readsInput := r.rest.isEmpty && !r.takesScript || r.options.contains "stdin"
    let options := switchOption false "monitor" r.options
    modify fun s =>
      { s with options := if readsInput then switchOption true "stdin" options else options }
    if r.options.contains "interactive" || r.options.contains "monitor" then
      complainPlainly ((← get).name ++ ": 0: ".toList ++ Builtin.noTerminal)
    match r.takesScript, r.rest with
    | true, [] => refuseCall "-c requires an argument".toList
    | true, text :: rest =>
      enter self false (rest.headD (← get).name) rest.tail text
      if readsInput && (← isOnward) then enterInput self rest.tail
    | false, rest =>
      if readsInput then enterInput self rest
      else enterFile self (rest.headD []) rest.tail
  self.finish

def directoryOf (values : List (Chars × Binding)) (files : FileSystem) : Chars :=
  match (values.lookup "PWD".toList).bind Binding.value with
  | some text =>
    match files.place (pathOf text) with
    | .ok place =>
      if text.head? = some '/' && place = files.current then text else Builtin.physical files
    | .error _ => Builtin.physical files
  | none => Builtin.physical files

/-- Runs a shell of its own, which knows of this one only what is exported. -/
def inNewShell (self : Interpreter) (name : Chars) (act : Action Unit) : Action Unit := do
  let before ← get
  let process := before.lastProcess + 1
  let values := inherited before.own before.values
  let directory := directoryOf values before.files
  set { before with
    name
    process
    own := process
    parent := before.own
    lastProcess := process
    values
    hidden := []
    hiddenOptions := none
    functions := []
    aliases := []
    traps := []
    deaf := before.deaf ++ (before.traps.filter fun (t : Nat × Chars) => t.2.isEmpty).map Prod.fst
    options := []
    scan := (1, none)
    jobs := []
    aside := none
    tracked := []
    directory
    line := 1
    speaker := none
    tested := false
    traces := false
    loops := 0
    calls := 0
    status := 0
    outputStatus := 0 }
  bind "PWD".toList directory
  publish "PWD".toList
  act
  resumeAfter self before (← get)

end Interpreter
end CMakeGrammar.Shell
