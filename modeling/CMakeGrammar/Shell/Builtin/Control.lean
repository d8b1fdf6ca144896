import CMakeGrammar.Shell.Builtin.Basic
/-! Commands that steer a script: they leave it or parts of it, set its options and arguments, or
run a text as part of it. -/
namespace CMakeGrammar.Shell.Builtin

open Shell.Action

def leave (flow : Flow) (arguments : List Chars) : Action Unit :=
  match arguments with
  | [] => setFlow flow
  | argument :: _ =>
    withNumber argument fun n => do
      setStatus n
      setFlow flow

def leaveLoops (flow : Nat → Flow) (arguments : List Chars) : Action Unit :=
  let argument := arguments.headD ['1']
  withNumber argument fun n => do
    let loops := (← get).loops
    if n = 0 then fail (illegalNumber argument)
    else
      setStatus 0
      if loops ≠ 0 then setFlow (flow (min n loops))

def setArguments (arguments : List Chars) : Action Unit :=
  modify fun s => { s with arguments, scan := (1, none) }

def shift (arguments : List Chars) : Action Unit :=
  withNumber (arguments.headD ['1']) fun n => do
    let s ← get
    if s.arguments.length < n then fail "can't shift that many".toList
    else
      setArguments (s.arguments.drop n)
      setStatus 0

def noTerminal : Chars := "can't access tty; job control turned off".toList

def setOptions (arguments : List Chars) : Action Unit := do
  match Switched.read false (← get).options arguments with
  | .error message => fail message
  | .ok r =>
    let silent := r.ending = ['-']
    modify fun s =>
      { s with options := r.options.filter fun name =>
          name ≠ "monitor" && !(silent && (name = "xtrace" || name = "verbose")) }
    if r.options.contains "monitor" then complain noTerminal
    if !r.rest.isEmpty || r.ending = ['-', '-'] then setArguments r.rest
    emit r.listing 0

def runText (self : Interpreter) (isShown : Bool) (text : Chars) : Action Unit := do
  let s ← get
  let source := Source.ofText s.aliases text
  if let .ok none := source.next then setStatus 0
  self.execute (.script source isShown)
  modify fun after => { after with line := s.line }

def scriptPath (files : FileSystem) (searchPath : String) (name : Chars) : Option Chars :=
  if name.contains '/' then some name
  else
    (FileSystem.directories searchPath).findSome? fun directory =>
      let path := if directory.isEmpty then name else charsOf directory ++ '/' :: name
      match files.find (pathOf path) with
      | .ok (.file _) => some path
      | .ok (.program ..) => some path
      | _ => none

def source (self : Interpreter) (arguments : List Chars) : Action Unit :=
  withOptions "" arguments fun given => do
    match given.operands with
    | [] => setStatus 0
    | name :: _ =>
      let s ← get
      let searchPath := pathOf ((s.binding "PATH".toList).value.getD [])
      match scriptPath s.files searchPath name with
      | none => fail (name ++ ": not found".toList)
      | some path =>
        match s.files.read (pathOf path) with
        | .error .isADirectory => setStatus 0
        | .error refusal =>
          fail ("cannot open ".toList ++ path ++ ": ".toList ++
            (openReason "No such file" refusal).toList)
        | .ok content =>
          set { s with speaker := some path }
          runText self true (charsOfBytes content)
          modify fun after => { after with
            speaker := s.speaker
            flow := if after.flow = .returning then .onward else after.flow }

end CMakeGrammar.Shell.Builtin
