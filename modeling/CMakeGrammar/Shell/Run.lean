import CMakeGrammar.Shell.Command
/-! Running shell scripts. Every command writes to its channels and ends with a status; the status
of the last one is that of the script. How deep commands may lie in each other is bounded by fuel.
-/
namespace CMakeGrammar.Shell
namespace Interpreter

open Shell.Action

def testing (act : Action Unit) : Action Unit := do
  let tested := (← get).tested
  modify fun s => { s with tested := true }
  act
  modify fun s => { s with tested }

/-! ### Commands that hold others -/

def goesOn : Action Bool := do
  match (← get).flow with
  | .onward => return true
  | .again (n + 2) =>
    setFlow (.again (n + 1))
    return false
  | .again _ =>
    setFlow .onward
    return true
  | .leaving (n + 2) =>
    setFlow (.leaving (n + 1))
    return false
  | .leaving _ =>
    setFlow .onward
    return false
  | _ => return false

def inLoop (act : Action Unit) : Action Unit := do
  modify fun s => { s with loops := s.loops + 1 }
  act
  modify fun s => { s with loops := s.loops - 1 }

def round (self : Interpreter) (stopsOn : Bool) (condition body : List Statement) (status : Nat) :
    Action (Option Nat) := do
  testing (self.execute (.statements condition))
  if ← isOnward then
    if ((← get).status = 0) = stopsOn then
      setStatus status
      return none
    else
      self.execute (.statements body)
      let s ← get
      return if ← goesOn then some s.status else none
  else return if ← goesOn then some status else none

def roundFor (self : Interpreter) (name : Chars) (body : List Statement) (text : Chars) :
    Action Bool := do
  assign name text
  if ← isOnward then
    self.execute (.statements body)
    goesOn
  else return false

def anyFits (self : Interpreter) (subject : Chars) : List Word → Action Bool
  | [] => return false
  | w :: others => do
    let pattern ← self.pattern w
    if !(← isOnward) then return true
    if Pattern.fits pattern subject then return true else anyFits self subject others

def select (self : Interpreter) (subject : Chars) : List Arm → Action Unit
  | [] => setStatus 0
  | .mk patterns body :: others => do
    if ← anyFits self subject patterns then
      if ← isOnward then
        if body.isEmpty then setStatus 0 else self.execute (.statements body)
    else select self subject others

def runCompound (self : Interpreter) : Compound → Action Unit
  | .group body => self.execute (.statements body)
  | .subshell body => do
    self.inSubshell (self.execute (.statements body))
    mourn
  | .choice condition body otherwise => do
    testing (self.execute (.statements condition))
    if ← isOnward then
      if (← get).status = 0 then self.execute (.statements body)
      else if otherwise.isEmpty then setStatus 0
      else self.execute (.statements otherwise)
  | .loop stopsOn condition body =>
    inLoop (following (round self stopsOn condition body) patience 0)
  | .each name words body => do
    let texts ← match words with
      | some words => self.allFields words
      | none => do pure (← get).arguments
    if ← isOnward then
      if texts.isEmpty then setStatus 0 else inLoop (eachOf (roundFor self name body) texts)
  | .select subject arms => do
    let text ← self.whole subject
    if ← isOnward then select self text arms

def runCommand (self : Interpreter) (c : Command) : Action Unit := do
  if (← get).isSet "noexec" then return
  match c with
  | .simple line bindings words rs => simple self line bindings words rs
  | .compound line c rs =>
    modify fun s => { s with line }
    redirected self line rs (runCompound self c)
  | .define name body =>
    modify fun s =>
      { s with
        functions := (name, body) :: s.functions.filter fun f => f.1 ≠ name
        status := 0 }

/-! ### Lists of commands -/

def stages (self : Interpreter) (status : Nat) : List Command → Action Unit
  | [] => return
  | [c] => do
    setStatus status
    self.inSubshell (self.execute (.command c))
    mourn
  | c :: others => do
    let n ← newPage []
    let channels := (← get).channels
    connect 1 (some (.pipe n))
    setStatus status
    self.inSubshell (self.execute (.command c))
    modify fun s => { s with channels }
    connect 0 (some (.pipe n))
    if ← isOnward then stages self status others
    putPage n []
    modify fun s => { s with channels }

/-- Whether a failure of the command counts where it is not looked at; others have commands in them
whose failure has counted already. -/
def failureCounts : List Command → Bool
  | [.simple ..] => true
  | [.compound _ (.subshell _) _] => true
  | [_] => false
  | _ => true

def runPipeline (self : Interpreter) : Pipeline → Action Unit
  | .mk negated commands => do
    let act := match commands with
      | [c] => self.execute (.command c)
      | _ => do stages self (← get).status commands
    if negated then
      testing act
      if ← isOnward then modify fun s => { s with status := if s.status = 0 then 1 else 0 }
    else
      act
      let s ← get
      if failureCounts commands && s.status ≠ 0 && !s.tested && s.isSet "errexit" &&
          s.flow = .onward then
        setFlow .exiting

def alternatives (self : Interpreter) : List (Bool × Pipeline) → Action Unit
  | [] => return
  | (onSuccess, p) :: others => do
    if ← isOnward then
      if ((← get).status = 0) = onSuccess then
        if others.isEmpty then runPipeline self p else testing (runPipeline self p)
      alternatives self others

def runAside (self : Interpreter) (act : Action Unit) : Action Unit := do
  let before ← get
  let process := before.lastProcess + 1
  self.inSubshell do
    connect 0 (some .nothing)
    modify fun s => { s with deaf := 2 :: 3 :: s.deaf, tested := false }
    act
  modify fun s =>
    let job : Job := ⟨process, s.lastProcess, s.status, none, s.clock, false⟩
    { s with
      jobs := job :: s.jobs
      aside := some process
      clock := before.clock
      status := 0 }

def runStatement (self : Interpreter) : Statement → Action Unit
  | .mk first others aside => do
    let act : Action Unit := do
      if others.isEmpty then runPipeline self first else testing (runPipeline self first)
      alternatives self others
    if aside then
      if !(← get).isSet "noexec" then runAside self act
    else act

def runAll (self : Interpreter) : List Statement → Action Unit
  | [] => return
  | s :: others => do
    runStatement self s
    if ← isOnward then runAll self others

/-! ### Scripts -/

def showLines (before after : Source) (isFirst : Bool) : Action Unit := do
  if (← get).isSet "verbose" then
    let size := before.rest.length - after.rest.length
    let ending := if after.rest.isEmpty then [] else ['\n']
    let text := before.rest.take size ++ ending
    let _ ← write 2 (if isFirst then text else text.drop 1)

def runLine (self : Interpreter) (isShown : Bool) (place : Source × Bool) :
    Action (Option (Source × Bool)) := do
  let source := { place.1 with aliases := (← get).aliases }
  match source.next with
  | .error (line, fault) =>
    if isShown then showLines source { source with rest := [] } place.2
    modify fun s => { s with line }
    fail ("Syntax error: ".toList ++ charsOf fault.message)
    return none
  | .ok none =>
    if isShown then showLines source { source with rest := [] } place.2
    return none
  | .ok (some (commands, after)) =>
    if isShown then showLines source after place.2
    let passed := if after.rest.isEmpty then 0 else 1 + after.linesRead
    modify fun s => { s with lineRead := after.line + passed }
    runAll self commands
    return if ← isOnward then some (after, false) else none

/-- Runs what was set to be run on an event. The status stays what it was, unless it is asked to
exit with another one. -/
def runTrap (self : Interpreter) (text : Chars) : Action Unit := do
  let before ← get
  setFlow .onward
  self.execute (.script (.ofText before.aliases text) false)
  modify fun s => { s with line := before.line }
  if ← isOnward then modify fun s => { s with status := before.status, flow := before.flow }

def step (self : Interpreter) : Task → Action Unit
  | .statements body => runAll self body
  | .command c => runCommand self c
  | .script source isShown => do
    let lineRead := (← get).lineRead
    following (runLine self isShown) patience (source, true)
    modify fun s => { s with lineRead }
  | .trap text => runTrap self text
  | .program path words => launch self path words

def ofDepth : Nat → Interpreter
  | 0 => ⟨fun _ => return, fun _ => return []⟩
  | n + 1 =>
    ⟨fun task s => step (ofDepth n) task s, fun word s => expandParts (ofDepth n) word s⟩

end Interpreter

def State.start (files : FileSystem) (name : Chars) : State where
  name
  arguments := []
  process := 2
  own := 2
  parent := 1
  lastProcess := 2
  values := [("PATH".toList, ⟨some usualPath.toList, true, false⟩)]
  hidden := []
  hiddenOptions := none
  functions := []
  aliases := []
  traps := []
  deaf := []
  pending := []
  options := []
  scan := (1, none)
  mask := 18
  limits := []
  jobs := []
  aside := none
  clock := 0
  tracked := []
  channels := [(0, .nothing), (1, .page 0), (2, .page 1)]
  pages := #[.ofChars [], .ofChars []]
  opened := #[]
  files
  directory := []
  line := 1
  lineRead := 1
  speaker := none
  tested := false
  traces := false
  loops := 0
  calls := 0
  status := 0
  outputStatus := 0
  endedBy := none
  flow := .onward

def depth : Nat := 1000000

/-- What a program of the system does among some files. It succeeds if its status, of which eight
bits count, is zero. -/
def behaviour (files : FileSystem) (program : Chars) : Behaviour := fun name arguments =>
  let self := Interpreter.ofDepth depth
  let words := charsOf name :: arguments.map charsOf
  let s := (self.runTool program words (State.start files (charsOf name))).2
  let written (n : Nat) : List UInt8 := bytesOfChars ((s.pages[n]?.map Page.toChars).getD [])
  ⟨s.status = 0, written 0, written 1⟩

end CMakeGrammar.Shell
