import CMakeGrammar.Shell.Program
/-! Simple commands: variables to set, the name of a command with its arguments, and redirections.
The name may be that of a function, of a command that the shell knows by itself, or of a program. -/
namespace CMakeGrammar.Shell

/-- A command by its words. It may bypass functions, and be looked for where programs usually are.
-/
structure Plan where
  words : List Chars
  bypasses : Bool
  isUsual : Bool

namespace Plan

def passedOn : List Chars → Option (Bool × List Chars)
  | [] => none
  | ('-' :: c :: letters) :: rest =>
    if c = '-' && letters.isEmpty then (if rest.isEmpty then none else some (false, rest))
    else if (c :: letters).all (· = 'p') then (passedOn rest).map fun r => (true, r.2)
    else none
  | words => some (false, words)

def passing (s : State) : Nat → Plan → Plan
  | 0, p => p
  | fuel + 1, p =>
    match p.words with
    | name :: rest =>
      if name = "command".toList && (p.bypasses || (s.functions.lookup name).isNone) then
        match passedOn rest with
        | some (isUsual, words) => passing s fuel ⟨words, true, isUsual⟩
        | none => p
      else p
    | [] => p

def ofWords (s : State) (words : List Chars) : Plan :=
  passing s (words.length + 1) ⟨words, false, false⟩

def name (p : Plan) : String := String.ofList (p.words.headD [])

def isSpecial (p : Plan) : Bool := !p.bypasses && specialCommands.contains p.name

def assigns (p : Plan) : Bool := ["alias", "export", "local", "readonly"].contains p.name

end Plan

namespace Interpreter

open Shell.Action

def arguments (self : Interpreter) (before : List Chars) : List Word → Action (List Chars)
  | [] => return before
  | w :: others => do
    let isBinding := (Plan.ofWords (← get) before).assigns
    let first ← match if isBinding then Part.binding? w else none with
      | some (name, value) => pure [name ++ '=' :: (← self.bound value)]
      | none => self.fields w
    if ← isOnward then arguments self (before ++ first) others else return before

def bindInTurn (self : Interpreter) (isExported : Bool) :
    List (Chars × Word) → Action (List (Chars × Chars))
  | [] => return []
  | (name, w) :: others => do
    let text ← self.bound w
    if ← isOnward then assign name text
    if ← isOnward then
      if isExported then publish name
      return (name, text) :: (← bindInTurn self isExported others)
    else return []

def withBindings (self : Interpreter) (bindings : List (Chars × Word))
    (act : List (Chars × Chars) → Action Unit) : Action Unit := do
  let s ← get
  let before := bindings.map fun b => (b.1, s.values.lookup b.1)
  let texts ← bindInTurn self true bindings
  if ← isOnward then act texts
  restoreAll before

def readAgain (self : Interpreter) (text : Chars) : Action Chars := do
  let source := { Source.ofText [] text with isHere := true }
  match (Reading.parts source.fuel .whole []).run source with
  | .ok (w, _) => joined self w
  | .error _ => return text

def trace (self : Interpreter) (stream : Option Stream) (texts : List (Chars × Chars))
    (words : List Chars) : Action Unit := do
  let s ← get
  if s.isSet "xtrace" && !s.traces then
    set { s with traces := true }
    let start ← readAgain self ((← value? "PS4".toList).getD [])
    modify fun after => { after with traces := s.traces, status := s.status }
    let shown := [' '].intercalate (texts.map (fun (name, text) => name ++ '=' :: text) ++ words)
    let _ ← writeTo stream (start ++ shown ++ ['\n'])

def speaking (name : Chars) (act : Action Unit) : Action Unit := do
  let speaker := (← get).speaker
  modify fun s => { s with speaker := some name }
  act
  modify fun s => { s with speaker }

def callLimit : Nat := 1000

def call (self : Interpreter) (body : Command) (arguments : List Chars) : Action Unit := do
  let before ← get
  if callLimit ≤ before.calls then
    fail s!"Maximum function recursion depth ({callLimit}) reached".toList
  else
    set { before with
      arguments
      hidden := []
      hiddenOptions := none
      scan := (1, none)
      loops := 0
      calls := before.calls + 1 }
    self.execute (.command body)
    let after ← get
    set { after with
      arguments := before.arguments
      hidden := before.hidden
      hiddenOptions := before.hiddenOptions
      options := after.hiddenOptions.getD after.options
      scan := before.scan
      loops := before.loops
      calls := before.calls
      flow := if after.flow = Flow.returning then .onward else after.flow }
    restoreAll after.hidden

def runProgram (self : Interpreter) (isUsual : Bool) (name : Chars) (arguments : List Chars) :
    Action Bool := do
  let files := (← get).files
  let found ←
    if name.contains '/' then
      pure (match files.find (pathOf name) with
        | .ok (.program ..) => .ok name
        | .ok _ => .error .noPermission
        | .error refusal => .error refusal)
    else if isUsual then pure (programPath files usualPath name)
    else findProgram name
  match found with
  | .ok path =>
    modify fun s => { s with endedBy := none }
    self.execute (.program path (name :: arguments))
    return true
  | .error refusal =>
    missing name refusal
    setStatus (if name.contains '/' && refusal = .noPermission then 126 else 127)
    return false

def replace (self : Interpreter) (name : Chars) (arguments : List Chars) : Action Unit := do
  if ← runProgram self false name arguments then
    setFlow (match (← get).endedBy with
      | some signal => .killed signal
      | none => .replaced)
  else setFlow .exiting

def perform (self : Interpreter) (p : Plan) : Action Unit := do
  let name := p.words.headD []
  let arguments := p.words.tail
  let s ← get
  let function := if p.bypasses then none else s.functions.lookup name
  match function, p.name, arguments, Builtin.named? self name with
  | some body, _, _, _ => call self body arguments
  | none, "exec", [], _ => setStatus 0
  | none, "exec", program :: arguments, _ =>
    speaking name (replace self program arguments)
  | none, "command", _, _ => speaking name (Builtin.tell arguments)
  | none, _, _, some act => speaking name (act arguments)
  | none, _, _, none =>
    if ← runProgram self p.isUsual name arguments then mourn
  if (function.isNone && !p.isSpecial && (← get).flow = .failing) then setFlow .onward

def simple (self : Interpreter) (line : Nat) (bindings : List (Chars × Word)) (words : List Word)
    (rs : List Redirection) : Action Unit := do
  modify fun s => { s with line, outputStatus := 0 }
  let fields ← arguments self [] words
  if !(← isOnward) then return
  let p := Plan.ofWords (← get) fields
  let targets ← targets self rs
  if !(← isOnward) then return
  let channels := (← get).channels
  let act (texts : List (Chars × Chars)) : Action Unit := do
    trace self (channels.lookup 2) texts fields
    if fields.isEmpty then modify fun s => { s with status := s.outputStatus }
    else perform self p
  if ← redirectAll self targets then
    if fields.isEmpty || p.isSpecial then
      let texts ← bindInTurn self (p.name = "exec" && 1 < p.words.length) bindings
      if ← isOnward then act texts
    else if bindings.isEmpty then act []
    else withBindings self bindings act
  else
    setStatus 2
    if p.isSpecial then setFlow .failing
  if p.name ≠ "exec" then modify fun s => { s with channels }

end Interpreter
end CMakeGrammar.Shell
