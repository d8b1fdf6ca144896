import CMakeGrammar.Shell.Arithmetic
import CMakeGrammar.Shell.Glob
import CMakeGrammar.Shell.Signal
/-! What words stand for: their variables, sums and commands are replaced, what comes of it is cut
into fields, and fields that are patterns of paths are replaced by those. -/
namespace CMakeGrammar.Shell

open Pattern (Glyph)

inductive Origin
  | quoted
  | plain
  | result
  deriving DecidableEq, Repr

/-- A piece of an expanded word. Something quoted makes a field even if it is empty; arguments are
kept apart. -/
inductive Piece
  | char (c : Char) (origin : Origin)
  | here
  | apart
  deriving DecidableEq, Repr

namespace Piece

def ofChars (origin : Origin) (text : Chars) : List Piece := text.map (char · origin)

def ofValue (quoted : Bool) (text : Chars) : List Piece :=
  if quoted then here :: ofChars .quoted text else ofChars .result text

def ofValues (quoted : Bool) (texts : List Chars) : List Piece :=
  [apart].intercalate (texts.map (ofValue quoted))

def asResult : Piece → Piece
  | char c .plain => char c .result
  | p => p

def toChars (between : Chars) (pieces : List Piece) : Chars :=
  pieces.flatMap fun
    | char c _ => [c]
    | apart => between
    | here => []

def toPattern (pieces : List Piece) : List Pattern.Item :=
  Pattern.ofGlyphs (pieces.flatMap fun
    | char c origin => [(c, origin = .quoted)]
    | apart => [(' ', true)]
    | here => [])

end Piece

structure Fields where
  done : List (List Glyph)
  current : Option (List Glyph)
  afterBlank : Bool

namespace Fields

def empty : Fields := ⟨[], none, false⟩

def close (f : Fields) (afterBlank : Bool) : Fields :=
  match f.current with
  | some field => ⟨field.reverse :: f.done, none, afterBlank⟩
  | none => f

/-- Adds a piece. Of the separators blanks only end fields, while each other one ends a field, be it
empty, together with the blanks around it. -/
def add (separators : Chars) (f : Fields) : Piece → Fields
  | .here => { f with current := some (f.current.getD []), afterBlank := false }
  | .apart => f.close false
  | .char c origin =>
    if origin = .result && separators.contains c then
      if Integer.isBlank c then f.close true
      else if f.current.isSome then f.close false
      else if f.afterBlank then { f with afterBlank := false }
      else { f with done := [] :: f.done }
    else
      let g : Glyph := (c, origin = .quoted)
      { f with current := some (g :: f.current.getD []), afterBlank := false }

def toList (f : Fields) : List (List Glyph) := (f.close false).done.reverse

def ofPieces (separators : Chars) (pieces : List Piece) : List (List Glyph) :=
  (pieces.foldl (add separators) empty).toList

end Fields

inductive Task
  | statements (body : List Statement)
  | command (c : Command)
  | script (s : Source) (isShown : Bool)
  | trap (text : Chars)
  | program (path : Chars) (words : List Chars)

structure Interpreter where
  execute : Task → Action Unit
  expand : Word → Action (List Piece)

namespace Interpreter

def finish (self : Interpreter) : Action Unit := do
  let s ← get
  match s.flow, s.traps.lookup 0 with
  | .killed .., _ => return
  | .replaced, _ => return
  | _, none => return
  | _, some text =>
    set { s with traps := s.traps.filter fun t => t.1 ≠ 0 }
    self.execute (.trap text)

/-- What a script goes on with after a process of its own has come to `after`: what has been written
stays, and how the process has ended. -/
def resume (before after : State) : State :=
  { before with
    pages := after.pages
    opened := after.opened
    files := { after.files with current := before.files.current }
    lastProcess := after.lastProcess
    clock := after.clock
    pending := after.pending
    status := after.status % 256 }

def deliver (self : Interpreter) (signal : Nat) : Action Unit := do
  let s ← get
  if signal = 9 then Action.setFlow (.killed 9)
  else if signal = 0 || s.deaf.contains signal then return
  else
    match s.traps.lookup signal with
    | some [] => return
    | some text => self.execute (.trap text)
    | none => if !Signal.harmless.contains signal then Action.setFlow (.killed signal)

def receive (self : Interpreter) : List (Nat × Nat) → Action Unit
  | [] => return
  | (process, signal) :: others => do
    if process ≠ (← get).own then
      modify fun s => { s with pending := (process, signal) :: s.pending }
    else if ← Action.isOnward then deliver self signal
    receive self others

def resumeAfter (self : Interpreter) (before after : State) : Action Unit := do
  let endedBy : Option Nat := match after.flow with
    | .killed signal => some signal
    | _ => none
  let status := match endedBy with
    | some signal => 128 + signal
    | none => after.status
  set { resume before { after with status } with pending := [], endedBy }
  receive self after.pending.reverse

def mourn : Action Unit := do
  match (← get).endedBy with
  | some signal =>
    if Signal.obituary signal ≠ "" then
      Action.complainPlainly (Signal.obituary signal).toList
  | none => return

def inSubshell (self : Interpreter) (act : Action Unit) : Action Unit := do
  let before ← get
  set { before with
    traps := before.traps.filter fun t => t.2.isEmpty
    own := before.lastProcess + 1
    lastProcess := before.lastProcess + 1
    jobs := []
    lineRead := 1 }
  act
  self.finish
  resumeAfter self before (← get)

def output (self : Interpreter) (body : List Statement) : Action Chars := do
  let n ← Action.newPage []
  let status := (← get).status
  self.inSubshell do
    modify fun s =>
      { s with channels := (1, .page n) :: s.channels.filter fun c => c.1 ≠ 1, tested := false }
    self.execute (.statements body)
  mourn
  modify fun s => { s with outputStatus := s.status, status }
  let text := (((← get).pages[n]?).map Page.toChars).getD []
  Action.putPage n []
  return ((text.filter (· ≠ '\x00')).reverse.dropWhile (· = '\n')).reverse

def valueOf? (name : Chars) : Action (Option Chars) := do
  let s ← get
  match name with
  | ['#'] => return some (decimal s.arguments.length)
  | ['?'] => return some (decimal s.status)
  | ['$'] => return some (decimal s.process)
  | ['-'] => return some (optionLetters s.isSet)
  | ['!'] => return s.aside.map fun (n : Nat) => decimal n
  | ['@'] => return some ([' '].intercalate s.arguments)
  | ['*'] => return some (((← Action.separators).take 1).intercalate s.arguments)
  | _ =>
    match (String.ofList name).toNat? with
    | some 0 => return some s.name
    | some (n + 1) => return s.arguments[n]?
    | none => Action.value? name

def joined (self : Interpreter) (w : Word) : Action Chars :=
  return Piece.toChars ((← Action.separators).take 1) (← self.expand w)

def requireValue (name : Chars) : Action Unit := do
  if (← get).isSet "nounset" then Action.fail (name ++ ": parameter not set".toList)

def isSeveral (quoted : Bool) (name : Chars) : Bool :=
  name = ['@'] || name = ['*'] && !quoted

def piecesOf (quoted : Bool) (name : Chars) : Action (List Piece) := do
  if isSeveral quoted name then
    return Piece.ofValues quoted (← get).arguments
  match ← valueOf? name with
  | some text => return Piece.ofValue quoted text
  | none =>
    requireValue name
    return Piece.ofValue quoted []

def adjusted (self : Interpreter) (quoted : Bool) (name : Chars) (a : Adjustment)
    (emptyCounts : Bool) (word : Word) : Action (List Piece) := do
  let value ← valueOf? name
  let isThere := match value with
    | some text => !(emptyCounts && text.isEmpty)
    | none => false
  let word := if quoted then word else Part.homesAtStart word
  let other : Action (List Piece) := do
    let pieces ← self.expand word
    return if quoted then .here :: pieces else pieces.map Piece.asResult
  let cut (pattern : List Pattern.Item → Chars → Chars) : Action (List Piece) := do
    if value.isNone then requireValue name
    if !(← Action.isOnward) then return []
    let items := Piece.toPattern (← self.expand word)
    if isSeveral quoted name then
      let texts := pattern items (['\x00'].intercalate (← get).arguments)
      return Piece.ofValues quoted (Text.splitAtChar '\x00' texts)
    else return Piece.ofValue quoted (pattern items (value.getD []))
  match a with
  | .length =>
    if value.isNone then requireValue name
    return Piece.ofValue quoted (decimal (value.getD []).length)
  | .orElse => if isThere then piecesOf quoted name else other
  | .ifSet => if isThere then other else return Piece.ofValue quoted []
  | .orSet =>
    if isThere then piecesOf quoted name
    else
      let text ← joined self word
      if ← Action.isOnward then Action.assign name text
      return Piece.ofValue quoted text
  | .orFail =>
    if isThere then piecesOf quoted name
    else
      let text ← joined self word
      let usual := if emptyCounts then "parameter not set or null" else "parameter not set"
      if ← Action.isOnward then
        Action.fail (name ++ ": ".toList ++ if word.isEmpty then usual.toList else text)
      return []
  | .cutStart long => cut (Pattern.cutStart long)
  | .cutEnd long => cut (Pattern.cutEnd long)
  | .unknown =>
    Action.fail "Bad substitution".toList
    return []

def assignAll : List (Chars × Int) → Action Unit
  | [] => return
  | (name, n) :: others => do
    Action.assign name (decimal n)
    if ← Action.isOnward then assignAll others

def arithmetic (text : Chars) : Action Chars := do
  let s ← get
  let given (name : Chars) : Chars := (s.binding name).value.getD []
  match ((Expression.ofText text).value given).run [] with
  | .ok (n, assigned) =>
    assignAll assigned.reverse
    return decimal n
  | .error (.illegalNumber other) =>
    Action.fail ("Illegal number: ".toList ++ other)
    return []
  | .error fault =>
    let message := match fault with
      | .expecting what => "expecting " ++ what
      | _ => "division by zero"
    Action.fail ("arithmetic expression: ".toList ++ message.toList ++ ": \"".toList ++ text ++
      ['"'])
    return []

def home (user : Chars) : Action (List Piece) := do
  let known (line : Chars) : Option Chars :=
    match Text.splitAtChar ':' line with
    | name :: _ :: _ :: _ :: _ :: directory :: _ => if name = user then some directory else none
    | _ => none
  let directory ←
    if user.isEmpty then Action.value? "HOME".toList
    else
      let users := ((← get).files.content? ["etc", "passwd"]).getD []
      pure ((Text.splitAtChar '\n' (charsOfBytes users)).findSome? known)
  return match directory with
    | some directory => Piece.ofChars .quoted directory
    | none => Piece.ofChars .plain ('~' :: user)

def pieces (self : Interpreter) (p : Part) : Action (List Piece) := do
  match p with
  | .text chars => return Piece.ofChars .plain chars
  | .quoted chars => return .here :: Piece.ofChars .quoted chars
  | .home user => home user
  | .value quoted name => piecesOf quoted name
  | .adjusted quoted name a emptyCounts word => adjusted self quoted name a emptyCounts word
  | .output quoted script => return Piece.ofValue quoted (← self.output script)
  | .arithmetic quoted expression =>
    let text ← joined self expression
    if ← Action.isOnward then return Piece.ofValue quoted (← arithmetic text) else return []

def expandParts (self : Interpreter) : Word → Action (List Piece)
  | [] => return []
  | p :: others => do
    if ← Action.isOnward then
      let first ← pieces self p
      return first ++ (← expandParts self others)
    else return []

def whole (self : Interpreter) (w : Word) : Action Chars := joined self (Part.homesAtStart w)

def bound (self : Interpreter) (w : Word) : Action Chars :=
  joined self (Part.homesInValue true (w.map Part.homesInside))

def pattern (self : Interpreter) (w : Word) : Action (List Pattern.Item) :=
  return Piece.toPattern (← self.expand (Part.homesAtStart w))

def fields (self : Interpreter) (w : Word) : Action (List Chars) := do
  let pieces ← self.expand (Part.homesAtStart w)
  let fields := Fields.ofPieces (← Action.separators) pieces
  let s ← get
  return if s.isSet "noglob" then fields.map Glob.toChars else fields.flatMap (Glob.paths s.files)

def allFields (self : Interpreter) : List Word → Action (List Chars)
  | [] => return []
  | w :: others => do
    let first ← fields self w
    if ← Action.isOnward then return first ++ (← allFields self others) else return first

end Interpreter
end CMakeGrammar.Shell
