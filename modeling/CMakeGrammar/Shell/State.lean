import CMakeGrammar.FileSystem
import CMakeGrammar.Shell.Integer
import CMakeGrammar.Shell.Option
import CMakeGrammar.Shell.Reader
/-! The state of a script as it runs: what is set, where its channels lead, what has been written,
and whether it still goes on. -/
namespace CMakeGrammar.Shell

def charsOfBytes (bytes : List UInt8) : Chars := bytes.map fun b => Char.ofNat b.toNat

def bytesOfChars (text : Chars) : List UInt8 := text.map fun c => c.toNat.toUInt8

def charsOf (text : String) : Chars := charsOfBytes (Text.Utf8.encode text)

def decimal (n : Int) : Chars := (toString n).toList

def pathOf (text : Chars) : String := Text.Utf8.decodeLossy (bytesOfChars text)

/-- Where a channel leads: nowhere, to a device without room, to a directory, to a page, to one that
somebody reads, or to a place in an open file. -/
inductive Stream
  | nothing
  | full
  | directory
  | page (n : Nat)
  | pipe (n : Nat)
  | file (n : Nat)
  deriving DecidableEq

structure Note where
  time : Nat
  process : Nat
  text : Chars

/-- What is written at one end and read at the other. The note that was taken last stands first in
`notes`, and `size` is how much has been written in all. -/
structure Page where
  front : Chars
  notes : List Note
  size : Nat

namespace Page

def ofChars (text : Chars) : Page := ⟨text, [], 0⟩

def toChars (p : Page) : Chars :=
  p.front ++ (p.notes.reverse.mergeSort fun a b => a.time ≤ b.time).flatMap Note.text

def write (n : Note) (p : Page) : Page :=
  { p with notes := n :: p.notes, size := p.size + n.text.length }

def forget (time : Nat) (isOne : Nat → Bool) (p : Page) : Page :=
  { p with notes := p.notes.filter fun n => n.time < time || !isOne n.process }

def limit : Nat := 262144

end Page

structure OpenFile where
  place : List String
  position : Nat
  appends : Bool

/-- Whether a script goes on with the next command. It may leave some loops or go on with their next
round, return from a function, fail, exit, give its place to a program, or be killed by a signal. -/
inductive Flow
  | onward
  | leaving (loops : Nat)
  | again (loops : Nat)
  | returning
  | failing
  | exiting
  | replaced
  | killed (signal : Nat)
  deriving DecidableEq, Repr

structure Binding where
  value : Option Chars
  isExported : Bool
  isFixed : Bool
  deriving DecidableEq

/-- A list of commands that nothing waits for, by the number of its process and the last one that it
has started: what it ends with, by which signal if by one, when that is, and whether it has been
waited for. -/
structure Job where
  process : Nat
  last : Nat
  status : Nat
  signal : Option Nat
  ends : Nat
  isWaitedFor : Bool

structure Tracked where
  name : Chars
  path : Chars
  isStale : Bool

/-- `process` is the script itself, and `own` the process that this state is one of, which may run
but a part of the script. `tested` is set where a failure is looked at, `outputStatus` to how the
last command ended whose output was put in place of it. `speaker` is the command that messages come
from. What a function hides is kept in `hidden` and `hiddenOptions`; signals that have never been
heeded are `deaf`, and those that have been sent to other processes `pending`. `scan` is how far the
arguments have been read for options: a word, and a letter in the word before it. `endedBy` is the
signal that the last process has ended by, if it has by one, and `lineRead` the line that the script
has been read up to. Time passes on the `clock` only where a script sleeps. -/
structure State where
  name : Chars
  arguments : List Chars
  process : Nat
  own : Nat
  parent : Nat
  lastProcess : Nat
  values : List (Chars × Binding)
  hidden : List (Chars × Option Binding)
  hiddenOptions : Option (List String)
  functions : List (Chars × Command)
  aliases : List (Chars × Chars)
  traps : List (Nat × Chars)
  deaf : List Nat
  pending : List (Nat × Nat)
  options : List String
  scan : Nat × Option Nat
  mask : Nat
  limits : List (Char × Chars)
  jobs : List Job
  aside : Option Nat
  clock : Nat
  tracked : List Tracked
  channels : List (Nat × Stream)
  pages : Array Page
  opened : Array OpenFile
  files : FileSystem
  directory : Chars
  line : Nat
  lineRead : Nat
  speaker : Option Chars
  tested : Bool
  traces : Bool
  loops : Nat
  calls : Nat
  status : Nat
  outputStatus : Nat
  endedBy : Option Nat
  flow : Flow

namespace State

def isSet (s : State) (option : String) : Bool := s.options.contains option

def binding (s : State) (name : Chars) : Binding :=
  (s.values.lookup name).getD ⟨none, false, false⟩

def bind (s : State) (name : Chars) (b : Binding) : State :=
  { s with values := (name, b) :: s.values.filter fun v => v.1 ≠ name }

end State

abbrev Action := StateM State

def usualSeparators : Chars := [' ', '\t', '\n']

def usualPath : String := "/usr/local/sbin:/usr/local/bin:/usr/sbin:/usr/bin:/sbin:/bin"

namespace Action

def isOnward : Action Bool := return (← get).flow = .onward

def setStatus (status : Nat) : Action Unit := modify fun s => { s with status }

def setFlow (flow : Flow) : Action Unit := modify fun s => { s with flow }

def following {α : Type} (act : α → Action (Option α)) : Nat → α → Action Unit
  | 0, _ => fun s => ((), s)
  | n + 1, x => fun s =>
    match act x s with
    | (some y, s) => following act n y s
    | (none, s) => ((), s)

def patience : Nat := 1000000000000

def eachOf {α : Type} (act : α → Action Bool) : List α → Action Unit
  | [] => fun s => ((), s)
  | x :: others => fun s =>
    match act x s with
    | (true, s) => eachOf act others s
    | (false, s) => ((), s)

def newPage (text : Chars) : Action Nat := do
  let n := (← get).pages.size
  modify fun s => { s with pages := s.pages.push (.ofChars text) }
  return n

def newFile (f : OpenFile) : Action Nat := do
  let n := (← get).opened.size
  modify fun s => { s with opened := s.opened.push f }
  return n

def writeFile (n : Nat) (text : Chars) : Action Unit :=
  modify fun s =>
    match s.opened[n]? with
    | none => s
    | some f =>
      let content := (s.files.content? f.place).getD []
      let position := if f.appends then content.length else f.position
      let before := content.take position
      let gap := List.replicate (position - content.length) (0 : UInt8)
      let after := content.drop (position + text.length)
      { s with
        files := s.files.fill f.place (before ++ gap ++ bytesOfChars text ++ after)
        opened := s.opened.setIfInBounds n { f with position := position + text.length } }

def writeTo (stream : Option Stream) (text : Chars) : Action Bool := do
  match stream with
  | some .nothing => return true
  | some (.page n) =>
    modify fun s => { s with pages := s.pages.modify n (.write ⟨s.clock, s.own, text⟩) }
    return true
  | some (.pipe n) =>
    modify fun s =>
      let s := { s with pages := s.pages.modify n (.write ⟨s.clock, s.own, text⟩) }
      if ((s.pages[n]?.map Page.size).getD 0) ≤ Page.limit then s
      else { s with flow := .killed 13 }
    return true
  | some (.file n) =>
    writeFile n text
    return true
  | _ => return text.isEmpty

def write (channel : Nat) (text : Chars) : Action Bool := do
  writeTo ((← get).channels.lookup channel) text

def complainPlainly (text : Chars) : Action Unit := do
  let _ ← write 2 (text ++ ['\n'])

def complain (text : Chars) : Action Unit := do
  let s ← get
  let speaker := match s.speaker with
    | some name => name ++ ": ".toList
    | none => []
  complainPlainly (s.name ++ ": ".toList ++ decimal s.line ++ ": ".toList ++ speaker ++ text)

def fail (text : Chars) : Action Unit := do
  complain text
  setStatus 2
  setFlow .failing

def putPage (n : Nat) (text : Chars) : Action Unit :=
  modify fun s => { s with pages := s.pages.setIfInBounds n (.ofChars text) }

def input : Action (Except String Chars) := do
  let s ← get
  match s.channels.lookup 0 with
  | none => return .error "Bad file descriptor"
  | some .directory => return .error "Is a directory"
  | some (.page n) => return .ok ((s.pages[n]?.map Page.toChars).getD [])
  | some (.pipe n) => return .ok ((s.pages[n]?.map Page.toChars).getD [])
  | some (.file n) =>
    match s.opened[n]? with
    | some f =>
      return .ok (charsOfBytes (((s.files.content? f.place).getD []).drop f.position))
    | none => return .ok []
  | _ => return .ok []

def consume (size : Nat) : Action Unit :=
  modify fun s =>
    let take (n : Nat) : State :=
      { s with pages := s.pages.modify n fun p => .ofChars (p.toChars.drop size) }
    match s.channels.lookup 0 with
    | some (.page n) => take n
    | some (.pipe n) => take n
    | some (.file n) =>
      { s with opened := s.opened.modify n fun f => { f with position := f.position + size } }
    | _ => s

def readAll : Action (Except String Chars) := do
  let text ← input
  match text with
  | .ok text => consume text.length
  | .error _ => pure ()
  return text

def value? (name : Chars) : Action (Option Chars) := return ((← get).binding name).value

def bind (name text : Chars) : Action Unit :=
  modify fun s =>
    let b := s.binding name
    let s := s.bind name
      { b with value := some text, isExported := b.isExported || s.isSet "allexport" }
    match String.ofList name with
    | "OPTIND" => { s with scan := (max 1 ((Integer.ofDecimal? text).getD 1).toNat, none) }
    | "PATH" => { s with tracked := [] }
    | _ => s

def assign (name text : Chars) : Action Unit := do
  if !isName name then fail (name ++ ": bad variable name".toList)
  else if ((← get).binding name).isFixed then fail (name ++ ": is read only".toList)
  else if name = "OPTIND".toList && (Integer.ofDecimal? text).all (· < 0) then
    fail ("Illegal number: ".toList ++ text)
  else bind name text

def unassign (name : Chars) : Action Unit := do
  if !isName name then fail (name ++ ": bad variable name".toList)
  else if ((← get).binding name).isFixed then fail (name ++ ": is read only".toList)
  else modify fun s => { s with values := s.values.filter fun v => v.1 ≠ name }

def restore (name : Chars) (before : Option Binding) : Action Unit :=
  modify fun s =>
    match before with
    | some b => s.bind name b
    | none => { s with values := s.values.filter fun v => v.1 ≠ name }

def restoreAll : List (Chars × Option Binding) → Action Unit
  | [] => return
  | (name, before) :: others => do
    restore name before
    restoreAll others

def publish (name : Chars) : Action Unit :=
  modify fun s => s.bind name { s.binding name with isExported := true }

def separators : Action Chars := return (← value? "IFS".toList).getD usualSeparators

end Action
end CMakeGrammar.Shell
