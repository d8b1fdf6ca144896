import CMakeGrammar.Template.Pen
import CMakeGrammar.Template.Value
import CMakeGrammar.Json.Reader
/-! Contexts: what paths are looked up in. Each block that goes into a value adds a frame; the
outermost frame holds the document. -/
namespace CMakeGrammar.Template

/-- A context value, the data of the loop that is in it, the names bound to values, and the
templates that have been given a name inside. -/
structure Frame where
  value : Located
  data : List (String × Json)
  bound : List (String × Located)
  templates : List (String × List Node)

inductive Cause
  | unknownHelper (name : String)
  | unknownTemplate (name : String)
  | unknownDecoration (name : String)
  | includesItself
  | noBody
  | bodyRequired
  | missingParam (helper : String) (index : Nat)
  | missingNamedParam (helper param : String)
  | missingValue (path : Option String)
  | notNames
  | notAText
  | notAnIndex (step : String)
  | unknownLevel (name : String)
  deriving DecidableEq, Repr

namespace Cause

def optional : Option String → String
  | some s => "Some(" ++ Text.quoted s ++ ")"
  | none => "None"

def message : Cause → String
  | unknownHelper name => "Helper not found " ++ name
  | unknownTemplate name => "Partial not found " ++ name
  | unknownDecoration name => "Decorator not found " ++ name
  | includesItself => "Can not include current template in partial"
  | noBody => "Partial block cound not be found"
  | bodyRequired => "Block content is required."
  | missingParam helper index =>
    "Helper/Decorator " ++ helper ++ " param at index " ++ toString index ++
      " required but not found"
  | missingNamedParam helper param =>
    "Helper/Decorator " ++ helper ++ " param with name " ++ param ++ " required but not found"
  | missingValue path => "Failed to access variable in strict mode " ++ optional path
  | notNames => "Invalid param type, string or array of strings expected"
  | notAText => "Invalid param type, String expected"
  | notAnIndex step => "Cannot access array/vector with string index, " ++ step
  | unknownLevel name => "Invalid logging level: " ++ name

end Cause

/-- The frames around a place, innermost first, and the document. The template that is rendered has
a name itself. `body` is what the body shows that the template around the place has been included
with, and `ownName` the name of the template that was begun last. -/
structure Scope where
  document : Json
  frames : List Frame
  template : String × List Node
  body : Option (List Char)
  ownName : Option String
  pen : Pen

namespace Scope

def ofDocument (name : String) (nodes : List Node) (document : Json) : Scope :=
  ⟨document, [⟨.document document [], [], [], []⟩], (name, nodes), none, none, .start⟩

def enter (frame : Frame) (s : Scope) : Scope :=
  { s with frames := frame :: s.frames }

def turn (frame : Frame) (s : Scope) : Scope :=
  match s.frames with
  | [] => s.enter frame
  | f :: outer => { s with frames := { frame with templates := f.templates } :: outer }

def define (name : String) (nodes : List Node) (s : Scope) : Scope :=
  match s.frames with
  | [] => s
  | f :: outer => { s with frames := { f with templates := (name, nodes) :: f.templates } :: outer }

def bodyName : String := "@partial-block"

def template? (s : Scope) (name : String) (body : Option (List Node)) :
    Option (Option String × List Node) :=
  let defined := s.frames.findSome? fun f => f.templates.lookup name
  if name = bodyName then body.map (none, ·)
  else if defined.isNone && s.template.1 = name then some (some name, s.template.2)
  else (defined.or body).map (none, ·)

def innermost (s : Scope) : Located :=
  match s.frames with
  | [] => .document s.document []
  | frame :: _ => frame.value

/-- The context some frames further out; beyond the outermost it is the innermost one again. -/
def outward (s : Scope) (levels : Nat) : Located :=
  match s.frames[levels]? with
  | some frame => frame.value
  | none => s.innermost

def bound? (s : Scope) (name : String) : Option Located :=
  s.frames.findSome? fun frame => frame.bound.lookup name

def loopData (s : Scope) : List (String × Json) := (s.frames.head?.map Frame.data).getD []

def dataOf (s : Scope) (level : Nat) (name : String) : Located :=
  match s.frames[level]?.bind fun frame => frame.data.lookup name with
  | some value => .derived value
  | none => .missing

def index? (step : String) : Option Nat :=
  let digits := match step.toList with
    | '+' :: digits => digits
    | digits => digits
  let n := Json.natOfDigits digits
  if !digits.isEmpty && digits.all Char.isDigit && n < UInt64.size then some n else none

def step (v : Located) (name : String) : Except Cause Located :=
  match v, v.value with
  | .missing, _ => .ok .missing
  | v, .array items =>
    match index? name with
    | none => .error (.notAnIndex name)
    | some i => .ok ((items[i]?.map (v.below name)).getD .missing)
  | v, .object members => .ok (((members.lookup name).map (v.below name)).getD .missing)
  | _, _ => .ok .missing

def walk (v : Located) : List String → Except Cause Located
  | [] => .ok v
  | name :: names =>
    match step v name with
    | .ok v => walk v names
    | .error e => .error e

def names (steps : List Step) : List String :=
  steps.filterMap fun
    | .name s => some s
    | _ => none

/-- What is reached through a path from the document. A value that does not come from it is walked
into as it is. -/
def lookup (s : Scope) : Path → Except Cause Located
  | .loopData level name _ => .ok (s.dataOf level name)
  | .relative steps _ =>
    let (ups, rest) := Path.leadingUps steps
    match rest with
    | .root :: rest => walk (.document s.document []) (names rest)
    | .name n :: rest =>
      match s.bound? n with
      | some v => walk v (names rest)
      | none => walk (s.outward ups) (names (.name n :: rest))
    | rest => walk (s.outward ups) (names rest)

end Scope
end CMakeGrammar.Template
