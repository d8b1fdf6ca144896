import CMakeGrammar.Template.Frame
import CMakeGrammar.Recorded
import CMakeGrammar.Log
import CMakeGrammar.Alternation
/-! Helpers: what a place or a block can call. Some compute a value; the others write text, and
those that open blocks decide in which contexts the body is rendered. -/
namespace CMakeGrammar.Template
open Text (Position Cursor)

/-- Work in a template: what is said on the way goes to the log. -/
abbrev Rendering (ε : Type) := Recorded LogEntry (Halt ε)

structure Argument where
  written : Option String
  value : Located

namespace Argument

def detail (a : Argument) : String :=
  "PathAndJson \x7b relative_path: " ++ Cause.optional a.written ++ ", value: " ++
    a.value.detail ++ " \x7d"

end Argument

inductive ValueHelper
  | len | lookup
  deriving DecidableEq, Repr

inductive Predicate
  | eq | ne | gt | gte | lt | lte | and | or | not
  deriving DecidableEq, Repr

inductive TextHelper
  | alternation | ifTrue | ifFalse | each | withValue | raw | log
  deriving DecidableEq, Repr

inductive Helper
  | value (h : ValueHelper)
  | predicate (p : Predicate)
  | text (h : TextHelper)
  deriving DecidableEq, Repr

namespace ValueHelper

def all : List ValueHelper := [len, lookup]

def name : ValueHelper → String
  | len => "len"
  | lookup => "lookup"

def given? (args : List Argument) (index : Nat) : Option Json :=
  match args[index]? with
  | some a => if a.value.isMissing then none else some a.value.value
  | none => none

def compares (holds : Ordering → Bool) (a b : Json) : Bool := (Value.compare? a b).any holds

def lookUp (args : List Argument) : Except Cause Located :=
  match args with
  | [] => .error (.missingParam "lookup" 0)
  | [_] => .error (.missingParam "lookup" 1)
  | container :: key :: _ =>
    let found := match container.value.value, key.value.value with
      | .array items, .integer i => if 0 ≤ i then items[i.toNat]? else none
      | .object members, .string k => members.lookup k
      | _, _ => none
    match found with
    | some v => .ok (.derived v)
    | none => .error (.missingValue none)

def call (h : ValueHelper) (args : List Argument) : Except Cause Located :=
  match h with
  | len =>
    match given? args 0 with
    | some v => .ok (.derived (.integer (Value.size v)))
    | none => .error (.missingNamedParam h.name "x")
  | lookup => lookUp args

end ValueHelper

namespace Predicate

def all : List Predicate := [eq, ne, gt, gte, lt, lte, and, or, not]

def name : Predicate → String
  | eq => "eq"
  | ne => "ne"
  | gt => "gt"
  | gte => "gte"
  | lt => "lt"
  | lte => "lte"
  | and => "and"
  | or => "or"
  | not => "not"

def required (h : Predicate) (args : List Argument) (index : Nat) : Except Cause Json :=
  match ValueHelper.given? args index with
  | some v => .ok v
  | none => .error (.missingParam h.name index)

def relates (h : Predicate) (holds : Json → Json → Bool) (args : List Argument) :
    Except Cause Bool := do
  let x ← h.required args 0
  let y ← h.required args 1
  return holds x y

def isTrue (a : Argument) : Bool := Value.isTrue false a.value.value

/-- Whether it holds of some parameters. `and` and `or` take any number of them, and one without a
value is not true. -/
def holds (h : Predicate) (args : List Argument) : Except Cause Bool :=
  match h with
  | eq => h.relates (fun a b => a == b) args
  | ne => h.relates (fun a b => !(a == b)) args
  | gt => h.relates (ValueHelper.compares (·.isGT)) args
  | gte => h.relates (ValueHelper.compares (·.isGE)) args
  | lt => h.relates (ValueHelper.compares (·.isLT)) args
  | lte => h.relates (ValueHelper.compares (·.isLE)) args
  | and => .ok (args.all isTrue)
  | or => .ok (args.any isTrue)
  | not => do return !Value.isTrue false (← h.required args 0)

end Predicate

namespace TextHelper

def all : List TextHelper := [alternation, ifTrue, ifFalse, each, withValue, raw, log]

def name : TextHelper → String
  | alternation => "regex_alternation"
  | ifTrue => "if"
  | ifFalse => "unless"
  | each => "each"
  | withValue => "with"
  | raw => "raw"
  | log => "log"

def reportName : TextHelper → String
  | ifFalse => "if"
  | h => h.name

end TextHelper

namespace Helper

def ofName? (s : String) : Option Helper :=
  ((ValueHelper.all.find? fun h => h.name = s).map value).or <|
    ((Predicate.all.find? fun h => h.name = s).map predicate).or <|
      (TextHelper.all.find? fun h => h.name = s).map text

end Helper

structure Failure where
  cause : Cause
  position : Option Position

abbrev Body := StateT Scope (Rendering Failure) (List Char)

namespace Failure

/-- The position of the innermost node that has one stays. -/
def within (position : Option Position) (f : Failure) : Failure :=
  { f with position := f.position.or position }

end Failure

structure Invocation where
  args : List Argument
  named : List (String × Argument)
  bindings : Bindings
  body : Option Body
  otherwise : Option Body

namespace Invocation

def fail {α : Type} (cause : Cause) : Rendering Failure α := .fail (.failed ⟨cause, none⟩)

def overflow {α : Type} : Rendering Failure α := .fail .overflow

def say (source : LogSource) (level : LogLevel) (text : String) : Rendering Failure Unit :=
  .record (.said source level text)

def part (body : Option Body) : Body := body.getD (pure [])

def write (text : List Char) : Body := do
  let s ← get
  let (shown, pen) := s.pen.write text
  set { s with pen }
  return shown

def entering (frame : Frame) (body : Body) : Body := do
  let outer := (← get).frames
  modify (·.enter frame)
  let text ← body
  modify fun s => { s with frames := outer }
  return text

def names? : Json → Option (List String)
  | .array items => some (Json.strings items)
  | .string s => some [s]
  | _ => none

/-- An alternation is escaped for use between double quotes. -/
def alternation (a : Argument) : Rendering Failure (List Char) :=
  match names? a.value.value with
  | some names => pure (Json.escapeChars (Alternation.ofNames names).toList)
  | none => fail .notNames

def namedValue? (i : Invocation) (name : String) : Option Json :=
  (i.named.lookup name).map fun a => a.value.value

def namedBool (i : Invocation) (name : String) : Bool :=
  match i.namedValue? name with
  | some (.bool b) => b
  | _ => false

def choose (i : Invocation) (wanted : Bool) (a : Argument) : Body :=
  if Value.isTrue (i.namedBool "includeZero") a.value.value = wanted then part i.body
  else part i.otherwise

def inside (v : Located) : Located :=
  match v with
  | .constant v => .derived v
  | v => v

/-- The names that a block binds to the key of one round and to its value. Of two equal names the
one for the key counts. -/
def bound (b : Bindings) (value : Located) (key : Json) : List (String × Located) :=
  (b.key.map (·, .derived key)).toList ++ (b.value.map (·, value)).toList

def roundData (last index : Nat) : List (String × Json) :=
  [("first", .bool (index = 0)), ("last", .bool (index = last)), ("index", .integer index)]

def itemFrame (i : Invocation) (container : Located) (last index : Nat) (value : Json) : Frame :=
  let v := container.below (toString index) value
  ⟨v, roundData last index, bound i.bindings v (.integer index), []⟩

def memberFrame (i : Invocation) (container : Located) (last index : Nat)
    (member : String × Json) : Frame :=
  let v := container.below member.1 member.2
  ⟨v, ("key", .string member.1) :: roundData last index, bound i.bindings v (.string member.1), []⟩

def rounds (body : Body) : List Frame → Body
  | [] => pure []
  | frame :: frames => do
    modify (·.turn frame)
    let text ← body
    return text ++ (← rounds body frames)

def frames? (i : Invocation) (a : Argument) : Option (List Frame) :=
  match a.value.value with
  | .array items =>
    if items.isEmpty && i.otherwise.isSome then none
    else some (items.mapIdx (i.itemFrame a.value (items.length - 1)))
  | .object members =>
    if members.isEmpty && i.otherwise.isSome then none
    else some (members.mapIdx (i.memberFrame a.value (members.length - 1)))
  | _ => none

def each (i : Invocation) (a : Argument) : Body :=
  match i.body with
  | none => pure []
  | some body =>
    match i.frames? a, i.otherwise with
    | some frames, _ => entering ⟨a.value, [], [], []⟩ (rounds body frames)
    | none, some otherwise => otherwise
    | none, none => fail (.missingValue a.written)

/-- The data of a loop stays at hand inside. -/
def withValue (i : Invocation) (a : Argument) : Body := do
  if Value.isTrue false a.value.value then
    let v := inside a.value
    let bound := match i.bindings.key with
      | some _ => []
      | none => (i.bindings.value.map (·, v)).toList
    entering ⟨v, (← get).loopData, bound, []⟩ (part i.body)
  else
    match i.otherwise with
    | some otherwise => otherwise
    | none => fail (.missingValue a.written)

def logged (a : Argument) : String :=
  let text := String.ofList (Value.print a.value.value)
  match a.written with
  | some path => path ++ ": " ++ text
  | none => text

def log (i : Invocation) : Rendering Failure (List Char) :=
  let level := match i.namedValue? "level" with
    | some (.string s) => s
    | _ => "info"
  match LogLevel.ofName? level with
  | some level => do
    say .templateMessages level (", ".intercalate (i.args.map logged))
    return []
  | none => fail (.unknownLevel level)

def call (h : TextHelper) (i : Invocation) : Body :=
  match h, i.args with
  | .raw, _ => part i.body
  | .log, _ => i.log
  | h, [] => fail (.missingParam h.reportName 0)
  | .alternation, a :: _ => alternation a
  | .ifTrue, a :: _ => i.choose true a
  | .ifFalse, a :: _ => i.choose false a
  | .each, a :: _ => i.each a
  | .withValue, a :: _ => i.withValue a

end Invocation
end CMakeGrammar.Template
