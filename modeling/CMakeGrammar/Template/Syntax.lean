import CMakeGrammar.Json.Basic
import CMakeGrammar.NameMap
import CMakeGrammar.Text.Cursor
/-! Templates: text with places to fill in. A place holds a path to a value, or calls a helper with
parameters; a block calls a helper that decides how often its body is rendered. -/
namespace CMakeGrammar.Template
open Text (Position Cursor)

inductive Step
  | root
  | loop
  | up
  | name (s : String)
  deriving DecidableEq, Repr, Inhabited

/-- A path, with the text that it was written as. Loop data is that of the context `level` steps
further out. -/
inductive Path
  | relative (steps : List Step) (written : String)
  | loopData (level : Nat) (name : String) (written : String)
  deriving DecidableEq, Repr, Inhabited

namespace Path

def written : Path → String
  | relative _ w => w
  | loopData _ _ w => w

def leadingUps : List Step → Nat × List Step
  | .up :: steps => ((leadingUps steps).1 + 1, (leadingUps steps).2)
  | steps => (0, steps)

/-- A member step that says `this` goes nowhere. Loop data has one name; what follows it counts for
nothing. -/
def ofSteps (steps : List Step) (written : String) : Path :=
  let steps := steps.filter (· ≠ .name "this")
  match steps with
  | .loop :: rest =>
    match leadingUps rest with
    | (level, .name name :: _) => loopData level name written
    | _ => relative steps written
  | _ => relative steps written

end Path

mutual

inductive Param
  | path (p : Path)
  | literal (value : Json)
  | call (c : Call)
  | bare (p : Path)

inductive Call
  | mk (name : String) (params : List Param) (named : List (String × Param))

end

namespace Call

def of (name : String) (params : List Param) (named : List (String × Param)) : Call :=
  mk name params (NameMap.ofList named).entries

def name : Call → String
  | mk n _ _ => n

def params : Call → List Param
  | mk _ ps _ => ps

def named : Call → List (String × Param)
  | mk _ _ ns => ns

end Call

inductive Content
  | call (c : Call)
  | value (p : Param)

structure Bindings where
  value : Option String
  key : Option String
  deriving DecidableEq, Repr, Inhabited

inductive Target
  | written (name : String)
  | path (written : String)
  | computed (p : Param)

structure Inclusion where
  target : Target
  params : List Param
  named : List (String × Param)
  indent : Option (List Char)
  standsAlone : Bool

def Inclusion.name? (i : Inclusion) : Option String :=
  match i.target with
  | .written name => some name
  | _ => none

inductive Node
  | text (s : List Char)
  | place (position : Position) (raw : Bool) (content : Content)
  | block (position : Option Position) (standsAlone : Bool) (call : Call) (bindings : Bindings)
    (body : List Node) (otherwise : Option (List Node))
  /-- Another template in this one. It may be given a body, which stands in for it if there is no
  such template. -/
  | inclusion (position : Position) (i : Inclusion) (body : Option (List Node))
  | decoration (position : Position) (call : Call) (body : Option (List Node))

end CMakeGrammar.Template
