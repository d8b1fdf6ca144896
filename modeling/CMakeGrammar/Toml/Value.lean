import CMakeGrammar.Shape
import CMakeGrammar.Text.Cursor
/-! TOML documents: tables of values that know where they stand in the text. How a table came about
decides whether it may be added to. -/
namespace CMakeGrammar.Toml
open Text (Position Cursor)

structure Span where
  position : Position
  first : Nat
  last : Nat
  deriving DecidableEq, Repr, Inhabited

namespace Span

def between (c later : Cursor) : Span := ⟨c.position, c.offset, later.offset⟩

def through (a b : Span) : Span := { a with last := b.last }

end Span

/-- `moment` is a date, a time, or both; no setting is one. -/
inductive Scalar
  | text (s : String)
  | integer (n : Int)
  | real (x : Binary64)
  | truth (b : Bool)
  | moment
  deriving DecidableEq, Repr

structure Key where
  name : String
  span : Span
  deriving DecidableEq, Repr, Inhabited

/-- A table has a header of its own, is implied by the header of one below it, is made by dotted
keys, or is written between braces. -/
inductive Origin
  | header
  | implied
  | dotted
  | inline
  deriving DecidableEq, Repr

inductive Value
  | scalar (span : Span) (content : Scalar)
  | array (span : Span) (items : List Value)
  | table (origin : Origin) (span : Option Span) (entries : List (Key × Value))
  | tables (elements : List Value)

namespace Value

def empty : Value := table .header none []

instance : Inhabited Value := ⟨empty⟩

/-- A table that only follows from a path has no place in the text. -/
def span? : Value → Option Span
  | scalar span _ => some span
  | array span _ => some span
  | table _ span _ => span
  | tables elements =>
    match elements.head?.bind tableSpan?, elements.getLast?.bind tableSpan? with
    | some first, some last => some (first.through last)
    | _, _ => none
where
  tableSpan? : Value → Option Span
    | table _ span _ => span
    | _ => none

def shape : Value → Shape
  | scalar _ (.text s) => .text s
  | scalar _ (.integer n) => .integer n
  | scalar _ (.real x) => .real x
  | scalar _ (.truth b) => .truth b
  | scalar _ .moment => .map
  | array .. => .sequence
  | tables _ => .sequence
  | table .. => .map

end Value

def find? (name : String) (entries : List (Key × Value)) : Option Value :=
  (entries.find? fun e => e.1.name = name).map Prod.snd

def replace (key : Key) (v : Value) : List (Key × Value) → List (Key × Value)
  | [] => []
  | e :: entries => if e.1.name = key.name then (e.1, v) :: entries else e :: replace key v entries

end CMakeGrammar.Toml
