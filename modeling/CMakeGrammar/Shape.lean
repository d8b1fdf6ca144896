import CMakeGrammar.Json.Basic
import CMakeGrammar.Language
import CMakeGrammar.Text.Quoted
/-! What a value turns out to be where another kind of value is expected, and how that is told. -/
namespace CMakeGrammar

inductive Shape
  | null
  | truth (b : Bool)
  | integer (n : Int)
  | real (x : Binary64)
  | text (s : String)
  | sequence
  | map
  deriving DecidableEq, Repr

namespace Shape

def describe (style : NumberStyle) : Shape → String
  | null => "null"
  | truth b => s!"boolean `{b}`"
  | integer n => s!"integer `{n}`"
  | real x => s!"floating point `{style.binary64 x}`"
  | text s => s!"string {Text.quoted s}"
  | sequence => "sequence"
  | map => "map"

def mismatch (style : NumberStyle) (found : Shape) (expected : String) : String :=
  s!"invalid type: {found.describe style}, expected {expected}"

end Shape

def Json.shape : Json → Shape
  | .null => .null
  | .bool b => .truth b
  | .integer n => .integer n
  | .real x => .real x
  | .string s => .text s
  | .array _ => .sequence
  | .object _ => .map

/-- A language is given by its name; anything else is told apart. -/
def Language.ofJson? : Json → Except String Language
  | .string s =>
    match ofName? s with
    | some l => .ok l
    | none => .error (unknownMessage s)
  | value => .error (value.shape.mismatch .document "a string")

end CMakeGrammar
