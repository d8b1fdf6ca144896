import CMakeGrammar.Number.Notation
import CMakeGrammar.Regex.Form
/-! The values that a filter wants a detail to have. A text is read as the narrowest kind of value
that it can be; one that is no other kind is an expression that the value must match. -/
namespace CMakeGrammar

inductive FieldValue
  | truth (b : Bool)
  | real (x : Binary64)
  | natural (n : Nat)
  | integer (n : Int)
  | pattern (text : String)
  deriving DecidableEq, Repr

namespace FieldValue

def digits? (text : List Char) : Option Nat :=
  if !text.isEmpty && text.all Char.isDigit then
    some (text.foldl (fun n c => 10 * n + (c.toNat - '0'.toNat)) 0)
  else none

def signed (text : List Char) : Bool × List Char :=
  match text with
  | '-' :: rest => (true, rest)
  | '+' :: rest => (false, rest)
  | _ => (false, text)

def signedDigits? (text : List Char) : Option Int :=
  let (negative, digits) := signed text
  (digits? digits).map fun n => if negative then -n else n

def natural? (text : List Char) : Option Nat :=
  if text.head? = some '-' then none
  else (digits? (signed text).2).filter (· < Nat.pow 2 64)

def integer? (text : List Char) : Option Int :=
  (signedDigits? text).filter fun n => -0x8000000000000000 ≤ n && n < 0x8000000000000000

def decimal? (negative : Bool) (text : List Char) : Option Decimal := do
  let isMark (c : Char) : Bool := c = 'e' || c = 'E'
  let mantissa := text.takeWhile (!isMark ·)
  let exponent ← match text.drop mantissa.length with
    | [] => some 0
    | _ :: exponent => signedDigits? exponent
  let whole := mantissa.takeWhile (· ≠ '.')
  let fraction := mantissa.drop (whole.length + 1)
  return ⟨negative, ← digits? (whole ++ fraction), exponent - fraction.length⟩

def real? (text : List Char) : Option Binary64 :=
  let (negative, size) := signed text
  let word := (String.ofList size).toLower
  if word = "inf" || word = "infinity" then some (.infinite negative)
  else if word = "nan" then some .notANumber
  else (decimal? negative size).map .ofDecimal

def truth? (text : String) : Option Bool :=
  if text = "true" then some true else if text = "false" then some false else none

/-- What a text wants; none for an expression that is not well formed. -/
def ofText? (text : String) : Option FieldValue :=
  ((truth? text).map truth).or <| ((natural? text.toList).map natural).or <|
    ((integer? text.toList).map integer).or <| ((real? text.toList).map real).or <|
      if Regex.isWellFormed text then some (pattern text) else none

def text : FieldValue → String
  | truth b => toString b
  | real x => NumberStyle.plain.binary64 x
  | natural n => toString n
  | integer n => toString n
  | pattern text => text

def rank : FieldValue → Nat
  | truth _ => 0
  | real .notANumber => 2
  | real _ => 1
  | natural _ => 3
  | integer _ => 4
  | pattern _ => 5

def order (a b : FieldValue) : Ordering :=
  match a, b with
  | truth a, truth b => compare a b
  | real a, real b => (compare (rank (real a)) (rank (real b))).then (a.order b)
  | natural a, natural b => compare a b
  | integer a, integer b => compare a b
  | pattern a, pattern b => compare a b
  | a, b => compare a.rank b.rank

end FieldValue
end CMakeGrammar
