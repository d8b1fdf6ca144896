import CMakeGrammar.Template.Syntax
import CMakeGrammar.Json.Printer
import CMakeGrammar.Json.Reader
import CMakeGrammar.Text.Quoted
/-! Values in a template: how they print, which of them count as true, and how two compare. -/
namespace CMakeGrammar.Template

namespace Value

def number (style : NumberStyle) : Json → String
  | .integer n => toString n
  | .real x => style.binary64 x
  | _ => ""

mutual

def print : Json → List Char
  | .null => []
  | .bool b => (toString b).toList
  | .string s => s.toList
  | .array items => '[' :: printItems items ++ [']']
  | .object _ => "[object]".toList
  | number => (Value.number .document number).toList

def printItems : List Json → List Char
  | [] => []
  | [item] => print item
  | item :: items => print item ++ ',' :: ' ' :: printItems items

end

/-- A number counts as true unless it is zero, or smaller than the least number with all its digits;
with `zeroCounts` every number does. -/
def isTrue (zeroCounts : Bool) : Json → Bool
  | .null => false
  | .bool b => b
  | .integer n => zeroCounts || n != 0
  | .real (.finite _ mantissa _) => zeroCounts || Nat.pow 2 52 ≤ mantissa
  | .real _ => zeroCounts
  | .string s => !s.isEmpty
  | .array items => !items.isEmpty
  | .object members => !members.isEmpty

def size : Json → Nat
  | .array items => items.length
  | .object members => members.length
  | .string s => s.utf8ByteSize
  | _ => 0

def fraction? : Json → Option (Int × Nat)
  | .integer n => some (n, 0)
  | .real (.finite negative mantissa exponent) =>
    let size : Int := mantissa * Nat.pow 2 exponent.toNat
    some (if negative then -size else size, (-exponent).toNat)
  | _ => none

def numeric? : Json → Option (Int × Nat)
  | .string s => (Json.parseNumber? s).bind fraction?
  | v => fraction? v

/-- Values compare if both are texts, both are truth values, or both are numbers, of which one may
be written as a text. -/
def compare? (a b : Json) : Option Ordering :=
  match a, b with
  | .string a, .string b => some (compare a b)
  | .bool a, .bool b => some (compare a b)
  | a, b => do
    let (n, p) ← numeric? a
    let (m, q) ← numeric? b
    return compare (n * Int.pow 2 q) (m * Int.pow 2 p)

mutual

def detail : Json → String
  | .null => "Null"
  | .bool b => "Bool(" ++ toString b ++ ")"
  | .string s => "String(" ++ Text.quoted s ++ ")"
  | .array items => "Array [" ++ ", ".intercalate (detailItems items) ++ "]"
  | .object members => "Object \x7b" ++ ", ".intercalate (detailMembers members) ++ "\x7d"
  | number => "Number(" ++ Value.number .document number ++ ")"

def detailItems : List Json → List String
  | [] => []
  | item :: items => detail item :: detailItems items

def detailMembers : List (String × Json) → List String
  | [] => []
  | (key, value) :: members => (Text.quoted key ++ ": " ++ detail value) :: detailMembers members

end

end Value

/-- A value together with where it comes from. One from the document knows its path there. -/
inductive Located
  | constant (value : Json)
  | derived (value : Json)
  | document (value : Json) (path : List String)
  | missing

namespace Located

def value : Located → Json
  | constant v => v
  | derived v => v
  | document v _ => v
  | missing => .null

def isMissing : Located → Bool
  | missing => true
  | _ => false

def path? : Located → Option (List String)
  | document _ path => some path
  | _ => none

def below (parent : Located) (step : String) (value : Json) : Located :=
  match parent.path? with
  | some path => document value (path ++ [step])
  | none => derived value

def detail : Located → String
  | constant v => "Constant(" ++ Value.detail v ++ ")"
  | derived v => "Derived(" ++ Value.detail v ++ ")"
  | document v path =>
    "Context(" ++ Value.detail v ++ ", [" ++ ", ".intercalate (path.map Text.quoted) ++ "])"
  | missing => "Missing"

end Located
end CMakeGrammar.Template
