import CMakeGrammar.Json.Basic
import CMakeGrammar.Json.Escape
/-! Reading JSON. A text is one value with blanks around it. An integer that does not fit in 64 bits
is read as a real number, and so is a zero with a sign. A real number is made of the digits that fit
in 64 bits by one multiplication with a power of ten, or by divisions: it need not be the nearest to
what is written. -/
namespace CMakeGrammar.Json

def isSpace (c : Char) : Bool :=
  c == ' ' || c == '\t' || c == '\n' || c == '\r'

def skipSpaces (cs : List Char) : List Char := cs.dropWhile isSpace

def digits? (cs : List Char) : Option (List Char × List Char) :=
  let digits := cs.takeWhile Char.isDigit
  if digits.isEmpty then none else some (digits, cs.drop digits.length)

def natOfDigits (digits : List Char) : Nat :=
  digits.foldl (fun n c => 10 * n + (c.toNat - '0'.toNat)) 0

def whole? (cs : List Char) : Option (List Char × List Char) :=
  match cs with
  | '0' :: rest => some (['0'], rest)
  | _ => digits? cs

def fraction? (cs : List Char) : Option (List Char × List Char) :=
  match cs with
  | '.' :: rest => digits? rest
  | _ => some ([], cs)

def exponent? (cs : List Char) : Option (Option Int × List Char) :=
  match cs with
  | e :: rest =>
    if e = 'e' || e = 'E' then
      match rest with
      | '-' :: rest => (digits? rest).map fun r => (some (-(natOfDigits r.1 : Int)), r.2)
      | '+' :: rest => (digits? rest).map fun r => (some (natOfDigits r.1), r.2)
      | rest => (digits? rest).map fun r => (some (natOfDigits r.1), r.2)
    else some (none, cs)
  | [] => some (none, [])

def isWord64 (n : Int) : Bool := -0x8000000000000000 ≤ n && n ≤ 0xffffffffffffffff

/-- Puts digits behind a number as long as it fits in 64 bits, and returns those that are left. -/
def absorb (n : Nat) : List Char → Nat × List Char
  | [] => (n, [])
  | c :: cs =>
    let longer := 10 * n + (c.toNat - '0'.toNat)
    if longer < UInt64.size then absorb longer cs else (n, c :: cs)

def greatestPower : Nat := 308

/-- A number times a power of ten; none where that is too great. Each step but the last divides by
the greatest power, which leaves nothing of any number after two of them. -/
def scale? : (steps : Nat) → Binary64 → Int → Option Binary64
  | 0, x, _ => some x
  | steps + 1, x, exponent =>
    if exponent.natAbs ≤ greatestPower then
      if exponent < 0 then some (x.div (.powerOfTen exponent.natAbs))
      else
        match x.mul (.powerOfTen exponent.natAbs) with
        | .infinite _ => none
        | product => some product
    else if x = .zero false then some x
    else if 0 < exponent then none
    else scale? steps (x.div (.powerOfTen greatestPower)) (exponent + greatestPower)

/-- A real number. Digits of the whole part that do not fit count as zeros, those of the fraction
not at all. -/
def realOf? (negative : Bool) (whole fraction : List Char) (exponent : Int) : Option Json :=
  let (n, wholeLeft) := absorb 0 whole
  let (n, fractionLeft) := absorb n fraction
  let places : Int := fraction.length - fractionLeft.length
  (scale? 3 (.ofNat n) (wholeLeft.length + exponent - places)).map fun x =>
    real (if negative then x.negate else x)

def numberOf? (negative : Bool) (whole fraction : List Char) (exponent : Option Int) :
    Option Json :=
  let n := natOfDigits whole
  let signed : Int := if negative then -n else n
  let isSignedZero := negative && n == 0
  if fraction.isEmpty && exponent.isNone && isWord64 signed && !isSignedZero then
    some (integer signed)
  else realOf? negative whole fraction (exponent.getD 0)

def number? (cs : List Char) : Option (Json × List Char) := do
  let (negative, cs) := match cs with
    | '-' :: rest => (true, rest)
    | _ => (false, cs)
  let (whole, cs) ← whole? cs
  let (fraction, cs) ← fraction? cs
  let (exponent, cs) ← exponent? cs
  return (← numberOf? negative whole fraction exponent, cs)

def word? (cs : List Char) : Option (Json × List Char) :=
  match cs with
  | 'n' :: 'u' :: 'l' :: 'l' :: rest => some (null, rest)
  | 't' :: 'r' :: 'u' :: 'e' :: rest => some (bool true, rest)
  | 'f' :: 'a' :: 'l' :: 's' :: 'e' :: rest => some (bool false, rest)
  | _ => none

def literal? (cs : List Char) : Option (String × List Char) :=
  match cs with
  | '"' :: rest => (content? none rest).map fun r => (String.ofList r.1, r.2)
  | _ => none

mutual

def value? : Nat → List Char → Option (Json × List Char)
  | 0, _ => none
  | fuel + 1, cs =>
    match cs with
    | '"' :: _ => (literal? cs).map fun r => (string r.1, r.2)
    | '[' :: rest =>
      match skipSpaces rest with
      | ']' :: rest => some (array [], rest)
      | rest => (items? fuel rest).map fun r => (array r.1, r.2)
    | '{' :: rest =>
      match skipSpaces rest with
      | '}' :: rest => some (object [], rest)
      | rest => (members? fuel rest).map fun r => (object r.1, r.2)
    | _ => (word? cs).or (number? cs)

def items? : Nat → List Char → Option (List Json × List Char)
  | 0, _ => none
  | fuel + 1, cs => do
    let (item, rest) ← value? fuel cs
    match skipSpaces rest with
    | ']' :: rest => return ([item], rest)
    | ',' :: rest =>
      let (items, rest) ← items? fuel (skipSpaces rest)
      return (item :: items, rest)
    | _ => none

def members? : Nat → List Char → Option (List (String × Json) × List Char)
  | 0, _ => none
  | fuel + 1, cs => do
    let (key, rest) ← literal? cs
    match skipSpaces rest with
    | ':' :: rest =>
      let (value, rest) ← value? fuel (skipSpaces rest)
      match skipSpaces rest with
      | '}' :: rest => return ([(key, value)], rest)
      | ',' :: rest =>
        let (members, rest) ← members? fuel (skipSpaces rest)
        return ((key, value) :: members, rest)
      | _ => none
    | _ => none

end

def parseNumber? (text : String) : Option Json :=
  match number? text.toList with
  | some (value, []) => some value
  | _ => none

def parse? (text : String) : Option Json :=
  let cs := skipSpaces text.toList
  match value? (2 * cs.length + 2) cs with
  | some (value, rest) => if (skipSpaces rest).isEmpty then some value else none
  | none => none

end CMakeGrammar.Json
