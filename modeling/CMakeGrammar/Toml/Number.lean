import CMakeGrammar.Json.Reader
import CMakeGrammar.Text.Split
import CMakeGrammar.Toml.Value
/-! Numbers, dates and times in TOML. A single underscore may stand between two digits. -/
namespace CMakeGrammar.Toml
open Text (Cursor)

def ungrouped? (isDigit : Char → Bool) (written : List Char) : Option (List Char) :=
  if (Text.splitAtChar '_' written).all fun group => !group.isEmpty && group.all isDigit then
    some (written.filter (· != '_'))
  else none

def digits? (isDigit : Char → Bool) (c : Cursor) : Option (List Char × Cursor) := do
  let (written, after) := c.run fun c => isDigit c || c == '_'
  return (← ungrouped? isDigit written, after)

def sign (c : Cursor) : Bool × Cursor :=
  match c.over? ['-'] with
  | some after => (true, after)
  | none => (false, (c.over? ['+']).getD c)

def whole? (c : Cursor) : Option (List Char × Cursor) := do
  let (digits, after) ← digits? Char.isDigit c
  if digits.head? == some '0' && digits.length != 1 then none else return (digits, after)

def valueOf (radix : Nat) (digits : List Char) : Nat :=
  digits.foldl (fun n c =>
    radix * n + (if c.isDigit then c.toNat - '0'.toNat else c.toLower.toNat - 'a'.toNat + 10)) 0

def integerOf? (n : Int) : Option Scalar :=
  if -0x8000000000000000 ≤ n && n ≤ 0x7fffffffffffffff then some (.integer n) else none

def radixDigits? (lead : List Char) (radix : Nat) (isDigit : Char → Bool) (c : Cursor) :
    Option (Scalar × Cursor) := do
  let (digits, after) ← digits? isDigit (← c.over? lead)
  return (← integerOf? (valueOf radix digits), after)

def isHexDigit (c : Char) : Bool :=
  c.isDigit || ('a' ≤ c && c ≤ 'f') || ('A' ≤ c && c ≤ 'F')

def integer? (c : Cursor) : Option (Scalar × Cursor) :=
  if c.startsWith ['0', 'x'] then radixDigits? ['0', 'x'] 16 isHexDigit c
  else if c.startsWith ['0', 'o'] then radixDigits? ['0', 'o'] 8 (fun c => '0' ≤ c && c ≤ '7') c
  else if c.startsWith ['0', 'b'] then radixDigits? ['0', 'b'] 2 (fun c => c == '0' || c == '1') c
  else do
    let (negative, unsigned) := sign c
    let (digits, after) ← whole? unsigned
    let n : Int := valueOf 10 digits
    return (← integerOf? (if negative then -n else n), after)

def exponent? (c : Cursor) : Option (Int × Cursor) := do
  let (negative, unsigned) := sign (← (c.over? ['e']).or (c.over? ['E']))
  let (digits, after) ← digits? Char.isDigit unsigned
  let n : Int := valueOf 10 digits
  return (if negative then -n else n, after)

def fraction? (c : Cursor) : Option (List Char × Cursor) := do
  digits? Char.isDigit (← c.over? ['.'])

/-- A number beyond the greatest one is refused, one beyond the least is infinite. -/
def realOf? (x : Binary64) : Option Scalar :=
  if x = .infinite false then none else some (.real x)

def decimalReal? (c : Cursor) : Option (Scalar × Cursor) := do
  let (negative, unsigned) := sign c
  let (digits, afterWhole) ← whole? unsigned
  match fraction? afterWhole with
  | some (fraction, afterFraction) =>
    let (e, after) := (exponent? afterFraction).getD (0, afterFraction)
    let x := Binary64.ofDecimal ⟨negative, valueOf 10 (digits ++ fraction), e - fraction.length⟩
    return (← realOf? x, after)
  | none =>
    let (e, after) ← exponent? afterWhole
    return (← realOf? (.ofDecimal ⟨negative, valueOf 10 digits, e⟩), after)

def namedReal? (c : Cursor) : Option (Scalar × Cursor) :=
  let (negative, unsigned) := sign c
  ((unsigned.over? "inf".toList).map fun after => (.real (.infinite negative), after)).or
    ((unsigned.over? "nan".toList).map fun after => (.real .notANumber, after))

def fixed? (count : Nat) (c : Cursor) : Option (Nat × Cursor) :=
  let digits := c.rest.take count
  if digits.length = count && digits.all Char.isDigit then
    some (valueOf 10 digits, c.advance digits)
  else none

def part? (low high : Nat) (c : Cursor) : Option (Nat × Cursor) := do
  let (n, after) ← fixed? 2 c
  if low ≤ n && n ≤ high then return (n, after) else none

def isLeapYear (year : Nat) : Bool := year % 4 = 0 && (year % 100 != 0 || year % 400 = 0)

def daysIn (year month : Nat) : Nat :=
  if month = 2 then (if isLeapYear year then 29 else 28)
  else if [4, 6, 9, 11].contains month then 30
  else 31

def date? (c : Cursor) : Option Cursor := do
  let (year, c) ← fixed? 4 c
  let (month, c) ← part? 1 12 (← c.over? ['-'])
  let (_, c) ← part? 1 (daysIn year month) (← c.over? ['-'])
  return c

def time? (c : Cursor) : Option Cursor := do
  let (_, c) ← part? 0 23 c
  let (_, c) ← part? 0 59 (← c.over? [':'])
  let (_, c) ← part? 0 60 (← c.over? [':'])
  match c.over? ['.'] with
  | some inner => (inner.run? Char.isDigit).map Prod.snd
  | none => return c

def offset? (c : Cursor) : Option Cursor :=
  match (c.over? ['Z']).or (c.over? ['z']) with
  | some after => some after
  | none => do
    let (_, c) ← part? 0 23 (← (c.over? ['+']).or (c.over? ['-']))
    let (_, c) ← part? 0 59 (← c.over? [':'])
    return c

/-- A date, a time, or a date and a time with or without an offset. -/
def moment? (c : Cursor) : Option (Scalar × Cursor) :=
  match date? c with
  | some afterDate =>
    let withTime := do
      let afterMark ←
        (afterDate.over? ['T']).or ((afterDate.over? ['t']).or (afterDate.over? [' ']))
      let afterTime ← time? afterMark
      return (offset? afterTime).getD afterTime
    some (.moment, withTime.getD afterDate)
  | none => (time? c).map fun after => (.moment, after)

def number? (c : Cursor) : Option (Scalar × Cursor) :=
  (moment? c).or ((decimalReal? c).or ((namedReal? c).or (integer? c)))

end CMakeGrammar.Toml
