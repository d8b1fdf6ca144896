import CMakeGrammar.Shell.Script
/-! Integers as scripts write them: decimal, octal after a zero, hexadecimal after `0x`. They have
64 bits. -/
namespace CMakeGrammar.Shell.Integer

def count : Nat := 18446744073709551616

def least : Int := -9223372036854775808

def greatest : Int := 9223372036854775807

def wrap (n : Int) : Int := n.bmod count

def isBlank (c : Char) : Bool := [' ', '\t', '\n', '\x0b', '\x0c', '\x0d'].contains c

def digit (c : Char) : Nat :=
  if c.isDigit then c.toNat - 48 else c.toLower.toNat - 87

def isDigitOf (base : Nat) (c : Char) : Bool :=
  (c.isDigit || ('a' ≤ c.toLower && c.toLower ≤ 'f')) && digit c < base

def ofDigits (base : Nat) (digits : Chars) : Nat :=
  digits.foldl (fun n c => n * base + digit c) 0

def unsigned? (text : Chars) : Option (Nat × Chars) :=
  let read (base : Nat) (digits : Chars) : Nat × Chars :=
    (ofDigits base (digits.takeWhile (isDigitOf base)), digits.dropWhile (isDigitOf base))
  match text with
  | '0' :: x :: d :: rest =>
    if x.toLower = 'x' && isDigitOf 16 d then some (read 16 (d :: rest)) else some (read 8 text)
  | '0' :: _ => some (read 8 text)
  | c :: _ => if c.isDigit then some (read 10 text) else none
  | [] => none

def signed? (text : Chars) : Option (Int × Chars) :=
  match text.dropWhile isBlank with
  | '-' :: rest => (unsigned? rest).map fun r => (-(r.1 : Int), r.2)
  | '+' :: rest => (unsigned? rest).map fun r => (Int.ofNat r.1, r.2)
  | rest => (unsigned? rest).map fun r => (Int.ofNat r.1, r.2)

def ofText? (text : Chars) : Option Int :=
  match signed? text with
  | some (n, rest) =>
    if rest.all isBlank && least ≤ n && n ≤ greatest then some n else none
  | none => if text.all isBlank then some 0 else none

def ofDecimal? (text : Chars) : Option Int :=
  let body := text.dropWhile isBlank
  let (negative, rest) := match body with
    | '-' :: rest => (true, rest)
    | '+' :: rest => (false, rest)
    | _ => (false, body)
  let digits := rest.takeWhile Char.isDigit
  if digits.isEmpty || !(rest.dropWhile Char.isDigit).all isBlank then none
  else
    let n : Int := ofDigits 10 digits
    let n := if negative then -n else n
    if least ≤ n && n ≤ greatest then some n else none

def ofDigits? (text : Chars) : Option Nat :=
  if text.isEmpty || !text.all Char.isDigit then none else some (ofDigits 10 text)

end CMakeGrammar.Shell.Integer
