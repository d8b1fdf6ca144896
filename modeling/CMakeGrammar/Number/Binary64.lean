/-! Numbers of the 64-bit binary format, in exact arithmetic: the one nearest to a decimal, and the
fewest decimal digits that are nearest to it in turn. -/
namespace CMakeGrammar

/-- A finite number is `mantissa * 2 ^ exponent` with a sign; a mantissa has at most 53 bits. -/
inductive Binary64
  | finite (negative : Bool) (mantissa : Nat) (exponent : Int)
  | infinite (negative : Bool)
  | notANumber
  deriving DecidableEq, Repr, Inhabited

structure Decimal where
  negative : Bool
  digits : Nat
  exponent : Int
  deriving DecidableEq, Repr, Inhabited

namespace Binary64

def equals : Binary64 → Binary64 → Bool
  | finite _ 0 _, finite _ 0 _ => true
  | notANumber, notANumber => false
  | a, b => a == b

def scaled (negative : Bool) (mantissa : Nat) (exponent scale : Int) : Int :=
  let n : Int := mantissa * Nat.pow 2 (exponent - scale).toNat
  if negative then -n else n

def order : Binary64 → Binary64 → Ordering
  | finite s m e, finite t n f => compare (scaled s m e (min e f)) (scaled t n f (min e f))
  | finite .., infinite negative => if negative then .gt else .lt
  | infinite negative, finite .. => if negative then .lt else .gt
  | infinite s, infinite t => compare t s
  | notANumber, notANumber => .eq
  | notANumber, _ => .lt
  | _, notANumber => .gt

def zero (negative : Bool) : Binary64 := finite negative 0 (-1074)

def roundDiv (num den : Nat) : Nat :=
  let q := num / den
  let r := num % den
  if 2 * r < den then q
  else if den < 2 * r then q + 1
  else if r = 0 then q
  else q + q % 2

/-- `a * b ^ n`, or for a negative exponent nothing: the other side of a comparison takes it. -/
def scaleUp (a b : Nat) (n : Int) : Nat := a * Nat.pow b n.toNat

def ofRatio (negative : Bool) (num den : Nat) : Binary64 :=
  let guess : Int := (num.log2 : Int) - den.log2 - 53
  let isLow := scaleUp den 2 (guess + 53) ≤ scaleUp num 2 (-(guess + 53))
  let exact := if isLow then guess + 1 else guess
  let e := max exact (-1074)
  let q := roundDiv (scaleUp num 2 (-e)) (scaleUp den 2 e)
  let (m, e) := if q = Nat.pow 2 53 then (Nat.pow 2 52, e + 1) else (q, e)
  if 971 < e then infinite negative else finite negative m e

def ofDecimal (d : Decimal) : Binary64 :=
  let size : Int := d.digits.log2 / 3 + d.exponent
  if d.digits = 0 || size < -400 then zero d.negative
  else if 400 < d.exponent + d.digits.log2 / 4 then infinite d.negative
  else ofRatio d.negative (scaleUp d.digits 10 d.exponent) (scaleUp 1 10 (-d.exponent))

def ofNat (n : Nat) : Binary64 :=
  if n = 0 then zero false else ofRatio false n 1

def powerOfTen (n : Nat) : Binary64 := ofRatio false (scaleUp 1 10 n) 1

def fraction (mantissa : Nat) (exponent : Int) : Nat × Nat :=
  (scaleUp mantissa 2 exponent, scaleUp 1 2 (-exponent))

def mul : Binary64 → Binary64 → Binary64
  | finite _ m e, finite _ n f =>
    if m = 0 || n = 0 then zero false
    else
      let x := fraction m e
      let y := fraction n f
      ofRatio false (x.1 * y.1) (x.2 * y.2)
  | _, _ => notANumber

def div : Binary64 → Binary64 → Binary64
  | finite _ m e, finite _ n f =>
    if m = 0 || n = 0 then zero false
    else
      let x := fraction m e
      let y := fraction n f
      ofRatio false (x.1 * y.2) (x.2 * y.1)
  | _, _ => notANumber

def negate : Binary64 → Binary64
  | finite negative m e => finite (!negative) m e
  | infinite negative => infinite (!negative)
  | notANumber => notANumber

def compareScaled (a : Nat) (s : Int) (b : Nat) (t : Int) : Ordering :=
  compare (scaleUp (scaleUp a 10 s) 2 (-t)) (scaleUp (scaleUp b 2 t) 10 (-s))

/-- Whether `a * 10 ^ s` is nearest to the number among all numbers of the format. The bounds lie
half a step away, on the lower side of a power of two a quarter; they count for an even mantissa. -/
def isNearest (mantissa : Nat) (exponent : Int) (a : Nat) (s : Int) : Bool :=
  let narrow := mantissa = Nat.pow 2 52 && -1074 < exponent
  let low := compareScaled a s (4 * mantissa - if narrow then 1 else 2) (exponent - 2)
  let high := compareScaled a s (4 * mantissa + 2) (exponent - 2)
  if mantissa % 2 = 0 then low.isGE && high.isLE else low.isGT && high.isLT

/-- The place of the leading decimal digit: the least `p` from the guess on with the number below
`10 ^ p`. -/
def leadingPlace (mantissa : Nat) (exponent : Int) : Nat → Int → Int
  | 0, p => p
  | fuel + 1, p =>
    if (compareScaled 1 p mantissa exponent).isGT then p
    else leadingPlace mantissa exponent fuel (p + 1)

def onGrid? (mantissa : Nat) (exponent : Int) (s : Int) : Option Nat :=
  let below :=
    scaleUp (scaleUp mantissa 2 exponent) 10 (-s) / scaleUp (scaleUp 1 10 s) 2 (-exponent)
  let isLow := isNearest mantissa exponent below s
  let isHigh := isNearest mantissa exponent (below + 1) s
  let middle := compareScaled (2 * below + 1) s (2 * mantissa) exponent
  if isLow && isHigh then
    some (if middle.isGT || (middle.isEq && below % 2 == 0) then below else below + 1)
  else if isLow then some below
  else if isHigh then some (below + 1)
  else none

def shortestFrom (mantissa : Nat) (exponent : Int) (place : Int) : Nat → Nat → Nat × Int
  | 0, n => ((onGrid? mantissa exponent (place - n)).getD 0, place - n)
  | fuel + 1, n =>
    match onGrid? mantissa exponent (place - n) with
    | some d => (d, place - n)
    | none => shortestFrom mantissa exponent place fuel (n + 1)

/-- The fewest digits that read back as the number, and of those the nearest. -/
def shortest (negative : Bool) (mantissa : Nat) (exponent : Int) : Decimal :=
  if mantissa = 0 then ⟨negative, 0, 0⟩
  else
    let guess : Int := ((mantissa.log2 : Int) + exponent) * 3 / 10 - 2
    let place := leadingPlace mantissa exponent 40 guess
    let (d, s) := shortestFrom mantissa exponent place 17 1
    ⟨negative, d, s⟩

end Binary64
end CMakeGrammar
