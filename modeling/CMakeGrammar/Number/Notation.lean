import CMakeGrammar.Number.Binary64
/-! How numbers are written. A style says between which sizes a number is written without an
exponent, and whether a whole number has a point. -/
namespace CMakeGrammar

/-- A number whose decimal point stands `place` digits after the first is positional for a place
in `(low, high]`. A whole number is `pointed` if a point and a zero follow it. -/
structure NumberStyle where
  low : Option Int
  high : Option Int
  pointed : Bool

namespace NumberStyle

def message : NumberStyle := ⟨none, none, true⟩

def plain : NumberStyle := ⟨none, none, false⟩

def document : NumberStyle := ⟨some (-5), some 16, true⟩

def isPositional (style : NumberStyle) (place : Int) : Bool :=
  style.low.all (· < place) && style.high.all (place ≤ ·)

def wholeEnd (style : NumberStyle) : List Char := if style.pointed then ['.', '0'] else []

def positional (style : NumberStyle) (digits : List Char) (place : Int) : List Char :=
  if place ≤ 0 then ['0', '.'] ++ List.replicate (-place).toNat '0' ++ digits
  else
    let whole := digits.take place.toNat ++ List.replicate (place.toNat - digits.length) '0'
    let fraction := digits.drop place.toNat
    whole ++ if fraction.isEmpty then style.wholeEnd else '.' :: fraction

def scientific (digits : List Char) (place : Int) : List Char :=
  let fraction := digits.drop 1
  digits.take 1 ++ (if fraction.isEmpty then [] else '.' :: fraction) ++
    'e' :: (if place < 1 then '-' else '+') :: (toString (place - 1).natAbs).toList

def significant (digits : List Char) : List Char :=
  (digits.reverse.dropWhile (· == '0')).reverse

def decimal (style : NumberStyle) (d : Decimal) : List Char :=
  let sign := if d.negative then ['-'] else []
  if d.digits = 0 then sign ++ '0' :: style.wholeEnd
  else
    let all := (toString d.digits).toList
    let place := d.exponent + all.length
    let digits := significant all
    sign ++
      if style.isPositional place then style.positional digits place
      else scientific digits place

def binary64 (style : NumberStyle) : Binary64 → String
  | .finite negative mantissa exponent =>
    String.ofList (style.decimal (Binary64.shortest negative mantissa exponent))
  | .infinite negative => if negative then "-inf" else "inf"
  | .notANumber => "NaN"

end NumberStyle
end CMakeGrammar
