import CMakeGrammar.Number.Binary64
import CMakeGrammar.Shell.Integer
/-! What the printing commands of a shell print: `echo` its arguments, `printf` a format filled in
with them, over and over until none is left. -/
namespace CMakeGrammar.Shell

def isOctal (c : Char) : Bool := '0' ≤ c && c ≤ '7'

def octalDigits (text : Chars) : Chars := (text.take 3).takeWhile isOctal

def octal (digits : Chars) : Char := Char.ofNat (Integer.ofDigits 8 digits % 256)

def letter? : Char → Option Char
  | 'a' => some '\x07'
  | 'b' => some '\x08'
  | 'e' => some '\x1b'
  | 'f' => some '\x0c'
  | 'n' => some '\n'
  | 'r' => some '\x0d'
  | 't' => some '\t'
  | 'v' => some '\x0b'
  | '\\' => some '\\'
  | _ => none

def escape (text : Chars) : Char × Nat :=
  if (octalDigits text).isEmpty then
    match text.head?.bind letter? with
    | some c => (c, 1)
    | none => ('\\', 0)
  else (octal (octalDigits text), (octalDigits text).length)

def argumentEscape (text : Chars) : Char × Nat :=
  match text with
  | '0' :: rest => (octal (octalDigits rest), (octalDigits rest).length + 1)
  | _ => escape text

def unescapeFrom : Nat → Chars → Chars × Bool
  | _, [] => ([], true)
  | skip + 1, _ :: rest => unescapeFrom skip rest
  | 0, c :: rest =>
    if c = '\\' then
      if rest.head? = some 'c' then ([], false)
      else
        let e := argumentEscape rest
        let r := unescapeFrom e.2 rest
        (e.1 :: r.1, r.2)
    else
      let r := unescapeFrom 0 rest
      (c :: r.1, r.2)

def echo (arguments : List Chars) : Chars :=
  let bare := arguments.head? = some ['-', 'n']
  let r := unescapeFrom 0 ([' '].intercalate (if bare then arguments.tail else arguments))
  if bare || !r.2 then r.1 else r.1 ++ ['\n']

structure Directive where
  left : Bool
  plus : Bool
  blank : Bool
  marked : Bool
  zero : Bool
  width : Nat
  precision : Option Nat

namespace Directive

def pad (d : Directive) (fillsZeros : Bool) (sign body : Chars) : Chars :=
  let missing := d.width - (sign.length + body.length)
  if d.left then sign ++ body ++ List.replicate missing ' '
  else if d.zero && fillsZeros then sign ++ List.replicate missing '0' ++ body
  else List.replicate missing ' ' ++ sign ++ body

def text (d : Directive) (argument : Chars) : Chars :=
  d.pad false [] (match d.precision with
    | some n => argument.take n
    | none => argument)

def sign (d : Directive) (negative : Bool) : Chars :=
  if negative then ['-'] else if d.plus then ['+'] else if d.blank then [' '] else []

def digits (d : Directive) (base n : Nat) : Chars :=
  let body := if n = 0 && d.precision = some 0 then [] else Nat.toDigits base n
  List.replicate (d.precision.getD 1 - body.length) '0' ++ body

def integer (d : Directive) (letter : Char) (n : Int) : Chars :=
  let size := (n % Integer.count).toNat
  let fillsZeros := d.precision.isNone
  if letter = 'd' || letter = 'i' then d.pad fillsZeros (d.sign (n < 0)) (d.digits 10 n.natAbs)
  else if letter = 'u' then d.pad fillsZeros [] (d.digits 10 size)
  else if letter = 'o' then
    let body := d.digits 8 size
    d.pad fillsZeros [] (if d.marked && body.head? ≠ some '0' then '0' :: body else body)
  else
    let body := d.digits 16 size
    d.pad fillsZeros (if d.marked && size ≠ 0 then ['0', letter] else [])
      (if letter = 'X' then body.map Char.toUpper else body)

def pointed (d : Directive) (places n : Nat) : Chars :=
  let body := Nat.toDigits 10 n
  let body := List.replicate (places + 1 - body.length) '0' ++ body
  let whole := body.take (body.length - places)
  if places = 0 then (if d.marked then whole ++ ['.'] else whole)
  else whole ++ '.' :: body.drop (body.length - places)

def placeBelow (num den : Nat) : Nat → Nat → Int
  | 0, k => -(k : Int)
  | fuel + 1, k => if den ≤ num * Nat.pow 10 k then -(k : Int) else placeBelow num den fuel (k + 1)

def scaled (num den places : Nat) : Nat × Int :=
  if num = 0 then (0, 0)
  else
    let place : Int :=
      if den ≤ num then (Nat.toDigits 10 (num / den)).length - 1 else placeBelow num den 400 1
    let up := places - place
    let n := Binary64.roundDiv (Binary64.scaleUp num 10 up) (Binary64.scaleUp den 10 (-up))
    if n = Nat.pow 10 (places + 1) then (n / 10, place + 1) else (n, place)

def exponent (letter : Char) (place : Int) : Chars :=
  let body := Nat.toDigits 10 place.natAbs
  letter :: (if place < 0 then '-' else '+') :: (if body.length < 2 then '0' :: body else body)

def trim (body : Chars) : Chars :=
  if body.contains '.' then
    let kept := body.reverse.dropWhile (· = '0')
    (if kept.head? = some '.' then kept.tail else kept).reverse
  else body

def real (d : Directive) (letter : Char) (x : Binary64) : Chars :=
  let cased (body : Chars) : Chars := if letter.isUpper then body.map Char.toUpper else body
  match x with
  | .notANumber => d.pad false (d.sign false) (cased "nan".toList)
  | .infinite negative => d.pad false (d.sign negative) (cased "inf".toList)
  | .finite negative m e =>
    let (num, den) := Binary64.fraction m e
    let fixed (places : Nat) : Chars :=
      d.pointed places (Binary64.roundDiv (num * Nat.pow 10 places) den)
    let places := d.precision.getD 6
    let scientific (places : Nat) : Chars × Chars :=
      let (n, place) := scaled num den places
      (d.pointed places n, exponent 'e' place)
    let body :=
      if letter.toLower = 'f' then fixed places
      else if letter.toLower = 'e' then (scientific places).1 ++ (scientific places).2
      else
        let count := max places 1
        let place := (scaled num den (count - 1)).2
        let strip (body : Chars) : Chars := if d.marked then body else trim body
        if -4 ≤ place && place < count then strip (fixed (count - 1 - place).toNat)
        else strip (scientific (count - 1)).1 ++ (scientific (count - 1)).2
    d.pad true (d.sign negative) (cased body)

end Directive

def real? (text : Chars) : Option (Binary64 × Chars) :=
  let body := text.dropWhile Integer.isBlank
  let (negative, body) := match body with
    | '-' :: rest => (true, rest)
    | '+' :: rest => (false, rest)
    | _ => (false, body)
  let whole := body.takeWhile Char.isDigit
  let after := body.drop whole.length
  let places := if after.head? = some '.' then after.tail.takeWhile Char.isDigit else []
  if whole.isEmpty && places.isEmpty then
    match body.map Char.toLower with
    | 'i' :: 'n' :: 'f' :: _ => some (.infinite negative, body.drop 3)
    | 'n' :: 'a' :: 'n' :: _ => some (.notANumber, body.drop 3)
    | _ => none
  else
    let after := if after.head? = some '.' then after.drop (places.length + 1) else after
    let read (e : Int) (rest : Chars) : Option (Binary64 × Chars) :=
      let digits := Integer.ofDigits 10 (whole ++ places)
      some (.ofDecimal ⟨negative, digits, e - places.length⟩, rest)
    let exponent (sign : Int) (digits : Chars) : Option (Binary64 × Chars) :=
      let size := digits.takeWhile Char.isDigit
      if size.isEmpty then read 0 after
      else read (sign * Integer.ofDigits 10 size) (digits.drop size.length)
    match after with
    | e :: '-' :: digits => if e.toLower = 'e' then exponent (-1) digits else read 0 after
    | e :: '+' :: digits => if e.toLower = 'e' then exponent 1 digits else read 0 after
    | e :: digits => if e.toLower = 'e' then exponent 1 digits else read 0 after
    | [] => read 0 []

structure Printed where
  text : Chars := []
  complaints : List Chars := []
  arguments : List Chars := []
  stops : Bool := false
  status : Nat := 0

namespace Printed

def put (text : Chars) (p : Printed) : Printed := { p with text := text ++ p.text }

def complain (complaint : Option Chars) (p : Printed) : Printed :=
  match complaint with
  | some text => { p with complaints := text :: p.complaints, status := max 1 p.status }
  | none => p

def broken (complaint : Chars) : Printed :=
  { complaints := [complaint], stops := true, status := 2 }

def valueOf {α : Type} (ofInt : Int → α) (read : Chars → Option (α × Chars)) (argument : Chars) :
    α × Option Chars :=
  match argument with
  | [] => (ofInt 0, none)
  | c :: rest =>
    if c = '"' || c = '\'' then (ofInt ((rest.head?.map Char.toNat).getD 0), none)
    else
      match read argument with
      | none => (ofInt 0, some (argument ++ ": expected numeric value".toList))
      | some (x, []) => (x, none)
      | some (x, _) => (x, some (argument ++ ": not completely converted".toList))

def integerOf (letter : Char) (argument : Chars) : Int × Option Chars :=
  let isSigned := letter = 'd' || letter = 'i'
  let (n, complaint) := valueOf id Integer.signed? argument
  let least := if isSigned then Integer.least else 1 - (Integer.count : Int)
  let greatest := if isSigned then Integer.greatest else (Integer.count : Int) - 1
  if n < least || greatest < n then
    (if n < least && isSigned then least else greatest,
      complaint.getD (argument ++ ": Numerical result out of range".toList))
  else (n, complaint)

def realOf (argument : Chars) : Binary64 × Option Chars :=
  valueOf (fun n => .ofNat n.toNat) real? argument

def count (text : Chars) (arguments : List Chars) : Int × Chars × List Chars :=
  match text with
  | '*' :: rest => ((integerOf 'd' (arguments.headD [])).1, rest, arguments.tail)
  | _ =>
    (Integer.ofDigits 10 (text.takeWhile Char.isDigit), text.dropWhile Char.isDigit, arguments)

def directive (text : Chars) (arguments : List Chars) : Directive × Chars × List Chars :=
  let isFlag (c : Char) : Bool := ['#', '-', '+', ' ', '0'].contains c
  let flags := text.takeWhile isFlag
  let (width, rest, arguments) := count (text.dropWhile isFlag) arguments
  let (precision, rest, arguments) := match rest with
    | '.' :: after =>
      let (n, rest, arguments) := count after arguments
      (if n < 0 then none else some n.toNat, rest, arguments)
    | _ => (none, rest, arguments)
  (⟨flags.contains '-' || width < 0, flags.contains '+', flags.contains ' ', flags.contains '#',
    flags.contains '0', width.natAbs, precision⟩, rest, arguments)

def pass : Nat → Chars → List Chars → Printed
  | 0, _, arguments => { arguments }
  | _ + 1, [], arguments => { arguments }
  | fuel + 1, '\\' :: rest, arguments =>
    let (c, size) := escape rest
    (pass fuel (rest.drop size) arguments).put [c]
  | fuel + 1, '%' :: '%' :: rest, arguments => (pass fuel rest arguments).put ['%']
  | fuel + 1, '%' :: rest, arguments =>
    let (d, after, arguments) := directive rest arguments
    let argument := arguments.headD []
    match after with
    | [] => broken "missing format character".toList
    | letter :: others =>
      let next := pass fuel others arguments.tail
      if letter = 's' then next.put (d.text argument)
      else if letter = 'c' then next.put (d.pad false [] [argument.headD '\x00'])
      else if letter = 'b' then
        let (text, goesOn) := unescapeFrom 0 argument
        if goesOn then next.put (d.text text) else { text := d.text text, stops := true }
      else if ['d', 'i', 'o', 'u', 'x', 'X'].contains letter then
        let (n, complaint) := integerOf letter argument
        (next.put (d.integer letter n)).complain complaint
      else if ['e', 'E', 'f', 'F', 'g', 'G'].contains letter then
        let (x, complaint) := realOf argument
        (next.put (d.real letter x)).complain complaint
      else
        let shown := rest.take (rest.length - others.length)
        broken ('%' :: shown ++ ": invalid directive".toList)
  | fuel + 1, c :: rest, arguments => (pass fuel rest arguments).put [c]

def passes (format : Chars) : Nat → List Chars → Printed
  | 0, _ => {}
  | n + 1, arguments =>
    let first := pass (format.length + 1) format arguments
    let takesNone := first.arguments.length = arguments.length
    if first.stops || first.arguments.isEmpty || takesNone then first
    else
      let others := passes format n first.arguments
      { others with
        text := first.text ++ others.text
        complaints := first.complaints ++ others.complaints
        status := max first.status others.status }

end Printed

def printf (format : Chars) (arguments : List Chars) : Printed :=
  Printed.passes format (arguments.length + 1) arguments

end CMakeGrammar.Shell
