import CMakeGrammar.Shell.Matcher
import CMakeGrammar.Shell.Program.Basic
/-! The program that works out an expression whose parts are its arguments. Its values are texts,
some of which are numbers of any size. -/
namespace CMakeGrammar.Shell.Value

abbrev Reading := StateT (List Chars) (Except String)

def integer? (text : Chars) : Option Int :=
  let (isNegative, digits) := if text.head? = some '-' then (true, text.tail) else (false, text)
  (Integer.ofDigits? digits).map fun n => if isNegative then -n else n

def isNull (text : Chars) : Bool :=
  text.isEmpty ||
    (let digits := if text.head? = some '-' then text.tail else text
    !digits.isEmpty && digits.all (· = '0'))

def number (isUsed : Bool) (text : Chars) : Reading Int := do
  match integer? text with
  | some n => return n
  | none => if isUsed then throw "non-integer argument" else return 0

def shown (text : Chars) : String := "'" ++ String.ofList text ++ "'"

def truth (b : Bool) : Chars := if b then ['1'] else ['0']

def levels : List (List String) :=
  [["|"], ["&"], ["<", "<=", "=", "==", "!=", ">=", ">"], ["+", "-"], ["*", "/", "%"]]

def apply (isUsed : Bool) (operator : String) (a b : Chars) : Reading Chars := do
  let order : Ordering := match integer? a, integer? b with
    | some x, some y => compare x y
    | _, _ => compare a b
  let onNumbers (f : Int → Int → Int) : Reading Chars := do
    return decimal (f (← number isUsed a) (← number isUsed b))
  let divided (f : Int → Int → Int) : Reading Chars := do
    let x ← number isUsed a
    let y ← number isUsed b
    if y = 0 then (if isUsed then throw "division by zero" else return ['0'])
    else return decimal (f x y)
  match operator with
  | "|" => return if !isNull a then a else if !isNull b then b else ['0']
  | "&" => return if isNull a || isNull b then ['0'] else a
  | "<" => return truth (order = .lt)
  | "<=" => return truth (order ≠ .gt)
  | "=" => return truth (order = .eq)
  | "==" => return truth (order = .eq)
  | "!=" => return truth (order ≠ .eq)
  | ">=" => return truth (order ≠ .lt)
  | ">" => return truth (order = .gt)
  | "+" => onNumbers (· + ·)
  | "-" => onNumbers (· - ·)
  | "*" => onNumbers (· * ·)
  | "/" => divided Int.tdiv
  | _ => divided Int.tmod

def matched (text expression : Chars) : Reading Chars := do
  match Matcher.ofText false false expression with
  | .error message => throw message
  | .ok m =>
    match Matcher.Place.longest (m.ends (.ofText text)) with
    | some q => return if m.hasGroup then (q.groups.lookup 1).getD [] else decimal q.taken
    | none => return if m.hasGroup then [] else ['0']

def before (all rest : List Chars) : Chars := all.getD (all.length - rest.length - 1) []

mutual

def level : Nat → List Chars → Bool → List (List String) → Reading Chars
  | 0, _, _, _ => return []
  | fuel + 1, all, isUsed, levels =>
    match levels with
    | [] => matching fuel all isUsed
    | operators :: tighter => do
      let first ← level fuel all isUsed tighter
      following fuel all isUsed operators tighter first

def following : Nat → List Chars → Bool → List String → List (List String) → Chars →
    Reading Chars
  | 0, _, _, _, _, left => return left
  | fuel + 1, all, isUsed, operators, tighter, left => do
    match ← get with
    | word :: rest =>
      let operator := String.ofList word
      if operators.contains operator then
        set rest
        let matters := !(operator = "|" && !isNull left) && !(operator = "&" && isNull left)
        let right ← level fuel all (isUsed && matters) tighter
        let value ← apply (isUsed && matters) operator left right
        following fuel all isUsed operators tighter value
      else return left
    | [] => return left

def matching : Nat → List Chars → Bool → Reading Chars
  | 0, _, _ => return []
  | fuel + 1, all, isUsed => do
    let first ← single fuel all isUsed
    matchingFrom fuel all isUsed first

def matchingFrom : Nat → List Chars → Bool → Chars → Reading Chars
  | 0, _, _, left => return left
  | fuel + 1, all, isUsed, left => do
    match ← get with
    | [':'] :: rest =>
      set rest
      let right ← single fuel all isUsed
      matchingFrom fuel all isUsed (← matched left right)
    | _ => return left

def single : Nat → List Chars → Bool → Reading Chars
  | 0, _, _ => return []
  | fuel + 1, all, isUsed => do
    match ← get with
    | [] => throw ("syntax error: missing argument after " ++ shown (before all []))
    | word :: rest =>
      set rest
      match String.ofList word with
      | "(" =>
        let value ← level fuel all isUsed levels
        match ← get with
        | [')'] :: rest =>
          set rest
          return value
        | [] => throw ("syntax error: expecting ')' after " ++ shown (before all []))
        | other :: _ => throw ("syntax error: expecting ')' instead of " ++ shown other)
      | ")" => throw "syntax error: unexpected ')'"
      | _ => return word

end

def ofArguments (arguments : List Chars) : Except String Chars :=
  match (level (16 * arguments.length + 16) arguments true levels).run arguments with
  | .ok (value, []) => .ok value
  | .ok (_, other :: _) => .error ("syntax error: unexpected argument " ++ shown other)
  | .error message => .error message

end Value

namespace Program

open Shell.Action

def expr (arguments : List Chars) : Action Unit := do
  let arguments := if arguments.head? = some ['-', '-'] then arguments.tail else arguments
  setStatus 0
  if arguments.isEmpty then misused "expr" "missing operand".toList 2
  else
    match Value.ofArguments arguments with
    | .ok value =>
      put "expr" (value ++ ['\n'])
      if Value.isNull value then modify fun s => { s with status := max 1 s.status }
    | .error message => say "expr" message.toList 2

end Program
end CMakeGrammar.Shell
