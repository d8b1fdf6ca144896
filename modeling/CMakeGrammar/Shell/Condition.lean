import CMakeGrammar.Shell.Integer
/-! Conditions that scripts test: on texts, on numbers, and on what stands under a path. -/
namespace CMakeGrammar.Shell.Condition

inductive Fault
  | illegalNumber (text : Chars)
  | unexpected (text : Chars)
  | noArgument (operator : Chars)
  | openParenthesis
  | unclosed
  deriving DecidableEq, Repr

namespace Fault

def message : Fault → Chars
  | illegalNumber text => "Illegal number: ".toList ++ text
  | unexpected [] => "unexpected operator".toList
  | unexpected text => text ++ ": unexpected operator".toList
  | noArgument operator => operator ++ ": argument expected".toList
  | openParenthesis => "closing paren expected".toList
  | unclosed => "missing ]".toList

end Fault

structure Paths where
  holds : Char → Chars → Bool
  same : Chars → Chars → Bool

def comparisons : List (String × (Int → Int → Bool)) :=
  [("-eq", (· = ·)), ("-ne", (· ≠ ·)), ("-lt", (· < ·)), ("-le", (· ≤ ·)), ("-gt", (· > ·)),
    ("-ge", (· ≥ ·))]

def orders (paths : Paths) : List (String × (Chars → Chars → Bool)) :=
  [("=", (· = ·)), ("!=", (· ≠ ·)), ("<", fun a b => decide (a < b)),
    (">", fun a b => decide (b < a)), ("-nt", fun _ _ => false), ("-ot", fun _ _ => false),
    ("-ef", paths.same)]

def questions : Chars := "nzedfrwxstpchLubgkSOG".toList

def binaries : List String :=
  ["-eq", "-ne", "-lt", "-le", "-gt", "-ge", "=", "!=", "<", ">", "-nt", "-ot", "-ef"]

inductive Token
  | operand
  | nothing
  | denial
  | conjunction
  | disjunction
  | opening
  | closing
  | question (letter : Char)
  | comparison (operator : Chars)
  deriving DecidableEq, Repr

def isBinary (text : Chars) : Bool := binaries.contains (String.ofList text)

def token : List Chars → Token
  | [] => .nothing
  | word :: rest =>
    if isBinary word then .comparison word
    else
      match word, rest with
      | ['!'], _ => .denial
      | ['-', 'a'], _ => .conjunction
      | ['-', 'o'], _ => .disjunction
      | ['('], _ :: _ => .opening
      | [')'], _ => .closing
      | ['-', _], [] => .operand
      | ['-', c], next :: others =>
        if !questions.contains c || !others.isEmpty && isBinary next then .operand else .question c
      | _, _ => .operand

abbrev Asking := StateT (List Chars) (Except Fault)

def number (text : Chars) : Except Fault Int :=
  match Integer.ofDecimal? text with
  | some n => .ok n
  | none => .error (.illegalNumber text)

def compare (paths : Paths) (operator left right : Chars) : Except Fault Bool :=
  match comparisons.lookup (String.ofList operator) with
  | some holds => return holds (← number left) (← number right)
  | none =>
    match (orders paths).lookup (String.ofList operator) with
    | some holds => .ok (holds left right)
    | none => .error (.unexpected operator)

def ask (paths : Paths) (c : Char) (text : Chars) : Except Fault Bool :=
  match c with
  | 'n' => .ok !text.isEmpty
  | 'z' => .ok text.isEmpty
  | 't' => (number text).map fun _ => false
  | _ => .ok (paths.holds c text)

mutual

def either : Nat → Paths → Token → Asking Bool
  | 0, _, _ => return false
  | fuel + 1, paths, t => do
    let first ← both fuel paths t
    let rest ← get
    if token rest.tail = .disjunction then
      set (rest.drop 2)
      let second ← either fuel paths (token (rest.drop 2))
      return first || second
    else return first

def both : Nat → Paths → Token → Asking Bool
  | 0, _, _ => return false
  | fuel + 1, paths, t => do
    let first ← single fuel paths t
    let rest ← get
    if token rest.tail = .conjunction then
      set (rest.drop 2)
      let second ← both fuel paths (token (rest.drop 2))
      return first && second
    else return first

def single : Nat → Paths → Token → Asking Bool
  | 0, _, _ => return false
  | fuel + 1, paths, t => do
    let words ← get
    let rest := words.tail
    match t with
    | .denial =>
      if token rest ≠ .nothing then set rest
      return !(← single fuel paths (token rest))
    | .nothing => return false
    | .opening =>
      set rest
      if token rest = .closing then return false
      let answer ← either fuel paths (token rest)
      modify List.tail
      if token (← get) ≠ .closing then throw .openParenthesis
      return answer
    | .question c =>
      set rest
      match rest with
      | [] => throw (.noArgument ['-', c])
      | text :: _ => ask paths c text
    | _ =>
      match token rest with
      | .comparison operator =>
        set rest.tail
        match rest.tail with
        | [] => throw (.noArgument operator)
        | right :: _ => compare paths operator (words.headD []) right
      | _ => return !(words.headD []).isEmpty

end

def answer (paths : Paths) (words : List Chars) (t : Token) : Except Fault Bool := do
  let (answer, rest) ← (either (4 * words.length + 4) paths t).run words
  match rest with
  | last :: _ :: _ => throw (.unexpected last)
  | _ => return answer

/-- Whether a condition holds. Three words with an operator in the middle are always a comparison,
and parentheses around one or two words count as such. -/
def ofFew (paths : Paths) (words : List Chars) : Except Fault Bool :=
  let inner := words.tail.dropLast
  let isBoth : Bool := match words with
    | [_, operator, _] => isBinary operator
    | _ => false
  if isBoth then answer paths words .operand
  else if (words.length = 3 || words.length = 4) && words.head? = some ['('] &&
      words.getLast? = some [')'] then
    answer paths inner (token inner)
  else if words.isEmpty then .ok false
  else answer paths words (token words)

def holds (paths : Paths) (words : List Chars) : Except Fault Bool :=
  match words with
  | [['!'], operator, right] =>
    if isBinary operator then ofFew paths words else (ofFew paths [operator, right]).map (!·)
  | [['!'], a, b, c] =>
    if a = ['!'] && !isBinary b then (ofFew paths [b, c]).map (!·)
    else (ofFew paths [a, b, c]).map (!·)
  | _ => ofFew paths words

end CMakeGrammar.Shell.Condition
