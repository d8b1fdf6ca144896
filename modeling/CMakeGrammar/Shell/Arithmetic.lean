import CMakeGrammar.Shell.Integer
/-! Arithmetic in scripts, on integers of 64 bits. -/
namespace CMakeGrammar.Shell

inductive Operator
  | add | sub | mul | div | mod | shiftLeft | shiftRight
  | less | lessEqual | greater | greaterEqual | equal | notEqual
  | bitAnd | bitXor | bitOr | logicalAnd | logicalOr
  deriving DecidableEq, Repr

inductive ArithmeticFault
  | expecting (what : String)
  | divisionByZero
  | illegalNumber (text : Chars)
  deriving DecidableEq, Repr

/-- An expression; one that makes no sense is known as far as it goes, with what is wrong behind
that. -/
inductive Expression
  | number (n : Int)
  | named (name : Chars)
  | negated (e : Expression)
  | complement (e : Expression)
  | denied (e : Expression)
  | binary (o : Operator) (a b : Expression)
  | choice (condition a b : Expression)
  | assign (name : Chars) (o : Option Operator) (e : Expression)
  | broken (e : Expression) (fault : ArithmeticFault)

namespace Expression

def binaries : List (String × Operator × Nat) :=
  [("||", .logicalOr, 1), ("&&", .logicalAnd, 2), ("|", .bitOr, 3), ("^", .bitXor, 4),
    ("&", .bitAnd, 5), ("==", .equal, 6), ("!=", .notEqual, 6), ("<=", .lessEqual, 7),
    (">=", .greaterEqual, 7), ("<", .less, 7), (">", .greater, 7), ("<<", .shiftLeft, 8),
    (">>", .shiftRight, 8), ("+", .add, 9), ("-", .sub, 9), ("*", .mul, 10), ("/", .div, 10),
    ("%", .mod, 10)]

def assignments : List (String × Option Operator) :=
  [("<<=", some .shiftLeft), (">>=", some .shiftRight), ("+=", some .add), ("-=", some .sub),
    ("*=", some .mul), ("/=", some .div), ("%=", some .mod), ("&=", some .bitAnd),
    ("^=", some .bitXor), ("|=", some .bitOr), ("=", none)]

def marks : List String :=
  ["<<=", ">>=", "||", "&&", "==", "!=", "<=", ">=", "<<", ">>", "+=", "-=", "*=", "/=", "%=",
    "&=", "^=", "|=", "|", "^", "&", "<", ">", "+", "-", "*", "/", "%", "=", "!", "~", "?", ":",
    "(", ")"]

inductive Token
  | number (n : Nat)
  | name (name : Chars)
  | mark (text : String)
  deriving DecidableEq

def tokens : Nat → Chars → List Token
  | 0, _ => []
  | fuel + 1, text =>
    match text.dropWhile Integer.isBlank with
    | [] => []
    | c :: rest =>
      match Integer.unsigned? (c :: rest) with
      | some (n, after) => .number n :: tokens fuel after
      | none =>
        if startsName c then
          .name (c :: rest.takeWhile isNameChar) :: tokens fuel (rest.dropWhile isNameChar)
        else
          match marks.find? fun m => m.toList.isPrefixOf (c :: rest) with
          | some m => .mark m :: tokens fuel (rest.drop (m.length - 1))
          | none => .mark (String.singleton c) :: tokens fuel rest

abbrev Reading := StateM (List Token)

def takes (text : String) : Reading Bool := do
  match ← get with
  | .mark m :: rest =>
    if m = text then
      set rest
      return true
    else return false
  | _ => return false

def giveUp (e : Expression) (what : String) : Reading Expression := do
  set ([] : List Token)
  return .broken e (.expecting what)

mutual

def whole : Nat → Reading Expression
  | 0 => giveUp (.number 0) "primary"
  | fuel + 1 => do
    match ← get with
    | .name name :: .mark m :: rest =>
      match assignments.lookup m with
      | some o =>
        set rest
        return .assign name o (← whole fuel)
      | none => conditional fuel
    | _ => conditional fuel

def conditional : Nat → Reading Expression
  | 0 => giveUp (.number 0) "primary"
  | fuel + 1 => do
    let condition ← binaryFrom fuel 1 (← primary fuel)
    if ← takes "?" then
      let a ← whole fuel
      if ← takes ":" then return .choice condition a (← conditional fuel)
      else
        let e ← giveUp (.number 0) "':'"
        return .choice condition a e
    else return condition

def binaryFrom : Nat → Nat → Expression → Reading Expression
  | 0, _, left => return left
  | fuel + 1, level, left => do
    match ← get with
    | .mark m :: rest =>
      match binaries.lookup m with
      | some (o, l) =>
        if l < level then return left
        set rest
        let right ← binaryFrom fuel (l + 1) (← primary fuel)
        binaryFrom fuel level (.binary o left right)
      | none => return left
    | _ => return left

def primary : Nat → Reading Expression
  | 0 => giveUp (.number 0) "primary"
  | fuel + 1 => do
    match ← get with
    | .number n :: rest =>
      set rest
      return .number (min n Integer.greatest)
    | .name name :: rest =>
      set rest
      return .named name
    | .mark m :: rest =>
      set rest
      if m = "(" then
        let e ← whole fuel
        if ← takes ")" then return e else giveUp e "')'"
      else if m = "-" then return .negated (← primary fuel)
      else if m = "+" then primary fuel
      else if m = "~" then return .complement (← primary fuel)
      else if m = "!" then return .denied (← primary fuel)
      else giveUp (.number 0) "primary"
    | [] => giveUp (.number 0) "primary"

end

def ofText (text : Chars) : Expression :=
  let ts := tokens (text.length + 1) text
  match (whole (8 * ts.length + 8)).run ts with
  | (e, []) => e
  | (e, _) => .broken e (.expecting "EOF")

def truth (b : Bool) : Int := if b then 1 else 0

def Operator.apply (o : Operator) (a b : Int) : Except ArithmeticFault Int :=
  let bits (f : UInt64 → UInt64 → UInt64) : Int :=
    Integer.wrap (f (UInt64.ofNat (a % Integer.count).toNat)
      (UInt64.ofNat (b % Integer.count).toNat)).toNat
  match o with
  | .add => .ok (Integer.wrap (a + b))
  | .sub => .ok (Integer.wrap (a - b))
  | .mul => .ok (Integer.wrap (a * b))
  | .div => if b = 0 then .error .divisionByZero else .ok (Integer.wrap (a.tdiv b))
  | .mod => if b = 0 then .error .divisionByZero else .ok (Integer.wrap (a.tmod b))
  | .shiftLeft => .ok (bits (· <<< ·))
  | .shiftRight => .ok (a / Nat.pow 2 (b % 64).toNat)
  | .less => .ok (truth (a < b))
  | .lessEqual => .ok (truth (a ≤ b))
  | .greater => .ok (truth (b < a))
  | .greaterEqual => .ok (truth (b ≤ a))
  | .equal => .ok (truth (a = b))
  | .notEqual => .ok (truth (a ≠ b))
  | .bitAnd => .ok (bits (· &&& ·))
  | .bitXor => .ok (bits (· ^^^ ·))
  | .bitOr => .ok (bits (· ||| ·))
  | .logicalAnd => .ok (truth (a ≠ 0 && b ≠ 0))
  | .logicalOr => .ok (truth (a ≠ 0 || b ≠ 0))

abbrev Valuing := StateT (List (Chars × Int)) (Except ArithmeticFault)

def look (given : Chars → Chars) (name : Chars) : Valuing Int := do
  match (← get).lookup name with
  | some n => return n
  | none =>
    match Integer.ofText? (given name) with
    | some n => return n
    | none => throw (.illegalNumber (given name))

def check : Expression → Except ArithmeticFault Unit
  | number _ => .ok ()
  | named _ => .ok ()
  | negated e => check e
  | complement e => check e
  | denied e => check e
  | binary _ a b => do
    check a
    check b
  | choice condition a b => do
    check condition
    check a
    check b
  | assign _ _ e => check e
  | broken e fault => do
    check e
    throw fault

/-- The value of an expression, by the texts that variables hold. Only the side of a choice that
counts is looked at, unless the other one makes no sense. -/
def value (given : Chars → Chars) : Expression → Valuing Int
  | number n => return n
  | named name => look given name
  | negated e => return Integer.wrap (-(← value given e))
  | complement e => return -(← value given e) - 1
  | denied e => return truth ((← value given e) = 0)
  | binary o a b => do
    let x ← value given a
    if o = .logicalAnd && x = 0 then
      check b
      return 0
    else if o = .logicalOr && x ≠ 0 then
      check b
      return 1
    else
      match Operator.apply o x (← value given b) with
      | .ok n => return n
      | .error fault => throw fault
  | choice condition a b => do
    if (← value given condition) ≠ 0 then
      let n ← value given a
      check b
      return n
    else
      check a
      value given b
  | assign name o e => do
    let n ← value given e
    let n ← match o with
      | none => pure n
      | some o =>
        match Operator.apply o (← look given name) n with
        | .ok n => pure n
        | .error fault => throw fault
    modify ((name, n) :: ·)
    return n
  | broken e fault => do
    let _ ← value given e
    throw fault

end Expression
end CMakeGrammar.Shell
