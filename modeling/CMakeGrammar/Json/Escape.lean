import CMakeGrammar.Text.Quoted
/-! The content of a JSON string literal. `escape` writes it; `content?` reads one up to the quote
that ends it, with every escape that JSON knows. -/
namespace CMakeGrammar.Json

def hexPair (n : Nat) : List Char :=
  [Text.hexDigit (n / 16), Text.hexDigit (n % 16)]

def escapeChar (c : Char) : List Char :=
  if c = '"' then ['\\', '"']
  else if c = '\\' then ['\\', '\\']
  else if c = '\n' then ['\\', 'n']
  else if c = '\r' then ['\\', 'r']
  else if c = '\t' then ['\\', 't']
  else if c = '\x08' then ['\\', 'b']
  else if c = '\x0c' then ['\\', 'f']
  else if c.toNat < 0x20 then '\\' :: 'u' :: '0' :: '0' :: hexPair c.toNat
  else [c]

def escapeChars (cs : List Char) : List Char :=
  cs.flatMap escapeChar

def escape (s : String) : String :=
  String.ofList (escapeChars s.toList)

def hexValue? (c : Char) : Option Nat :=
  if '0' ≤ c && c ≤ '9' then some (c.toNat - '0'.toNat)
  else if 'a' ≤ c && c ≤ 'f' then some (c.toNat - 'a'.toNat + 10)
  else if 'A' ≤ c && c ≤ 'F' then some (c.toNat - 'A'.toNat + 10)
  else none

def unit? (a b c d : Char) : Option Nat := do
  return (((← hexValue? a) * 16 + (← hexValue? b)) * 16 + (← hexValue? c)) * 16 + (← hexValue? d)

def isHighUnit (n : Nat) : Bool := 0xD800 ≤ n && n < 0xDC00
def isLowUnit (n : Nat) : Bool := 0xDC00 ≤ n && n < 0xE000

def shortEscape? : Char → Option Char
  | '"' => some '"'
  | '\\' => some '\\'
  | '/' => some '/'
  | 'n' => some '\n'
  | 'r' => some '\r'
  | 't' => some '\t'
  | 'b' => some '\x08'
  | 'f' => some '\x0c'
  | _ => none

def prepend (c : Char) (read : Option (List Char × List Char)) : Option (List Char × List Char) :=
  read.map fun r => (c :: r.1, r.2)

/-- Reads the content of a literal up to its closing quote, and gives what stands behind it. A
character beyond the first plane is escaped as two units, of which the high one may be pending. -/
def content? : Option Nat → List Char → Option (List Char × List Char)
  | none, '"' :: rest => some ([], rest)
  | pending, '\\' :: 'u' :: a :: b :: c :: d :: rest =>
    match unit? a b c d with
    | none => none
    | some n =>
      match pending with
      | some high =>
        if isLowUnit n then
          prepend (Char.ofNat (0x10000 + (high - 0xD800) * 0x400 + (n - 0xDC00)))
            (content? none rest)
        else none
      | none =>
        if isHighUnit n then content? (some n) rest
        else if isLowUnit n then none
        else prepend (Char.ofNat n) (content? none rest)
  | none, '\\' :: c :: rest =>
    match shortEscape? c with
    | some c => prepend c (content? none rest)
    | none => none
  | none, c :: rest =>
    if c = '\\' || c.toNat < 0x20 then none else prepend c (content? none rest)
  | _, _ => none

def unescape? (content : List Char) : Option (List Char) :=
  match content? none (content ++ ['"']) with
  | some (text, []) => some text
  | _ => none

@[simp] theorem escapeChars_nil : escapeChars [] = [] := rfl

@[simp] theorem escapeChars_cons (c : Char) (cs : List Char) :
    escapeChars (c :: cs) = escapeChar c ++ escapeChars cs := rfl

@[simp] theorem escapeChars_append (a b : List Char) :
    escapeChars (a ++ b) = escapeChars a ++ escapeChars b := by
  simp [escapeChars]

theorem escape_append (a b : String) : escape (a ++ b) = escape a ++ escape b := by
  simp [escape]

end CMakeGrammar.Json
