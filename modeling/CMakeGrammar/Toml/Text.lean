import CMakeGrammar.Text.Cursor
/-! The text inside TOML strings. Between double quotes a backslash escapes; between single quotes
every character stands for itself. A string in triple quotes may have several lines, and up to two
quotes may stand in front of those that close it. -/
namespace CMakeGrammar.Toml

def isPlain (c : Char) : Bool := c == '\t' || (0x20 ≤ c.toNat && c.toNat != 0x7F)

def isPadding (c : Char) : Bool := c == ' ' || c == '\t'

def hexValue? (c : Char) : Option Nat :=
  if c.isDigit then some (c.toNat - '0'.toNat)
  else if 'a' ≤ c && c ≤ 'f' then some (c.toNat - 'a'.toNat + 10)
  else if 'A' ≤ c && c ≤ 'F' then some (c.toNat - 'A'.toNat + 10)
  else none

def charOfHex? (digits : List Char) : Option Char := do
  let n ← digits.foldlM (fun n c => (hexValue? c).map (16 * n + ·)) 0
  if n.isValidChar then some (Char.ofNat n) else none

def shortEscape? : Char → Option Char
  | 'b' => some '\x08'
  | 't' => some '\t'
  | 'n' => some '\n'
  | 'f' => some '\x0c'
  | 'r' => some '\r'
  | '"' => some '"'
  | '\\' => some '\\'
  | _ => none

structure Content where
  text : List Char
  written : List Char

namespace Content

def put (shown taken : List Char) (c : Content) : Content :=
  ⟨shown ++ c.text, taken ++ c.written⟩

def basic? : List Char → Option Content
  | '"' :: _ => some ⟨[], ['"']⟩
  | '\\' :: 'u' :: a :: b :: c :: d :: rest => do
    let shown ← charOfHex? [a, b, c, d]
    return (← basic? rest).put [shown] ['\\', 'u', a, b, c, d]
  | '\\' :: 'U' :: a :: b :: c :: d :: e :: f :: g :: h :: rest => do
    let shown ← charOfHex? [a, b, c, d, e, f, g, h]
    return (← basic? rest).put [shown] ['\\', 'U', a, b, c, d, e, f, g, h]
  | '\\' :: c :: rest => do
    let shown ← shortEscape? c
    return (← basic? rest).put [shown] ['\\', c]
  | c :: rest => if isPlain c then (basic? rest).map (put [c] [c]) else none
  | [] => none

def literal? : List Char → Option Content
  | '\'' :: _ => some ⟨[], ['\'']⟩
  | c :: rest => if isPlain c then (literal? rest).map (put [c] [c]) else none
  | [] => none

/-- Whether a backslash in front of this text joins the line to the next one with text on it. -/
def joinsLines (rest : List Char) : Bool :=
  match rest.dropWhile isPadding with
  | '\n' :: _ => true
  | '\r' :: '\n' :: _ => true
  | _ => false

def basicLines? : Bool → List Char → Option Content
  | _, '"' :: '"' :: '"' :: '"' :: '"' :: _ => some ⟨['"', '"'], ['"', '"', '"', '"', '"']⟩
  | _, '"' :: '"' :: '"' :: '"' :: _ => some ⟨['"'], ['"', '"', '"', '"']⟩
  | _, '"' :: '"' :: '"' :: _ => some ⟨[], ['"', '"', '"']⟩
  | skipping, '\r' :: '\n' :: rest =>
    (basicLines? skipping rest).map (put (if skipping then [] else ['\n']) ['\r', '\n'])
  | skipping, '\n' :: rest =>
    (basicLines? skipping rest).map (put (if skipping then [] else ['\n']) ['\n'])
  | _, '\\' :: 'u' :: a :: b :: c :: d :: rest => do
    let shown ← charOfHex? [a, b, c, d]
    return (← basicLines? false rest).put [shown] ['\\', 'u', a, b, c, d]
  | _, '\\' :: 'U' :: a :: b :: c :: d :: e :: f :: g :: h :: rest => do
    let shown ← charOfHex? [a, b, c, d, e, f, g, h]
    return (← basicLines? false rest).put [shown] ['\\', 'U', a, b, c, d, e, f, g, h]
  | _, '\\' :: c :: rest =>
    if joinsLines (c :: rest) then (basicLines? true rest).map (put [] ['\\', c])
    else do
      let shown ← shortEscape? c
      return (← basicLines? false rest).put [shown] ['\\', c]
  | skipping, c :: rest =>
    if skipping && isPadding c then (basicLines? true rest).map (put [] [c])
    else if isPlain c then (basicLines? false rest).map (put [c] [c])
    else none
  | _, [] => none

def literalLines? : List Char → Option Content
  | '\'' :: '\'' :: '\'' :: '\'' :: '\'' :: _ =>
    some ⟨['\'', '\''], ['\'', '\'', '\'', '\'', '\'']⟩
  | '\'' :: '\'' :: '\'' :: '\'' :: _ => some ⟨['\''], ['\'', '\'', '\'', '\'']⟩
  | '\'' :: '\'' :: '\'' :: _ => some ⟨[], ['\'', '\'', '\'']⟩
  | '\r' :: '\n' :: rest => (literalLines? rest).map (put ['\n'] ['\r', '\n'])
  | c :: rest =>
    if isPlain c || c == '\n' then (literalLines? rest).map (put [c] [c]) else none
  | [] => none

def firstLineEnd : List Char → List Char
  | '\r' :: '\n' :: _ => ['\r', '\n']
  | '\n' :: _ => ['\n']
  | _ => []

end Content

open Text (Cursor)

def quoted? (opening : List Char) (content? : List Char → Option Content) (lines : Bool)
    (c : Cursor) : Option (String × Cursor) := do
  let inner ← c.over? opening
  let inner := if lines then inner.advance (Content.firstLineEnd inner.rest) else inner
  let content ← content? inner.rest
  return (String.ofList content.text, inner.advance content.written)

def line? (c : Cursor) : Option (String × Cursor) :=
  (quoted? ['"'] Content.basic? false c).or (quoted? ['\''] Content.literal? false c)

def string? (c : Cursor) : Option (String × Cursor) :=
  if c.startsWith ['"', '"', '"'] then
    quoted? ['"', '"', '"'] (Content.basicLines? false) true c
  else if c.startsWith ['\'', '\'', '\''] then
    quoted? ['\'', '\'', '\''] Content.literalLines? true c
  else line? c

end CMakeGrammar.Toml
