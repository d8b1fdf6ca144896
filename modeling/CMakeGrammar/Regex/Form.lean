import CMakeGrammar.Text.Alphanumeric
import CMakeGrammar.Text.Blank
/-! The form of regular expressions: which texts are expressions that an automaton can be made of.
Word boundaries of Unicode are beyond one, and an expression must match whole characters. Counts in
braces are not read. -/
namespace CMakeGrammar.Regex

/-- What is left to read, the names of the groups so far, whether expressions are about characters
or bytes, and whether blanks count for nothing. -/
structure Source where
  rest : List Char
  names : List (List Char)
  unicode : Bool
  spaced : Bool

abbrev Reading := StateT Source Option

def depthLimit : Nat := 250

def isMeta (c : Char) : Bool := "\\.+*?()|[]\x7b\x7d^$#&-~".toList.contains c

def isEscapable (c : Char) : Bool :=
  isMeta c || c.toNat < 0x80 && !c.isAlphanum && c != '<' && c != '>'

def isHex (c : Char) : Bool := c.isDigit || ('a' ≤ c.toLower && c.toLower ≤ 'f')

def hexValue (digits : List Char) : Nat :=
  digits.foldl (fun n c =>
    n * 16 + (if c.isDigit then c.toNat - 48 else c.toLower.toNat - 87)) 0

inductive Escape
  | character (n : Nat)
  | byte (n : Nat)
  | charClass (negated : Bool)
  | property
  | boundary
  | edge
  deriving DecidableEq, Repr

inductive SetOperator
  | common
  | without
  | apart
  deriving DecidableEq, Repr

/-- How deep a set is, and whether it holds bytes that are no characters. It holds all of them, or
none. -/
structure SetForm where
  depth : Nat
  hasBytes : Bool

namespace SetOperator

def ofSign? : Char → Option SetOperator
  | '&' => some common
  | '-' => some without
  | '~' => some apart
  | _ => none

def join (o : SetOperator) (a b : Bool) : Bool :=
  match o with
  | common => a && b
  | without => a && !b
  | apart => a != b

end SetOperator

namespace Reading

def fail {α : Type} : Reading α := fun _ => none

def check (holds : Bool) : Reading Unit := if holds then return else fail

def peek? : Reading (Option Char) := return (← get).rest.head?

def advance (n : Nat) : Reading Unit := modify fun s => { s with rest := s.rest.drop n }

def sees (text : String) : Reading Bool := return text.toList.isPrefixOf (← get).rest

def around (depth : Nat) : Reading Nat := do
  check (depth < depthLimit)
  return depth + 1

def dropBlanks (inComment : Bool) : List Char → List Char
  | [] => []
  | c :: rest =>
    if inComment then dropBlanks (c != '\n') rest
    else if Text.isBlank c then dropBlanks false rest
    else if c = '#' then dropBlanks true rest
    else c :: rest

def skipBlanks : Reading Unit :=
  modify fun s => if s.spaced then { s with rest := dropBlanks false s.rest } else s

def next : Reading Char := do
  advance 1
  skipBlanks
  match ← peek? with
  | some c => return c
  | none => fail

/-- The character behind this one. Blanks are passed over where they count for nothing, and so is
the sign of a comment, but not what the comment says. -/
def ahead? : Reading (Option Char) := do
  let s ← get
  let behind := s.rest.drop 1
  if s.spaced then return (counts? false behind).or behind.head? else return behind.head?
where
  counts? (inComment : Bool) : List Char → Option Char
    | [] => none
    | c :: rest =>
      if Text.isBlank c then counts? inComment rest
      else if c = '#' && !inComment then counts? true rest
      else some c

def hexDigits : Nat → Reading (List Char)
  | 0 => return []
  | size + 1 => do
    let digit := (← get).rest.take 1
    check (digit.any isHex)
    if size = 0 then
      advance 1
      skipBlanks
      return digit
    let _ ← next
    return digit ++ (← hexDigits size)

def coded (size : Nat) : Reading Nat := do
  let _ ← next
  let n := hexValue (← hexDigits size)
  check n.isValidChar
  return n

def escape : Reading Escape := do
  match ← peek? with
  | none => fail
  | some 'x' => return .byte (← coded 2)
  | some 'u' => return .character (← coded 4)
  | some 'U' => return .character (← coded 8)
  | some c =>
    if c = 'p' || c = 'P' then
      let name ← next
      check (['c', 'l', 'm', 'n', 'p', 's', 'z'].contains name.toLower)
      advance 1
      skipBlanks
      return .property
    advance 1
    if ['d', 's', 'w'].contains c then return .charClass false
    else if ['D', 'S', 'W'].contains c then return .charClass true
    else if ['a', 'f', 't', 'n', 'r', 'v'].contains c || isEscapable c then
      return .character c.toNat
    else if ['A', 'z'].contains c then return .edge
    else if ['b', 'B', '<', '>'].contains c then return .boundary
    else fail

def allows (unicode inSet : Bool) : Escape → Bool
  | .character n => unicode || !inSet || n < 0x80
  | .byte n => unicode || n < 0x80
  | .charClass negated => unicode || !negated
  | .property => unicode
  | .boundary => !unicode && !inSet
  | .edge => !inSet

def checkedEscape (inSet : Bool) : Reading Escape := do
  let e ← escape
  check (allows (← get).unicode inSet e)
  return e

def member : Reading (Option Nat) := do
  match ← peek? with
  | none => fail
  | some '\\' =>
    advance 1
    match ← checkedEscape true with
    | .character n => return some n
    | .byte n => return some n
    | _ => return none
  | some c =>
    advance 1
    check ((← get).unicode || c.toNat < 0x80)
    return some c.toNat

def range : Reading Unit := do
  let low ← member
  skipBlanks
  let here ← peek?
  check here.isSome
  let behind ← ahead?
  if here = some '-' && behind ≠ some ']' && behind ≠ some '-' then
    let _ ← next
    match low, ← member with
    | some low, some high => check (low ≤ high)
    | _, _ => fail

def classNames : List String :=
  ["alnum", "alpha", "ascii", "blank", "cntrl", "digit", "graph", "lower", "print", "punct",
    "space", "upper", "word", "xdigit"]

def namedClass? (text : List Char) : Option (Nat × Bool) :=
  let inner := text.drop 2
  let negated := inner.head? = some '^'
  let body := if negated then inner.tail else inner
  let name := body.takeWhile (· ≠ ':')
  if ['[', ':'].isPrefixOf text && [':', ']'].isPrefixOf (body.drop name.length) &&
      classNames.contains (String.ofList name) then
    some (text.length - body.length + name.length + 2, negated)
  else none

def dashes : Nat → Reading Nat
  | 0 => return 0
  | fuel + 1 => do
    if (← peek?) = some '-' then
      let _ ← next
      return (← dashes fuel) + 1
    else return 0

structure Members where
  count : Nat
  depth : Nat
  hasBytes : Bool

namespace Members

def push (m : Members) (f : SetForm) : Members :=
  ⟨m.count + 1, max m.depth f.depth, m.hasBytes || f.hasBytes⟩

def form (m : Members) : Reading SetForm :=
  return ⟨← if m.count < 2 then pure m.depth else around m.depth, m.hasBytes⟩

def joined (m : Members) : Option (SetOperator × SetForm) → Reading SetForm
  | none => m.form
  | some (o, before) => do
    let after ← m.form
    return ⟨← around (max before.depth after.depth), o.join before.hasBytes after.hasBytes⟩

end Members

mutual

def charSet : Nat → Reading SetForm
  | 0 => fail
  | fuel + 1 => do
    let negated := (← next) = '^'
    if negated then
      let _ ← next
    let n ← dashes fuel
    let closes := n = 0 && (← peek?) = some ']'
    if closes then
      let _ ← next
    let f ← members fuel none ⟨if closes then 1 else n, 0, false⟩
    let hasBytes := f.hasBytes != negated
    check ((← get).unicode || !hasBytes)
    return ⟨← around f.depth, hasBytes⟩

def members : Nat → Option (SetOperator × SetForm) → Members → Reading SetForm
  | 0, _, _ => fail
  | fuel + 1, before, m => do
    skipBlanks
    let rest := (← get).rest
    match rest with
    | [] => fail
    | ']' :: _ =>
      advance 1
      m.joined before
    | '[' :: _ =>
      match namedClass? rest with
      | some (size, negated) =>
        advance size
        members fuel before (m.push ⟨0, negated⟩)
      | none =>
        let inner ← charSet fuel
        members fuel before (m.push inner)
    | c :: others =>
      match if others.head? = some c then SetOperator.ofSign? c else none with
      | some o =>
        advance 2
        members fuel (some (o, ← m.joined before)) ⟨0, 0, false⟩
      | none =>
        range
        members fuel before (m.push ⟨0, false⟩)

end

def flags : Reading (List Char) := do
  let body := (← get).rest.takeWhile fun c => c ≠ ':' && c ≠ ')'
  advance body.length
  let set := body.takeWhile (· ≠ '-')
  let cleared := (body.drop set.length).drop 1
  let letters := set ++ cleared
  check (letters.all fun c => ['i', 'm', 's', 'U', 'u', 'R', 'x'].contains c)
  check (letters.eraseDups.length = letters.length)
  check (set.length = body.length || !cleared.isEmpty)
  modify fun s => { s with
    unicode := !cleared.contains 'u' && (s.unicode || set.contains 'u')
    spaced := !cleared.contains 'x' && (s.spaced || set.contains 'x') }
  return body

def groupName : Reading Unit := do
  let name := (← get).rest.takeWhile (· ≠ '>')
  advance name.length
  check (← sees ">")
  advance 1
  check (name.head?.any fun c => c = '_' || Text.isAlphabetic c)
  check (name.all fun c => ['_', '.', '[', ']'].contains c || Text.isAlphanumeric c)
  check !(← get).names.contains name
  modify fun s => { s with names := name :: s.names }

/-- What stands in a branch so far: how many parts, the greatest depth of those before the last, and
the depth of the last, if it may be repeated. -/
structure Branch where
  count : Nat
  depth : Nat
  last : Option Nat

namespace Branch

def push (b : Branch) (last : Option Nat) : Branch :=
  ⟨b.count + 1, max b.depth (b.last.getD 0), last⟩

def total (b : Branch) : Reading Nat :=
  let depth := max b.depth (b.last.getD 0)
  if b.count < 2 then return depth else around depth

end Branch

mutual

def alternatives : Nat → Nat → Nat → Reading Nat
  | 0, _, _ => fail
  | fuel + 1, n, depth => do
    let depth := max depth (← branch fuel ⟨0, 0, none⟩)
    if (← peek?) = some '|' then
      advance 1
      alternatives fuel (n + 1) depth
    else if n = 0 then return depth
    else around depth

def branch : Nat → Branch → Reading Nat
  | 0, _ => fail
  | fuel + 1, b => do
    skipBlanks
    match ← peek? with
    | none => b.total
    | some c =>
      if c = '|' || c = ')' then b.total
      else if c = '[' then branch fuel (b.push (some (← charSet fuel).depth))
      else
        advance 1
        if c = '(' then branch fuel (b.push (← group fuel))
        else if c = '\\' then
          let _ ← checkedEscape false
          branch fuel (b.push (some 0))
        else if c = '{' then fail
        else if ['?', '*', '+'].contains c then
          match b.last with
          | none => fail
          | some depth =>
            if (← peek?) = some '?' then advance 1
            branch fuel { b with last := some (← around depth) }
        else
          check (c ≠ '.' || (← get).unicode)
          branch fuel (b.push (some 0))

/-- A group behind its opening parenthesis; none for flags alone, which hold from there on. -/
def group : Nat → Reading (Option Nat)
  | 0 => fail
  | fuel + 1 => do
    let outside ← get
    skipBlanks
    if (← sees "?=") || (← sees "?!") || (← sees "?<=") || (← sees "?<!") then fail
    let named ← sees "?<"
    if named || (← sees "?P<") then
      advance (if named then 2 else 3)
      groupName
    else if ← sees "?" then
      advance 1
      let letters ← flags
      if (← peek?) = some ')' then
        check !letters.isEmpty
        advance 1
        return none
      check ((← peek?) = some ':')
      advance 1
    let depth ← alternatives fuel 0 0
    check ((← peek?) = some ')')
    advance 1
    modify fun s => { s with unicode := outside.unicode, spaced := outside.spaced }
    return some (← around depth)

end

end Reading

def isWellFormed (text : String) : Bool :=
  let chars := text.toList
  match (Reading.alternatives (4 * chars.length + 4) 0 0).run ⟨chars, [], true, false⟩ with
  | some (_, after) => after.rest.isEmpty
  | none => false

end CMakeGrammar.Regex
