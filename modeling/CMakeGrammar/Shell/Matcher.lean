import CMakeGrammar.Shell.Integer
import CMakeGrammar.Shell.Pattern
/-! Regular expressions in their basic and extended form, and where they match in a text: as far
left as they can, and as long as they can from there. -/
namespace CMakeGrammar.Shell

inductive Matcher
  | nothing
  | one (holds : Char → Bool)
  | lineStart
  | lineEnd
  | group (n : Nat) (m : Matcher)
  | again (n : Nat)
  | both (a b : Matcher)
  | either (a b : Matcher)
  | repeated (least : Nat) (most : Option Nat) (m : Matcher)

namespace Matcher

/-! ### Matching -/

/-- A place in a text: the character before it, what comes after it, how many characters lie before
it, and what groups have matched so far. -/
structure Place where
  before : Option Char
  rest : Chars
  taken : Nat
  groups : List (Nat × Chars)

namespace Place

def ofText (text : Chars) : Place := ⟨none, text, 0, []⟩

def forward : Nat → Place → Place
  | 0, p => p
  | n + 1, p =>
    match p.rest with
    | c :: rest => forward n { p with before := some c, rest, taken := p.taken + 1 }
    | [] => p

def distinct (places : List Place) : List Place :=
  places.foldl (fun kept p =>
    if kept.any fun q => q.taken = p.taken then kept else kept ++ [p]) []

def longest (places : List Place) : Option Place :=
  places.foldl (fun best p =>
    match best with
    | some b => if b.taken < p.taken then some p else best
    | none => some p) none

end Place

def steps (step : Place → List Place) : Nat → Nat → Option Nat → List Place → List Place
  | 0, _, _, _ => []
  | fuel + 1, least, most, places =>
    let here := if least = 0 then places else []
    let next := Place.distinct (places.flatMap step)
    let next := if least = 0 then next.filter fun q => !places.any (·.taken = q.taken) else next
    if next.isEmpty || most = some 0 then here
    else steps step fuel (least - 1) (most.map Nat.pred) next ++ here

def ends : Matcher → Place → List Place
  | nothing, p => [p]
  | one holds, p =>
    match p.rest with
    | c :: _ => if holds c then [p.forward 1] else []
    | [] => []
  | lineStart, p => if p.before.isNone then [p] else []
  | lineEnd, p => if p.rest.isEmpty then [p] else []
  | group n m, p =>
    (ends m p).map fun q =>
      { q with groups := (n, p.rest.take (q.taken - p.taken)) :: q.groups.filter (·.1 ≠ n) }
  | again n, p =>
    match p.groups.lookup n with
    | some text => if text.isPrefixOf p.rest then [p.forward text.length] else []
    | none => []
  | both a b, p => Place.distinct ((ends a p).flatMap (ends b))
  | either a b, p => Place.distinct (ends a p ++ ends b p)
  | repeated least most m, p => steps (ends m) (p.rest.length + least + 2) least most [p]

def find (m : Matcher) : Nat → Place → Option (Place × Place)
  | 0, _ => none
  | fuel + 1, p =>
    match Place.longest (ends m p) with
    | some q => some (p, q)
    | none => if p.rest.isEmpty then none else find m fuel (p.forward 1)

def first (m : Matcher) (p : Place) : Option (Place × Place) := find m (p.rest.length + 1) p

def hasGroup : Matcher → Bool
  | group .. => true
  | both a b => hasGroup a || hasGroup b
  | either a b => hasGroup a || hasGroup b
  | repeated _ _ m => hasGroup m
  | _ => false

/-! ### Reading -/

structure Source where
  rest : Chars
  groups : Nat
  isExtended : Bool
  ignoresCase : Bool

abbrev Reading := StateT Source (Except String)

def advance (n : Nat) : Reading Unit := modify fun s => { s with rest := s.rest.drop n }

/-- Whether something stands here that has a backslash before it in the basic form only. -/
def sees (c : Char) : Reading Bool := do
  let s ← get
  return if s.isExtended then s.rest.head? = some c else ['\\', c].isPrefixOf s.rest

def take : Reading Unit := do advance (if (← get).isExtended then 1 else 2)

def literal (c : Char) : Reading Matcher := do
  if (← get).ignoresCase then return one fun d => d.toLower = c.toLower
  else return one (· = c)

def starred : Matcher → Matcher := repeated 0 none

def count : Reading (Nat × Option Nat) := do
  let digits : Reading (Option Nat) := do
    let text := (← get).rest.takeWhile Char.isDigit
    advance text.length
    return if text.isEmpty then none else some (text.foldl (fun n c => 10 * n + (c.toNat - 48)) 0)
  let least ← digits
  if (← get).rest.head? = some ',' then
    advance 1
    return (least.getD 0, ← digits)
  else return (least.getD 0, least)

def repeats : Nat → Matcher → Reading Matcher
  | 0, m => return m
  | fuel + 1, m => do
    if (← get).rest.head? = some '*' then
      advance 1
      repeats fuel (starred m)
    else if ← sees '+' then
      take
      repeats fuel (repeated 1 none m)
    else if ← sees '?' then
      take
      repeats fuel (repeated 0 (some 1) m)
    else if ← sees '\x7b' then
      take
      let (least, most) ← count
      if !(← sees '\x7d') then throw "Unmatched \x7b or \\\x7b"
      take
      repeats fuel (repeated least most m)
    else return m

def escaped (c : Char) : Reading Matcher := do
  advance 2
  match c with
  | 'w' => return one isNameChar
  | 'W' => return one (!isNameChar ·)
  | 's' => return one Integer.isBlank
  | 'S' => return one (!Integer.isBlank ·)
  | 'n' => return one (· = '\n')
  | 't' => return one (· = '\t')
  | _ =>
    if c.isDigit && c ≠ '0' then
      let n := c.toNat - 48
      if (← get).groups < n then throw "Invalid back reference"
      return again n
    else literal c

mutual

def alternatives : Nat → Reading Matcher
  | 0 => return nothing
  | fuel + 1 => do
    let first ← sequence fuel true
    if ← sees '|' then
      take
      return either first (← alternatives fuel)
    else return first

def sequence : Nat → Bool → Reading Matcher
  | 0, _ => return nothing
  | fuel + 1, isFirst => do
    let s ← get
    if s.rest.isEmpty || (← sees '|') || (← sees ')') then return nothing
    if s.rest.head? = some '^' && (isFirst || s.isExtended) then
      advance 1
      return both lineStart (← sequence fuel true)
    let m ← single fuel isFirst
    let m ← repeats s.rest.length m
    return both m (← sequence fuel false)

def single : Nat → Bool → Reading Matcher
  | 0, _ => return nothing
  | fuel + 1, isFirst => do
    let s ← get
    if ← sees '(' then
      take
      let n := s.groups + 1
      modify fun s => { s with groups := n }
      let inner ← alternatives fuel
      if !(← sees ')') then throw "Unmatched ( or \\("
      take
      return group n inner
    match s.rest with
    | '\\' :: c :: _ => escaped c
    | ['\\'] => throw "Trailing backslash"
    | '[' :: rest =>
      let isNegated := rest.head? = some '^'
      let rest := if isNegated then rest.tail else rest
      match Pattern.set? (rest.length + 1) true (rest.map (·, false)) with
      | some (holds, after) =>
        let holds (c : Char) : Bool :=
          holds c || s.ignoresCase && (holds c.toLower || holds c.toUpper)
        modify fun s => { s with rest := after.map Prod.fst }
        return one fun c => holds c != isNegated
      | none => throw "Unmatched [, [^, [:, [., or [="
    | c :: rest =>
      advance 1
      let isLast := rest.isEmpty || s.isExtended || ['\\', ')'].isPrefixOf rest ||
        ['\\', '|'].isPrefixOf rest
      if c = '.' then return one fun _ => true
      else if c = '$' && isLast then return lineEnd
      else if c = '*' && !isFirst then return starred nothing
      else literal c
    | [] => return nothing

end

def ofText (isExtended ignoresCase : Bool) (text : Chars) : Except String Matcher := do
  let (m, s) ← (alternatives (4 * text.length + 4)).run ⟨text, 0, isExtended, ignoresCase⟩
  if s.rest.isEmpty then return m else throw "Unmatched ) or \\)"

end Matcher
end CMakeGrammar.Shell
