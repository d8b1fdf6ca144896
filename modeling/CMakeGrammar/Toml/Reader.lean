import CMakeGrammar.Toml.Build
import CMakeGrammar.Toml.Number
import CMakeGrammar.Toml.Text
/-! Reading TOML 1.0. A text that is not well formed, or sets a key twice, is no document. -/
namespace CMakeGrammar.Toml
open Text (Cursor)

/-- How many arrays and inline tables may stand in one another, and how many parts a key may
have. -/
def depthLimit : Nat := 79

def skipPadding (c : Cursor) : Cursor := (c.run isPadding).2

def lineEnd? (c : Cursor) : Option Cursor := (c.over? ['\n']).or (c.over? ['\r', '\n'])

def comment (c : Cursor) : Cursor :=
  match c.over? ['#'] with
  | some after => (after.run isPlain).2
  | none => c

def restOfLine? (c : Cursor) : Option Cursor :=
  let c := comment (skipPadding c)
  if c.atEnd then some c else lineEnd? c

def skipLines : List Char → Cursor → Cursor
  | [], c => c
  | _ :: budget, c =>
    let c := skipPadding c
    match lineEnd? (comment c) with
    | some after => skipLines budget after
    | none => c

def isBareKeyChar (c : Char) : Bool := c.isAlphanum || c == '_' || c == '-'

def keyPart? (c : Cursor) : Option (Key × Cursor) := do
  let (name, after) ←
    (line? c).or ((c.run? isBareKeyChar).map fun r => (String.ofList r.1, r.2))
  return (⟨name, .between c after⟩, after)

def keyParts : List Char → Cursor → List Key × Cursor
  | [], c => ([], c)
  | _ :: budget, c =>
    match (c.over? ['.']).bind fun c => keyPart? (skipPadding c) with
    | some (part, after) =>
      let (parts, after) := keyParts budget (skipPadding after)
      (part :: parts, after)
    | none => ([], c)

def key? (c : Cursor) : Option (List Key × Key × Cursor) := do
  let (first, after) ← keyPart? (skipPadding c)
  let (others, after) := keyParts c.rest (skipPadding after)
  let parts := first :: others
  if parts.length ≤ depthLimit then return (parts.dropLast, parts.getLast!, after) else none

abbrev ValueReader := Cursor → Option (Value × Cursor)

def items? (value? : ValueReader) : List Char → Cursor → Option (List Value × Cursor)
  | [], _ => none
  | _ :: budget, c =>
    let c := skipLines c.rest c
    match c.over? [']'] with
    | some after => some ([], after)
    | none => do
      let (item, after) ← value? c
      let after := skipLines after.rest after
      match after.over? [','] with
      | some after =>
        let (others, after) ← items? value? budget after
        return (item :: others, after)
      | none => return ([item], ← after.over? [']'])

def pair? (value? : ValueReader) (c : Cursor) : Option (List Key × Key × Value × Cursor) := do
  let (path, key, after) ← key? c
  let (value, after) ← value? (skipPadding (← after.over? ['=']))
  return (path, key, value, after)

def pairs? (value? : ValueReader) : List Char → Value → Cursor → Option (Value × Cursor)
  | [], _, _ => none
  | _ :: budget, table, c => do
    let (path, key, value, after) ← pair? value? c
    let table ← table.set? path key value
    let after := skipPadding after
    match after.over? [','] with
    | some after => pairs? value? budget table after
    | none => return (table, ← after.over? ['}'])

def Value.placed (span : Span) : Value → Value
  | .table origin _ entries => .table origin (some span) entries
  | v => v

def scalar? (c : Cursor) : Option (Scalar × Cursor) :=
  match c.rest.head? with
  | some '"' => (string? c).map fun r => (.text r.1, r.2)
  | some '\'' => (string? c).map fun r => (.text r.1, r.2)
  | some 't' => (c.over? "true".toList).map (.truth true, ·)
  | some 'f' => (c.over? "false".toList).map (.truth false, ·)
  | _ => number? c

/-- A value with at most so many arrays and inline tables in one another. -/
def value? : Nat → ValueReader
  | depth, c =>
    match c.over? ['['], c.over? ['{'], depth with
    | some inner, _, depth + 1 => do
      let (items, after) ← items? (value? depth) c.rest inner
      return (.array (.between c after) items, after)
    | none, some inner, depth + 1 => do
      let empty := Value.table .inline none []
      let (table, after) ← match (skipPadding inner).over? ['}'] with
        | some after => pure (empty, after)
        | none => pairs? (value? depth) c.rest empty inner
      return (table.placed (.between c after), after)
    | none, none, _ => do
      let (scalar, after) ← scalar? c
      return (.scalar (.between c after) scalar, after)
    | _, _, 0 => none

structure Draft where
  root : Value
  current : List Key

namespace Draft

def start : Draft := ⟨.empty, []⟩

def header? (opening closing : List Char)
    (open? : List Key → Key → Span → Value → Option Value) (d : Draft) (c : Cursor) :
    Option (Draft × Cursor) := do
  let (path, key, after) ← key? (← c.over? opening)
  let after ← after.over? closing
  let root ← open? path key (.between c after) d.root
  return (⟨root, path ++ [key]⟩, ← restOfLine? after)

def pair? (d : Draft) (c : Cursor) : Option (Draft × Cursor) := do
  let (path, key, value, after) ← Toml.pair? (value? depthLimit) c
  let root ← d.root.setIn? d.current path key value
  return ({ d with root }, ← restOfLine? after)

def line? (d : Draft) (c : Cursor) : Option (Draft × Cursor) :=
  let c := skipPadding c
  match restOfLine? c with
  | some after => some (d, after)
  | none =>
    if c.startsWith ['[', '['] then
      d.header? ['[', '['] [']', ']'] (fun path key span root => root.openElement? path key span) c
    else if c.startsWith ['['] then
      d.header? ['['] [']'] (fun path key span root => root.openTable? path key span) c
    else d.pair? c

def lines? : List Char → Draft → Cursor → Option Draft
  | [], d, c => if c.atEnd then some d else none
  | _ :: budget, d, c =>
    if c.atEnd then some d
    else
      match d.line? c with
      | some (d, after) => lines? budget d after
      | none => none

end Draft

def parse? (text : String) : Option Value :=
  let c := Cursor.ofText text.toList
  let c := (c.over? ['\uFEFF']).getD c
  (Draft.lines? c.rest .start c).map Draft.root

end CMakeGrammar.Toml
