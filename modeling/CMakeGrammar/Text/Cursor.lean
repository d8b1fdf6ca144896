/-! Places in a text: the position, how many characters stand before it, and what stands from there
on. -/
namespace CMakeGrammar.Text

/-- Line and column, both counted from one. -/
structure Position where
  line : Nat
  column : Nat
  deriving DecidableEq, Repr, Inhabited

namespace Position

def start : Position := ⟨1, 1⟩

def next (p : Position) (c : Char) : Position :=
  if c = '\n' then ⟨p.line + 1, 1⟩ else ⟨p.line, p.column + 1⟩

end Position

structure Cursor where
  position : Position
  offset : Nat
  rest : List Char

namespace Cursor

def ofText (text : List Char) : Cursor := ⟨.start, 0, text⟩

def atEnd (c : Cursor) : Bool := c.rest.isEmpty

def advance (passed : List Char) (c : Cursor) : Cursor :=
  ⟨passed.foldl .next c.position, c.offset + passed.length, c.rest.drop passed.length⟩

def between (c later : Cursor) : List Char := c.rest.take (later.offset - c.offset)

def over? (text : List Char) (c : Cursor) : Option Cursor :=
  if text.isPrefixOf c.rest then some (c.advance text) else none

def startsWith (text : List Char) (c : Cursor) : Bool := text.isPrefixOf c.rest

def run (p : Char → Bool) (c : Cursor) : List Char × Cursor :=
  let chars := c.rest.takeWhile p
  (chars, c.advance chars)

def run? (p : Char → Bool) (c : Cursor) : Option (List Char × Cursor) :=
  match c.run p with
  | ([], _) => none
  | found => some found

end Cursor
end CMakeGrammar.Text
