import CMakeGrammar.Alternation
/-! Expressions made of characters, groups, alternatives and optional parts, with their matches in
the order in which a search that goes back prefers them. -/
namespace CMakeGrammar.Regex

inductive Expression
  | nothing
  | character (c : Char)
  | both (first second : Expression)
  | either (first second : Expression)
  | maybe (e : Expression)
  | group (index : Nat) (e : Expression)
  deriving DecidableEq, Repr

/-- Where a match has come to: the groups closed so far, the last first, and what is left. -/
structure Progress where
  groups : List (Nat × List Char)
  rest : List Char
  deriving DecidableEq, Repr

namespace Expression

def run : Expression → Progress → List Progress
  | nothing, p => [p]
  | character c, p => if p.rest.head? = some c then [⟨p.groups, p.rest.tail⟩] else []
  | both first second, p => (run first p).flatMap (run second)
  | either first second, p => run first p ++ run second p
  | maybe e, p => run e p ++ [p]
  | group index e, p =>
    (run e p).map fun q =>
      ⟨(index, p.rest.take (p.rest.length - q.rest.length)) :: q.groups, q.rest⟩

def captured? (e : Expression) (index : Nat) (text : List Char) : Option (List Char) :=
  (e.run ⟨[], text⟩).head?.bind fun p => p.groups.lookup index

def inOrder (parts : List Expression) : Expression :=
  parts.foldl (fun behind part => .both part behind) .nothing

def branches (last : Expression) (earlier : List Expression) : Expression :=
  earlier.foldl (fun later branch => .either branch later) last

end Expression

structure OpenGroup where
  index : Nat
  earlier : List Expression
  parts : List Expression

namespace OpenGroup

def push (g : OpenGroup) (part : Expression) : OpenGroup := { g with parts := part :: g.parts }

def expression (g : OpenGroup) : Expression := .branches (.inOrder g.parts) g.earlier

end OpenGroup

/-- Reads an expression, inside of some groups, the innermost first. None of the other signs that
mean something in an expression may occur but behind a backslash. -/
def readFrom (count : Nat) (inner : OpenGroup) (outer : List OpenGroup) :
    List Char → Option Expression
  | [] => if outer.isEmpty then some inner.expression else none
  | '\\' :: c :: rest =>
    if Alternation.metaChars.contains c then readFrom count (inner.push (.character c)) outer rest
    else none
  | '(' :: rest => readFrom (count + 1) ⟨count + 1, [], []⟩ (inner :: outer) rest
  | ')' :: rest =>
    match outer with
    | [] => none
    | g :: outer => readFrom count (g.push (.group inner.index inner.expression)) outer rest
  | '|' :: rest =>
    readFrom count ⟨inner.index, .inOrder inner.parts :: inner.earlier, []⟩ outer rest
  | '?' :: rest =>
    match inner.parts with
    | [] => none
    | .maybe _ :: _ => none
    | part :: parts => readFrom count { inner with parts := .maybe part :: parts } outer rest
  | c :: rest =>
    if Alternation.metaChars.contains c then none
    else readFrom count (inner.push (.character c)) outer rest

def read? (pattern : String) : Option Expression :=
  readFrom 0 ⟨0, [], []⟩ [] pattern.toList

end CMakeGrammar.Regex
