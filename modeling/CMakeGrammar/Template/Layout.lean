import CMakeGrammar.Template.Pen
import CMakeGrammar.Template.Piece
import CMakeGrammar.Text.Blank
/-! Layout: which blanks around the tags are part of the text. A tag with a tilde takes the blanks
on that side with it, and a tag that only steers takes its whole line if it stands alone there. -/
namespace CMakeGrammar.Template

def Tag.steers : Tag → Bool
  | .place .. => false
  | _ => true

def isPadding (c : Char) : Bool := c == ' ' || c == '\t'

/-- What is known in front of a piece: whether blanks are to be dropped, whether the rest of a line
is, and whether the line so far is blank. -/
structure Margin where
  dropBlanks : Bool
  dropLine : Bool
  lineBlank : Bool

namespace Margin

def start : Margin := ⟨false, false, true⟩

def dropLineEnd : List Char → List Char
  | '\r' :: '\n' :: rest => rest
  | '\n' :: rest => rest
  | rest => rest

def swallows (m : Margin) (text : List Char) : Bool :=
  m.dropBlanks && text.all Read.isSpace

def lead (m : Margin) (text : List Char) : List Char :=
  if m.dropBlanks then text.dropWhile Text.isBlank
  else if m.dropLine then dropLineEnd (text.dropWhile isPadding)
  else text

def blankAfter (m : Margin) (text : List Char) : Bool :=
  match text.reverse.dropWhile isPadding with
  | [] => m.lineBlank
  | c :: _ => isLineEnd c

def afterText (m : Margin) (text : List Char) : Margin :=
  ⟨m.dropBlanks, m.dropLine && m.swallows text, m.blankAfter text⟩

def endsBlank : List Piece → Bool
  | [] => true
  | .text chars :: _ => (chars.dropWhile isPadding).head?.any isLineEnd
  | .raw chars :: _ => (chars.dropWhile isPadding).head?.any isLineEnd
  | .tag _ :: _ => false

def alone (m : Margin) (t : PlacedTag) (following : List Piece) : Bool :=
  t.tag.steers && m.lineBlank && endsBlank following

def afterTag (m : Margin) (t : PlacedTag) (following : List Piece) : Margin :=
  match t.tag with
  | .comment => ⟨m.dropBlanks, m.alone t following, false⟩
  | tag => ⟨t.dropAfter, if tag.steers then m.alone t following else m.dropLine, false⟩

def trail (m : Margin) (text : List Char) : List Piece → List Char
  | .tag t :: following =>
    let text := if t.dropBefore then Text.dropBlankEnd text else text
    if m.alone t following then (text.reverse.dropWhile isPadding).reverse else text
  | _ => text

end Margin

def padding? (text : List Char) : Option (List Char) :=
  let blanks := (text.reverse.takeWhile isPadding).reverse
  if blanks.isEmpty then none else some blanks

def indent (blanks : Option (List Char)) (t : PlacedTag) : PlacedTag :=
  match t.tag with
  | .inclusion i =>
    if t.dropBefore then t else { t with tag := .inclusion { i with indent := blanks } }
  | _ => t

def indentAll : List Piece → List Piece
  | .text chars :: .tag t :: rest =>
    .text chars :: .tag (indent (padding? chars) t) :: indentAll rest
  | piece :: rest => piece :: indentAll rest
  | [] => []

def layoutFrom (m : Margin) : List Piece → List Piece
  | [] => []
  | .text chars :: rest =>
    let after := m.afterText chars
    .text (after.trail (m.lead chars) rest) :: layoutFrom after rest
  | .raw chars :: rest =>
    let after := m.afterText chars
    .text ((after.trail (m.lead chars) rest).dropWhile Read.isSpace) :: layoutFrom after rest
  | .tag t :: rest =>
    .tag { t with standsAlone := m.alone t rest && !t.dropBefore } ::
      layoutFrom (m.afterTag t rest) rest

def layout (pieces : List Piece) : List Piece := layoutFrom .start (indentAll pieces)

end CMakeGrammar.Template
