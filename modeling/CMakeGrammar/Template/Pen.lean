/-! Indentation: the lines of an included template stand as far in as its tag. Only what comes out
of text and values is indented, and blanks are due at the start of a line until something is shown
there. -/
namespace CMakeGrammar.Template

def isLineEnd (c : Char) : Bool := c == '\n' || c == '\r'

/-- Where writing has come to: the blanks that lines begin with, whether they are due before what
comes next, whether the last text has ended a line, and whether there has been one. -/
structure Pen where
  blanks : Option (List Char)
  isDue : Bool
  endsLine : Bool
  hasWritten : Bool
  deriving DecidableEq, Repr

namespace Pen

def start : Pen := ⟨none, false, false, false⟩

def indented (blanks : List Char) : List Char → List Char
  | '\n' :: c :: rest => '\n' :: blanks ++ indented blanks (c :: rest)
  | c :: rest => c :: indented blanks rest
  | [] => []

/-- A text as it is shown, and the pen behind it. A line that is empty takes no blanks that are
due. -/
def write (p : Pen) (text : List Char) : List Char × Pen :=
  if text.isEmpty then ([], p)
  else
    let blanks := p.blanks.getD []
    let lead := if p.isDue && !text.head?.any isLineEnd then blanks else []
    let ends := text.getLast?.any isLineEnd
    (lead ++ indented blanks text, ⟨p.blanks, ends, ends, true⟩)

def begin (p : Pen) (isDue : Bool) : Pen := { p with isDue, hasWritten := false }

def resume (before after : Pen) : Pen :=
  if after.hasWritten then { after with blanks := before.blanks, isDue := after.endsLine }
  else before

theorem write_nil (p : Pen) : p.write [] = ([], p) := rfl

theorem indented_nil_blanks (text : List Char) : indented [] text = text := by
  induction text using indented.induct with
  | case1 c rest ih => simp [indented, ih]
  | case2 c rest h ih => simp [indented, ih]
  | case3 => rfl

theorem write_of_no_blanks (p : Pen) (h : p.blanks = none) (text : List Char) :
    (p.write text).1 = text := by
  cases text <;> simp [write, h, indented_nil_blanks]

end Pen
end CMakeGrammar.Template
