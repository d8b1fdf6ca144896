import CMakeGrammar.Template.Param
/-! A template's text as a sequence of pieces: stretches of text, and tags. A backslash in front of
two opening braces makes them text. -/
namespace CMakeGrammar.Template
open Text (Position Cursor)

inductive Tag
  | place (raw : Bool) (content : Content)
  | inclusion (i : Inclusion)
  | inclusionOpen (i : Inclusion)
  | decoration (call : Call)
  | decorationOpen (call : Call)
  | blockOpen (call : Call) (bindings : Bindings)
  | otherwise
  | otherwiseBlock (call : Call) (bindings : Bindings)
  | blockClose (name : Option String)
  | comment

/-- A tag where it stands. A tilde at either end of it asks for the blanks there to be dropped.
Whether it has a line of its own is found out from the pieces around it. -/
structure PlacedTag where
  position : Position
  tag : Tag
  dropBefore : Bool
  dropAfter : Bool
  standsAlone : Bool

/-- `raw` is the text of a block that is not looked into. The blanks that it begins with are no part
of it, but the lines in which the block's tags stand are seen with them. -/
inductive Piece
  | text (chars : List Char)
  | raw (chars : List Char)
  | tag (t : PlacedTag)

def isTemplateNameChar (c : Char) : Bool :=
  c.isAlphanum || ['_', '-', '@', '/', '.'].contains c || 0x80 ≤ c.toNat

def opening : List Char := ['{', '{']
def closing : List Char := ['}', '}']
def rawOpening : List Char := ['{', '{', '{', '{']
def rawClosing : List Char := ['}', '}', '}', '}']

def keep (shown taken : List Char) (stretch : List Char × List Char) : List Char × List Char :=
  (shown ++ stretch.1, taken ++ stretch.2)

/-- The text up to the next tag, and the characters that it takes up. One backslash before opening
braces goes and they are text; of several one goes as well, and the braces begin a tag. -/
def stretch : List Char → List Char × List Char
  | '{' :: '{' :: _ => ([], [])
  | '\\' :: '{' :: '{' :: '{' :: '{' :: rest =>
    keep rawOpening ('\\' :: rawOpening) (stretch rest)
  | '\\' :: '{' :: '{' :: rest => keep opening ('\\' :: opening) (stretch rest)
  | '\\' :: rest =>
    let others := rest.takeWhile (· == '\\')
    if opening.isPrefixOf (rest.drop others.length) then (others, '\\' :: others)
    else keep ['\\'] ['\\'] (stretch rest)
  | c :: rest => keep [c] [c] (stretch rest)
  | [] => ([], [])

/-- The text of a block that is not looked into, up to four opening braces. One of several
backslashes in front of opening braces goes; `inRun` says that this has been the case already. -/
def rawStretch (inRun : Bool) : List Char → List Char × List Char
  | '{' :: '{' :: '{' :: '{' :: _ => ([], [])
  | '\\' :: '{' :: '{' :: '{' :: '{' :: rest =>
    if inRun then (['\\'], ['\\']) else keep rawOpening ('\\' :: rawOpening) (rawStretch false rest)
  | '\\' :: '{' :: '{' :: rest =>
    keep (if inRun then '\\' :: opening else opening) ('\\' :: opening) (rawStretch false rest)
  | '\\' :: rest =>
    let others := rest.takeWhile (· == '\\')
    if inRun then keep ['\\'] ['\\'] (rawStretch true rest)
    else if !others.isEmpty && opening.isPrefixOf (rest.drop others.length) then
      keep [] ['\\'] (rawStretch true rest)
    else keep ['\\'] ['\\'] (rawStretch false rest)
  | c :: rest => keep [c] [c] (rawStretch false rest)
  | [] => ([], [])

def upTo? (ending : List Char) : List Char → Option (List Char)
  | [] => if ending.isEmpty then some [] else none
  | c :: cs =>
    if ending.isPrefixOf (c :: cs) then some [] else (upTo? ending cs).map (c :: ·)

namespace Read

def callLine? (c : Cursor) : Option (Call × Cursor) := do
  let (name, after) ← name? c
  let (params, named, after) := params c.rest after
  return (.of name params named, after)

def alone? (c : Cursor) : Option (Content × Cursor) :=
  ((path? (skipSpaces c)).map fun r => (.value (.path r.1), r.2)).or <|
    (call? c.rest c).map fun r => (.value r.1, r.2)

def content? (close? : Cursor → Option (Bool × Cursor)) (c : Cursor) :
    Option (Content × Bool × Cursor) :=
  let called := do
    let (call, after) ← callLine? c
    if call.params.isEmpty && call.named.isEmpty then none
    else return (Content.call call, ← close? after)
  called.or do
    let (content, after) ← alone? c
    return (content, ← close? after)

def close? (braces : List Char) (c : Cursor) : Option (Bool × Cursor) := do
  let (drop, after) := mark ['~'] c
  return (drop, ← token? braces after)

def closeInner? (c : Cursor) : Option (Bool × Cursor) := do
  close? closing (← token? ['}'] c)

def past? (ending : List Char) (c : Cursor) : Option Cursor :=
  (upTo? ending c.rest).map fun before => c.advance (before ++ ending)

def comment? (c : Cursor) : Option (PlacedTag × Cursor) :=
  let begun := c.over? "\x7b\x7b!".toList
  let long := (begun.bind (token? ['-', '-'])).bind (past? "--\x7d\x7d".toList)
  let short := begun.bind (past? closing)
  (long.or short).map fun after => (⟨c.position, .comment, false, false, false⟩, after)

def rawPlace? (c : Cursor) : Option (PlacedTag × Cursor) :=
  let together := do
    let (before, inner) := mark ['~'] (← c.over? ['{', '{', '{'])
    let (content, drop, after) ← content? (close? ['}', '}', '}']) inner
    return (PlacedTag.mk c.position (.place true content) before drop false, after)
  together.or do
    let (before, inner) := mark ['~'] (← c.over? opening)
    let (content, drop, after) ← content? closeInner? (← token? ['{'] inner)
    return (⟨c.position, .place true content, before, drop, false⟩, after)

def otherwise? (c : Cursor) : Option (Tag × Bool × Cursor) := do
  let after ← (token? "else".toList c).or (token? ['^'] c)
  let alone := do
    let (drop, after) ← close? closing after
    return (Tag.otherwise, drop, after)
  alone.or do
    let (call, after) ← callLine? after
    let (bindings, after) := bindings after
    let (drop, after) ← close? closing after
    return (.otherwiseBlock call bindings, drop, after)

def quotedName? : List Char → Option (List Char)
  | '\'' :: _ => some []
  | '\\' :: '\'' :: rest => (quotedName? rest).map fun name => '\\' :: '\'' :: name
  | c :: rest => (quotedName? rest).map (c :: ·)
  | [] => none

def templateName? (c : Cursor) : Option (String × Cursor) :=
  let c := skipSpaces c
  let plain := (c.run? isTemplateNameChar).map fun found => (String.ofList found.1, found.2)
  plain.or do
    let inner ← c.over? ['\'']
    let content ← quotedName? inner.rest
    if content.isEmpty then none
    else
      let name := '\'' :: content ++ ['\'']
      return (String.ofList name, c.advance name)

def target? (c : Cursor) : Option (Target × Cursor) :=
  ((templateName? c).map fun r => (.written r.1, r.2)).or <|
    ((path? (skipSpaces c)).map fun r => (.path r.1.written, r.2)).or <|
      (call? c.rest c).map fun r => (.computed r.1, r.2)

def inclusion? (c : Cursor) : Option (Inclusion × Cursor) := do
  let (target, after) ← target? c
  let (params, named, after) := params after.rest after
  return (⟨target, params, (NameMap.ofList named).entries, none, false⟩, after)

def closed? {α : Type} (tag : α → Tag) (content : Option (α × Cursor)) :
    Option (Tag × Bool × Cursor) := do
  let (content, after) ← content
  let (drop, after) ← close? closing after
  return (tag content, drop, after)

def signed? (c : Cursor) : Option (Tag × Bool × Cursor) := do
  match (skipSpaces c).rest with
  | '#' :: _ =>
    let inner ← token? ['#'] c
    match (skipSpaces inner).rest with
    | '>' :: _ => closed? .inclusionOpen (inclusion? (← token? ['>'] inner))
    | '*' :: _ =>
      let (call, after) ← callLine? (← token? ['*'] inner)
      closed? .decorationOpen (some (call, (bindings after).2))
    | _ =>
      let (call, after) ← callLine? inner
      let (bindings, after) := bindings after
      closed? (.blockOpen call) (some (bindings, after))
  | '/' :: _ =>
    let inner ← token? ['/'] c
    let nameless := closed? (fun _ => .blockClose none) (some ((), inner))
    nameless.or <| (closed? (.blockClose ∘ some) (name? inner)).or
      (closed? (.blockClose ∘ some) (templateName? inner))
  | '&' :: _ =>
    let (content, after) ← alone? (← token? ['&'] c)
    let (drop, after) ← close? closing after
    return (.place true content, drop, after)
  | '>' :: _ => closed? .inclusion (inclusion? (← token? ['>'] c))
  | '*' :: _ =>
    let (call, after) ← callLine? (← token? ['*'] c)
    closed? .decoration (some (call, (bindings after).2))
  | _ =>
    let (content, drop, after) ← content? (close? closing) c
    return (.place false content, drop, after)

def tag? (c : Cursor) : Option (PlacedTag × Cursor) :=
  let plain := do
    let (before, inner) := mark ['~'] (← c.over? opening)
    let (tag, drop, after) ← (otherwise? inner).or (signed? inner)
    return (PlacedTag.mk c.position tag before drop false, after)
  plain.or ((rawPlace? c).or (comment? c))

def rawBlock? (c : Cursor) : Option (List Piece × Cursor) := do
  let (before, inner) := mark ['~'] (← c.over? rawOpening)
  let (call, inner) ← callLine? inner
  let (bindings, inner) := bindings inner
  let (drop, inner) ← close? rawClosing inner
  let (shown, taken) := rawStretch false inner.rest
  let ending := inner.advance taken
  let (beforeEnd, after) := mark ['~'] (← ending.over? rawOpening)
  let (name, after) ← name? (← token? ['/'] after)
  let (dropAfter, after) ← close? rawClosing after
  return ([.tag ⟨c.position, .blockOpen call bindings, before, drop, false⟩, .raw shown,
    .tag ⟨ending.position, .blockClose (some name), beforeEnd, dropAfter, false⟩], after)

def pieces : List Char → Cursor → Option (List Piece)
  | [], c => if c.rest.isEmpty then some [] else none
  | _ :: budget, c =>
    if c.rest.isEmpty then some []
    else if c.startsWith rawOpening then do
      let (block, after) ← rawBlock? c
      return block ++ (← pieces budget after)
    else if c.startsWith opening then do
      let (tag, after) ← tag? c
      return .tag tag :: (← pieces budget after)
    else
      let (shown, taken) := stretch c.rest
      (pieces budget (c.advance taken)).map (.text shown :: ·)

end Read

def pieces? (source : String) : Option (List Piece) :=
  Read.pieces source.toList (.ofText source.toList)

end CMakeGrammar.Template
