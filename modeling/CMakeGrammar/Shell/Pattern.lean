import CMakeGrammar.Shell.Script
/-! Patterns that words are matched with: a star for any text, a question mark for any character,
brackets for one of several. A quoted character stands for itself. -/
namespace CMakeGrammar.Shell.Pattern

abbrev Glyph := Char × Bool

inductive Item
  | anyText
  | one (holds : Char → Bool)

def classes : List (String × (Char → Bool)) :=
  [("alpha", Char.isAlpha), ("digit", Char.isDigit), ("alnum", Char.isAlphanum),
    ("upper", Char.isUpper), ("lower", Char.isLower), ("blank", fun c => c = ' ' || c = '\t'),
    ("space", fun c => c = ' ' || ('\t' ≤ c && c ≤ '\x0d')),
    ("punct", fun c => '!' ≤ c && c ≤ '~' && !c.isAlphanum),
    ("xdigit", fun c => c.isDigit || ('a' ≤ c.toLower && c.toLower ≤ 'f'))]

def set? : Nat → Bool → List Glyph → Option ((Char → Bool) × List Glyph)
  | 0, _, _ => none
  | _ + 1, _, [] => none
  | fuel + 1, isFirst, (c, quoted) :: rest =>
    if c = ']' && !quoted && !isFirst then some (fun _ => false, rest)
    else
      let name := (rest.drop 1).takeWhile fun g => g.1 ≠ ':'
      let named := classes.find? fun k => k.1.toList = name.map (·.1)
      match c = '[' && !quoted && (rest.head?.map (·.1)) = some ':', named with
      | true, some (_, holds) =>
        (set? fuel false (rest.drop (name.length + 3))).map fun r =>
          (fun d => holds d || r.1 d, r.2)
      | _, _ =>
        match rest with
        | ('-', false) :: (high, highQuoted) :: others =>
          if high = ']' && !highQuoted then
            (set? fuel false rest).map fun r => (fun d => d = c || r.1 d, r.2)
          else
            (set? fuel false others).map fun r => (fun d => (c ≤ d && d ≤ high) || r.1 d, r.2)
        | _ => (set? fuel false rest).map fun r => (fun d => d = c || r.1 d, r.2)

def items : Nat → List Glyph → List Item
  | 0, _ => []
  | _ + 1, [] => []
  | fuel + 1, (c, quoted) :: rest =>
    if quoted then .one (· = c) :: items fuel rest
    else if c = '*' then .anyText :: items fuel rest
    else if c = '?' then .one (fun _ => true) :: items fuel rest
    else if c = '[' then
      let negated := rest.head? = some ('!', false)
      match set? (rest.length + 1) true (if negated then rest.tail else rest) with
      | some (holds, others) => .one (fun d => holds d != negated) :: items fuel others
      | none => .one (· = c) :: items fuel rest
    else .one (· = c) :: items fuel rest

def unescape : List Glyph → List Glyph
  | ('\\', false) :: (c, _) :: rest => (c, true) :: unescape rest
  | g :: rest => g :: unescape rest
  | [] => []

def ofGlyphs (glyphs : List Glyph) : List Item := items (glyphs.length + 1) (unescape glyphs)

def suffixes : Chars → List Chars
  | [] => [[]]
  | c :: rest => (c :: rest) :: suffixes rest

def fits : List Item → Chars → Bool
  | [], text => text.isEmpty
  | .anyText :: others, text => (suffixes text).any (fits others)
  | .one holds :: others, c :: rest => holds c && fits others rest
  | .one _ :: _, [] => false

def firstOf (text : Chars) : Chars := text.takeWhile (· ≠ '\x00')

def cutStart (long : Bool) (pattern : List Item) (text : Chars) : Chars :=
  let sizes := if long then (List.range (text.length + 1)).reverse
    else List.range ((firstOf text).length + 1)
  match sizes.find? fun n => fits pattern (firstOf (text.take n)) with
  | some n => text.drop n
  | none => text

def cutEnd (long : Bool) (pattern : List Item) (text : Chars) : Chars :=
  let starts := if long then List.range ((firstOf text).length + 1)
    else (List.range (text.length + 1)).reverse
  match starts.find? fun n => fits pattern (firstOf (text.drop n)) with
  | some n => text.take n
  | none => text

end CMakeGrammar.Shell.Pattern
