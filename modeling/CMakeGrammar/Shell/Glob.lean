import CMakeGrammar.Shell.Pattern
import CMakeGrammar.Shell.State
/-! Patterns of paths, and the paths of a file system that they fit. -/
namespace CMakeGrammar.Shell.Glob
open Pattern (Glyph)

def toChars (glyphs : List Glyph) : Chars := glyphs.map Prod.fst

def isMeta : List Glyph → Bool
  | [] => false
  | (c, quoted) :: rest =>
    !quoted && (c = '*' || c = '?') ||
      !quoted && c = '[' && closes (if rest.head? = some ('!', false) then rest.tail else rest) ||
      isMeta rest
where
  closes (rest : List Glyph) : Bool := rest.tail.contains (']', false)

def names : List Glyph → List (List Glyph)
  | [] => [[]]
  | g :: rest =>
    match names rest with
    | [] => [[g]]
    | name :: others => if g.1 = '/' then [] :: name :: others else (g :: name) :: others

/-- The names in a directory that fit a pattern. Those that begin with a point must be asked for. -/
def fitting (files : FileSystem) (directory : Chars) (pattern : List Glyph) : List Chars :=
  let path := if directory.isEmpty then "." else pathOf directory
  let here := match files.find path, files.place path with
    | .ok .directory, .ok place => (files.children place).map charsOf
    | _, _ => []
  let items := Pattern.ofGlyphs pattern
  (['.'] :: ['.', '.'] :: here).filter fun name =>
    (name.head? ≠ some '.' || (pattern.head?.map Prod.fst) = some '.') && Pattern.fits items name

def pathsFrom (files : FileSystem) (start : Chars) : List (List Glyph) → List Chars
  | [] => if files.exists? (pathOf start) then [start] else []
  | pattern :: others =>
    let slash := if others.isEmpty then [] else ['/']
    if isMeta pattern then
      (fitting files start pattern).flatMap fun name =>
        pathsFrom files (start ++ name ++ slash) others
    else pathsFrom files (start ++ toChars pattern ++ slash) others

def paths (files : FileSystem) (glyphs : List Glyph) : List Chars :=
  let pattern := Pattern.unescape glyphs
  if isMeta pattern then
    match pathsFrom files [] (names pattern) with
    | [] => [toChars glyphs]
    | found => found.mergeSort fun a b => !decide (b < a)
  else [toChars glyphs]

end CMakeGrammar.Shell.Glob
