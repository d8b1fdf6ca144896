/-! Shell scripts: pipelines of commands, one after another or on condition. A command is simple, or
holds further lists of commands. Words are made of parts, of which some stand for what a variable
holds or what a command prints. A text is a list of characters each of which stands for one byte. -/
namespace CMakeGrammar.Shell

abbrev Chars := List Char

/-- What braces around a variable ask for beside its value. The two `cut`s take off what matches a
pattern, as little or as much as possible. -/
inductive Adjustment
  | length
  | orElse
  | orSet
  | orFail
  | ifSet
  | cutStart (long : Bool)
  | cutEnd (long : Bool)
  | unknown
  deriving DecidableEq, Repr

inductive Direction
  | input
  | output
  | forced
  | appending
  | both
  | duplicate
  | text
  deriving DecidableEq, Repr

mutual

/-- A part of a word. What an unquoted part stands for is cut at blanks; `home` is the directory of
a user, or one's own; `emptyCounts` says that an adjustment treats an empty value like none. -/
inductive Part
  | text (chars : Chars)
  | quoted (chars : Chars)
  | home (user : Chars)
  | value (quoted : Bool) (name : Chars)
  | adjusted (quoted : Bool) (name : Chars) (a : Adjustment) (emptyCounts : Bool)
    (word : List Part)
  | output (quoted : Bool) (script : List Statement)
  | arithmetic (quoted : Bool) (expression : List Part)

inductive Redirection
  | mk (channel : Nat) (direction : Direction) (target : List Part)

inductive Arm
  | mk (patterns : List (List Part)) (body : List Statement)

inductive Compound
  | group (body : List Statement)
  | subshell (body : List Statement)
  | choice (condition body otherwise : List Statement)
  | loop (stopsOn : Bool) (condition body : List Statement)
  | each (name : Chars) (words : Option (List (List Part))) (body : List Statement)
  | select (subject : List Part) (arms : List Arm)

/-- A command and the line that it begins in. The words of a simple command come after what it
binds. -/
inductive Command
  | simple (line : Nat) (bindings : List (Chars × List Part)) (words : List (List Part))
    (redirections : List Redirection)
  | compound (line : Nat) (c : Compound) (redirections : List Redirection)
  | define (name : Chars) (body : Command)

inductive Pipeline
  | mk (negated : Bool) (commands : List Command)

inductive Statement
  | mk (first : Pipeline) (others : List (Bool × Pipeline)) (aside : Bool)

end

abbrev Word := List Part

/-- Commands that act on the script itself. No function can take their place, and when one of them
fails, the script does. -/
def specialCommands : List String :=
  [".", ":", "break", "continue", "eval", "exec", "exit", "export", "local", "readonly", "return",
    "set", "shift", "times", "trap", "unset"]

def startsName (c : Char) : Bool := c.isAlpha || c = '_'

def isNameChar (c : Char) : Bool := c.isAlphanum || c = '_'

def isName : Chars → Bool
  | [] => false
  | c :: rest => startsName c && rest.all isNameChar

namespace Part

def addChar (c : Char) : List Part → List Part
  | text chars :: parts => text (chars ++ [c]) :: parts
  | parts => text [c] :: parts

def addQuoted (c : Char) : List Part → List Part
  | quoted chars :: parts => quoted (chars ++ [c]) :: parts
  | parts => quoted [c] :: parts

def plain? : Word → Option Chars
  | [text chars] => some chars
  | _ => none

def literal : Part → Chars × Bool
  | text chars => (chars, false)
  | quoted chars => (chars, true)
  | _ => ([], false)

def homesIn (colons isLast : Bool) : Nat → Chars → List Part
  | 0, chars => [text chars]
  | fuel + 1, chars =>
    let isEnd (c : Char) : Bool := c = '/' || colons && c = ':'
    let (start, rest) : List Part × Chars := match chars with
      | '~' :: after =>
        let user := after.takeWhile (!isEnd ·)
        if user.length = after.length && !isLast then ([], chars)
        else ([home user], after.drop user.length)
      | _ => ([], chars)
    let kept := if colons then rest.takeWhile (· ≠ ':') else rest
    let before := if kept.isEmpty then start else start ++ [text kept]
    match rest.drop kept.length with
    | [] => before
    | colon :: others =>
      before ++ text [colon] :: (if others.isEmpty then [] else homesIn colons isLast fuel others)

def homesInValue : Bool → Word → Word
  | _, [] => []
  | isFirst, text chars :: others =>
    let isLast := others.isEmpty
    let kept := if isFirst then [] else chars.takeWhile (· ≠ ':')
    let rest := chars.drop kept.length
    let before : List Part := if kept.isEmpty then [] else [text kept]
    match isFirst, rest with
    | true, _ => homesIn true isLast (chars.length + 1) chars ++ homesInValue false others
    | false, colon :: after =>
      before ++ text [colon] :: homesIn true isLast (chars.length + 1) after ++
        homesInValue false others
    | false, [] => before ++ homesInValue false others
  | _, p :: others => p :: homesInValue false others

def homesInside : Part → Part
  | adjusted false name a emptyCounts word =>
    adjusted false name a emptyCounts (homesInValue true word)
  | p => p

def homesAtStart : Word → Word
  | text chars :: others => homesIn false others.isEmpty 1 chars ++ others
  | w => w

def binding? : Word → Option (Chars × Word)
  | text chars :: others =>
    let name := chars.takeWhile (· ≠ '=')
    if isName name && name.length < chars.length then
      let after := chars.drop (name.length + 1)
      some (name, if after.isEmpty then others else text after :: others)
    else none
  | _ => none

end Part
end CMakeGrammar.Shell
