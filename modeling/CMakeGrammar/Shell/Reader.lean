import CMakeGrammar.Shell.Script
/-! Reading shell scripts. A script is read one line of commands at a time, as each line is run
before the next one is looked at. -/
namespace CMakeGrammar.Shell

/-- A text that stands in place of its alias: the alias, how much of the script is left behind the
text, and whether the text ends in a blank. -/
structure Standin where
  name : Chars
  left : Nat
  endsBlank : Bool

/-- What is left of a script, and the number of the line that it stands in. At the end of the line
come lines that have been read already. `isHere` is set in a text that stands in a script as the
input of a command. -/
structure Source where
  rest : Chars
  line : Nat
  linesRead : Nat
  isHere : Bool
  aliases : List (Chars × Chars)
  standins : List Standin

def Source.ofText (aliases : List (Chars × Chars)) (text : Chars) : Source where
  rest := text
  line := 1
  linesRead := 0
  isHere := false
  aliases
  standins := []

inductive Fault
  | unexpected (found : String) (expected : Option String)
  | openQuote
  | openBackquote
  | openBrace
  | openArithmetic
  | badFunctionName
  | badLoopName
  | badChannel
  deriving DecidableEq, Repr

namespace Fault

def message : Fault → String
  | unexpected found none => found ++ " unexpected"
  | unexpected found (some expected) => found ++ " unexpected (expecting " ++ expected ++ ")"
  | openQuote => "Unterminated quoted string"
  | openBackquote => "EOF in backquote substitution"
  | openBrace => "Missing '\x7d'"
  | openArithmetic => "Missing '))'"
  | badFunctionName => "Bad function name"
  | badLoopName => "Bad for loop variable"
  | badChannel => "Bad fd number"

end Fault

def endsWord (c : Char) : Bool := [' ', '\t', '\n', ';', '&', '|', '<', '>', '(', ')'].contains c

def closingWords : List String := ["then", "else", "elif", "fi", "do", "done", "esac", "\x7d"]

def openingWords : List String := ["if", "while", "until", "for", "case", "in", "!", "\x7b"]

def operators : List String := ["&&", "||", ";;", ";", "&", "|", "(", ")"]

def dropBlanks (line : Nat) : Chars → Chars × Nat
  | ' ' :: rest => dropBlanks line rest
  | '\t' :: rest => dropBlanks line rest
  | '\\' :: '\n' :: rest => dropBlanks (line + 1) rest
  | '#' :: rest => (rest.dropWhile (· ≠ '\n'), line)
  | rest => (rest, line)

/-- A text up to a backquote and after it. A backslash keeps its meaning for the script inside,
unless it stands before a character that has one out here. -/
def splitBackquoted (quoted : Bool) : Chars → Option (Chars × Chars)
  | [] => none
  | '\x60' :: rest => some ([], rest)
  | '\\' :: c :: rest =>
    let drops := ['$', '\x60', '\\'].contains c || quoted && c = '"'
    (splitBackquoted quoted rest).map fun r => (if drops then c :: r.1 else '\\' :: c :: r.1, r.2)
  | c :: rest => (splitBackquoted quoted rest).map fun r => (c :: r.1, r.2)

def splitAtLine (strips : Bool) (last : Chars) : Nat → Chars → Chars × Chars
  | 0, rest => ([], rest)
  | fuel + 1, rest =>
    let line := rest.takeWhile (· ≠ '\n')
    let others := rest.dropWhile (· ≠ '\n')
    let line := if strips then line.dropWhile (· = '\t') else line
    if line = last then ([], others.tail)
    else if others.isEmpty then (line, [])
    else
      let r := splitAtLine strips last fuel others.tail
      (line ++ '\n' :: r.1, r.2)

/-- What stands open behind a character in a line of commands, each by the character that ends it,
the innermost first. The character before tells what this one means. -/
def openAfter (ends : List Char) (before c : Char) : List Char :=
  match ends.head? with
  | some '#' => ends
  | some '\'' => if c = '\'' then ends.tail else ends
  | top =>
    if before = '\\' then ends
    else if top = some c then ends.tail
    else if top = some '\x60' then ends
    else if c = '"' || c = '\x60' || c = '\'' && top ≠ some '"' then c :: ends
    else if c = '{' && before = '$' then '}' :: ends
    else if c = '(' && (before = '$' || top = some ')') then ')' :: ends
    else if c = '#' && ends.isEmpty && endsWord before then [c]
    else ends

def lineLength (ends : List Char) (before : Char) : Chars → Nat
  | [] => 0
  | c :: rest =>
    let isQuoted := before = '\\' && ends.head? ≠ some '\''
    if c = '\n' && (ends = ['#'] || ends.isEmpty && !isQuoted) then 0
    else lineLength (openAfter ends before c) (if isQuoted then '"' else c) rest + 1

/-- What a text stands in, which says where it ends and what has a meaning in it. In braces between
quotes, `inner` quotes keep a brace from ending them. -/
inductive Within
  | word
  | string
  | braces (quoted inner : Bool)
  | sum (depth : Nat)
  | whole

namespace Within

def isQuoted : Within → Bool
  | word => false
  | braces quoted _ => quoted
  | _ => true

def endsAt (w : Within) (c : Char) (rest : Chars) : Bool :=
  match w with
  | word => endsWord c
  | string => c = '"'
  | braces _ inner => c = '}' && !inner
  | sum depth => depth = 0 && c = ')' && rest.head? = some ')'
  | whole => false

def after (c : Char) : Within → Within
  | sum depth => if c = '(' then sum (depth + 1) else if c = ')' then sum (depth - 1) else sum depth
  | w => w

def escapes (w : Within) (c : Char) : Bool :=
  ['$', '\x60', '\\'].contains c ||
    match w with
    | string => c = '"'
    | braces quoted _ => !quoted || c = '"' || c = '}'
    | word => true
    | _ => false

end Within

abbrev Reading := StateT Source (Except (Nat × Fault))

namespace Reading

def rest : Reading Chars := return (← get).rest

def fail {α : Type} (fault : Fault) : Reading α := do throw ((← get).line, fault)

def advance (n : Nat) : Reading Unit :=
  modify fun s =>
    let newlines := (s.rest.take n).count '\n'
    let rest := s.rest.drop n
    if newlines = 0 then { s with rest }
    else { s with rest, line := s.line + newlines + s.linesRead, linesRead := 0 }

def skipBlanks : Reading Unit :=
  modify fun s =>
    let (rest, line) := dropBlanks s.line s.rest
    { s with rest, line }

def inside {α : Type} (text : Chars) (line : Nat) (isHere : Bool) (read : Reading α) :
    Reading α := do
  let outside ← get
  set { outside with rest := text, line, linesRead := 0, isHere, standins := [] }
  let result ← read
  set outside
  return result

def skipLines : Nat → Reading Unit
  | 0 => return
  | fuel + 1 => do
    skipBlanks
    if (← rest).head? = some '\n' then
      advance 1
      skipLines fuel

def lines : Reading Unit := do skipLines ((← rest).length + 1)

def bareWord : Reading String := return String.ofList ((← rest).takeWhile (!endsWord ·))

def passesBlankAlias : Reading Bool := do
  let s ← get
  if s.standins.isEmpty then return false
  let (passed, open_) := s.standins.partition fun t => s.rest.length ≤ t.left
  set { s with standins := open_ }
  return passed.any (·.endsBlank)

def replacesAlias : Reading Bool := do
  let _ ← passesBlankAlias
  let s ← get
  if s.aliases.isEmpty then return false
  let word ← bareWord
  let name := word.toList
  if (closingWords ++ openingWords).contains word || s.standins.any (·.name = name) then
    return false
  match s.aliases.lookup name with
  | none => return false
  | some text =>
    let after := s.rest.drop name.length
    let endsBlank := text.getLast? = some ' ' || text.getLast? = some '\t'
    set { s with rest := text ++ after, standins := ⟨name, after.length, endsBlank⟩ :: s.standins }
    return true

def comeToCommand (pastLines : Bool) : Nat → Reading Unit
  | 0 => return
  | fuel + 1 => do
    if pastLines then lines else skipBlanks
    if ← replacesAlias then comeToCommand pastLines fuel

def aliasDepth : Nat := 1000

def commandStart (pastLines : Bool) : Reading Unit := comeToCommand pastLines aliasDepth

def redirects : Chars → Bool
  | c :: d :: _ => c = '<' || c = '>' || c.isDigit && (d = '<' || d = '>')
  | [c] => c = '<' || c = '>'
  | [] => false

def found : Reading String := do
  match ← rest with
  | [] => return "end of file"
  | c :: others =>
    if c = '\n' then return "newline"
    else if redirects (c :: others) then return "redirection"
    else
      match operators.find? fun o => o.toList.isPrefixOf (c :: others) with
      | some o => return "\"" ++ o ++ "\""
      | none =>
        let w ← bareWord
        return if (closingWords ++ openingWords).contains w then "\"" ++ w ++ "\"" else "word"

def refuse {α : Type} (expected : Option String) : Reading α := do
  let what ← found
  if what = "newline" then modify fun s => { s with line := s.line + 1 }
  fail (.unexpected what expected)

def expect (text : String) : Reading Unit := do
  if text.toList.isPrefixOf (← rest) then advance text.length
  else refuse (some ("\"" ++ text ++ "\""))

def expectWord (word : String) : Reading Unit := do
  if (← bareWord) = word then advance word.length else refuse (some ("\"" ++ word ++ "\""))

def startsWith (operator : String) : Reading Bool := do
  let here ← rest
  return operators.find? (fun o => o.toList.isPrefixOf here) = some operator

def ends : Reading Bool := do
  let here ← rest
  return here.isEmpty || here.head? = some ')' || (";;".toList.isPrefixOf here) ||
    closingWords.contains (← bareWord)

def variableName (text : Chars) : Chars :=
  match text with
  | [] => []
  | c :: _ =>
    if startsName c then text.takeWhile isNameChar
    else if c.isDigit || ['@', '*', '#', '?', '-', '$', '!'].contains c then [c]
    else []

def nameInBraces (text : Chars) : Chars :=
  if text.head?.any Char.isDigit then text.takeWhile Char.isDigit else variableName text

/-- What follows a name in braces: the adjustment, whether an empty value counts as none, and how
many characters say so. -/
def adjustment : Chars → Adjustment × Bool × Nat
  | ':' :: '-' :: _ => (.orElse, true, 2)
  | ':' :: '=' :: _ => (.orSet, true, 2)
  | ':' :: '?' :: _ => (.orFail, true, 2)
  | ':' :: '+' :: _ => (.ifSet, true, 2)
  | '-' :: _ => (.orElse, false, 1)
  | '=' :: _ => (.orSet, false, 1)
  | '?' :: _ => (.orFail, false, 1)
  | '+' :: _ => (.ifSet, false, 1)
  | '#' :: '#' :: _ => (.cutStart true, false, 2)
  | '#' :: _ => (.cutStart false, false, 1)
  | '%' :: '%' :: _ => (.cutEnd true, false, 2)
  | '%' :: _ => (.cutEnd false, false, 1)
  | ':' :: rest => (.unknown, true, 1 + min 1 rest.length)
  | _ => (.unknown, false, 1)

def directions : List (String × Direction × Nat × Bool) :=
  [("<<-", .text, 0, true), ("<<", .text, 0, false), ("<&", .duplicate, 0, false),
    ("<>", .both, 0, false), ("<", .input, 0, false), (">>", .appending, 1, false),
    (">&", .duplicate, 1, false), (">|", .forced, 1, false), (">", .output, 1, false)]

mutual

def parts : Nat → Within → List Part → Reading Word
  | 0, _, before => return before.reverse
  | fuel + 1, within, before => do
    match ← rest with
    | [] => return before.reverse
    | c :: others =>
      if within.endsAt c others then return before.reverse
      else if c = '\\' then
        match others with
        | [] => advance 1; parts fuel within (Part.addQuoted c before)
        | d :: _ =>
          advance 2
          if d = '\n' then parts fuel within before
          else if within.escapes d then parts fuel within (Part.addQuoted d before)
          else parts fuel within (Part.addQuoted d (Part.addQuoted c before))
      else if c = '$' || c = '\x60' then
        match ← substitution fuel within.isQuoted with
        | some part => parts fuel within (part :: before)
        | none =>
          advance 1
          parts fuel within
            (if within.isQuoted then Part.addQuoted c before else Part.addChar c before)
      else if within.isQuoted then
        advance 1
        match within, c with
        | .braces true inner, '"' => parts fuel (.braces true !inner) before
        | _, _ => parts fuel (within.after c) (Part.addQuoted c before)
      else if c = '\'' then
        let quoted := others.takeWhile (· ≠ '\'')
        advance (quoted.length + 2)
        if quoted.length = others.length then fail .openQuote
        parts fuel within (.quoted quoted :: before)
      else if c = '"' then
        advance 1
        let inner ← parts fuel .string []
        if (← rest).isEmpty then fail .openQuote
        advance 1
        let inner := if inner.isEmpty then [Part.quoted []] else inner
        parts fuel within (inner.reverse ++ before)
      else
        advance 1
        parts fuel within (Part.addChar c before)

def substitution : Nat → Bool → Reading (Option Part)
  | 0, _ => return none
  | fuel + 1, quoted => do
    match ← rest with
    | '\x60' :: others =>
      match splitBackquoted quoted others with
      | none =>
        advance (others.length + 1)
        fail .openBackquote
      | some (inner, after) =>
        let script ← inside inner 1 false do
          let script ← statements fuel false
          if (← rest).isEmpty then return script else refuse none
        advance ((← rest).length - after.length)
        return some (.output quoted script)
    | '$' :: '(' :: '(' :: _ =>
      advance 3
      let expression ← parts fuel (.sum 0) []
      if (← rest).isEmpty then fail .openArithmetic
      advance 2
      return some (.arithmetic quoted expression)
    | '$' :: '(' :: _ =>
      advance 2
      let script ← statements fuel false
      expect ")"
      return some (.output quoted script)
    | '$' :: '{' :: others =>
      advance 2
      inBraces fuel quoted others
    | '$' :: others =>
      let name := variableName others
      if name.isEmpty then return none
      advance (name.length + 1)
      return some (.value quoted name)
    | _ => return none

def inBraces : Nat → Bool → Chars → Reading (Option Part)
  | 0, _, _ => return none
  | fuel + 1, quoted, text => do
    let counted := nameInBraces text.tail
    if text.head? = some '#' && !counted.isEmpty &&
        (text.drop (counted.length + 1)).head? = some '}' then
      advance (counted.length + 2)
      return some (.adjusted quoted counted .length false [])
    let name := nameInBraces text
    advance name.length
    let r ← rest
    if r.head? = some '}' && !name.isEmpty then
      advance 1
      return some (.value quoted name)
    let (a, emptyCounts, size) := if name.isEmpty then (.unknown, false, 0) else adjustment r
    modify fun s => { s with rest := s.rest.drop size }
    let cuts := match a with
      | .cutStart _ => true
      | .cutEnd _ => true
      | _ => false
    let word ← parts fuel (.braces (quoted && !cuts) false) []
    let s ← get
    if s.rest.isEmpty then fail (if quoted && !s.isHere then .openQuote else .openBrace)
    advance 1
    return some (.adjusted quoted name a emptyCounts word)

def statements : Nat → Bool → Reading (List Statement)
  | 0, _ => return []
  | fuel + 1, needsOne => do
    commandStart true
    if (← rest).isEmpty || !needsOne && (← ends) then return []
    let (first, others) ← conditional fuel
    if ← startsWith ";" then
      advance 1
      return .mk first others false :: (← statements fuel false)
    else if ← startsWith "&" then
      advance 1
      return .mk first others true :: (← statements fuel false)
    else if (← rest).head? = some '\n' then
      return .mk first others false :: (← statements fuel false)
    else return [.mk first others false]

def conditional : Nat → Reading (Pipeline × List (Bool × Pipeline))
  | 0 => refuse none
  | fuel + 1 => do
    let first ← pipeline fuel
    let others ← alternatives fuel
    return (first, others)

def alternatives : Nat → Reading (List (Bool × Pipeline))
  | 0 => return []
  | fuel + 1 => do
    skipBlanks
    let onSuccess ← startsWith "&&"
    if onSuccess || (← startsWith "||") then
      advance 2
      commandStart true
      let next ← pipeline fuel
      return (onSuccess, next) :: (← alternatives fuel)
    else return []

def pipeline : Nat → Reading Pipeline
  | 0 => refuse none
  | fuel + 1 => do
    commandStart false
    let negated := (← bareWord) = "!"
    if negated then
      advance 1
      commandStart false
    return .mk negated (← stages fuel)

def stages : Nat → Reading (List Command)
  | 0 => refuse none
  | fuel + 1 => do
    skipBlanks
    let first ← command fuel
    skipBlanks
    if ← startsWith "|" then
      advance 1
      commandStart true
      return first :: (← stages fuel)
    else return [first]

def command : Nat → Reading Command
  | 0 => refuse none
  | fuel + 1 => do
    let line := (← get).line
    let word ← bareWord
    if (← rest).head? ≠ some '(' && !openingWords.contains word || word = "in" || word = "!" then
      if closingWords.contains word || openingWords.contains word then refuse none
      else simple fuel none [] [] []
    else
      let c ← compound fuel word
      return .compound line c (← redirections fuel)

def compound : Nat → String → Reading Compound
  | 0, _ => refuse none
  | fuel + 1, word => do
    if word.isEmpty then
      advance 1
      let body ← statements fuel true
      expect ")"
      return .subshell body
    else if word = "\x7b" then
      advance 1
      let body ← statements fuel true
      expectWord "\x7d"
      return .group body
    else if word = "if" then
      advance 2
      let (condition, body, otherwise) ← branches fuel
      return .choice condition body otherwise
    else if word = "while" || word = "until" then
      advance 5
      let condition ← statements fuel true
      return .loop (word = "until") condition (← bodyOfLoop fuel)
    else if word = "for" then
      advance 3
      skipBlanks
      let name ← bareWord
      if !isName name.toList then fail .badLoopName
      advance name.length
      lines
      let named := (← bareWord) = "in"
      let words ← if named then advance 2; listed fuel else pure []
      if (← rest).isEmpty && named then refuse none
      skipBlanks
      if ← startsWith ";" then advance 1
      lines
      return .each name.toList (if named then some words else none) (← bodyOfLoop fuel)
    else
      advance 4
      skipBlanks
      let subject ← parts fuel .word []
      if subject.isEmpty then refuse (some "word")
      lines
      expectWord "in"
      return .select subject (← selection fuel)

def branches : Nat → Reading (List Statement × List Statement × List Statement)
  | 0 => refuse none
  | fuel + 1 => do
    let condition ← statements fuel true
    expectWord "then"
    let body ← statements fuel true
    let line := (← get).line
    let word ← bareWord
    if word = "elif" then
      advance 4
      let (inner, innerBody, innerOtherwise) ← branches fuel
      let c := Compound.choice inner innerBody innerOtherwise
      return (condition, body, [.mk (.mk false [.compound line c []]) [] false])
    else if word = "else" then
      advance 4
      let otherwise ← statements fuel true
      expectWord "fi"
      return (condition, body, otherwise)
    else
      expectWord "fi"
      return (condition, body, [])

def bodyOfLoop : Nat → Reading (List Statement)
  | 0 => refuse none
  | fuel + 1 => do
    expectWord "do"
    let body ← statements fuel true
    expectWord "done"
    return body

def listed : Nat → Reading (List Word)
  | 0 => return []
  | fuel + 1 => do
    skipBlanks
    match (← rest).head? with
    | none => return []
    | some c =>
      if c = '\n' || c = ';' then return []
      else if endsWord c then refuse none
      else
        let word ← parts fuel .word []
        return word :: (← listed fuel)

def selection : Nat → Reading (List Arm)
  | 0 => return []
  | fuel + 1 => do
    lines
    if (← bareWord) = "esac" then
      advance 4
      return []
    if ← startsWith "(" then advance 1
    let patterns ← choices fuel
    expect ")"
    let body ← statements fuel false
    if ← startsWith ";;" then
      advance 2
      return .mk patterns body :: (← selection fuel)
    else if (← bareWord) = "esac" then
      advance 4
      return [.mk patterns body]
    else refuse (some "\";;\"")

def choices : Nat → Reading (List Word)
  | 0 => return []
  | fuel + 1 => do
    skipBlanks
    let here ← rest
    let pattern ←
      if redirects here then
        let operator := here.dropWhile Char.isDigit
        let size := (directions.find? fun d => d.1.toList.isPrefixOf operator).map (·.1.length)
        advance (here.length - operator.length + size.getD 0)
        pure []
      else if here.head? = some '\n' then
        advance 1
        pure []
      else
        match operators.find? fun o => o.toList.isPrefixOf here with
        | some operator =>
          advance operator.length
          pure []
        | none => parts fuel .word []
    skipBlanks
    if ← startsWith "|" then
      advance 1
      return pattern :: (← choices fuel)
    else return [pattern]

def simple : Nat → Option Nat → List (Chars × Word) → List Word → List Redirection →
    Reading Command
  | 0, _, _, _, _ => refuse none
  | fuel + 1, place, bindings, words, redirected => do
    skipBlanks
    if words.isEmpty || (← passesBlankAlias) then commandStart false
    let here ← rest
    let name := here.takeWhile isNameChar
    let line := place.getD (← get).line
    if redirects here then
      let r ← redirection fuel
      simple fuel (some line) bindings words (r :: redirected)
    else if (here.head?.map endsWord).getD true then
      if words.isEmpty && bindings.isEmpty && redirected.isEmpty then refuse none
      return .simple line bindings.reverse words.reverse redirected.reverse
    else if words.isEmpty && isName name && (here.drop name.length).head? = some '=' then
      advance (name.length + 1)
      let word ← parts fuel .word []
      let line := place.getD (← get).line
      simple fuel (some line) ((name, word) :: bindings) words redirected
    else
      let word ← parts fuel .word []
      let line := place.getD (← get).line
      skipBlanks
      match words, Part.plain? word with
      | [], some name =>
        if bindings.isEmpty && (← startsWith "(") then
          advance 1
          skipBlanks
          expect ")"
          if !isName name || specialCommands.contains (String.ofList name) then
            fail .badFunctionName
          commandStart true
          return .define name (← command fuel)
        else simple fuel (some line) bindings [word] redirected
      | _, _ => simple fuel (some line) bindings (word :: words) redirected

def redirections : Nat → Reading (List Redirection)
  | 0 => return []
  | fuel + 1 => do
    skipBlanks
    if redirects (← rest) then
      let first ← redirection fuel
      return first :: (← redirections fuel)
    else return []

def redirection : Nat → Reading Redirection
  | 0 => refuse none
  | fuel + 1 => do
    let digits := (← rest).takeWhile Char.isDigit
    advance digits.length
    let here ← rest
    match directions.find? fun d => d.1.toList.isPrefixOf here with
    | none => refuse none
    | some (operator, direction, usual, strips) =>
      advance operator.length
      skipBlanks
      let target ← parts fuel .word []
      if target.isEmpty then refuse none
      let channel := if digits.isEmpty then usual else (String.ofList digits).toNat?.getD usual
      if direction = .text then
        let after ← rest
        let outside := after.take (lineLength [] ' ' after)
        let last := target.flatMap fun p => p.literal.1
        let split := splitAtLine strips last after.length (after.drop (outside.length + 1))
        let word ←
          if target.any fun p => p.literal.2 then pure [Part.quoted split.1]
          else inside split.1 (← get).line true (parts fuel .whole [])
        let removed := after.length - outside.length - 1 - split.2.length
        let lines := (after.drop (outside.length + 1)).take removed |>.count '\n'
        modify fun s => { s with
          rest := outside ++ '\n' :: split.2
          linesRead := s.linesRead + lines
          standins := s.standins.map fun t => { t with left := t.left - removed } }
        return .mk channel direction word
      else return .mk channel direction target

end

def line : Nat → Reading (List Statement)
  | 0 => return []
  | fuel + 1 => do
    let (first, others) ← conditional fuel
    let aside ← startsWith "&"
    let goesOn := aside || (← startsWith ";")
    if goesOn then
      advance 1
      skipBlanks
    let here ← rest
    if here.isEmpty || here.head? = some '\n' then return [.mk first others aside]
    else if goesOn then return .mk first others aside :: (← line fuel)
    else refuse none

end Reading

/-- Enough for reading a text: every step takes up a character, or goes one level down in the
grammar. -/
def Source.fuel (s : Source) : Nat := 16 * s.rest.length + 16

/-- The first commands of a script and what comes after them. A script that has no commands any more
has ended. -/
def Source.next (s : Source) : Except (Nat × Fault) (Option (List Statement × Source)) :=
  let read : Reading (Option (List Statement)) := do
    Reading.commandStart true
    if (← Reading.rest).isEmpty then return none
    return some (← Reading.line s.fuel)
  match read.run s with
  | .ok (some commands, after) => .ok (some (commands, after))
  | .ok (none, _) => .ok none
  | .error e => .error e

end CMakeGrammar.Shell
