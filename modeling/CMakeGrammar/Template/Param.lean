import CMakeGrammar.Template.Syntax
import CMakeGrammar.Json.Reader
/-! Reading what stands inside a tag: names, paths, literals, and calls in parentheses. Between the
parts of a call spaces may stand; within a path they may not. -/
namespace CMakeGrammar.Template
open Text (Cursor)

def isNameChar (c : Char) : Bool :=
  c.isAlphanum || c == '_' || c == '-' || c == '$' || c == ':' || 0x80 ≤ c.toNat

namespace Read

def isSpace (c : Char) : Bool :=
  c == ' ' || c == '\t' || c == '\n' || c == '\r'

def skipSpaces (c : Cursor) : Cursor := (c.run isSpace).2

def token? (text : List Char) (c : Cursor) : Option Cursor := (skipSpaces c).over? text

def mark (text : List Char) (c : Cursor) : Bool × Cursor :=
  match token? text c with
  | some c => (true, c)
  | none => (false, c)

def name? (c : Cursor) : Option (String × Cursor) :=
  ((skipSpaces c).run? isNameChar).map fun found => (String.ofList found.1, found.2)

def word? (text : List Char) (c : Cursor) : Option Cursor := do
  let after ← c.over? text
  if after.rest.head?.any isNameChar then none else some after

def member? (c : Cursor) : Option (List Char × Cursor) :=
  match c.over? ['['] with
  | some inner =>
    let (body, after) := inner.run (· != ']')
    (after.over? [']']).map fun after => (body, after)
  | none => c.run? isNameChar

def separator? (c : Cursor) : Option Cursor := (c.over? ['/']).or (c.over? ['.'])

def ups : List Char → Cursor → List Step × Cursor
  | [], c => ([], c)
  | _ :: budget, c =>
    match (c.over? ['.', '.']).bind separator? with
    | some after => let (steps, after) := ups budget after; (.up :: steps, after)
    | none => ([], c)

def members : List Char → Cursor → List Step × Cursor
  | [], c => ([], c)
  | _ :: budget, c =>
    match (separator? c).bind member? with
    | some (member, after) =>
      let (steps, after) := members budget after
      (.name (String.ofList member) :: steps, after)
    | none => ([], c)

def path? (c : Cursor) : Option (Path × Cursor) := do
  let here := (((c.over? "this".toList).bind separator?).or (c.over? ['.', '/'])).getD c
  let (root, afterRoot) := match (here.over? "@root".toList).bind separator? with
    | some after => ([Step.root], after)
    | none => ([], here)
  let (loop, afterLoop) := match afterRoot.over? ['@'] with
    | some after => ([Step.loop], after)
    | none => ([], afterRoot)
  let (ups, afterUps) := ups afterLoop.rest afterLoop
  let (first, afterFirst) ← member? afterUps
  let (others, after) := members afterFirst.rest afterFirst
  let steps := root ++ loop ++ ups ++ .name (String.ofList first) :: others
  return (Path.ofSteps steps (String.ofList (c.between after)), after)

def requoteEscape? (quote c : Char) : Option (List Char) :=
  if c = quote then some (if c = '"' then ['\\', c] else [c])
  else if ['\\', '/', 'b', 'f', 'n', 'r', 't', 'u'].contains c then some ['\\', c]
  else none

def hasCode (c : Char) (rest : List Char) : Bool :=
  c != 'u' || ((rest.take 4).length == 4 && (rest.take 4).all fun d => (Json.hexValue? d).isSome)

/-- The content of a string literal up to its closing quote, once as it would stand between double
quotes and once as written. -/
def quotedContent? (quote : Char) : List Char → Option (List Char × List Char)
  | '\\' :: c :: rest => do
    let shown ← if hasCode c rest then requoteEscape? quote c else none
    let (content, written) ← quotedContent? quote rest
    return (shown ++ content, '\\' :: c :: written)
  | c :: rest =>
    if c = quote then some ([], [])
    else (quotedContent? quote rest).map fun r =>
      (if c = '"' then '\\' :: '"' :: r.1 else c :: r.1, c :: r.2)
  | [] => none

def string? (quote : Char) (c : Cursor) : Option (Option String × Cursor) := do
  let inner ← c.over? [quote]
  let (content, written) ← quotedContent? quote inner.rest
  return ((Json.unescape? content).map String.ofList, inner.advance (written ++ [quote]))

def digitsAfter (mark : List Char) (c : Cursor) : Cursor :=
  match c.over? mark with
  | some after => (after.run Char.isDigit).2
  | none => c

def number? (c : Cursor) : Option (Option Json × Cursor) := do
  let unsigned := (c.over? ['-']).getD c
  let (_, whole) ← unsigned.run? Char.isDigit
  let fraction := digitsAfter ['.'] whole
  let exponent := (do
    let e ← fraction.over? ['E']
    let (_, after) ← ((e.over? ['-']).getD e).run? Char.isDigit
    return after).getD fraction
  if exponent.rest.head?.any isNameChar then none
  else some (Json.parse? (String.ofList (c.between exponent)), exponent)

def word (c : Cursor) : Option (Json × Cursor) :=
  ((word? "null".toList c).map (Json.null, ·)).or <|
    ((word? "true".toList c).map (Json.bool true, ·)).or <|
      (word? "false".toList c).map (Json.bool false, ·)

def arrangeMembers (members : List (String × Json)) : Json :=
  .object (NameMap.ofList members).entries

mutual

/-- A literal, behind spaces, and its value; none where it has the form of a literal without being
one. Inside brackets and braces strings stand between double quotes. -/
def literal? (nested : Bool) : List Char → Cursor → Option (Option Json × Cursor)
  | [], _ => none
  | _ :: budget, c =>
    let c := skipSpaces c
    match c.rest with
    | '"' :: _ => (string? '"' c).map fun r => (r.1.map .string, r.2)
    | '\'' :: _ =>
      (string? '\'' c).map fun r => (if nested then none else r.1.map .string, r.2)
    | '[' :: _ => do
      let inner ← c.over? ['[']
      match token? [']'] inner, token? [','] inner with
      | some after, _ => return (some (.array []), after)
      | none, some inner => return (none, (← items? budget inner).2)
      | none, none =>
        let (items, after) ← items? budget inner
        return (items.map .array, after)
    | '{' :: _ => do
      let inner ← c.over? ['{']
      match token? ['}'] inner, token? [','] inner with
      | some after, _ => return (some (.object []), after)
      | none, some inner => return (none, (← objectMembers? budget inner).2)
      | none, none =>
        let (members, after) ← objectMembers? budget inner
        return (members.map arrangeMembers, after)
    | _ => ((word c).map fun r => (some r.1, r.2)).or (number? c)

def items? : List Char → Cursor → Option (Option (List Json) × Cursor)
  | [], _ => none
  | _ :: budget, c => do
    let (item, after) ← literal? true budget c
    match token? [']'] after with
    | some after => return (item.map ([·]), after)
    | none =>
      let (items, after) ← items? budget (← token? [','] after)
      return (do return (← item) :: (← items), after)

def objectMembers? : List Char → Cursor → Option (Option (List (String × Json)) × Cursor)
  | [], _ => none
  | _ :: budget, c => do
    let c := skipSpaces c
    let (key, after) ← (string? '"' c).or ((string? '\'' c).map fun r => (none, r.2))
    let (value, after) ← literal? true budget (← token? [':'] after)
    let member := do return ((← key), (← value))
    match token? ['}'] after with
    | some after => return (member.map ([·]), after)
    | none =>
      let (members, after) ← objectMembers? budget (← token? [','] after)
      return (do return (← member) :: (← members), after)

end

/-- Words that are no parameters, since they begin the next part of a tag. They are names like
others where a name goes on behind them, be it after spaces. -/
def isReserved (c : Cursor) : Bool :=
  ["as", "else"].any fun word =>
    (c.over? word.toList).any fun after => !(skipSpaces after).rest.head?.any isNameChar

def constant? (value : Option Json) : Option Param := do
  let v ← value
  if v.depth < Json.depthLimit then some (.literal v) else none

mutual

def param? : List Char → Cursor → Option (Param × Cursor)
  | [], _ => none
  | _ :: budget, c =>
    let c := skipSpaces c
    if isReserved c then none
    else
      match literal? false c.rest c with
      | some (value, after) => (constant? value).map fun p => (p, after)
      | none =>
        match path? c with
        | some (path, after) => some (.path path, after)
        | none => call? budget c

def call? : List Char → Cursor → Option (Param × Cursor)
  | [], _ => none
  | _ :: budget, c => do
    let inner ← token? ['('] c
    let withParams := do
      let (name, after) ← name? inner
      let (params, named, after) := params budget after
      if params.isEmpty && named.isEmpty then none
      else return (Param.call (.of name params named), ← token? [')'] after)
    withParams.or do
      let (path, after) ← path? (skipSpaces inner)
      return (.bare path, ← token? [')'] after)

def params : List Char → Cursor → List Param × List (String × Param) × Cursor
  | [], c => ([], [], c)
  | _ :: budget, c =>
    let byName := do
      let (name, after) ← name? c
      let (value, after) ← param? budget (← token? ['='] after)
      return ((name, value), after)
    match byName with
    | some (entry, after) =>
      let (params, named, after) := params budget after
      (params, entry :: named, after)
    | none =>
      match param? budget c with
      | some (param, after) =>
        let (params, named, after) := params budget after
        (param :: params, named, after)
      | none => ([], [], c)

end

def bindings (c : Cursor) : Bindings × Cursor :=
  let found : Option (Bindings × Cursor) := do
    let inner ← token? ['|'] (← token? "as".toList c)
    let (value, after) ← name? inner
    match name? after with
    | some (key, after) => return (⟨some value, some key⟩, ← token? ['|'] after)
    | none => return (⟨some value, none⟩, ← token? ['|'] after)
  found.getD (⟨none, none⟩, c)

end Read
end CMakeGrammar.Template
