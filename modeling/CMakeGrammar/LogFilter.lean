import CMakeGrammar.FieldValue
import CMakeGrammar.Log
import CMakeGrammar.Text.Alphanumeric
import CMakeGrammar.Text.Blank
import CMakeGrammar.Text.Split
import CMakeGrammar.Text.Utf8
/-! Which part of the log is shown. A filter is a list of directives. Each is about the entries of
some sources, and says up to which level they are shown; of those that are about an entry the most
specific one counts. -/
namespace CMakeGrammar

structure FieldCondition where
  name : String
  value : Option FieldValue
  deriving DecidableEq, Repr

/-- `source` is what a source's path begins with, and `span` names a stretch of work, of which this
program has none. Without a limit nothing is shown. -/
structure LogDirective where
  source : Option String
  span : Option String
  field : Option FieldCondition
  limit : Option LogLevel
  deriving DecidableEq, Repr

namespace FieldCondition

def ofText? (s : String) : Option FieldCondition :=
  match (Text.splitAtChar '=' s.toList).map String.ofList with
  | name :: value :: _ => (FieldValue.ofText? value).map fun value => ⟨name, some value⟩
  | _ => some ⟨s, none⟩

def text (f : FieldCondition) : String :=
  f.name ++ match f.value with
    | some value => "=" ++ value.text
    | none => ""

end FieldCondition

namespace LogDirective

def everything : LogDirective := ⟨none, none, none, some .trace⟩

def natural? (s : String) : Option Nat :=
  let digits := match s.toList with
    | '+' :: digits => digits
    | digits => digits
  if !digits.isEmpty && digits.all Char.isDigit then (String.ofList digits).toNat? else none

def limit? (s : String) : Option (Option LogLevel) :=
  if s.toLower = "off" || natural? s = some 0 then some none
  else
    ((LogLevel.ofName? s).or (LogLevel.all.find? fun l => natural? s = some l.detail)).map some

def limitName : Option LogLevel → String
  | some level => level.name
  | none => "off"

def isBracketed (d : LogDirective) : Bool := d.span.isSome || d.field.isSome

def bracketText (d : LogDirective) : String :=
  if d.isBracketed then
    "[" ++ d.span.getD "" ++ (d.field.map fun f => "\x7b" ++ f.text ++ "\x7d").getD "" ++ "]"
  else ""

def text (d : LogDirective) : String :=
  let about := d.source.getD "" ++ d.bracketText
  (if d.source.isSome || d.isBracketed then about ++ "=" else about) ++ limitName d.limit

inductive Reading
  | start
  | source (first : Nat)
  | span (first : Nat)
  | field (first : Nat)
  | afterField
  | afterSpan
  | limit (first : Nat)
  deriving DecidableEq, Repr

def slice? (bytes : List UInt8) (first last : Nat) : Option String :=
  Text.Utf8.decode? ((bytes.take last).drop first)

/-- Reads one character at a place. Parts of the directive are taken from `bytes`. -/
def step (bytes : List UInt8) (d : LogDirective) (r : Reading) (place : Nat) (c : Char) :
    Option (LogDirective × Reading) := do
  match r with
  | .start =>
    if c = '[' then some (d, .span (place + 1))
    else if ['-', ':', '_'].contains c || Text.isAlphanumeric c then some (d, .source place)
    else none
  | .source first =>
    if c = '=' || c = '[' then
      let named := { d with source := some (← slice? bytes first place) }
      some (named, if c = '=' then .limit (place + 1) else .span (place + 1))
    else some (d, r)
  | .span first =>
    if c = ']' then some ({ d with span := some (← slice? bytes first place) }, .afterSpan)
    else if c = '{' then
      let name ← slice? bytes first place
      some ({ d with span := if name.isEmpty then none else some name }, .field (place + 1))
    else some (d, r)
  | .field first =>
    if c = '}' then
      let condition ← slice? bytes first place
      if condition.isEmpty then none
      else
        let condition ← FieldCondition.ofText? condition
        some ({ d with field := some condition }, .afterField)
    else some (d, r)
  | .afterField => if c = ']' then some (d, .afterSpan) else none
  | .afterSpan => if c = '=' then some (d, .limit (place + 1)) else none
  | .limit _ => some (d, r)

def stepAll (bytes : List UInt8) (d : LogDirective) (r : Reading) (place : Nat) :
    List Char → Option (LogDirective × Reading)
  | [] => some (d, r)
  | c :: cs =>
    match step bytes d r place c with
    | some (d, r) => stepAll bytes d r (place + c.utf8Size) cs
    | none => none

def finish (bytes : List UInt8) (d : LogDirective) : Reading → Option LogDirective
  | .source first => do
    let name ← slice? bytes first bytes.length
    match limit? name with
    | some limit => some { d with limit := limit }
    | none => some { d with source := some name }
  | .limit first => do
    let name ← slice? bytes first bytes.length
    if name.isEmpty then some d else (limit? name).map fun limit => { d with limit := limit }
  | .afterSpan => some d
  | _ => none

/-- Blanks around a directive are not read, but places count from the first of them on. -/
def parse? (s : String) : Option LogDirective := do
  let bytes := Text.Utf8.encode s
  let (d, r) ← stepAll bytes everything .start 0 (Text.trim s).toList
  finish bytes d r

def compareOption {α : Type} (f : α → α → Ordering) : Option α → Option α → Ordering
  | none, none => .eq
  | none, some _ => .lt
  | some _, none => .gt
  | some a, some b => f a b

def compareFields (a b : FieldCondition) : Ordering :=
  (compare a.value.isSome b.value.isSome).then <|
    (compare a.name b.name).then (compareOption FieldValue.order a.value b.value)

/-- The more specific of two directives is the greater one; of two that are equally specific, the
one that stands later in the order of texts. -/
def specificity (a b : LogDirective) : Ordering :=
  (compareOption (fun s t => compare s.utf8ByteSize t.utf8ByteSize) a.source b.source).then <|
    (compare a.span.isSome b.span.isSome).then <|
      (compare a.field.isSome b.field.isSome).then <|
        (compareOption compare a.source b.source).then <|
          (compareOption compare a.span b.span).then (compareOption compareFields a.field b.field)

def insert (d : LogDirective) : List LogDirective → List LogDirective
  | [] => [d]
  | e :: es =>
    match specificity d e with
    | .gt => d :: e :: es
    | .eq => d :: es
    | .lt => e :: insert d es

def arrange (ds : List LogDirective) : List LogDirective := ds.foldl (fun ds d => insert d ds) []

def isStanding (d : LogDirective) : Bool := d.span.isNone && d.field.all (·.value.isNone)

def isAbout (d : LogDirective) (e : LogEntry) : Bool :=
  (d.source.all fun s => s.toList.isPrefixOf e.source.path.toList) &&
    d.field.all fun f => e.fieldNames.contains f.name

def admits (d : LogDirective) (level : LogLevel) : Bool :=
  d.limit.any fun limit => level.detail ≤ limit.detail

end LogDirective

/-- `standing` are the directives that decide about entries, and `bracketed` those with brackets,
both with the most specific first. -/
structure LogFilter where
  standing : List LogDirective
  bracketed : List LogDirective
  deriving DecidableEq, Repr

namespace LogFilter

def ofDirectives (ds : List LogDirective) : LogFilter :=
  let (bracketed, plain) := ds.partition LogDirective.isBracketed
  ⟨LogDirective.arrange (plain ++ bracketed.filter LogDirective.isStanding),
    LogDirective.arrange bracketed⟩

def directiveTexts (setting : String) : List String :=
  ((Text.splitAtChar ',' setting.toList).map String.ofList).filter (!·.isEmpty)

def parse? (setting : String) : Option LogFilter :=
  ((directiveTexts setting).mapM LogDirective.parse?).map ofDirectives

def standard (setting : String) : LogFilter :=
  match (directiveTexts setting).filterMap LogDirective.parse? with
  | [] => ofDirectives [⟨none, none, none, some .error⟩]
  | ds => ofDirectives ds

def choose (setting : Option String) (default : String) : LogFilter :=
  (setting.bind parse?).getD (standard default)

def text (f : LogFilter) : String :=
  ",".intercalate ((f.standing ++ f.bracketed).map LogDirective.text)

def shows (f : LogFilter) (e : LogEntry) : Bool :=
  match f.standing.find? (·.isAbout e) with
  | some d => d.admits e.level
  | none => false

end LogFilter
end CMakeGrammar
