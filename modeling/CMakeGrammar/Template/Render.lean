import CMakeGrammar.Template.Helper
/-! Rendering: a template's text in which every place is filled in from a document. A value that is
not there is a failure, and a failure names the innermost tag that it arose in. -/
namespace CMakeGrammar.Template
open Text (Position Cursor)

namespace Param

def valueOf (s : Scope) (name : String) (args : List Argument) (named : List (String × Argument)) :
    Rendering Failure Located :=
  match Helper.ofName? name with
  | none => Invocation.fail (.unknownHelper name)
  | some (.value h) =>
    match h.call args with
    | .ok v => return v
    | .error cause => Invocation.fail cause
  | some (.predicate p) =>
    match p.holds args with
    | .ok b => return .derived (.bool b)
    | .error cause => Invocation.fail cause
  | some (.text h) => do
    let text ← (Invocation.call h ⟨args, named, ⟨none, none⟩, none, none⟩).run' s
    return .derived (.string (String.ofList text))

mutual

def eval (s : Scope) : Param → Rendering Failure Argument
  | .literal v => pure ⟨none, .constant v⟩
  | .path p =>
    match s.lookup p with
    | .ok v => pure ⟨some p.written, v⟩
    | .error cause => Invocation.fail cause
  | .call c => do return ⟨none, ← evalCall s c⟩
  | .bare p => do return ⟨none, ← valueOf s p.written [] []⟩

def evalCall (s : Scope) : Call → Rendering Failure Located
  | .mk name params named => do
    let args ← evalAll s params
    let namedArgs ← evalNamed s named
    valueOf s name args namedArgs

def evalAll (s : Scope) : List Param → Rendering Failure (List Argument)
  | [] => pure []
  | p :: ps => do
    let a ← eval s p
    return a :: (← evalAll s ps)

def evalNamed (s : Scope) : List (String × Param) → Rendering Failure (List (String × Argument))
  | [] => pure []
  | (name, p) :: ps => do
    let a ← eval s p
    return (name, a) :: (← evalNamed s ps)

end

end Param

def callDetail (name : String) (args : List Argument) (named : List (String × Argument)) : String :=
  "Rendering helper: " ++ Text.quoted name ++ ", params: [" ++
    ", ".intercalate (args.map Argument.detail) ++ "], hash: \x7b" ++
    ", ".intercalate (named.map fun a => Text.quoted a.1 ++ ": " ++ a.2.detail) ++ "\x7d"

namespace Step

def detail : Step → String
  | root => "Ruled(path_root)"
  | loop => "Ruled(path_local)"
  | up => "Ruled(path_up)"
  | name s => "Named(" ++ Text.quoted s ++ ")"

end Step

namespace Path

def detail : Path → String
  | relative steps written =>
    "Path(Relative(([" ++ ", ".intercalate (steps.map Step.detail) ++ "], " ++
      Text.quoted written ++ ")))"
  | loopData level name written =>
    "Path(Local((" ++ toString level ++ ", " ++ Text.quoted name ++ ", " ++ Text.quoted written ++
      ")))"

end Path

namespace Param

def callText (name : String) (params : List String) (named : List String) : String :=
  "Subexpression(Subexpression \x7b element: Expression(HelperTemplate \x7b name: " ++ name ++
    ", params: [" ++ ", ".intercalate params ++ "], hash: \x7b" ++ ", ".intercalate named ++
    "\x7d, block_param: None, template: None, inverse: None, block: false, chain: false" ++
    ", indent_before_write: false \x7d) \x7d)"

mutual

def detail : Param → String
  | path p => p.detail
  | literal v => "Literal(" ++ Value.detail v ++ ")"
  | bare p => callText p.detail [] []
  | call (.mk name params named) =>
    callText ("Name(" ++ Text.quoted name ++ ")") (detailAll params) (detailNamed named)

def detailAll : List Param → List String
  | [] => []
  | p :: ps => detail p :: detailAll ps

def detailNamed : List (String × Param) → List String
  | [] => []
  | (name, p) :: ps => (Text.quoted name ++ ": " ++ detail p) :: detailNamed ps

end

end Param

def shown (raw : Bool) (text : List Char) : List Char :=
  if raw then text else Json.escapeChars text

def decide (raw : Bool) (i : Invocation) (holds : Bool) : Body :=
  if i.body.isSome || i.otherwise.isSome then
    Invocation.part (if holds then i.body else i.otherwise)
  else pure (shown raw (Value.print (.bool holds)))

def paced (isDue : Bool) (body : Body) : Body := do
  let before := (← get).pen
  modify fun s => { s with pen := before.begin isDue }
  let text ← body
  modify fun s => { s with pen := before.resume s.pen }
  return text

def shownBy (raw : Bool) (h : Helper) (i : Invocation) : Body :=
  match h with
  | .value h =>
    match h.call i.args with
    | .ok v => Invocation.write (shown raw (Value.print v.value))
    | .error cause => Invocation.fail cause
  | .predicate p =>
    match p.holds i.args with
    | .ok holds => decide raw i holds
    | .error cause => Invocation.fail cause
  | .text h => Invocation.call h i

/-- Calls a helper. Behind a line of its own, blanks are due before what it shows. -/
def invoke (raw standsAlone : Bool) (name : String) (i : Invocation) : Body := do
  Invocation.say .rendering .debug (callDetail name i.args i.named)
  match Helper.ofName? name with
  | none => Invocation.fail (.unknownHelper name)
  | some h =>
    let pen := (← get).pen
    paced (pen.isDue || standsAlone && pen.endsLine) (shownBy raw h i)

def invokeCall (raw standsAlone : Bool) (c : Call) (bindings : Bindings)
    (body otherwise : Option Body) : Body := do
  let s ← get
  let args ← Param.evalAll s c.params
  let named ← Param.evalNamed s c.named
  invoke raw standsAlone c.name ⟨args, named, bindings, body, otherwise⟩

def invokeName (raw : Bool) (name : String) : Body :=
  invokeCall raw false (.mk name [] []) ⟨none, none⟩ none none

def nameOf (s : Scope) : Param → Rendering Failure String
  | .path p => pure p.written
  | p => do return String.ofList (Value.print (← Param.eval s p).value.value)

/-- Shows a parameter that stands alone. If it names a helper that one is called; a call is made
once to learn whether it does, and once more for its value. -/
def renderValue (raw : Bool) (p : Param) : Body := do
  let s ← get
  let name ← nameOf s p
  if (Helper.ofName? name).isSome then invokeName raw (← nameOf s p)
  else
    Invocation.say .rendering .debug ("Rendering value: " ++ p.detail)
    let a ← Param.eval s p
    if a.value.isMissing then Invocation.fail (.missingValue a.written)
    else Invocation.write (shown raw (Value.print a.value.value))

def renderContent (raw : Bool) : Content → Body
  | .call c => invokeCall raw false c ⟨none, none⟩ none none
  | .value p => renderValue raw p

def locate {α : Type} (position : Option Position) (act : StateT Scope (Rendering Failure) α) :
    StateT Scope (Rendering Failure) α := fun s =>
  (act s).mapError (.map (·.within position))

def decorate (c : Call) (body : Option (List Node)) : Body := do
  let s ← get
  let args ← Param.evalAll s c.params
  let _ ← Param.evalNamed s c.named
  if c.name ≠ "inline" then Invocation.fail (.unknownDecoration c.name)
  else
    match (args.head?.map fun a => a.value.value : Option Json), body with
    | none, _ => Invocation.fail (.missingParam c.name 0)
    | some (.string name), some nodes =>
      set (s.define name nodes)
      return []
    | some (.string _), none => Invocation.fail .bodyRequired
    | some _, _ => Invocation.fail .notAText

def membersOf : Json → List (String × Json)
  | .object members => members
  | .array items => items.mapIdx fun i item => (toString i, item)
  | .string s => s.toList.mapIdx fun i c => (toString i, .string (String.singleton c))
  | _ => []

def merged (value : Json) (named : List (String × Argument)) : Json :=
  .object (NameMap.ofList (membersOf value ++ named.map fun a => (a.1, a.2.value.value))).entries

/-- The frame in which an included template is rendered. Its first parameter is the context there.
What it is given by name becomes part of the context, and is at hand in inner frames as well. -/
def inclusionFrame (s : Scope) (args : List Argument) (named : List (String × Argument)) : Frame :=
  let own := ((args.head?.map Argument.value).getD s.innermost).value
  let context := if named.isEmpty then own else merged own named
  ⟨.derived context, s.loopData, named.map fun a => (a.1, .derived a.2.value.value), []⟩

def joinBlanks : Option (List Char) → Option (List Char) → Option (List Char)
  | none, inner => inner
  | outer, none => outer
  | some outer, some inner => some (outer ++ inner)

def including (frame : Frame) (body : Body) : Body := do
  let before ← get
  let text ← Invocation.entering frame body
  modify fun s => { s with body := before.body, ownName := before.ownName }
  return text

def includedName (s : Scope) (i : Inclusion) : Rendering Failure String :=
  match i.target with
  | .written name => pure name
  | .path written => pure written
  | .computed p => nameOf s p

/-- Includes a template, which `inside` renders. The body that it comes with is rendered first, and
what that shows is taken as it is. -/
def renderInclusion (inside : Option String → List Node → Body) (i : Inclusion)
    (body : Option (List Node)) : Body := do
  let s ← get
  let name ← includedName s i
  let args ← Param.evalAll s i.params
  let named ← Param.evalNamed s i.named
  if s.ownName = some name then Invocation.fail .includesItself
  else
    match if name = Scope.bodyName then s.body else none, s.template? name body with
    | some text, _ => return text
    | none, some (ownName, nodes) =>
      let isDue := i.standsAlone && (s.pen.endsLine || i.indent.isSome)
      paced isDue <| including (inclusionFrame s args named) do
        let shown ← body.mapM (inside none)
        modify fun s =>
          { s with
            body := shown
            pen := { s.pen with blanks := joinBlanks s.pen.blanks i.indent } }
        inside ownName nodes
    | none, none =>
      Invocation.fail (if name = Scope.bodyName then .noBody else .unknownTemplate name)

mutual

def renderNode (inside : Option String → List Node → Body) : Node → Body
  | .text chars => Invocation.write chars
  | .place position raw content => locate (some position) (renderContent raw content)
  | .inclusion position i body => locate (some position) (renderInclusion inside i body)
  | .decoration position c body => locate (some position) (decorate c body)
  | .block position standsAlone c bindings body none =>
    locate position (invokeCall false standsAlone c bindings
      (some (renderPart inside body)) none)
  | .block position standsAlone c bindings body (some otherwise) =>
    locate position (invokeCall false standsAlone c bindings
      (some (renderPart inside body)) (some (renderPart inside otherwise)))

def renderPart (inside : Option String → List Node → Body) (nodes : List Node) : Body := do
  modify fun s => { s with ownName := none }
  renderAll inside nodes

def renderAll (inside : Option String → List Node → Body) : List Node → Body
  | [] => pure []
  | n :: ns => do
    let text ← renderNode inside n
    return text ++ (← renderAll inside ns)

end

def renderTemplate (inside : Option String → List Node → Body) (ownName : Option String)
    (nodes : List Node) : Body := do
  modify fun s => { s with ownName }
  renderAll inside nodes

/-- Renders a template that is included, for which there must be room on the stack. A template can
include itself without end, as only one that is whole has a name to be known by. -/
def renderWithin : Nat → Option String → List Node → Body
  | 0, _, _ => Invocation.overflow
  | room + 1, ownName, nodes => renderTemplate (renderWithin room) ownName nodes

namespace Failure

def message (template : String) (f : Failure) : String :=
  let place := match f.position with
    | some p => " line " ++ toString p.line ++ ", col " ++ toString p.column
    | none => ""
  "Error rendering " ++ Text.quoted template ++ place ++ ": " ++ f.cause.message

end Failure

/-- Renders a template in which others may be included, `stack` of them inside each other. -/
def render (stack : Nat) (name : String) (document : Json) (nodes : List Node) :
    Rendering Failure (List Char) :=
  (renderTemplate (renderWithin stack) (some name) nodes).run' (.ofDocument name nodes document)

end CMakeGrammar.Template
