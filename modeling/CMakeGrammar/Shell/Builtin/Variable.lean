import CMakeGrammar.Shell.Builtin.Basic
/-! Commands that set variables, list them or take them back, or read a line or an option into them.
-/
namespace CMakeGrammar.Shell.Builtin

open Shell.Action

def variableLines (command : Chars) (values : List (Chars × Binding)) : Chars :=
  (values.mergeSort fun a b => !decide (b.1 < a.1)).flatMap fun (name, b) =>
    let start := if command.isEmpty then name else command ++ ' ' :: name
    match b.value with
    | some text => start ++ '=' :: quote text ++ ['\n']
    | none => start ++ ['\n']

def listVariables : Action Unit := do
  emit (variableLines [] ((← get).values.filter fun v => v.2.value.isSome)) 0

def mark (change : Binding → Binding) (argument : Chars) : Action Bool := do
  let (name, value) := binding argument
  match value with
  | some text => assign name text
  | none => if !isName name then fail (name ++ ": bad variable name".toList)
  if ← isOnward then modify fun s => s.bind name (change (s.binding name))
  return true

def declare (command : String) (isMarked : Binding → Bool) (change : Binding → Binding)
    (arguments : List Chars) : Action Unit :=
  withOptions "p" arguments fun given => do
    if given.has 'p' || given.operands.isEmpty then
      emit (variableLines command.toList ((← get).values.filter fun v => isMarked v.2)) 0
    else
      let _ ← forEach (mark change) given.operands
      if ← isOnward then setStatus 0

def hide (argument : Chars) : Action Bool := do
  let (name, value) := binding argument
  if argument = ['-'] then
    modify fun s => { s with hiddenOptions := some (s.hiddenOptions.getD s.options) }
  else if !isName name then fail (name ++ ": bad variable name".toList)
  else
    modify fun s =>
      let s := { s with hidden := (name, s.values.lookup name) :: s.hidden }
      s.bind name (s.binding name)
    if let some text := value then assign name text
  return true

def declareLocal (arguments : List Chars) : Action Unit := do
  if (← get).calls = 0 then fail "not in a function".toList
  else
    let _ ← forEach hide arguments
    if ← isOnward then setStatus 0

def unset (arguments : List Chars) : Action Unit :=
  withOptions "vf" arguments fun given => do
    let asFunctions := (given.options.getLast?.map Prod.fst) = some 'f'
    let _ ← forEach (fun name => do
      if asFunctions then
        modify fun s => { s with functions := s.functions.filter fun f => f.1 ≠ name }
      else unassign name
      return true) given.operands
    if ← isOnward then setStatus 0

def readLine (raw : Bool) : Chars → List Pattern.Glyph × Bool × Nat
  | [] => ([], false, 0)
  | '\n' :: _ => ([], true, 1)
  | '\x00' :: rest =>
    let (line, isEnded, size) := readLine raw rest
    (line, isEnded, size + 1)
  | ['\\'] => if raw then ([('\\', false)], false, 1) else ([], false, 1)
  | '\\' :: c :: rest =>
    if raw then
      let (line, isEnded, size) := readLine raw (c :: rest)
      (('\\', false) :: line, isEnded, size + 1)
    else
      let (line, isEnded, size) := readLine raw rest
      (if c = '\n' then line else (c, true) :: line, isEnded, size + 2)
  | c :: rest =>
    let (line, isEnded, size) := readLine raw rest
    ((c, false) :: line, isEnded, size + 1)

/-- The fields of a line for so many names. The last one is all that is left, without the blanks
around it; if that is one field, the separator that ends it does not count either. -/
def distribute (separators : Chars) : Nat → List Pattern.Glyph → List Chars
  | 0, _ => []
  | n + 1, text =>
    let separates (g : Pattern.Glyph) : Bool := !g.2 && separators.contains g.1
    let isBlank (g : Pattern.Glyph) : Bool := separates g && Integer.isBlank g.1
    let text := text.dropWhile isBlank
    let field := text.takeWhile (!separates ·)
    let after := (text.drop field.length).dropWhile isBlank
    let rest := if after.head?.any separates then (after.drop 1).dropWhile isBlank else after
    if n = 0 then
      let kept := if rest.isEmpty then field else (text.reverse.dropWhile isBlank).reverse
      [kept.map Prod.fst]
    else field.map Prod.fst :: distribute separators n rest

def read (arguments : List Chars) : Action Unit :=
  withOptions "p:r" arguments fun given => do
    if given.operands.isEmpty then fail "arg count".toList
    else
      let text ← input
      let (line, isEnded, size) := match text with
        | .ok text => readLine (given.has 'r') text
        | .error _ => ([], false, 0)
      consume size
      let fields := distribute (← separators) given.operands.length line
      let _ ← forEach (fun (name, text) => do assign name text; return true)
        (given.operands.zip fields)
      if ← isOnward then setStatus (if isEnded then 0 else 1)

structure Look where
  found : Char
  argument : Option (Option Chars)
  complaint : Chars
  isDone : Bool
  scan : Nat × Option Nat

/-- Looks for the next option in some words, of which the word before number `scan.1` has been read
up to `scan.2`. A colon before the letters that are known keeps complaints back. -/
def look (known : Chars) (words : List Chars) (scan : Nat × Option Nat) : Look :=
  let (index, offset) := scan
  let current : Chars :=
    match offset with
    | some n => if index ≤ 1 then [] else ((words[index - 2]?).getD []).drop n
    | none => []
  let (letters, next) : Chars × Nat :=
    if !current.isEmpty then (current, index)
    else
      match words[index - 1]? with
      | some ('-' :: letters) =>
        if letters.isEmpty then ([], index)
        else if letters = ['-'] then ([], index + 1)
        else (letters, index + 1)
      | _ => ([], index)
  let isSilent := known.head? = some ':'
  match letters with
  | [] => ⟨'?', none, [], true, (next, none)⟩
  | c :: rest =>
    let within := some (((words[next - 2]?).getD []).length - rest.length)
    match Given.takesArgument? (String.ofList known) c, rest, words[next - 1]? with
    | none, _, _ =>
      if isSilent then ⟨'?', some (some [c]), [], false, (next, within)⟩
      else ⟨'?', some none, (OptionFault.illegal c).message, false, (next, within)⟩
    | some false, _, _ => ⟨c, some (some []), [], false, (next, within)⟩
    | some true, [], some word => ⟨c, some (some word), [], false, (next + 1, none)⟩
    | some true, [], none =>
      if isSilent then ⟨':', some (some [c]), [], false, (next, none)⟩
      else ⟨'?', some none, (OptionFault.missing c).message, false, (next, none)⟩
    | some true, rest, _ => ⟨c, some (some rest), [], false, (next, none)⟩

def nextOption (arguments : List Chars) : Action Unit := do
  match arguments with
  | known :: name :: words =>
    let s ← get
    let words := if words.isEmpty then s.arguments else words
    let scan := if words.length + 1 < s.scan.1 then (1, none) else s.scan
    let l := look known words scan
    if !l.complaint.isEmpty then complainPlainly l.complaint
    match l.argument with
    | some (some text) => assign "OPTARG".toList text
    | some none => unassign "OPTARG".toList
    | none => pure ()
    assign "OPTIND".toList (decimal l.scan.1)
    if ← isOnward then assign name [l.found]
    if ← isOnward then
      modify fun s => { s with scan := l.scan, status := if l.isDone then 1 else 0 }
  | _ => fail "Usage: getopts optstring var [arg...]".toList

end CMakeGrammar.Shell.Builtin
