import CMakeGrammar.Shell.Builtin.Basic
/-! Commands on names: they set aliases, remember where programs are, and tell what a name stands
for. -/
namespace CMakeGrammar.Shell

def usualCommands : List String :=
  ["[", "alias", "bg", "cd", "chdir", "command", "echo", "false", "fg", "getopts", "hash", "jobs",
    "kill", "printf", "pwd", "read", "test", "true", "type", "ulimit", "umask", "unalias", "wait"]

/-- Where a program is along a search path. What is found but cannot be run counts more than what is
not there. -/
def programPath (files : FileSystem) (searchPath : String) (name : Chars) :
    Except Refusal Chars :=
  among .notFound (FileSystem.directories searchPath)
where
  among (refusal : Refusal) : List String → Except Refusal Chars
    | [] => .error refusal
    | directory :: others =>
      let path := if directory.isEmpty then name else charsOf directory ++ '/' :: name
      match files.find (pathOf path) with
      | .ok (.program ..) => .ok path
      | .ok _ => among .noPermission others
      | .error .notFound => among refusal others
      | .error .notADirectory => among refusal others
      | .error other => among other others

namespace Action

def searchPath : Action (Option String) := return (← value? "PATH".toList).map pathOf

def findProgram (name : Chars) : Action (Except Refusal Chars) := do
  let s ← get
  match s.tracked.find? fun t => t.name = name && !t.isStale with
  | some t => return .ok t.path
  | none =>
    match (← searchPath).map fun path => programPath s.files path name with
    | some (.ok path) =>
      let t : Tracked := ⟨name, path, false⟩
      set { s with
        tracked :=
          if s.tracked.any fun t => t.name = name then
            s.tracked.map fun (old : Tracked) => if old.name = name then t else old
          else s.tracked ++ [t] }
      return .ok path
    | some (.error refusal) => return .error refusal
    | none => return .error .notFound

def missing (name : Chars) (refusal : Refusal) : Action Unit :=
  complain (name ++ ": ".toList ++ (openReason "not found" refusal).toList)

end Action

namespace Builtin

open Shell.Action

def row (rows : Nat) (name : Chars) : Nat :=
  ((name.headD '\x00').toNat * 16 + name.foldl (fun n c => n + c.toNat) 0) % rows

def byRow {α : Type} (rows : Nat) (name : α → Chars) (things : List α) : List α :=
  (List.range rows).flatMap fun n => things.filter fun t => row rows (name t) = n

/-! ### Aliases -/

def aliasLine (name text : Chars) : Chars := name ++ '=' :: quote text ++ ['\n']

def setAlias (argument : Chars) : Action Bool := do
  let s ← get
  let name := argument.take 1 ++ argument.tail.takeWhile (· ≠ '=')
  if name.length < argument.length then
    let text := argument.drop (name.length + 1)
    set { s with
      aliases :=
        if (s.aliases.lookup name).isSome then
          s.aliases.map fun (a : Chars × Chars) => if a.1 = name then (name, text) else a
        else s.aliases ++ [(name, text)] }
    return true
  else
    match s.aliases.lookup name with
    | some text =>
      emit (aliasLine name text) 0
      return true
    | none =>
      complainPlainly ("alias: ".toList ++ name ++ " not found".toList)
      return false

def setAliases (arguments : List Chars) : Action Unit := do
  if arguments.isEmpty then
    emit ((byRow 39 Prod.fst (← get).aliases).flatMap fun a => aliasLine a.1 a.2) 0
  else
    let isWell ← forEach setAlias arguments
    setStatus (if isWell then 0 else 1)

def unalias (arguments : List Chars) : Action Unit :=
  withOptions "a" arguments fun given => do
    if given.has 'a' then modify fun s => { s with aliases := [], status := 0 }
    else
      let isWell ← forEach (fun name => do
        let s ← get
        if (s.aliases.lookup name).isSome then
          set { s with aliases := s.aliases.filter fun a => a.1 ≠ name }
          return true
        else
          complainPlainly ("unalias: ".toList ++ name ++ " not found".toList)
          return false) given.operands
      setStatus (if isWell then 0 else 1)

/-! ### Programs -/

def isKnown (s : State) (name : Chars) : Bool :=
  (s.functions.lookup name).isSome ||
    (specialCommands ++ usualCommands).contains (String.ofList name)

def hash (arguments : List Chars) : Action Unit :=
  withOptions "r" arguments fun given => do
    if given.has 'r' then modify fun s => { s with tracked := [], status := 0 }
    else if given.operands.isEmpty then
      emit ((byRow 31 Tracked.name (← get).tracked).flatMap fun t =>
        t.path ++ if t.isStale then ['*', '\n'] else ['\n']) 0
    else
      let isWell ← forEach (fun name => do
        modify fun s => { s with tracked := s.tracked.filter fun t => t.name ≠ name }
        if isKnown (← get) name || name.contains '/' then return true
        match ← findProgram name with
        | .ok _ => return true
        | .error refusal =>
          missing name refusal
          return false) given.operands
      setStatus (if isWell then 0 else 1)

def meaning (s : State) (inWords : Bool) (searchPath : Option String) (name : Chars) :
    Option Chars :=
  let text := String.ofList name
  let told (words : Chars) : Option Chars := some (if inWords then name ++ words else name)
  let program (how path : Chars) : Option Chars :=
    some (if inWords then name ++ " is".toList ++ how ++ ' ' :: path else path)
  let sought (path : Option String) : Option Chars :=
    if name.contains '/' then
      if s.files.exists? (pathOf name) then program [] name else none
    else
      match path.map fun path => programPath s.files path name with
      | some (.ok path) => program [] path
      | _ => none
  if (closingWords ++ openingWords).contains text then told " is a shell keyword".toList
  else
    match s.aliases.lookup name, s.functions.lookup name, searchPath with
    | some value, _, _ =>
      some (if inWords then name ++ " is an alias for ".toList ++ value
        else "alias ".toList ++ (aliasLine name value).dropLast)
    | none, some _, none => told " is a shell function".toList
    | none, _, _ =>
      if specialCommands.contains text then told " is a special shell builtin".toList
      else if usualCommands.contains text then told " is a shell builtin".toList
      else
        match searchPath, s.tracked.find? fun (t : Tracked) => t.name = name with
        | none, some t => program " a tracked alias for".toList t.path
        | none, none => sought (((s.binding "PATH".toList).value).map pathOf)
        | path, _ => sought path

def describe (inWords : Bool) (searchPath : Option String) (name : Chars) : Action Bool := do
  match meaning (← get) inWords searchPath name with
  | some text =>
    emit (text ++ ['\n']) 0
    return true
  | none =>
    if inWords then emit (name ++ ": not found\n".toList) 0
    return false

def type (arguments : List Chars) : Action Unit := do
  let isWell ← forEach (describe true none) arguments
  setStatus (if isWell then 0 else 127)

def tell (arguments : List Chars) : Action Unit :=
  withOptions "pvV" arguments fun given => do
    setStatus 0
    match given.operands with
    | [] => return
    | name :: _ =>
      if given.has 'v' || given.has 'V' then
        let path := if given.has 'p' then some usualPath else none
        if !(← describe (given.has 'V') path name) then setStatus 127

end Builtin
end CMakeGrammar.Shell
