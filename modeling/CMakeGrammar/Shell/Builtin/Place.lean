import CMakeGrammar.Shell.Builtin.Basic
import CMakeGrammar.Shell.Condition
/-! Commands on places: they change the directory, print it, and test what stands under a path. -/
namespace CMakeGrammar.Shell.Builtin

open Shell.Action

def rootOf (path : Chars) : Chars :=
  let slashes := path.takeWhile (· = '/')
  if slashes.length = 2 then slashes else ['/']

def namesIn (path : Chars) : List Chars := (Text.splitAtChar '/' path).filter (!·.isEmpty)

def follow (directory path : Chars) : Chars :=
  let start := if path.head? = some '/' then [] else namesIn directory
  let root := rootOf (if path.head? = some '/' then path else directory)
  let step (names : List Chars) (name : Chars) : List Chars :=
    if name = ['.'] then names else if name = ['.', '.'] then names.dropLast else names ++ [name]
  root ++ ['/'].intercalate ((namesIn path).foldl step start)

def physical (files : FileSystem) : Chars := '/' :: ['/'].intercalate (files.current.map charsOf)

def isPhysical (given : Given) : Bool := (given.options.getLast?.map Prod.fst) = some 'P'

def isDirectory (files : FileSystem) (path : Chars) : Bool :=
  match files.find (pathOf path) with
  | .ok .directory => true
  | _ => false

def along (files : FileSystem) (path : Chars) : List Chars → Option (Chars × Bool)
  | [] => none
  | directory :: others =>
    let full := if directory.isEmpty then path else directory ++ '/' :: path
    if isDirectory files full then some (full, !directory.isEmpty) else along files path others

def goTo (physically : Bool) (path : Chars) : Action Bool := do
  let s ← get
  let target := if physically then path else follow s.directory path
  match s.files.find (pathOf target), s.files.place (pathOf target) with
  | .ok .directory, .ok place =>
    let files := { s.files with current := place }
    let directory := if physically then physical files else target
    set { s with
      files
      directory
      tracked := s.tracked.map fun (t : Tracked) => { t with isStale := true } }
    bind "OLDPWD".toList s.directory
    publish "OLDPWD".toList
    bind "PWD".toList directory
    publish "PWD".toList
    return true
  | _, _ => return false

def changeDirectory (arguments : List Chars) : Action Unit :=
  withOptions "LP" arguments fun given => do
    let s ← get
    let known (name : String) : Chars := ((s.binding name.toList).value).getD []
    let (path, isBack) := match given.operands with
      | [] => (known "HOME", false)
      | ['-'] :: _ => (known "OLDPWD", true)
      | path :: _ => (path, false)
    let isFixed := path.head? = some '/' || (namesIn path).head? = some ['.'] ||
      (namesIn path).head? = some ['.', '.']
    let path := if path.isEmpty then ['.'] else path
    let starts := match (s.binding "CDPATH".toList).value with
      | some text => if isFixed then [] else Text.splitAtChar ':' text
      | none => []
    let (target, isNamed) := (along s.files path starts).getD (path, false)
    if ← goTo (isPhysical given) target then
      setStatus 0
      if isBack || isNamed then emit ((← get).directory ++ ['\n']) 0
    else fail ("can't cd to ".toList ++ if path = ['.'] then [] else path)

def workingDirectory (arguments : List Chars) : Action Unit :=
  withOptions "LP" arguments fun given => do
    let s ← get
    emit ((if isPhysical given then physical s.files else s.directory) ++ ['\n']) 0

def under (files : FileSystem) (question : Char) (path : Chars) : Bool :=
  match files.find (pathOf path) with
  | .error _ => false
  | .ok .directory => "edrwxsOG".toList.contains question
  | .ok (.file content) =>
    "efrwOG".toList.contains question || question = 's' && !content.isEmpty
  | .ok (.program content _) =>
    "efrwxOG".toList.contains question || question = 's' && !content.isEmpty
  | .ok (.device _) => "ecrwOG".toList.contains question

def pathsIn (files : FileSystem) : Condition.Paths where
  holds := under files
  same a b :=
    match files.place (pathOf a), files.place (pathOf b) with
    | .ok a, .ok b => a = b && (files.entry? a).isSome
    | _, _ => false

def test (arguments : List Chars) : Action Unit := do
  match Condition.holds (pathsIn (← get).files) arguments with
  | .ok answer => setStatus (if answer then 0 else 1)
  | .error fault => fail fault.message

def bracketed (arguments : List Chars) : Action Unit :=
  if arguments.getLast? = some [']'] then test arguments.dropLast
  else fail Condition.Fault.unclosed.message

end CMakeGrammar.Shell.Builtin
