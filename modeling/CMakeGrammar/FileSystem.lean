import CMakeGrammar.Client
import CMakeGrammar.Text.Split
import CMakeGrammar.Text.Utf8
/-! A file system: what stands under each path, how paths are followed, and what the operating
system says when something cannot be read, written or run. -/
namespace CMakeGrammar

inductive Refusal
  | notFound
  | noPermission
  | notADirectory
  | isADirectory
  | noSpace
  | nameTooLong
  | argumentTooLong
  | nulInName
  deriving DecidableEq, Repr

namespace Refusal

def message : Refusal → String
  | notFound => "No such file or directory (os error 2)"
  | noPermission => "Permission denied (os error 13)"
  | notADirectory => "Not a directory (os error 20)"
  | isADirectory => "Is a directory (os error 21)"
  | noSpace => "No space left on device (os error 28)"
  | nameTooLong => "File name too long (os error 36)"
  | argumentTooLong => "Argument list too long (os error 7)"
  | nulInName => "file name contained an unexpected NUL byte"

end Refusal

abbrev Behaviour := String → List String → Output

/-- What stands under a path. A device takes in everything or has no room for anything, and gives
nothing. A program is a file that can be run, and does not touch other files. -/
inductive Entry
  | directory
  | file (content : List UInt8)
  | program (content : List UInt8) (run : Behaviour)
  | device (hasRoom : Bool)

structure FileSystem where
  entries : List (List String × Entry)
  current : List String

namespace FileSystem

def entry? (fs : FileSystem) (place : List String) : Option Entry :=
  if place.isEmpty then some .directory else fs.entries.lookup place

def walk (place : List String) (part : String) : List String :=
  if part = "" || part = "." then place
  else if part = ".." then place.dropLast
  else place ++ [part]

def nameLimit : Nat := 255

/-- One part of a path, which can only be taken from a directory. -/
def step (fs : FileSystem) (place : List String) (part : String) : Except Refusal (List String) :=
  match fs.entry? place with
  | none => .error .notFound
  | some .directory =>
    if nameLimit < part.utf8ByteSize then .error .nameTooLong else .ok (walk place part)
  | some _ => .error .notADirectory

def parts (path : String) : List String := (Text.splitAtChar '/' path.toList).map String.ofList

def base (fs : FileSystem) (path : String) : List String :=
  if path.toList.head? = some '/' then [] else fs.current

def pathLimit : Nat := 4096

def checkPath (path : String) : Except Refusal Unit :=
  if path.isEmpty then .error .notFound
  else if path.toList.contains '\x00' then .error .nulInName
  else if pathLimit ≤ path.utf8ByteSize then .error .nameTooLong
  else .ok ()

/-- Where a path leads. Only its last part need not be there. -/
def place (fs : FileSystem) (path : String) : Except Refusal (List String) := do
  checkPath path
  (parts path).foldlM fs.step (fs.base path)

def directoryParts? (path : String) : Option (List String) :=
  match (parts path).reverse with
  | "" :: others =>
    match others.dropWhile (·.isEmpty) with
    | [] => none
    | last :: outer => if last = "." || last = ".." then none else some (last :: outer).reverse
  | _ => none

def find (fs : FileSystem) (path : String) : Except Refusal Entry := do
  match fs.entry? (← fs.place path) with
  | some entry => return entry
  | none => throw .notFound

def exists? (fs : FileSystem) (path : String) : Bool :=
  match fs.find path with
  | .ok _ => true
  | .error _ => false

def read (fs : FileSystem) (path : String) : Except Refusal (List UInt8) := do
  match ← fs.find path with
  | .directory => throw .isADirectory
  | .file content => return content
  | .program content _ => return content
  | .device _ => return []

def readText (fs : FileSystem) (path : String) : Except String String :=
  match fs.read path with
  | .error refusal => .error refusal.message
  | .ok bytes =>
    match Text.Utf8.decode? bytes with
    | some text => .ok text
    | none => .error "stream did not contain valid UTF-8"

def put (fs : FileSystem) (place : List String) (entry : Entry) : FileSystem :=
  { fs with entries := (place, entry) :: fs.entries.filter fun e => e.1 ≠ place }

def add (fs : FileSystem) (path : String) (entry : Entry) : FileSystem :=
  let place := (parts path).foldl walk (fs.base path)
  let onTheWay := (List.range place.length).map place.take
  (onTheWay.foldl makeDirectory fs).put place entry
where
  makeDirectory (fs : FileSystem) (place : List String) : FileSystem :=
    if (fs.entry? place).isSome then fs else fs.put place .directory

def children (fs : FileSystem) (place : List String) : List String :=
  (fs.entries.filterMap fun e =>
    if e.1.length = place.length + 1 && place.isPrefixOf e.1 then e.1.getLast? else none).mergeSort
      fun a b => a ≤ b

def remove (fs : FileSystem) (place : List String) : FileSystem :=
  { fs with entries := fs.entries.filter fun e => !place.isPrefixOf e.1 }

def content? (fs : FileSystem) (place : List String) : Option (List UInt8) :=
  match fs.entry? place with
  | some (.file content) => some content
  | some (.program content _) => some content
  | _ => none

def changes (before after : FileSystem) : List (List String × List UInt8) :=
  after.entries.filterMap fun (place, _) =>
    match after.content? place with
    | some content => if before.content? place = some content then none else some (place, content)
    | none => none

/-- Where a file may be made or replaced. A path that ends in a slash names a directory, whether it
is there or not. -/
def targetPlace (fs : FileSystem) (path : String) : Except Refusal (List String) := do
  checkPath path
  match directoryParts? path with
  | none => fs.place path
  | some named =>
    let outer ← named.dropLast.foldlM fs.step (fs.base path)
    let _ ← fs.step outer ""
    throw .isADirectory

/-- Has a file hold something else. It can be run as before. -/
def fill (fs : FileSystem) (place : List String) (content : List UInt8) : FileSystem :=
  fs.put place (match fs.entry? place with
    | some (.program _ run) => .program content run
    | _ => .file content)

def write (fs : FileSystem) (path : String) (content : List UInt8) :
    Except Refusal FileSystem := do
  let place ← fs.targetPlace path
  match fs.entry? place with
  | none => return fs.fill place content
  | some (.file _) => return fs.fill place content
  | some (.program ..) => return fs.fill place content
  | some .directory => throw .isADirectory
  | some (.device hasRoom) => if hasRoom || content.isEmpty then return fs else throw .noSpace

def programAt (fs : FileSystem) (path : String) : Except Refusal Behaviour := do
  match ← fs.find path with
  | .program _ run => return run
  | _ => throw .noPermission

/-- Looks for an executable in one directory after another. The last refusal is the reason why there
is none, but something that is found and may not be run counts before all others. -/
def search (fs : FileSystem) (name : String) :
    Refusal → List String → Except Refusal Behaviour
  | refusal, [] => .error refusal
  | refusal, directory :: others =>
    match fs.programAt (if directory.isEmpty then name else directory ++ "/" ++ name) with
    | .ok run => .ok run
    | .error .nameTooLong => .error .nameTooLong
    | .error new => search fs name (if refusal = .noPermission then refusal else new) others

/-- The directories that a search path names. One that can be no path counts as empty, which stands
for where one is, and at the end of the search path it does not count at all. -/
def directories (searchPath : String) : List String :=
  ofParts ((Text.splitAtChar ':' searchPath.toList).map String.ofList)
where
  ofParts : List String → List String
    | [] => []
    | [last] => if pathLimit ≤ last.utf8ByteSize then [] else [last]
    | part :: others => (if pathLimit ≤ part.utf8ByteSize then "" else part) :: ofParts others

def program (fs : FileSystem) (searchPath name : String) : Except Refusal Behaviour :=
  if name.toList.contains '/' then fs.programAt name
  else if name.isEmpty then .error .notFound
  else if nameLimit < name.utf8ByteSize then .error .nameTooLong
  else fs.search name .notFound (directories searchPath)

def argumentLimit : Nat := 131072

/-- Runs an executable. A name or an argument with a NUL in it cannot be passed on. -/
def run (fs : FileSystem) (searchPath name : String) (arguments : List String) :
    Except String Output :=
  if (name :: arguments).any fun a => a.toList.contains '\x00' then
    .error "nul byte found in provided data"
  else
    match fs.program searchPath name with
    | .error refusal => .error refusal.message
    | .ok behaviour =>
      if arguments.any fun a => argumentLimit ≤ a.utf8ByteSize then
        .error Refusal.argumentTooLong.message
      else .ok (behaviour name arguments)

end FileSystem
end CMakeGrammar
