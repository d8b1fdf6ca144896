import CMakeGrammar.Shell.Expansion
/-! Redirections: where the channels of a command lead while it runs. -/
namespace CMakeGrammar.Shell

def systemReason : Refusal → String
  | .notFound => "No such file or directory"
  | .notADirectory => "Not a directory"
  | .noPermission => "Permission denied"
  | .isADirectory => "Is a directory"
  | .noSpace => "No space left on device"
  | .nameTooLong => "File name too long"
  | .argumentTooLong => "Argument list too long"
  | .nulInName => "No such file or directory"

def openReason (missing : String) : Refusal → String
  | .notFound => missing
  | .notADirectory => missing
  | refusal => systemReason refusal

def channelOf? (path : String) : Option Nat :=
  match path with
  | "/dev/stdin" => some 0
  | "/dev/stdout" => some 1
  | "/dev/stderr" => some 2
  | _ =>
    if path.startsWith "/dev/fd/" then Integer.ofDigits? (path.toList.drop 8) else none

namespace Interpreter

open Shell.Action

def connect (channel : Nat) (stream : Option Stream) : Action Unit :=
  modify fun s =>
    let others := s.channels.filter fun c => c.1 ≠ channel
    { s with channels := match stream with
      | some stream => (channel, stream) :: others
      | none => others }

def duplicate (channel other : Nat) : Action Bool := do
  let stream := (← get).channels.lookup other
  connect channel stream
  return stream.isSome

def refuseOpening (act missing : String) (text : Chars) (refusal : Refusal) : Action Bool := do
  complain ("cannot ".toList ++ act.toList ++ ' ' :: text ++ ": ".toList ++
    (openReason missing refusal).toList)
  return false

def openInput (channel : Nat) (text : Chars) : Action Bool := do
  let s ← get
  let opened : Except Refusal (List String × Entry) := do
    return (← s.files.place (pathOf text), ← s.files.find (pathOf text))
  match channelOf? (pathOf text), opened with
  | some other, _ =>
    if ← duplicate channel other then return true
    else refuseOpening "open" "No such file" text .notFound
  | none, .error refusal => refuseOpening "open" "No such file" text refusal
  | none, .ok (place, entry) =>
    let stream ← match entry with
      | .directory => pure Stream.directory
      | .device _ => pure Stream.nothing
      | _ => Stream.file <$> newFile ⟨place, 0, false⟩
    connect channel (some stream)
    return true

def openOutput (channel : Nat) (text : Chars) (direction : Direction) : Action Bool := do
  let s ← get
  let path := pathOf text
  let keeps := direction = .appending || direction = .both
  let opened : Except Refusal (FileSystem × List String) := do
    let place ← s.files.targetPlace path
    let content := if keeps then (s.files.content? place).getD [] else []
    return (← s.files.write path content, place)
  let isFile := match s.files.find path with
    | .ok (.file _) => true
    | .ok (.program ..) => true
    | _ => false
  match channelOf? path, opened with
  | some other, _ =>
    if ← duplicate channel other then return true
    else refuseOpening "create" "Directory nonexistent" text .notFound
  | none, .error refusal => refuseOpening "create" "Directory nonexistent" text refusal
  | none, .ok (files, place) =>
    if direction = .output && s.isSet "noclobber" && isFile then
      complain ("cannot create ".toList ++ text ++ ": File exists".toList)
      return false
    set { s with files }
    let stream ← match files.entry? place with
      | some (.device true) => pure Stream.nothing
      | some (.device false) => pure Stream.full
      | _ => Stream.file <$> newFile ⟨place, 0, direction = .appending⟩
    connect channel (some stream)
    return true

/-- Has a channel lead where a redirection says, by the text that its target has become. A text that
stands in the script is only looked at now, and a failure in it is that of the redirection. -/
def redirect (self : Interpreter) : Redirection × Chars → Action Bool
  | (.mk channel direction word, text) => do
    match direction with
    | .input => openInput channel text
    | .text =>
      let text ← joined self word
      if (← get).flow = .failing then
        setFlow .onward
        return false
      connect channel (some (.page (← newPage text)))
      return true
    | .duplicate =>
      match Integer.ofDigits? text with
      | some other =>
        if other = channel || (← duplicate channel other) then return true
        complain (decimal other ++ ": Bad file descriptor".toList)
        return false
      | none =>
        connect channel none
        return true
    | _ => openOutput channel text direction

def targets (self : Interpreter) : List Redirection → Action (List (Redirection × Chars))
  | [] => return []
  | .mk channel direction target :: others => do
    let text ← if direction = .text then pure [] else self.whole target
    if !(← isOnward) then return []
    if direction = .duplicate && text ≠ ['-'] &&
        !(text.length = 1 && (Integer.ofDigits? text).isSome) then
      modify fun s => { s with line := s.lineRead }
      fail "Syntax error: Bad fd number".toList
      return []
    return (.mk channel direction target, text) :: (← targets self others)

def redirectAll (self : Interpreter) : List (Redirection × Chars) → Action Bool
  | [] => return true
  | r :: others => do
    if ← redirect self r then redirectAll self others else return false

def redirected (self : Interpreter) (line : Nat) (rs : List Redirection) (act : Action Unit) :
    Action Unit := do
  if rs.isEmpty then act
  else
    modify fun s => { s with line }
    let texts ← targets self rs
    if ← isOnward then
      let channels := (← get).channels
      if ← redirectAll self texts then act else setStatus 2
      modify fun s => { s with channels }

end Interpreter
end CMakeGrammar.Shell
