import CMakeGrammar.Shell.Call
/-! What the programs of the system have in common: how they read their arguments, their input and
files, and what they say when something is wrong. -/
namespace CMakeGrammar.Shell

structure Manual where
  name : String
  letters : String
  fault : Nat

namespace Manual

def quoted (text : Chars) : Chars := '\'' :: text ++ ['\'']

def readLetters (m : Manual) : Chars → List Chars →
    Except Chars (List (Char × Option Chars) × List Chars)
  | [], others => .ok ([], others)
  | c :: rest, others =>
    match Given.takesArgument? m.letters c with
    | none => .error ("invalid option -- ".toList ++ quoted [c])
    | some false => (readLetters m rest others).map fun r => ((c, none) :: r.1, r.2)
    | some true =>
      match rest, others with
      | _ :: _, _ => .ok ([(c, some rest)], others)
      | [], argument :: others => .ok ([(c, some argument)], others)
      | [], [] => .error ("option requires an argument -- ".toList ++ quoted [c])

def readFrom (m : Manual) (isStrict : Bool) : Nat → List Chars → Except Chars Given
  | 0, words => .ok ⟨[], words⟩
  | fuel + 1, words =>
    match words with
    | [] => .ok ⟨[], []⟩
    | ['-', '-'] :: others => .ok ⟨[], others⟩
    | word@('-' :: '-' :: _) :: _ => .error ("unrecognized option ".toList ++ quoted word)
    | ('-' :: c :: rest) :: others => do
      let (options, others) ← readLetters m (c :: rest) others
      let after ← readFrom m isStrict fuel others
      return { after with options := options ++ after.options }
    | word :: others =>
      if isStrict then .ok ⟨[], words⟩
      else do
        let after ← readFrom m isStrict fuel others
        return { after with operands := word :: after.operands }

end Manual

namespace Program

open Shell.Action

def say (program : String) (text : Chars) (status : Nat) : Action Unit := do
  complainPlainly (program.toList ++ ": ".toList ++ text)
  modify fun s => { s with status := max s.status status }

def pointToHelp (program : String) (status : Nat) : Action Unit := do
  complainPlainly ("Try '".toList ++ program.toList ++ " --help' for more information.".toList)
  modify fun s => { s with status := max s.status status }

def misused (program : String) (text : Chars) (status : Nat) : Action Unit := do
  say program text status
  pointToHelp program status

def withManual (m : Manual) (isStrict : Bool) (arguments : List Chars) (act : Given → Action Unit) :
    Action Unit := do
  setStatus 0
  match m.readFrom isStrict (arguments.length + 1) arguments with
  | .ok given => act given
  | .error message => misused m.name message m.fault

def put (program : String) (text : Chars) : Action Unit := do
  if !(← write 1 text) then
    let reason := if ((← get).channels.lookup 1).isNone then "Bad file descriptor"
      else "No space left on device"
    say program ("write error: ".toList ++ reason.toList) 1

def content (name : Chars) : Action (Except String Chars) := do
  if name = ['-'] || channelOf? (pathOf name) = some 0 then readAll
  else
    return match (← get).files.read (pathOf name) with
      | .ok bytes => .ok (charsOfBytes bytes)
      | .error refusal => .error (systemReason refusal)

def lines (text : Chars) : List Chars :=
  text.foldr (fun c ls =>
    match ls with
    | [] => [[c]]
    | l :: others => if c = '\n' then [c] :: l :: others else (c :: l) :: others) []

def withoutEnd (line : Chars) : Chars :=
  if line.getLast? = some '\n' then line.dropLast else line

def bareLines (text : Chars) : List Chars := (lines text).map withoutEnd

def contents (report : Chars → String → Action Unit) : List Chars → Action Chars
  | [] => return []
  | name :: others => do
    let first ← match ← content name with
      | .ok text => pure text
      | .error reason => do
        report name reason
        pure []
    return first ++ (← contents report others)

def sources (report : Chars → String → Action Unit) (names : List Chars) : Action Chars :=
  contents report (if names.isEmpty then [['-']] else names)

end Program
end CMakeGrammar.Shell
