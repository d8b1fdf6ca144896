import CMakeGrammar.Shell.Redirect
/-! What the commands that the shell knows by itself have in common: how they print, what they say
about their arguments, and how they quote. -/
namespace CMakeGrammar.Shell

def quote (text : Chars) : Chars :=
  '\'' :: single text
where
  single : Chars → Chars
    | [] => ['\'']
    | c :: rest => if c = '\'' then '\'' :: '"' :: c :: double rest else c :: single rest
  double : Chars → Chars
    | [] => ['"']
    | c :: rest => if c = '\'' then c :: double rest else '"' :: '\'' :: c :: single rest

namespace Builtin

open Shell.Action

def emit (text : Chars) (status : Nat) : Action Unit := do
  if ← write 1 text then setStatus status
  else
    complain ((← get).speaker.getD [] ++ ": I/O error".toList)
    setStatus (max 1 status)

def complainAll : List Chars → Action Unit
  | [] => return
  | text :: others => do
    complain text
    complainAll others

def greatest : Int := 2147483647

def natural? (text : Chars) : Option Nat :=
  match Integer.ofDecimal? text with
  | some n => if 0 ≤ n && n ≤ greatest then some n.toNat else none
  | none => none

def illegalNumber (text : Chars) : Chars := "Illegal number: ".toList ++ text

def withNumber (text : Chars) (act : Nat → Action Unit) : Action Unit :=
  match natural? text with
  | some n => act n
  | none => fail (illegalNumber text)

def withOptions (known : String) (arguments : List Chars) (act : Given → Action Unit) :
    Action Unit :=
  match Given.read known arguments with
  | .ok given => act given
  | .error fault => fail fault.message

def forEach {α : Type} (act : α → Action Bool) : List α → Action Bool
  | [] => return true
  | x :: others => do
    let isWell ← act x
    if ← isOnward then
      let areWell ← forEach act others
      return isWell && areWell
    else return isWell

def binding (text : Chars) : Chars × Option Chars :=
  let name := text.takeWhile (· ≠ '=')
  (name, if name.length < text.length then some (text.drop (name.length + 1)) else none)

end Builtin
end CMakeGrammar.Shell
