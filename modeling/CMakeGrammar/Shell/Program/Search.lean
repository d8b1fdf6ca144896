import CMakeGrammar.Shell.Matcher
import CMakeGrammar.Shell.Program.Text
/-! Programs that look for an expression in each line: one prints the lines where it is found, the
other puts something in its place. -/
namespace CMakeGrammar.Shell

namespace Program

open Shell.Action

def findings (given : Given) (start : Chars) (found : List (Chars × Nat)) : Chars :=
  if given.has 'q' then []
  else if given.has 'c' then start ++ decimal found.length ++ ['\n']
  else
    found.flatMap fun (line, n) =>
      start ++ (if given.has 'n' then decimal (n + 1 : Nat) ++ [':'] else []) ++ line ++ ['\n']

def searchIn (given : Given) (m : Matcher) (hasName : Bool) : List Chars → Action Bool
  | [] => return false
  | name :: others => do
    let isFound ← match ← content name with
      | .ok text => do
        let found := (bareLines text).zipIdx.filter fun (line, _) =>
          (m.first (.ofText line)).isSome != given.has 'v'
        let shown := if name = ['-'] then "(standard input)".toList else name
        put "grep" (findings given (if hasName then shown ++ [':'] else []) found)
        pure !found.isEmpty
      | .error reason => do
        say "grep" (name ++ ": ".toList ++ reason.toList) 2
        pure false
    let areFound ← searchIn given m hasName others
    return isFound || areFound

def grep (arguments : List Chars) : Action Unit :=
  withManual ⟨"grep", "cvinqE", 2⟩ false arguments fun given => do
    match given.operands with
    | [] =>
      complainPlainly "Usage: grep [OPTION]... PATTERNS [FILE]...".toList
      pointToHelp "grep" 2
    | expression :: files =>
      match Matcher.ofText (given.has 'E') (given.has 'i') expression with
      | .error message => say "grep" message.toList 2
      | .ok m =>
        let files := if files.isEmpty then [['-']] else files
        let isFound ← searchIn given m (1 < files.length) files
        modify fun s =>
          let usual := if isFound then 0 else 1
          { s with status := if s.status = 0 || isFound && given.has 'q' then usual else s.status }

end Program

/-! ### Substitution -/

inductive Substitution.Part
  | char (c : Char)
  | group (n : Nat)

structure Substitution where
  matcher : Matcher
  parts : List Substitution.Part
  isGlobal : Bool

namespace Substitution

def upTo? (delimiter : Char) : Chars → Option (Chars × Chars)
  | [] => none
  | '\\' :: c :: rest =>
    (upTo? delimiter rest).map fun r => (if c = delimiter then c :: r.1 else '\\' :: c :: r.1, r.2)
  | c :: rest =>
    if c = delimiter then some ([], rest) else (upTo? delimiter rest).map fun r => (c :: r.1, r.2)

def partsOf : Chars → List Part
  | [] => []
  | '\\' :: c :: rest =>
    if c.isDigit then .group (c.toNat - 48) :: partsOf rest
    else .char (if c = 'n' then '\n' else c) :: partsOf rest
  | '&' :: rest => .group 0 :: partsOf rest
  | c :: rest => .char c :: partsOf rest

def ofText (isExtended : Bool) (script : Chars) : Except (Nat × String) Substitution := do
  let size := script.length
  let unterminated : Nat × String := (size, "unterminated \x60s' command")
  match script with
  | 's' :: delimiter :: rest =>
    let some (text, rest) := upTo? delimiter rest | throw unterminated
    let some (other, flags) := upTo? delimiter rest | throw unterminated
    if flags ≠ [] && flags ≠ ['g'] then throw (size, "unknown option to \x60s'")
    match Matcher.ofText isExtended false text with
    | .ok m => return ⟨m, partsOf other, flags = ['g']⟩
    | .error message => throw (size, message)
  | ['s'] => throw unterminated
  | c :: _ => throw (1, "unknown command: \x60" ++ String.singleton c ++ "'")
  | [] => return ⟨.nothing, [], false⟩

def filled (s : Substitution) (matched : Chars) (groups : List (Nat × Chars)) : Chars :=
  s.parts.flatMap fun
    | .char c => [c]
    | .group n => if n = 0 then matched else (groups.lookup n).getD []

/-- What comes from a place on, with the matches replaced. An empty match that touches the one
before it does not count. -/
def replaced (s : Substitution) : Nat → Bool → Matcher.Place → Chars
  | 0, _, p => p.rest
  | fuel + 1, afterMatch, p =>
    match s.matcher.first p with
    | none => p.rest
    | some (start, stop) =>
      let before := p.rest.take (start.taken - p.taken)
      let matched := start.rest.take (stop.taken - start.taken)
      let next := { stop with groups := [] }
      let skipped (p : Matcher.Place) : Chars :=
        p.rest.take 1 ++ if p.rest.isEmpty then [] else replaced s fuel false (p.forward 1)
      if matched.isEmpty && afterMatch && start.taken = p.taken then skipped p
      else
        before ++ s.filled matched stop.groups ++
          if !s.isGlobal then next.rest
          else if matched.isEmpty then skipped next else replaced s fuel true next

end Substitution

namespace Program

open Shell.Action

def sed (arguments : List Chars) : Action Unit :=
  withManual ⟨"sed", "Er", 1⟩ false arguments fun given => do
    match given.operands with
    | [] =>
      complainPlainly ("Usage: sed [OPTION]... \x7bscript-only-if-no-other-script\x7d " ++
        "[input-file]...").toList
      setStatus 1
    | script :: files =>
      match Substitution.ofText (given.has 'E' || given.has 'r') script with
      | .error (position, message) =>
        say "sed" ("-e expression #1, char ".toList ++ decimal position ++ ": ".toList ++
          message.toList) 1
      | .ok s =>
        let text ← sources (fun path reason =>
          say "sed" ("can't read ".toList ++ path ++ ": ".toList ++ reason.toList) 2) files
        put "sed" ((lines text).flatMap fun line =>
          s.replaced (line.length + 2) false (.ofText (withoutEnd line)) ++
            if line.getLast? = some '\n' then ['\n'] else [])

end Program
end CMakeGrammar.Shell
