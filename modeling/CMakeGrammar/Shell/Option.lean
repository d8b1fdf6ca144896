import CMakeGrammar.Shell.Script
/-! Options: those that a shell can be set to, and the letters that commands take behind a dash. -/
namespace CMakeGrammar.Shell

def shellOptions : List (String × Option Char) :=
  [("errexit", some 'e'), ("noglob", some 'f'), ("ignoreeof", some 'I'), ("interactive", some 'i'),
    ("monitor", some 'm'), ("noexec", some 'n'), ("stdin", some 's'), ("xtrace", some 'x'),
    ("verbose", some 'v'), ("vi", some 'V'), ("emacs", some 'E'), ("noclobber", some 'C'),
    ("allexport", some 'a'), ("notify", some 'b'), ("nounset", some 'u'),
    ("privileged", some 'p'), ("nolog", none), ("debug", none)]

def optionName? (letter : Char) : Option String :=
  (shellOptions.find? fun o => o.2 = some letter).map Prod.fst

def optionLetters (isSet : String → Bool) : Chars :=
  shellOptions.reverse.filterMap fun (name, letter) => if isSet name then letter else none

def optionListing (asCommands : Bool) (isSet : String → Bool) : Chars :=
  let line (name : String) : String :=
    if asCommands then (if isSet name then "set -o " else "set +o ") ++ name
    else name.pushn ' ' (16 - name.length) ++ if isSet name then "on" else "off"
  let lines := shellOptions.map fun o => line o.1
  ("\n".intercalate (if asCommands then lines else "Current option settings" :: lines) ++
    "\n").toList

def switchOption (isOn : Bool) (name : String) (options : List String) : List String :=
  let kept := options.filter (· ≠ name)
  if !isOn then kept
  else if name = "vi" then name :: kept.filter (· ≠ "emacs")
  else if name = "emacs" then name :: kept.filter (· ≠ "vi")
  else name :: kept

/-- Where words that set options come to: the options that are set then, lists of them that are
asked for, whether a script comes next, the dashes that ended the options, and the words after them.
-/
structure Switched where
  options : List String
  listing : Chars
  takesScript : Bool
  ending : Chars
  rest : List Chars

namespace Switched

def letters (isCall isOn : Bool) : Chars → Switched → Except Chars Switched
  | [], r => .ok r
  | c :: others, r =>
    if isCall && c = 'c' then letters isCall isOn others { r with takesScript := true }
    else if isCall && c = 'l' then letters isCall isOn others r
    else if c = 'o' then
      match r.rest with
      | [] =>
        let listing := optionListing (!isOn) fun name => isCall || r.options.contains name
        letters isCall isOn others { r with listing := r.listing ++ listing }
      | name :: rest =>
        let known := String.ofList name
        if (shellOptions.lookup known).isSome then
          letters isCall isOn others
            { r with options := switchOption isOn known r.options, rest }
        else .error ("Illegal option -o ".toList ++ name)
    else
      match optionName? c with
      | some name =>
        letters isCall isOn others { r with options := switchOption isOn name r.options }
      | none => .error ("Illegal option -".toList ++ [c])

def words (isCall : Bool) : Nat → Switched → Except Chars Switched
  | 0, r => .ok r
  | fuel + 1, r =>
    match r.rest with
    | ('-' :: letters) :: rest =>
      if letters.isEmpty || letters = ['-'] then .ok { r with ending := '-' :: letters, rest }
      else do words isCall fuel (← Switched.letters isCall true letters { r with rest })
    | ('+' :: letters) :: rest => do
      words isCall fuel (← Switched.letters isCall false letters { r with rest })
    | _ => .ok r

def read (isCall : Bool) (options : List String) (rest : List Chars) : Except Chars Switched :=
  words isCall (rest.length + 1) ⟨options, [], false, [], rest⟩

end Switched

inductive OptionFault
  | illegal (letter : Char)
  | missing (letter : Char)
  deriving DecidableEq, Repr

namespace OptionFault

def message : OptionFault → Chars
  | illegal letter => "Illegal option -".toList ++ [letter]
  | missing letter => "No arg for -".toList ++ letter :: " option".toList

end OptionFault

structure Given where
  options : List (Char × Option Chars)
  operands : List Chars

namespace Given

def takesArgument? (known : String) (letter : Char) : Option Bool :=
  find known.toList
where
  find : Chars → Option Bool
    | [] => none
    | c :: ':' :: rest => if c = letter then some true else find rest
    | c :: rest => if c = letter then some false else find rest

def letters (known : String) :
    Chars → List Chars → Except OptionFault (List (Char × Option Chars) × List Chars)
  | [], others => .ok ([], others)
  | c :: rest, others =>
    match takesArgument? known c with
    | none => .error (.illegal c)
    | some false => (letters known rest others).map fun r => ((c, none) :: r.1, r.2)
    | some true =>
      match rest, others with
      | _ :: _, _ => .ok ([(c, some rest)], others)
      | [], argument :: others => .ok ([(c, some argument)], others)
      | [], [] => .error (.missing c)

def readFrom (known : String) : Nat → List Chars → Except OptionFault Given
  | 0, words => .ok ⟨[], words⟩
  | fuel + 1, words =>
    match words with
    | ('-' :: c :: rest) :: others =>
      if c = '-' && rest.isEmpty then .ok ⟨[], others⟩
      else do
        let (options, others) ← letters known (c :: rest) others
        let after ← readFrom known fuel others
        return { after with options := options ++ after.options }
    | _ => .ok ⟨[], words⟩

def read (known : String) (words : List Chars) : Except OptionFault Given :=
  readFrom known (words.length + 1) words

def has (g : Given) (letter : Char) : Bool := g.options.any fun o => o.1 = letter

def argument? (g : Given) (letter : Char) : Option Chars :=
  (g.options.reverse.find? fun o => o.1 = letter).bind Prod.snd

end Given
end CMakeGrammar.Shell
