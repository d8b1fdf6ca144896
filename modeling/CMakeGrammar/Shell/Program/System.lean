import CMakeGrammar.Shell.Program.Text
/-! Programs about the system they run on and other programs: they print what they are given or what
is known, and run others. -/
namespace CMakeGrammar.Shell.Program

open Shell.Action
open Manual (quoted)

/-! ### Printing -/

/-- A text with each number in base sixteen behind a backslash written in base eight. -/
def inOctal : Chars → Chars
  | '\\' :: 'x' :: a :: b :: rest =>
    if !Integer.isDigitOf 16 a then '\\' :: 'x' :: inOctal (a :: b :: rest)
    else if Integer.isDigitOf 16 b then escape [a, b] ++ inOctal rest
    else escape [a] ++ inOctal (b :: rest)
  | ['\\', 'x', a] => if Integer.isDigitOf 16 a then escape [a] else ['\\', 'x', a]
  | '\\' :: c :: rest => '\\' :: c :: inOctal rest
  | c :: rest => c :: inOctal rest
  | [] => []
where
  escape (digits : Chars) : Chars :=
    let body := Nat.toDigits 8 (Integer.ofDigits 16 digits)
    '\\' :: List.replicate (3 - body.length) '0' ++ body

def complaint (text : Chars) : Chars :=
  let reworded (told other : String) : Option Chars :=
    if told.toList.isSuffixOf text then
      some (quoted (text.take (text.length - told.length)) ++ other.toList)
    else none
  ((reworded ": expected numeric value" ": expected a numeric value").or
    ((reworded ": not completely converted" ": value not completely converted").or
      (reworded ": Numerical result out of range" ": Numerical result out of range"))).getD text

def printf (arguments : List Chars) : Action Unit := do
  setStatus 0
  match if arguments.head? = some ['-', '-'] then arguments.tail else arguments with
  | [] => misused "printf" "missing operand".toList 1
  | format :: arguments =>
    let printed := Shell.printf (inOctal format) arguments
    let _ ← Builtin.forEach (fun text => do
      say "printf" (complaint text) 1
      return true) printed.complaints
    put "printf" printed.text

def echoFlags : Bool × Bool → List Chars → Bool × Bool × List Chars
  | (bare, escapes), words =>
    match words with
    | ('-' :: c :: letters) :: others =>
      if (c :: letters).all ['n', 'e', 'E'].contains then
        let last := ((c :: letters).reverse.find? (· ≠ 'n')).map fun c => decide (c = 'e')
        echoFlags (bare || (c :: letters).contains 'n', last.getD escapes) others
      else (bare, escapes, words)
    | _ => (bare, escapes, words)

def echo (arguments : List Chars) : Action Unit := do
  setStatus 0
  let (bare, escapes, words) := echoFlags (false, false) arguments
  let text := [' '].intercalate words
  let (text, isWhole) := if escapes then unescapeFrom 0 (inOctal text) else (text, true)
  put "echo" (if bare || !isWhole then text else text ++ ['\n'])

/-! ### The system -/

def pwd (_arguments : List Chars) : Action Unit := do
  setStatus 0
  put "pwd" (Builtin.physical (← get).files ++ ['\n'])

def duration? (text : Chars) : Option Nat :=
  match Text.splitAtChar '.' text with
  | [whole] => (Integer.ofDigits? whole).map (· * 1000)
  | [whole, places] => do
    let n ← Integer.ofDigits? whole
    let _ ← Integer.ofDigits? places
    return n * 1000 + Integer.ofDigits 10 ((places ++ ['0', '0', '0']).take 3)
  | _ => none

def sleep (arguments : List Chars) : Action Unit :=
  withManual ⟨"sleep", "", 1⟩ false arguments fun given => do
    match given.operands with
    | [] => misused "sleep" "missing operand".toList 1
    | text :: _ =>
      match duration? text with
      | some time => modify fun s => { s with clock := s.clock + time }
      | none => misused "sleep" ("invalid time interval ".toList ++ quoted text) 1

/-! ### Running others -/

def pathFor (name : Chars) : Action (Except Refusal Chars) := do
  let s ← get
  if name.contains '/' then
    return match s.files.find (pathOf name) with
      | .ok (.program ..) => .ok name
      | .ok _ => .error .noPermission
      | .error refusal => .error refusal
  else
    let path := pathOf ((s.binding "PATH".toList).value.getD usualPath.toList)
    return programPath s.files path name

def runOther (self : Interpreter) (program : String) (name : Chars) (arguments : List Chars) :
    Action Unit := do
  match ← pathFor name with
  | .ok path => self.execute (.program path (name :: arguments))
  | .error refusal =>
    say program (quoted name ++ ": ".toList ++ (systemReason refusal).toList) 1
    setStatus (if refusal = .noPermission then 126 else 127)

def environment : Action (List (Chars × Chars)) := do
  let told := (← get).values.reverse.filterMap fun (name, b) =>
    if b.isExported then b.value.map fun text => (name, text) else none
  return Builtin.byRow 39 Prod.fst told

def setAll (isExported : Bool) : List Chars → Action (List Chars)
  | [] => return []
  | word :: others => do
    let (name, value) := Builtin.binding word
    match value with
    | some text =>
      modify fun s => s.bind name ⟨some text, isExported, false⟩
      setAll isExported others
    | none => return word :: others

def env (self : Interpreter) (arguments : List Chars) : Action Unit :=
  withManual ⟨"env", "iu:", 125⟩ true arguments fun given => do
    let unset := (given.options.filter fun o => o.1 = 'u').filterMap Prod.snd
    modify fun s => { s with
      values := s.values.filter fun v => !given.has 'i' && !unset.contains v.1 }
    match ← setAll true given.operands with
    | [] =>
      put "env" ((← environment).flatMap fun (name, text) => name ++ '=' :: text ++ ['\n'])
    | name :: arguments => runOther self "env" name arguments

end CMakeGrammar.Shell.Program
