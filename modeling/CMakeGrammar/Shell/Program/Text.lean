import CMakeGrammar.Shell.Program.Basic
/-! Programs that print what they read: all of it, parts of it, other characters for it, or how much
it is. -/
namespace CMakeGrammar.Shell.Program

open Shell.Action

def report (program : String) (path : Chars) (reason : String) : Action Unit :=
  say program (path ++ ": ".toList ++ reason.toList) 1

def reportOpening (program : String) (path : Chars) (reason : String) : Action Unit :=
  if reason = "Is a directory" then
    say program ("error reading ".toList ++ Manual.quoted path ++ ": ".toList ++ reason.toList) 1
  else
    say program ("cannot open ".toList ++ Manual.quoted path ++ " for reading: ".toList ++
      reason.toList) 1

def cat (arguments : List Chars) : Action Unit :=
  withManual ⟨"cat", "u", 1⟩ false arguments fun given => do
    if ((← get).channels.lookup 1).isNone then
      say "cat" "standard output: Bad file descriptor".toList 1
      return
    put "cat" (← sources (report "cat") given.operands)
    if ((← get).channels.lookup 0).isNone && given.operands.isEmpty then
      complainPlainly "cat: closing standard input: Bad file descriptor".toList

/-! ### Parts -/

structure Amount where
  size : Nat
  isFrom : Bool
  ofLines : Bool

def modern (arguments : List Chars) : List Chars :=
  match arguments with
  | ('-' :: d :: rest) :: others =>
    if d.isDigit then ['-', 'n'] :: (d :: rest) :: others else arguments
  | _ => arguments

def amount? (given : Given) : Except Chars Amount :=
  let (text, ofLines) : Chars × Bool := match given.argument? 'n', given.argument? 'c' with
    | some text, _ => (text, true)
    | none, some text => (text, false)
    | none, none => (['1', '0'], true)
  let isFrom := text.head? = some '+'
  match Integer.ofDigits? (if isFrom then text.tail else text) with
  | some n => .ok ⟨n, isFrom, ofLines⟩
  | none => .error ((if ofLines then "lines: " else "bytes: ").toList ++ Manual.quoted text)

def printParts (program : String) (several : Bool) (part : Chars → Chars) :
    Bool → List Chars → Action Unit
  | _, [] => return
  | isFirst, path :: others => do
    match ← content path with
    | .error reason =>
      reportOpening program path reason
      printParts program several part isFirst others
    | .ok text =>
      if several then
        let name := if path = ['-'] then "standard input".toList else path
        put program ((if isFirst then [] else ['\n']) ++ "==> ".toList ++ name ++
          " <==\n".toList)
      put program (part text)
      printParts program several part false others

def printing (program : String) (part : Amount → Chars → Chars) (arguments : List Chars) :
    Action Unit :=
  withManual ⟨program, "n:c:", 1⟩ false (modern arguments) fun given => do
    match amount? given with
    | .error text => say program ("invalid number of ".toList ++ text) 1
    | .ok amount =>
      let files := if given.operands.isEmpty then [['-']] else given.operands
      printParts program (1 < files.length) (part amount) true files

def startOf (a : Amount) (text : Chars) : Chars :=
  if a.ofLines then ((lines text).take a.size).flatten else text.take a.size

def endOf (a : Amount) (text : Chars) : Chars :=
  let dropped (n : Nat) : Nat := if a.isFrom then a.size - 1 else n - a.size
  if a.ofLines then
    let ls := lines text
    (ls.drop (dropped ls.length)).flatten
  else text.drop (dropped text.length)

def spans? (text : Chars) : Option (List (Nat × Option Nat)) :=
  (Text.splitAtChar ',' text).mapM fun span =>
    match Text.splitAtChar '-' span with
    | [n] => do
      let n ← Integer.ofDigits? n
      if n = 0 then none else some (n, some n)
    | [low, high] => do
      if low.isEmpty && high.isEmpty then none
      else
        let low ← if low.isEmpty then some 1 else Integer.ofDigits? low
        let high ← if high.isEmpty then some none else (Integer.ofDigits? high).map some
        if low = 0 || high.any (· < low) then none else some (low, high)
    | _ => none

def isIn (spans : List (Nat × Option Nat)) (n : Nat) : Bool :=
  spans.any fun (low, high) => low ≤ n && high.all (n ≤ ·)

def chosen {α : Type} (isChosen : Nat → Bool) (things : List α) : List α :=
  (things.zipIdx.filter fun t => isChosen (t.2 + 1)).map Prod.fst

def cut (arguments : List Chars) : Action Unit :=
  withManual ⟨"cut", "b:c:f:d:s", 1⟩ false arguments fun given => do
    let asked := given.options.filter fun o => o.1 = 'b' || o.1 = 'c' || o.1 = 'f'
    let delimiter := (given.argument? 'd').getD ['\t']
    match asked with
    | [] => misused "cut" "you must specify a list of bytes, characters, or fields".toList 1
    | [(letter, some list)] =>
      if 1 < delimiter.length then
        misused "cut" "the delimiter must be a single character".toList 1
      else
        match spans? list with
        | none =>
          if letter = 'f' then
            misused "cut" ("invalid field value ".toList ++ Manual.quoted list) 1
          else misused "cut" ("invalid byte/character position ".toList ++ Manual.quoted list) 1
        | some spans =>
          let text ← sources (report "cut") given.operands
          let d := delimiter.headD '\x00'
          put "cut" ((bareLines text).flatMap fun line =>
            if letter ≠ 'f' then chosen (isIn spans) line ++ ['\n']
            else if !line.contains d then (if given.has 's' then [] else line ++ ['\n'])
            else [d].intercalate (chosen (isIn spans) (Text.splitAtChar d line)) ++ ['\n'])
    | _ => misused "cut" "only one type of list may be specified".toList 1

/-! ### Counts and characters -/

def countWords (text : Chars) : Nat :=
  (text.foldl (fun (n, inside) c =>
    if Integer.isBlank c then (n, false) else (if inside then n else n + 1, true))
    ((0 : Nat), false)).1

def wc (arguments : List Chars) : Action Unit :=
  withManual ⟨"wc", "lwc", 1⟩ false arguments fun given => do
    let name := given.operands.headD ['-']
    match ← content name with
    | .error reason => report "wc" name reason
    | .ok text =>
      let asked := if given.options.isEmpty then ['l', 'w', 'c'] else given.options.map Prod.fst
      let numbers := [('l', text.count '\n'), ('w', countWords text), ('c', text.length)].filter
        fun n => asked.contains n.1
      let width :=
        if numbers.length = 1 then 1
        else if given.operands.isEmpty then 7 else (Nat.toDigits 10 text.length).length
      let shown := numbers.map fun (_, n) =>
        let digits := decimal (n : Nat)
        List.replicate (width - digits.length) ' ' ++ digits
      put "wc" ([' '].intercalate shown ++
        (if given.operands.isEmpty then [] else ' ' :: name) ++ ['\n'])

def members : Chars → Chars
  | '\\' :: c :: rest => (letter? c).getD c :: members rest
  | low :: '-' :: high :: rest =>
    (List.range (high.toNat + 1 - low.toNat)).map (fun n => Char.ofNat (low.toNat + n)) ++
      members rest
  | c :: rest => c :: members rest
  | [] => []

def tr (arguments : List Chars) : Action Unit :=
  withManual ⟨"tr", "d", 1⟩ true arguments fun given => do
    let text := match ← readAll with
      | .ok text => text
      | .error _ => []
    match given.has 'd', given.operands.map members with
    | true, [set] => put "tr" (text.filter fun c => !set.contains c)
    | false, [froms, tos] =>
      put "tr" (text.map fun c =>
        if froms.contains c then tos.getD (froms.idxOf c) (tos.getLast?.getD c) else c)
    | _, [] => misused "tr" "missing operand".toList 1
    | _, _ =>
      misused "tr" ("extra operand ".toList ++ Manual.quoted (given.operands.getLastD [])) 1

end CMakeGrammar.Shell.Program
