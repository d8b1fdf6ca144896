import CMakeGrammar.Shell.Builtin.Basic
/-! Commands on processes: they send signals or set what is done on them, wait for what runs aside,
and set what files and memory a process may have. -/
namespace CMakeGrammar.Shell.Builtin

open Shell.Action

/-! ### Signals -/

def killUsage : Chars :=
  ("Usage: kill [-s sigspec | -signum | -sigspec] [pid | job]... or\n" ++
    "kill -l [exitstatus]").toList

def signalFor? (text : Chars) : Option Nat :=
  (Signal.ofText? text).filter fun n => n ≠ 0 || (Integer.ofDigits? text).isSome

def listSignals (arguments : List Chars) : Action Unit := do
  match arguments with
  | [] =>
    let names := (List.range Signal.count).tail.map fun n => (Signal.name? n).getD ""
    emit ("\n".intercalate ("0" :: names) ++ "\n").toList 0
  | argument :: _ =>
    withNumber argument fun status => do
      let n := if 128 < status then status - 128 else status
      match if n = 0 then none else Signal.name? n with
      | some name => emit (name.toList ++ ['\n']) 0
      | none => fail ("invalid signal number or exit status: ".toList ++ argument)

/-- Sends a signal to the script, to the process that runs it, or to one that runs aside. -/
def send (self : Interpreter) (signal : Nat) (target : Chars) : Action Bool := do
  let s ← get
  let refuse : Action Bool := do
    complain "No such process\n".toList
    return false
  let toProcess (n : Nat) : Action Bool := do
    match s.jobs.find? fun j => j.process = n with
    | some job =>
      if job.isWaitedFor then refuse
      else
        if s.clock < job.ends && signal ≠ 0 && !Signal.harmless.contains signal then
          let ended := { job with status := 128 + signal, signal := some signal, ends := s.clock }
          let isOne (process : Nat) : Bool := job.process ≤ process && process ≤ job.last
          set { s with
            jobs := s.jobs.map fun (j : Job) => if j.process = n then ended else j
            pages := s.pages.map (.forget s.clock isOne) }
        return true
    | none =>
      if n = s.own || n = 0 then
        setStatus 0
        self.deliver signal
        return true
      else if n = s.process || n = s.parent then
        if signal ≠ 0 then set { s with pending := (n, signal) :: s.pending }
        return true
      else refuse
  match target with
  | '%' :: _ =>
    match s.jobs.reverse[(Integer.ofDecimal? target.tail).getD 1 |>.toNat.pred]? with
    | some job => toProcess job.process
    | none =>
      fail ("No such job: ".toList ++ target)
      return false
  | '-' :: group =>
    match natural? group with
    | some _ => refuse
    | none =>
      fail (illegalNumber group)
      return false
  | _ =>
    match natural? target with
    | some n => toProcess n
    | none =>
      fail (illegalNumber target)
      return false

def kill (self : Interpreter) (arguments : List Chars) : Action Unit := do
  let sendAll (signal : Nat) (targets : List Chars) : Action Unit := do
    if targets.isEmpty then fail killUsage
    else
      let isWell ← forEach (send self signal) targets
      if ← isOnward then setStatus (if isWell then 0 else 1)
  let usual : Action Unit := withOptions "ls:" arguments fun given => do
    match given.argument? 's', given.has 'l' with
    | none, true => listSignals given.operands
    | none, false => sendAll 15 given.operands
    | some name, lists =>
      match signalFor? name with
      | some n => if lists then fail killUsage else sendAll n given.operands
      | none => fail ("invalid signal number or name: ".toList ++ name)
  match arguments with
  | [] => fail killUsage
  | ('-' :: name) :: targets =>
    match signalFor? name with
    | some n => sendAll n targets
    | none => usual
  | targets => sendAll 15 targets

def setTraps (text : Option Chars) : List Chars → Action Unit
  | [] => setStatus 0
  | name :: others => do
    match Signal.ofText? name with
    | none =>
      complainPlainly ("trap: ".toList ++ name ++ ": bad trap".toList)
      setStatus 1
    | some n =>
      modify fun s =>
        let kept := s.traps.filter fun t => t.1 ≠ n
        { s with traps := match text with
          | some text => (n, text) :: kept
          | none => kept }
      setTraps text others

def trap (arguments : List Chars) : Action Unit :=
  withOptions "" arguments fun given => do
    match given.operands with
    | [] =>
      let traps := (← get).traps.mergeSort fun a b => a.1 ≤ b.1
      emit (traps.flatMap fun (n, text) =>
        "trap -- ".toList ++ quote text ++ ' ' :: ((Signal.name? n).getD "").toList ++ ['\n']) 0
    | [name] => setTraps none [name]
    | text :: names =>
      if (Signal.ofNumber? text).isSome then setTraps none (text :: names)
      else setTraps (if text = ['-'] then none else some text) names

/-! ### What runs aside -/

def await (target : Chars) : Action Bool := do
  let s ← get
  let finish (job : Job) : Action Unit := do
    let ended := { job with isWaitedFor := true }
    set { s with
      clock := max s.clock job.ends
      jobs := s.jobs.map fun (j : Job) => if j.process = job.process then ended else j
      status := job.status }
    if let some n := job.signal then
      if !job.isWaitedFor && Signal.obituary n ≠ "" then
        complainPlainly (Signal.obituary n).toList
  match target with
  | '%' :: number =>
    match s.jobs.reverse[(natural? number).getD 1 - 1]? with
    | some job => finish job
    | none => fail ("No such job: ".toList ++ target)
  | _ =>
    match natural? target with
    | none => fail (illegalNumber target)
    | some n =>
      match s.jobs.find? fun j => j.process = n with
      | some job => finish job
      | none => setStatus 127
  return true

def wait (arguments : List Chars) : Action Unit :=
  withOptions "" arguments fun given => do
    if given.operands.isEmpty then
      modify fun s => { s with
        clock := s.jobs.foldl (fun time j => max time j.ends) s.clock
        jobs := s.jobs.map fun j => { j with isWaitedFor := true }
        status := 0 }
    else
      let _ ← forEach await given.operands

def jobs (arguments : List Chars) : Action Unit :=
  withOptions "lp" arguments fun given => do
    let numbered := (← get).jobs.reverse.zipIdx.filter fun (job, _) => !job.isWaitedFor
    let line (place : Nat) (job : Job) (index : Nat) : Chars :=
      if given.has 'p' then decimal job.process ++ ['\n']
      else
        let sign := if place = 0 then '+' else if place = 1 then '-' else ' '
        let process := if given.has 'l' then decimal job.process ++ [' '] else []
        let start := '[' :: decimal (index + 1 : Nat) ++ "] ".toList ++ sign :: ' ' :: process ++
          "Running".toList
        start ++ List.replicate (33 - start.length) ' ' ++ ['\n']
    let isAsked (number : Chars) (index : Nat) : Bool :=
      natural? number.tail = some (index + 1)
    let unknown := given.operands.find? fun number => !numbered.any fun n => isAsked number n.2
    match unknown with
    | some number => fail ("No such job: ".toList ++ number)
    | none =>
      let asked := numbered.filter fun (_, index) =>
        given.operands.isEmpty || given.operands.any fun number => isAsked number index
      emit (asked.reverse.zipIdx.flatMap fun ((job, index), place) => line place job index) 0

def control (arguments : List Chars) : Action Unit :=
  withOptions "" arguments fun given => do
    let jobs := (← get).jobs.filter fun j => !j.isWaitedFor
    match given.operands with
    | [] =>
      if jobs.isEmpty then fail "No current job".toList
      else fail "job (null) not created under job control".toList
    | name :: _ =>
      match natural? name.tail with
      | some (n + 1) =>
        if n < jobs.length then
          fail ("job ".toList ++ name ++ " not created under job control".toList)
        else fail ("No such job: ".toList ++ name)
      | _ => fail ("No such job: ".toList ++ name)

/-! ### What a process may have -/

def flip (mask : Nat) : Nat := 511 ^^^ (mask &&& 511)

def meant (values : Char → Option Nat) (text : Chars) : Nat × Chars :=
  let letters := text.takeWhile fun c => (values c).isSome
  (letters.foldl (fun n c => n ||| (values c).getD 0) 0, text.drop letters.length)

/-- What permissions come to by clauses such as `u+x,go=r`. Those before are `old`; `places` has a
bit for each of the owner, the group and others that a clause is about. -/
def changePermissions (old : Nat) : Nat → Nat → Nat → Chars → Option Nat
  | 0, _, _, _ => none
  | _ + 1, current, _, [] => some current
  | fuel + 1, current, places, text =>
    let place (c : Char) : Option Nat :=
      match c with
      | 'a' => some 73
      | 'u' => some 64
      | 'g' => some 8
      | 'o' => some 1
      | _ => none
    let permission (c : Char) : Option Nat :=
      match c with
      | 'r' => some 4
      | 'w' => some 2
      | 'x' => some 1
      | 'u' => some (old >>> 6 &&& 7)
      | 'g' => some (old >>> 3 &&& 7)
      | 'o' => some (old &&& 7)
      | 'X' => some (if old &&& 73 = 0 then 0 else 1)
      | 's' => some 0
      | _ => none
    let (named, rest) := meant place text
    let places := if places ||| named = 0 then 73 else places ||| named
    match rest with
    | [] => none
    | operator :: after =>
      let (permissions, rest) := meant permission after
      let bits := permissions * places
      let next : Option Nat :=
        if operator = '-' then some (current &&& flip bits)
        else if operator = '=' then some (bits ||| (current &&& flip (7 * places)))
        else if operator = '+' then some (current ||| bits)
        else none
      match next, rest with
      | none, _ => none
      | some next, ',' :: rest => changePermissions old fuel next 0 rest
      | some next, rest => changePermissions old fuel next places rest

def permissionText (permissions : Nat) : Chars :=
  let letters (shift : Nat) : Chars :=
    [('r', 4), ('w', 2), ('x', 1)].filterMap fun (c, bit) =>
      if (permissions >>> shift) &&& bit = 0 then none else some c
  "u=".toList ++ letters 6 ++ ",g=".toList ++ letters 3 ++ ",o=".toList ++ letters 0

def umask (arguments : List Chars) : Action Unit :=
  withOptions "S" arguments fun given => do
    let mask := (← get).mask
    let change (mask : Nat) : Action Unit :=
      modify fun s => { s with mask := mask &&& 511, status := 0 }
    match given.operands with
    | [] =>
      if given.has 'S' then emit (permissionText (flip mask) ++ ['\n']) 0
      else
        let digits := Nat.toDigits 8 mask
        emit (List.replicate (4 - digits.length) '0' ++ digits ++ ['\n']) 0
    | mode :: _ =>
      if (mode.head?.any Char.isDigit) then
        if mode.all fun c => '0' ≤ c && c ≤ '7' then change (Integer.ofDigits 8 mode)
        else fail (illegalNumber mode)
      else
        match changePermissions (flip mask) (mode.length + 1) (flip mask) 0 mode with
        | some permissions => change (flip permissions)
        | none => fail ("Illegal mode: ".toList ++ mode)

def limitNames : List (Char × String) :=
  [('t', "time(seconds)"), ('f', "file(blocks)"), ('d', "data(kbytes)"), ('s', "stack(kbytes)"),
    ('c', "coredump(blocks)"), ('m', "memory(kbytes)"), ('l', "locked memory(kbytes)"),
    ('p', "process"), ('n', "nofiles"), ('v', "vmemory(kbytes)"), ('w', "locks"),
    ('r', "rtprio")]

def ulimit (arguments : List Chars) : Action Unit :=
  withOptions "HSatfdscmlpnvwr" arguments fun given => do
    let limits := (← get).limits
    let letter := ((given.options.reverse.map Prod.fst).find? fun c =>
      (limitNames.lookup c).isSome).getD 'f'
    let limit (c : Char) : Chars := (limits.lookup c).getD "unlimited".toList
    match given.operands with
    | [] =>
      if given.has 'a' then
        emit (limitNames.flatMap fun (c, name) =>
          (name.pushn ' ' (20 - name.length)).toList ++ ' ' :: limit c ++ ['\n']) 0
      else emit (limit letter ++ ['\n']) 0
    | [value] =>
      if given.has 'a' then fail "too many arguments".toList
      else if value = "unlimited".toList || value.all Char.isDigit then
        modify fun s => { s with
          limits := (letter, value) :: s.limits.filter fun l => l.1 ≠ letter
          status := 0 }
      else fail "bad number".toList
    | _ => fail "too many arguments".toList

end CMakeGrammar.Shell.Builtin
