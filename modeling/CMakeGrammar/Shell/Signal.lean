import CMakeGrammar.Shell.Integer
/-! Signals: their names, what they do to a program, and what is said of one that has ended by one.
-/
namespace CMakeGrammar.Shell

def signals : List (String × Nat) :=
  [("EXIT", 0), ("HUP", 1), ("INT", 2), ("QUIT", 3), ("ILL", 4), ("TRAP", 5), ("ABRT", 6),
    ("BUS", 7), ("FPE", 8), ("KILL", 9), ("USR1", 10), ("SEGV", 11), ("USR2", 12), ("PIPE", 13),
    ("ALRM", 14), ("TERM", 15), ("16", 16), ("CHLD", 17), ("CONT", 18), ("STOP", 19),
    ("TSTP", 20), ("TTIN", 21), ("TTOU", 22), ("URG", 23), ("XCPU", 24), ("XFSZ", 25),
    ("VTALRM", 26), ("PROF", 27), ("WINCH", 28), ("IO", 29), ("PWR", 30), ("SYS", 31),
    ("32", 32), ("33", 33), ("RTMIN", 34)] ++
  (List.range 15).map (fun k => (s!"RTMIN+{k + 1}", 35 + k)) ++
  (List.range 14).map (fun k => (s!"RTMAX-{14 - k}", 50 + k)) ++ [("RTMAX", 64)]

namespace Signal

def count : Nat := 65

def name? (n : Nat) : Option String := (signals.find? fun s => s.2 = n).map Prod.fst

def ofNumber? (text : Chars) : Option Nat :=
  (Integer.ofDigits? text).filter (· < count)

def ofText? (text : Chars) : Option Nat :=
  (ofNumber? text).or (signals.lookup (String.ofList (text.map Char.toUpper)))

def harmless : List Nat := [17, 18, 23, 28]

def obituary (n : Nat) : String :=
  let known : List (Nat × String) :=
    [(1, "Hangup"), (2, ""), (3, "Quit"), (4, "Illegal instruction"), (5, "Trace/breakpoint trap"),
      (6, "Aborted"), (7, "Bus error"), (8, "Floating point exception"), (9, "Killed"),
      (10, "User defined signal 1"), (11, "Segmentation fault"), (12, "User defined signal 2"),
      (13, ""), (14, "Alarm clock"), (15, "Terminated"), (16, "Stack fault"),
      (24, "CPU time limit exceeded"), (25, "File size limit exceeded"),
      (26, "Virtual timer expired"), (27, "Profiling timer expired"), (29, "I/O possible"),
      (30, "Power failure"), (31, "Bad system call")]
  (known.lookup n).getD (if 34 ≤ n then s!"Real-time signal {n - 34}" else s!"Unknown signal {n}")

end Signal
end CMakeGrammar.Shell
