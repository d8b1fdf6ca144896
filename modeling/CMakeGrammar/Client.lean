import CMakeGrammar.Error
import CMakeGrammar.Log
import CMakeGrammar.NameMap
import CMakeGrammar.Query
import CMakeGrammar.Recorded
import CMakeGrammar.Text.Blank
import CMakeGrammar.Text.Utf8
/-! Clients: those who answer queries. A client may know its answers from a table, always fail, or
run an executable; in each case the answer comes without the blanks around it. -/
namespace CMakeGrammar

/-- What one run of an executable leaves. -/
structure Output where
  succeeded : Bool
  stdout : List UInt8
  stderr : List UInt8

structure Client where
  name : String
  notices : List String → List LogEntry
  answer : List String → Except Error String

/-- What happens while queries are put: each is recorded, and so is what is said. -/
inductive Event
  | query (arguments : List String)
  | log (entry : LogEntry)
  deriving DecidableEq, Repr

abbrev Gathering := Recorded Event Error

namespace Event

def query? : Event → Option (List String)
  | query arguments => some arguments
  | log _ => none

def log? : Event → Option LogEntry
  | query _ => none
  | log entry => some entry

end Event

namespace Client

def commandLine (name : String) (arguments : List String) : String :=
  argumentLine (name :: arguments)

def ofTable (responses : NameMap String) : Client where
  name := "mock-cmake"
  notices _ := []
  answer arguments :=
    let line := argumentLine arguments
    match responses.get? line with
    | some output => .ok (Text.trim output)
    | none => .error (.externalTool s!"mock-cmake {line}" s!"no response registered for '{line}'")

def failing (stderr : String) : Client where
  name := "failing-cmake"
  notices _ := []
  answer arguments := .error (.externalTool s!"failing-cmake {argumentLine arguments}" stderr)

/-- Runs an executable. `run` says what it leaves, or why it cannot be run. -/
def ofExecutable (executable : String) (run : List String → Except String Output) : Client where
  name := executable
  notices arguments :=
    [⟨.running, .debug, "Running CMake", [("command", commandLine executable arguments)]⟩]
  answer arguments :=
    match run arguments with
    | .error reason => .error (.launch (commandLine executable arguments) reason)
    | .ok output =>
      if output.succeeded then .ok (Text.trim (Text.Utf8.decodeLossy output.stdout))
      else
        .error (.externalTool (commandLine executable arguments)
          (Text.trim (Text.Utf8.decodeLossy output.stderr)))

def ask (c : Client) (arguments : List String) : Gathering String :=
  ⟨.query arguments :: (c.notices arguments).map .log, c.answer arguments⟩

def query (c : Client) (q : Query) : Gathering String := c.ask q.arguments

@[simp] theorem result_ask (c : Client) (arguments : List String) :
    (c.ask arguments).result = c.answer arguments := rfl

@[simp] theorem result_query (c : Client) (q : Query) :
    (c.query q).result = c.answer q.arguments := rfl

end Client

namespace Gathering

def say (entry : LogEntry) : Gathering Unit := .record (.log entry)

def sayAll (entries : List LogEntry) : Gathering Unit := ⟨entries.map .log, .ok ()⟩

end Gathering

def Recorded.queries {ε α : Type} (x : Recorded Event ε α) : List (List String) :=
  x.events.filterMap Event.query?

def Recorded.log {ε α : Type} (x : Recorded Event ε α) : List LogEntry :=
  x.events.filterMap Event.log?

end CMakeGrammar
