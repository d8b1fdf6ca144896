import CMakeGrammar.CommandLine
import CMakeGrammar.Gather
import CMakeGrammar.Loading
import CMakeGrammar.LogFilter
/-! One run of the program: the configuration is loaded, a template chosen, the vocabulary gathered,
a document made of it and delivered. The stages follow each other in this order, and the first
failure ends the run before anything is written. So does a stack that is full: then it is the system
that ends the run. -/
namespace CMakeGrammar

structure Host where
  environment : Environment
  files : FileSystem
  stdoutHasRoom : Bool
  /-- How many templates can be included inside each other before the stack is full. -/
  stack : Nat

/-- How a document is made. -/
inductive Style
  | json
  | grammar (template : Template)

structure Delivery where
  printed : String
  files : FileSystem

/-- What a run leaves. One that the system ends has no exit code. -/
structure Outcome where
  exitCode : Option Nat
  printed : String
  files : FileSystem
  events : List Event

abbrev Running := Recorded Event (Halt Error)

namespace Program
open Gathering (say sayAll)

def info (message : String) : LogEntry := .said .program .info message

def configuration (h : Host) (c : CommandLine) : Gathering Config := do
  let path := c.configPath h.environment
  say (info s!"Loading config from: {path}")
  .ofExcept ((Config.load h.files path).mapError fun fault => .config fault.message)

def grammar (h : Host) (template : Option String) : Gathering Template := do
  match template with
  | none => .ofExcept (Grammar.builtIn.mapError Grammar.Fault.error)
  | some path =>
    say (info s!"Using template: {path}")
    .ofExcept ((Grammar.load h.files path).mapError Grammar.Fault.error)

def style (h : Host) (c : CommandLine) (config : Config) : Gathering Style :=
  match c.format with
  | .json => return .json
  | .grammar => Style.grammar <$> grammar h (config.templateFor c.template)

def client (h : Host) (c : CommandLine) (config : Config) : Client :=
  let executable := config.executableFor c.cmake
  .ofExecutable executable (h.files.run h.environment.path executable)

def withoutKeywordsNotes (v : Vocabulary) : List LogEntry :=
  let names := v.commandsWithoutKeywords
  if names.isEmpty then []
  else
    [.said .program .warn (s!"{names.length} commands have no signature keywords: " ++
      ", ".intercalate names)]

def vocabulary (h : Host) (c : CommandLine) (config : Config) : Gathering Vocabulary := do
  let v ← Gather.vocabulary (client h c config) config.extraction
  sayAll (withoutKeywordsNotes v)
  return v

def document (stack : Nat) (s : Style) (v : Vocabulary) : Running String :=
  match s with
  | .json => return v.dump
  | .grammar template =>
    ((Grammar.render stack template v).mapEvents Event.log).mapError <| .map fun failure =>
      .template (failure.message Grammar.templateName)

def prepare (h : Host) (c : CommandLine) : Running (Config × String) := do
  let config ← (configuration h c).halting
  let style ← (style h c config).halting
  let v ← (vocabulary h c config).halting
  return (config, ← document h.stack style v)

def print (h : Host) (document : String) : Gathering Delivery :=
  if h.stdoutHasRoom then return ⟨document ++ "\n", h.files⟩
  else .fail (.io s!"Failed to write to stdout: {Refusal.noSpace.message}")

def save (h : Host) (path document : String) : Gathering Delivery :=
  match h.files.write path (Text.Utf8.encode document) with
  | .error refusal => .fail (.io s!"Failed to write {path}: {refusal.message}")
  | .ok files => do
    say (info s!"Wrote {path}")
    return ⟨"", files⟩

def deliver (h : Host) (c : CommandLine) (config : Config) (document : String) :
    Gathering Delivery :=
  if c.stdout then print h document else save h (config.outputFor c.output) document

def perform (h : Host) (c : CommandLine) : Running Delivery := do
  let (config, document) ← prepare h c
  (deliver h c config document).halting

/-- A failure is the last thing said, under its heading. -/
def report (e : Error) : LogEntry := .said .program .error s!"{e.category}: {e.message}"

def run (h : Host) (c : CommandLine) : Outcome :=
  let performed := perform h c
  match performed.result with
  | .ok delivery => ⟨some 0, delivery.printed, delivery.files, performed.events⟩
  | .error (.failed e) => ⟨some 1, "", h.files, performed.events ++ [.log (report e)]⟩
  | .error .overflow => ⟨none, "", h.files, performed.events⟩

def stopText (h : Host) : CommandLine.Stop → String
  | .help => CommandLine.helpText h.environment.cmake
  | .version => CommandLine.versionText
  | _ => ""

def stop (h : Host) (reason : CommandLine.Stop) : Outcome :=
  ⟨some reason.exitCode, if h.stdoutHasRoom then stopText h reason else "", h.files, []⟩

def logFilter (h : Host) (c : CommandLine) : LogFilter :=
  .choose h.environment.log c.logLevel.name

def start (h : Host) (arguments : List String) : Outcome × List LogEntry :=
  match CommandLine.parse h.environment.cmake arguments with
  | .error reason => (stop h reason, [])
  | .ok c =>
    let outcome := run h c
    (outcome, (outcome.events.filterMap Event.log?).filter (logFilter h c).shows)

end Program

namespace Outcome

def queries (o : Outcome) : List (List String) := o.events.filterMap Event.query?

end Outcome
end CMakeGrammar
