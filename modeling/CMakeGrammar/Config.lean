import CMakeGrammar.Extraction
import CMakeGrammar.Toml.Decode
import CMakeGrammar.Toml.Reader
/-! The configuration file: settings in TOML, each with a default. A document that does not fit, or
whose settings cannot be used, gives no configuration at all. -/
namespace CMakeGrammar

structure Config where
  executable : Option String
  extraction : Extraction
  output : Option String
  template : Option String
  deriving DecidableEq

namespace Config
open Toml (Decoder)
open Toml.Decoder (field record)

def standard : Config := ⟨none, .standard, none, none⟩

instance : Inhabited Config := ⟨standard⟩

def standardExecutable : String := "cmake"
def standardOutput : String := "CMake.tmLanguage.json"

def path : Decoder String := Decoder.text "path string"
def string : Decoder String := Decoder.text "a string"
def strings : Decoder (List String) := Decoder.list string

def languages : Decoder (List Language) :=
  Decoder.list (Decoder.word "a string" Language.ofName? Language.unknownMessage)

def cmakeFields : List (Decoder.Field Config) :=
  [field "executable" path fun c s => { c with executable := some s }]

def extractionFields : List (Decoder.Field Extraction) :=
  [field "placeholder" string fun e s => { e with placeholder := s },
    field "languages" languages fun e ls => { e with languages := ls },
    field "stoplist" strings fun e ss => { e with stoplist := .ofList ss },
    field "excluded_commands" strings fun e ss => { e with excludedCommands := .ofList ss },
    field "modules" strings fun e ss => { e with modules := ss },
    field "generator_expression_manual" string fun e s => { e with manual := s }]

def outputFields : List (Decoder.Field Config) :=
  [field "path" path fun c s => { c with output := some s },
    field "template" path fun c s => { c with template := some s }]

def fields : List (Decoder.Field Config) :=
  [⟨"cmake", record "CMakeConfig" true cmakeFields⟩,
    field "extraction" (record "ExtractionConfig" false extractionFields .standard)
      fun c e => { c with extraction := e },
    ⟨"output", record "OutputConfig" true outputFields⟩]

def decode : Decoder Config := record "Config" true fields standard

inductive Fault
  | unreadable (reason : String)
  | malformed (file : String)
  | unfit (file report : String)
  | unusable (fault : Extraction.Fault)
  deriving DecidableEq, Repr

namespace Fault

def message : Fault → String
  | unreadable reason => s!"Failed to read config file: {reason}"
  | malformed file => s!"Configuration error in {file}:\n  TOML parse error\n"
  | unfit file report => s!"Configuration error in {file}:\n  {report}"
  | unusable fault => fault.message

end Fault

def checked (c : Config) : Except Fault Config :=
  match c.extraction.fault? with
  | none => .ok c
  | some fault => .error (.unusable fault)

def ofText (file text : String) : Except Fault Config :=
  match Toml.parse? text with
  | none => .error (.malformed file)
  | some document =>
    match decode document with
    | .error fault => .error (.unfit file (fault.report text))
    | .ok c => c.checked

/-- What is asked for on the command line goes before what is configured. -/
def executableFor (c : Config) (explicit : Option String) : String :=
  (explicit.or c.executable).getD standardExecutable

def outputFor (c : Config) (explicit : Option String) : String :=
  (explicit.or c.output).getD standardOutput

/-- Without a template the built-in one is used. -/
def templateFor (c : Config) (explicit : Option String) : Option String :=
  explicit.or c.template

end Config
end CMakeGrammar
