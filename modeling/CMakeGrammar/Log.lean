import CMakeGrammar.Text.Quoted
/-! The log: what a run says about itself, by level, and which part of the program says it. -/
namespace CMakeGrammar

inductive LogLevel
  | error | warn | info | debug | trace
  deriving DecidableEq, Repr, Inhabited

namespace LogLevel

def all : List LogLevel := [error, warn, info, debug, trace]

def name : LogLevel → String
  | error => "error"
  | warn => "warn"
  | info => "info"
  | debug => "debug"
  | trace => "trace"

def detail : LogLevel → Nat
  | error => 1
  | warn => 2
  | info => 3
  | debug => 4
  | trace => 5

def ofName? (s : String) : Option LogLevel :=
  all.find? fun l => l.name = s.toLower

end LogLevel

inductive LogSource
  | program | gathering | running | listings | signatures | rendering | templateMessages
  deriving DecidableEq, Repr

namespace LogSource

def path : LogSource → String
  | program => "cmake_tmlanguage"
  | gathering => "cmake_tmlanguage::gatherer"
  | running => "cmake_tmlanguage::cmake::process"
  | listings => "cmake_tmlanguage::extract::placeholder"
  | signatures => "cmake_tmlanguage::extract::signature"
  | rendering => "handlebars::render"
  | templateMessages => "handlebars::helpers::helper_log"

def isEngine : LogSource → Bool
  | rendering => true
  | templateMessages => true
  | _ => false

end LogSource

structure LogEntry where
  source : LogSource
  level : LogLevel
  message : String
  fields : List (String × String)
  deriving DecidableEq, Repr

namespace LogEntry

def said (source : LogSource) (level : LogLevel) (message : String) : LogEntry :=
  ⟨source, level, message, []⟩

def fieldNames (e : LogEntry) : List String :=
  "message" :: if e.source.isEngine then
    ["log.target", "log.module_path", "log.file", "log.line"]
  else e.fields.map Prod.fst

/-- Control characters that a terminal would obey are spelled out. -/
def visibleChar (c : Char) : List Char :=
  match c with
  | '\x1b' => "\\x1b".toList
  | '\x07' => "\\x07".toList
  | '\x08' => "\\x08".toList
  | '\x0c' => "\\x0c".toList
  | '\x7f' => "\\x7f".toList
  | c =>
    if 0x80 ≤ c.toNat && c.toNat < 0xA0 then ['\\', 'u', '{'] ++ Text.hexDigits c.toNat ++ ['}']
    else [c]

def visible (s : String) : String := String.ofList (s.toList.flatMap visibleChar)

/-- The level fills five characters, from the right. -/
def line (e : LogEntry) : String :=
  let level := e.level.name.toUpper
  String.ofList (List.replicate (5 - level.length) ' ') ++ level ++ " " ++ visible e.message ++
    String.join (e.fields.map fun field => " " ++ field.1 ++ "=" ++ field.2)

end LogEntry

end CMakeGrammar
