import CMakeGrammar.Log
/-! The command line. Arguments are read from left to right; the first that cannot be understood
ends the reading, and so does one that asks for help or the version. An option's value is looked at
when the next option comes, or at the end. -/
namespace CMakeGrammar

inductive Format
  | grammar | json
  deriving DecidableEq, Repr, Inhabited

namespace Format

def ofName? (s : String) : Option Format :=
  match s.toLower with
  | "grammar" => some grammar
  | "json" => some json
  | _ => none

def unknownMessage (s : String) : String :=
  s!"Invalid output format: {s}. Expected: grammar or json"

end Format

structure CommandLine where
  cmake : Option String
  output : Option String
  stdout : Bool
  config : Option String
  template : Option String
  format : Format
  verbose : Bool
  deriving DecidableEq, Repr

namespace CommandLine

inductive Valued
  | cmake | output | config | template | format
  deriving DecidableEq, Repr

inductive Switch
  | stdout | verbose | help | version
  deriving DecidableEq, Repr

inductive Opt
  | valued (o : Valued)
  | switch (s : Switch)
  deriving DecidableEq, Repr

inductive Stop
  | unknownArgument
  | conflict
  | badPath
  | badFormat
  | valueForSwitch
  | help
  | version
  deriving DecidableEq, Repr

namespace Stop

def exitCode : Stop → Nat
  | help => 0
  | version => 0
  | _ => 2

end Stop

def versionText : String := "cmake-tmlanguage 0.1.0\n"

def helpText (cmake : Option String) : String :=
  r"Generates a TextMate grammar for CMake from CMake's own help output

Usage: cmake-tmlanguage [OPTIONS]

Options:
      --cmake <PATH>     Path to the CMake executable [env: CMAKE=" ++ cmake.getD "" ++ r"]
  -o, --output <PATH>    Output file for the generated grammar
      --stdout           Write the result to stdout instead of a file
      --config <PATH>    Config file path
      --template <PATH>  Handlebars template replacing the built-in grammar template
      --format <FORMAT>  Output format [default: grammar]
  -v, --verbose          Enable debug logging
  -h, --help             Print help
  -V, --version          Print version
"

def Opt.ofLong? : String → Option Opt
  | "cmake" => some (.valued .cmake)
  | "output" => some (.valued .output)
  | "config" => some (.valued .config)
  | "template" => some (.valued .template)
  | "format" => some (.valued .format)
  | "stdout" => some (.switch .stdout)
  | "verbose" => some (.switch .verbose)
  | "help" => some (.switch .help)
  | "version" => some (.switch .version)
  | _ => none

def Opt.ofShort? : Char → Option Opt
  | 'o' => some (.valued .output)
  | 'v' => some (.switch .verbose)
  | 'h' => some (.switch .help)
  | 'V' => some (.switch .version)
  | _ => none

structure Draft where
  cmake : Option String := none
  output : Option String := none
  config : Option String := none
  template : Option String := none
  format : Option Format := none
  stdout : Bool := false
  verbose : Bool := false

structure Waiting where
  option : Valued
  value : Option String

structure State where
  draft : Draft
  waiting : Option Waiting
  afterDashes : Bool

namespace Draft

def hasValue (d : Draft) : Valued → Bool
  | .cmake => d.cmake.isSome
  | .output => d.output.isSome
  | .config => d.config.isSome
  | .template => d.template.isSome
  | .format => d.format.isSome

def path (value : String) : Except Stop String :=
  if value.isEmpty then .error .badPath else .ok value

/-- Sets an option that was not set before. A value that is missing is no path. -/
def set (d : Draft) (option : Valued) (value : Option String) : Except Stop Draft :=
  match value with
  | none => .error .badPath
  | some value =>
    if d.hasValue option then .error .conflict
    else
      match option with
      | .cmake => do return { d with cmake := some (← path value) }
      | .output => do return { d with output := some (← path value) }
      | .config => do return { d with config := some (← path value) }
      | .template => do return { d with template := some (← path value) }
      | .format =>
        match Format.ofName? value with
        | some f => .ok { d with format := some f }
        | none => .error .badFormat

def turnOn (d : Draft) : Switch → Except Stop Draft
  | .stdout => if d.stdout then .error .conflict else .ok { d with stdout := true }
  | .verbose => if d.verbose then .error .conflict else .ok { d with verbose := true }
  | .help => .error .help
  | .version => .error .version

end Draft

namespace State

def start : State := ⟨{}, none, false⟩

def settle (s : State) : Except Stop State :=
  match s.waiting with
  | none => .ok s
  | some w => do return { s with draft := ← s.draft.set w.option w.value, waiting := none }

def turnOn (s : State) (switch : Switch) : Except Stop State := do
  let s ← s.settle
  return { s with draft := ← s.draft.turnOn switch }

def setNow (s : State) (option : Valued) (value : String) : Except Stop State := do
  let s ← s.settle
  return { s with draft := ← s.draft.set option (some value) }

def await (s : State) (option : Valued) : Except Stop State := do
  let s ← s.settle
  return { s with waiting := some ⟨option, none⟩ }

def long (s : State) (name : String) (value : Option String) : Except Stop State :=
  match Opt.ofLong? name, value with
  | none, _ => .error .unknownArgument
  | some (.switch switch), none => s.turnOn switch
  | some (.switch _), some _ => .error .valueForSwitch
  | some (.valued option), some value => s.setNow option value
  | some (.valued option), none => s.await option

/-- One-letter options behind one dash. What stands behind one that takes a value is its value. -/
def short (s : State) : List Char → Except Stop State
  | [] => .ok s
  | c :: rest =>
    match Opt.ofShort? c with
    | none => .error .unknownArgument
    | some (.switch switch) => do short (← s.turnOn switch) rest
    | some (.valued option) =>
      match rest with
      | [] => s.await option
      | '=' :: value => s.setNow option (String.ofList value)
      | value => s.setNow option (String.ofList value)

def plain (s : State) (argument : String) : Except Stop State :=
  match s.waiting with
  | some ⟨option, none⟩ => .ok { s with waiting := some ⟨option, some argument⟩ }
  | _ => .error .unknownArgument

def read (s : State) (argument : String) : Except Stop State :=
  if s.afterDashes then .error .unknownArgument
  else
    match argument.toList with
    | ['-', '-'] => .ok { s with afterDashes := true }
    | '-' :: '-' :: long =>
      let name := long.takeWhile (· != '=')
      let value := match long.drop name.length with
        | _ :: value => some (String.ofList value)
        | [] => none
      s.long (String.ofList name) value
    | '-' :: c :: letters => s.short (c :: letters)
    | _ => s.plain argument

end State

def parse (cmake : Option String) (arguments : List String) : Except Stop CommandLine := do
  let s ← arguments.foldlM State.read State.start
  let d := (← s.settle).draft
  let executable ← match d.cmake, cmake with
    | some path, _ => pure (some path)
    | none, some path => some <$> Draft.path path
    | none, none => pure none
  if d.stdout && d.output.isSome then throw .conflict
  return {
    cmake := executable
    output := d.output
    stdout := d.stdout
    config := d.config
    template := d.template
    format := d.format.getD .grammar
    verbose := d.verbose }

def logLevel (c : CommandLine) : LogLevel := if c.verbose then .debug else .info

end CommandLine

structure Environment where
  cmake : Option String
  home : Option String
  configHome : Option String
  log : Option String
  path : String

namespace Environment

def below (directory name : String) : String :=
  if directory.isEmpty || directory.endsWith "/" then directory ++ name
  else directory ++ "/" ++ name

/-- The directory of all configuration files. One that does not begin at the root does not count. -/
def configDirectory (e : Environment) : String :=
  match e.configHome with
  | some directory => if directory.startsWith "/" then directory else homeConfig e
  | none => homeConfig e
where
  homeConfig (e : Environment) : String :=
    below ((e.home.filter (!·.isEmpty)).getD "/root") ".config"

def standardConfig (e : Environment) : String :=
  below (below e.configDirectory "cmake-tmlanguage") "config.toml"

end Environment

def CommandLine.configPath (c : CommandLine) (e : Environment) : String :=
  c.config.getD e.standardConfig

end CMakeGrammar
