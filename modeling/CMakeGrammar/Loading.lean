import CMakeGrammar.Config
import CMakeGrammar.FileSystem
import CMakeGrammar.Grammar
/-! What is read from files: the configuration, which may be absent, and a template, which
may not. -/
namespace CMakeGrammar

namespace Config

/-- The configuration in a file. Where there is no file, the standard one holds. -/
def load (fs : FileSystem) (path : String) : Except Fault Config :=
  if fs.exists? path then
    match fs.readText path with
    | .ok text => ofText path text
    | .error reason => .error (.unreadable reason)
  else .ok standard

end Config

namespace Grammar

inductive Fault
  | unreadable (file reason : String)
  | malformed
  deriving DecidableEq, Repr

namespace Fault

def error : Fault → Error
  | unreadable file reason => .io s!"Failed to read template {file}: {reason}"
  | malformed => .template "The tags of the template do not fit together"

end Fault

def ofText (text : String) : Except Fault Template :=
  match Template.parse? text with
  | some template => .ok template
  | none => .error .malformed

/-- The template that is used where no other one is asked for. -/
def builtIn : Except Fault Template := ofText source

def load (fs : FileSystem) (path : String) : Except Fault Template :=
  match fs.readText path with
  | .ok text => ofText text
  | .error reason => .error (.unreadable path reason)

end Grammar
end CMakeGrammar
