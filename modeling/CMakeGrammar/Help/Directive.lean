import CMakeGrammar.Text.Occurrence
import CMakeGrammar.Help.Keyword
/-! What a module's help declares: each `.. command::` directive names one command. The name may
stand on the directive's line or be wrapped to a later one. -/
namespace CMakeGrammar.Help

def isDirectiveNameChar (c : Char) : Bool :=
  c.isAlpha || c == '_'

/-- The directive as it stands in collapsed text. -/
def directive : List Char := ".. command:: ".toList

def declarationAt? (cs : List Char) : Option (List Char) :=
  (Text.after? directive cs).bind fun rest =>
    let name := rest.takeWhile isDirectiveNameChar
    if name.isEmpty then none else some name

def declarationsOf (text : List Char) : List (List Char) :=
  Text.everywhere declarationAt? text

def moduleFunctions? (help : String) : Option NameSet :=
  match declarationsOf (Text.collapseChars help.toList) with
  | [] => none
  | names => some (NameSet.ofList (names.map String.ofList))

def moduleKeywords (stoplist : NameSet) (help : String) : NameSet :=
  keywords stoplist (Text.collapse help)

end CMakeGrammar.Help
