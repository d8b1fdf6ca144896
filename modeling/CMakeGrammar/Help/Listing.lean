import CMakeGrammar.NameSet
import CMakeGrammar.Language
import CMakeGrammar.Text.Split
import CMakeGrammar.Text.Occurrence
/-! Listings: one entry on a line. An entry may hold bracketed segments such as `<LANG>`; if all of
them are the placeholder it stands for one name per language, and otherwise for nothing. -/
namespace CMakeGrammar.Help

/-- The lines of a listing without the blanks around them, empty ones left out. -/
def listingEntries (output : String) : List String :=
  (((Text.splitAtChar '\n' output.toList).map Text.trimChars).filter (!·.isEmpty)).map String.ofList

def isBracket (c : Char) : Bool := c == '<' || c == '>'

def segmentAt? (cs : List Char) : Option (List Char) :=
  match cs with
  | '<' :: rest =>
    let body := rest.takeWhile (!isBracket ·)
    if (rest.drop body.length).head? == some '>' then some ('<' :: body ++ ['>']) else none
  | _ => none

def segmentsOf (entry : List Char) : List (List Char) :=
  Text.everywhere segmentAt? entry

/-- Whether an entry holds a segment that is not the placeholder: there is no rule to expand it. -/
def isUnsupported (placeholder entry : String) : Bool :=
  (segmentsOf entry.toList).any (· != placeholder.toList)

def substitute (placeholder entry name : String) : String :=
  String.ofList (Text.replaceAll placeholder.toList name.toList entry.toList)

/-- The names that an entry stands for, in the order of the languages. -/
def expandEntry (placeholder : String) (languages : List Language) (entry : String) : List String :=
  if (segmentsOf entry.toList).isEmpty then [entry]
  else if isUnsupported placeholder entry then []
  else languages.map fun l => substitute placeholder entry l.name

def expand (placeholder : String) (languages : List Language) (entries : List String) : NameSet :=
  NameSet.ofList (entries.flatMap (expandEntry placeholder languages))

theorem mem_expand {placeholder : String} {languages : List Language} {entries : List String}
    {name : String} : name ∈ expand placeholder languages entries ↔
      ∃ entry ∈ entries, name ∈ expandEntry placeholder languages entry := by
  simp [expand]

end CMakeGrammar.Help
