import CMakeGrammar.NameSet
import CMakeGrammar.Text.Runs
import CMakeGrammar.Text.Occurrence
import CMakeGrammar.Help.Keyword
/-! Generator expressions that take arguments: a name of uppercase letters and underscores between
`$<` and a colon. -/
namespace CMakeGrammar.Help

def generatorExpressionAt? (cs : List Char) : Option (List Char) :=
  match cs with
  | '$' :: '<' :: rest =>
    let name := rest.takeWhile isKeywordChar
    if !name.isEmpty && (rest.drop name.length).head? == some ':' then some name else none
  | _ => none

def generatorExpressionsOf (text : List Char) : List (List Char) :=
  Text.everywhere generatorExpressionAt? text

def generatorExpressions (help : String) : NameSet :=
  NameSet.ofList ((generatorExpressionsOf (Text.collapseChars help.toList)).map String.ofList)

end CMakeGrammar.Help
