import CMakeGrammar.Loading
import CMakeGrammar.Proofs.Grammar.Document
import CMakeGrammar.Proofs.Json.Spread
/-! The nodes of the grammar's template. Their texts are the parts of the document that are always
the same, and its places and blocks stand where the vocabulary comes in. -/
namespace CMakeGrammar.Grammar
open Json (Part written signs quoted indent spread spreadItems spreadMembers leadItems leadMembers)
open Template (Node Param Call Path)

def opened (depth : Nat) (key text : String) : List Part :=
  indent depth ++ quoted key ++ signs [':', ' ', '"'] ++ [.content text]

def closed (text : String) : List Part := .content text :: signs ['"', ',', '\n']

def begun (depth : Nat) (key : String) (bracket : Char) : List Part :=
  indent depth ++ quoted key ++ signs [':', ' ', bracket, '\n']

def ended (depth : Nat) (bracket : Char) : List Part := indent depth ++ signs [bracket, ',', '\n']

def member (name : String) : Param := .path (.relative [.name name] name)
def loopData (name : String) : Param := .path (.loopData 0 name ("@" ++ name))

def eachNode (line : Nat) (name : String) (body : List Node) : Node :=
  .block (some ⟨line, 1⟩) true (.mk "each" [member name] []) ⟨none, none⟩ body none

def ifNode (line : Nat) (p : Param) (body : List Node) (otherwise : Option (List Node)) : Node :=
  .block (some ⟨line, 1⟩) true (.mk "if" [p] []) ⟨none, none⟩ body otherwise

def keyNode (line column : Nat) : Node := .place ⟨line, column⟩ false (.value (loopData "key"))

def alternationNode (line column : Nat) (p : Param) : Node :=
  .place ⟨line, column⟩ false (.call (.mk "regex_alternation" [p] []))

section
variable (write : List Part → List Char)

/-- The rule of one module or command. `callees` are the names that it matches. -/
def ruleNodes (line column : Nat) (stem scope keywordScope : String) (callees keywords : Param) :
    List Node :=
  [.text (write (indent 2 ++ .sign '"' :: [.content stem])), keyNode line column,
    .text (write (signs ['"', ':', ' ', '{', '\n'] ++ opened 3 "begin" "(?i)\\b(")),
    alternationNode (line + 1) 25 callees,
    .text (write (closed ")\\s*(\\()" ++ leadMembers 3 (parenthesisMembers (callCaptures scope)) ++
      begun 3 "patterns" '[')),
    ifNode (line + 11) keywords
      [.text (write (indent 4 ++ signs ['{', '\n'] ++ opened 5 "match" "\\b(")),
        alternationNode (line + 13) 25 keywords,
        .text (write (closed ")\\b" ++ spreadMembers 5 [textMember "name" keywordScope] ++
          ended 4 '}'))] none,
    .text (write (spreadItems 4 [reference "arguments"] ++ indent 3 ++ signs [']', '\n'] ++
      ended 2 '}'))]

def namesNode (line : Nat) (p : Param) : Node :=
  ifNode line p
    [.text (write (opened 3 "match" "\\b(")), alternationNode (line + 1) 21 p,
      .text (write (closed ")\\b"))]
    (some [.text (write (leadMembers 3 [textMember "match" nothingPattern]))])

/-- The nodes, with a way to write their texts. -/
def nodesWith : Template :=
  [.text (write (signs ['{', '\n'] ++ leadMembers 1 heading ++
      opened 1 "comment" "Generated from the help output of CMake ")),
    .place ⟨6, 55⟩ false (.value (member "version")),
    .text (write (closed ". Do not edit by hand." ++ begun 1 "patterns" '[' ++
      leadItems 2 leadingIncludes)),
    eachNode 11 "modules"
      [.text (write (indent 2 ++ signs ['{', ' '] ++ quoted "include" ++ signs [':', ' ', '"'] ++
          [.content "#module-"])),
        keyNode 12 27, .text (write (signs ['"', ' ', '}', ',', '\n']))],
    .text (write (spreadItems 2 trailingIncludes ++ ended 1 ']' ++ begun 1 "repository" '{' ++
      leadMembers 2 leadingRules)),
    eachNode 64 "modules" (ruleNodes write 65 13 "module-" "support.function.module.cmake"
      "keyword.other.module.cmake" (member "functions") (member "keywords")),
    .text (write (begun 2 "commands" '{' ++ begun 3 "patterns" '[')),
    eachNode 88 "commands"
      [.text (write (indent 4 ++ signs ['{', ' '] ++ quoted "include" ++ signs [':', ' ', '"'] ++
          [.content "#command-"])),
        keyNode 89 32, .text (write (signs ['"', ' ', '}'])),
        .block (some ⟨89, 43⟩) false (.mk "unless" [loopData "last"] []) ⟨none, none⟩
          [.text (write (signs [',']))] none,
        .text (write (signs ['\n']))],
    .text (write (indent 3 ++ signs [']', '\n'] ++ ended 2 '}')),
    eachNode 93 "commands" (ruleNodes write 94 14 "command-" "support.function.cmake"
      "keyword.other.cmake" (loopData "key") (.path (.relative [] "this"))),
    .text (write (leadMembers 2 argumentRules ++ begun 2 "generator-expressions" '{' ++
      opened 3 "begin" "\\$<(")),
    alternationNode 162 22 (member "generator_expressions"),
    .text (write (closed ")?" ++ spreadMembers 3 generatorExpressionMembers ++ ended 2 '}' ++
      begun 2 "variables" '{')),
    namesNode write 177 (member "variables"),
    .text (write (spreadMembers 3 [textMember "name" "variable.language.cmake"] ++ ended 2 '}' ++
      begun 2 "properties" '{')),
    namesNode write 185 (member "properties"),
    .text (write (spreadMembers 3 [textMember "name" "support.constant.property.cmake"] ++
      ended 2 '}' ++ spreadMembers 2 trailingRules ++ indent 1 ++ signs ['}', '\n'] ++
      signs ['}', '\n']))]

end

def nodes : Template := nodesWith written

end CMakeGrammar.Grammar
