import CMakeGrammar.Alternation
import CMakeGrammar.Vocabulary
import CMakeGrammar.Json.Basic
/-! The grammar of a vocabulary as a document: what is included at the top, and the repository with
one rule for each module and each command between rules that are always the same. -/
namespace CMakeGrammar.Grammar

def textMember (key text : String) : String × Json := (key, .string text)

def named (scope : String) : Json := .object [textMember "name" scope]

def reference (key : String) : Json := .object [textMember "include" ("#" ++ key)]

def patterns (rules : List Json) : String × Json := ("patterns", .array rules)

def wordPattern (names : List String) : String := "\\b(" ++ Alternation.ofNames names ++ ")\\b"

def nothingPattern : String := "(?!)"

def callPattern (names : List String) : String :=
  "(?i)\\b(" ++ Alternation.ofNames names ++ ")\\s*(\\()"

def openingPattern (names : List String) : String :=
  "\\$<(" ++ Alternation.ofNames names ++ ")?"

def openingParenthesis : String × Json := ("2", named "punctuation.section.parens.begin.cmake")

def parenthesisMembers (captures : List (String × Json)) : List (String × Json) :=
  [("beginCaptures", .object captures), textMember "end" "\\)",
    ("endCaptures", .object [("0", named "punctuation.section.parens.end.cmake")])]

def parenthesized (opening : String) (captures : List (String × Json)) (rules : List Json) : Json :=
  .object (textMember "begin" opening :: (parenthesisMembers captures ++ [patterns rules]))

def callCaptures (scope : String) : List (String × Json) :=
  [("1", named scope), openingParenthesis]

def callRule (opening scope : String) (rules : List Json) : Json :=
  parenthesized opening (callCaptures scope) rules

def keywordRules (scope : String) (keywords : NameSet) : List Json :=
  if keywords.isEmpty then []
  else [.object [textMember "match" (wordPattern keywords.toList), textMember "name" scope]]

def moduleRule (m : ModuleEntry) : Json :=
  callRule (callPattern m.functions.toList) "support.function.module.cmake"
    (keywordRules "keyword.other.module.cmake" m.keywords ++ [reference "arguments"])

def commandRule (command : String) (keywords : NameSet) : Json :=
  callRule (callPattern [command]) "support.function.cmake"
    (keywordRules "keyword.other.cmake" keywords ++ [reference "arguments"])

def moduleKey (name : String) : String := "module-" ++ name
def commandKey (name : String) : String := "command-" ++ name

def moduleRules (v : Vocabulary) : List (String × Json) :=
  v.modules.entries.map fun entry => (moduleKey entry.1, moduleRule entry.2)

def commandRules (v : Vocabulary) : List (String × Json) :=
  v.commands.entries.map fun entry => (commandKey entry.1, commandRule entry.1 entry.2)

def moduleIncludes (v : Vocabulary) : List Json :=
  v.modules.keys.map fun name => reference (moduleKey name)

def commandIncludes (v : Vocabulary) : List Json :=
  v.commands.keys.map fun name => reference (commandKey name)

def namesRule (names : NameSet) (scope : String) : Json :=
  .object
    [textMember "match" (if names.isEmpty then nothingPattern else wordPattern names.toList),
      textMember "name" scope]

def generatorExpressionMembers : List (String × Json) :=
  [("beginCaptures", .object
      [("0", named "punctuation.definition.generator-expression.begin.cmake"),
        ("1", named "support.function.generator-expression.cmake")]),
    textMember "end" ">",
    ("endCaptures", .object
      [("0", named "punctuation.definition.generator-expression.end.cmake")]),
    patterns [reference "variable-references", reference "generator-expressions"]]

def generatorExpressionsRule (names : List String) : Json :=
  .object (textMember "begin" (openingPattern names) :: generatorExpressionMembers)

def leadingRules : List (String × Json) :=
  [("comments", .object [patterns
      [.object [textMember "begin" "#\\[(=*)\\[", textMember "end" "\\]\\1\\]",
          textMember "name" "comment.block.cmake"],
        .object [textMember "match" "#.*$", textMember "name" "comment.line.number-sign.cmake"]]]),
    ("control-flow",
      callRule ("(?i)\\b(if|elseif|else|endif|while|endwhile|endforeach|break|continue|return)" ++
          "\\s*(\\()") "keyword.control.cmake"
        [.object [textMember "match" ("\\b(NOT|AND|OR|COMMAND|POLICY|TARGET|TEST|DEFINED|EXISTS|" ++
            "IS_NEWER_THAN|IS_DIRECTORY|IS_SYMLINK|IS_ABSOLUTE|PATH_EQUAL|MATCHES|LESS|GREATER|" ++
            "EQUAL|LESS_EQUAL|GREATER_EQUAL|STRLESS|STRGREATER|STREQUAL|STRLESS_EQUAL|" ++
            "STRGREATER_EQUAL|VERSION_LESS|VERSION_GREATER|VERSION_EQUAL|VERSION_LESS_EQUAL|" ++
            "VERSION_GREATER_EQUAL|IN_LIST)\\b"), textMember "name" "keyword.operator.cmake"],
          reference "arguments"]),
    ("block-definitions",
      parenthesized ("(?i)\\b(function|macro|endfunction|endmacro)\\s*(\\()\\s*" ++
          "([A-Za-z_][A-Za-z0-9_]*)?")
        [("1", named "storage.type.cmake"), openingParenthesis,
          ("3", named "entity.name.function.cmake")]
        [reference "arguments"])]

def argumentRules : List (String × Json) :=
  [("arguments", .object [patterns (["comments", "bracket-arguments", "strings",
      "variable-references", "generator-expressions", "variables", "properties", "constants",
      "nested-parens"].map reference)]),
    ("nested-parens", .object [textMember "begin" "\\(", textMember "end" "\\)",
      patterns [reference "arguments"]]),
    ("bracket-arguments", .object [textMember "begin" "\\[(=*)\\[",
      textMember "end" "\\]\\1\\]", textMember "name" "string.unquoted.bracket.cmake"]),
    ("strings", .object [textMember "begin" "\"", textMember "end" "\"",
      textMember "name" "string.quoted.double.cmake",
      patterns [.object [textMember "match" "\\\\.",
          textMember "name" "constant.character.escape.cmake"],
        reference "variable-references", reference "generator-expressions"]]),
    ("variable-references", .object [textMember "begin" "\\$(ENV|CACHE)?\\\x7b",
      textMember "end" "\\\x7d", textMember "name" "variable.other.cmake",
      patterns [reference "variable-references"]])]

def trailingRules : List (String × Json) :=
  [("constants", .object [textMember "match" ("(?i)\\b(ON|OFF|TRUE|FALSE|YES|NO|Y|N|IGNORE|" ++
      "NOTFOUND|[A-Za-z0-9_-]*-NOTFOUND)\\b"), textMember "name" "constant.language.cmake"]),
    ("user-commands", callRule "\\b([A-Za-z_][A-Za-z0-9_]*)\\s*(\\()"
      "entity.name.function.call.cmake" [reference "arguments"])]

def repository (v : Vocabulary) : List (String × Json) :=
  leadingRules ++ (moduleRules v ++ (("commands", .object [patterns (commandIncludes v)]) ::
    (commandRules v ++ (argumentRules ++
      ("generator-expressions", generatorExpressionsRule v.generatorExpressions.toList) ::
      ("variables", namesRule v.variableNames "variable.language.cmake") ::
      ("properties", namesRule v.properties "support.constant.property.cmake") ::
      trailingRules))))

def comment (version : String) : String :=
  "Generated from the help output of CMake " ++ version ++ ". Do not edit by hand."

def heading : List (String × Json) :=
  [textMember "$schema"
      "https://raw.githubusercontent.com/martinring/tmlanguage/master/tmlanguage.json",
    textMember "name" "CMake", textMember "scopeName" "source.cmake",
    ("fileTypes", .ofNames ["cmake", "CMakeLists.txt"])]

def leadingIncludes : List Json :=
  ["comments", "control-flow", "block-definitions"].map reference

def trailingIncludes : List Json := ["commands", "user-commands"].map reference

def document (v : Vocabulary) : Json :=
  .object (heading ++
    [textMember "comment" (comment v.version),
      patterns (leadingIncludes ++ (moduleIncludes v ++ trailingIncludes)),
      ("repository", .object (repository v))])

end CMakeGrammar.Grammar
