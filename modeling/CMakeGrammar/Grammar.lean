import CMakeGrammar.Vocabulary
import CMakeGrammar.Json.Printer
import CMakeGrammar.Template.Tree
import CMakeGrammar.Template.Render
/-! Documents made from a vocabulary: the vocabulary itself as JSON, and a TextMate grammar that a
template makes of it. -/
namespace CMakeGrammar

namespace Vocabulary

def moduleJson (m : ModuleEntry) : Json :=
  .object [("name", .string m.name), ("functions", .ofNames m.functions.toList),
    ("keywords", .ofNames m.keywords.toList)]

def commandMembers (v : Vocabulary) : List (String × Json) :=
  v.commands.entries.map fun entry => (entry.1, .ofNames entry.2.toList)

def toJson (v : Vocabulary) : Json :=
  .object [("version", .string v.version),
    ("variables", .ofNames v.variableNames.toList),
    ("commands", .object v.commandMembers),
    ("generator_expressions", .ofNames v.generatorExpressions.toList),
    ("properties", .ofNames v.properties.toList),
    ("modules", .object (v.modules.entries.map fun entry => (entry.1, moduleJson entry.2)))]

def dump (v : Vocabulary) : String := v.toJson.pretty

def moduleContext (m : ModuleEntry) : Json :=
  .object [("functions", .ofNames m.functions.toList), ("keywords", .ofNames m.keywords.toList),
    ("name", .string m.name)]

/-- The vocabulary as templates see it, its parts in ascending order. -/
def context (v : Vocabulary) : Json :=
  .object [("commands", .object v.commandMembers),
    ("generator_expressions", .ofNames v.generatorExpressions.toList),
    ("modules", .object (v.modules.entries.map fun entry => (entry.1, moduleContext entry.2))),
    ("properties", .ofNames v.properties.toList),
    ("variables", .ofNames v.variableNames.toList),
    ("version", .string v.version)]

end Vocabulary

abbrev Template := List Template.Node

namespace Grammar

def source : String := r##"{
  "$schema": "https://raw.githubusercontent.com/martinring/tmlanguage/master/tmlanguage.json",
  "name": "CMake",
  "scopeName": "source.cmake",
  "fileTypes": ["cmake", "CMakeLists.txt"],
  "comment": "Generated from the help output of CMake {{version}}. Do not edit by hand.",
  "patterns": [
    { "include": "#comments" },
    { "include": "#control-flow" },
    { "include": "#block-definitions" },
{{#each modules}}
    { "include": "#module-{{@key}}" },
{{/each}}
    { "include": "#commands" },
    { "include": "#user-commands" }
  ],
  "repository": {
    "comments": {
      "patterns": [
        {
          "begin": "#\\[(=*)\\[",
          "end": "\\]\\1\\]",
          "name": "comment.block.cmake"
        },
        {
          "match": "#.*$",
          "name": "comment.line.number-sign.cmake"
        }
      ]
    },
    "control-flow": {
      "begin": "(?i)\\b(if|elseif|else|endif|while|endwhile|endforeach|break|continue|return)\\s*(\\()",
      "beginCaptures": {
        "1": { "name": "keyword.control.cmake" },
        "2": { "name": "punctuation.section.parens.begin.cmake" }
      },
      "end": "\\)",
      "endCaptures": {
        "0": { "name": "punctuation.section.parens.end.cmake" }
      },
      "patterns": [
        {
          "match": "\\b(NOT|AND|OR|COMMAND|POLICY|TARGET|TEST|DEFINED|EXISTS|IS_NEWER_THAN|IS_DIRECTORY|IS_SYMLINK|IS_ABSOLUTE|PATH_EQUAL|MATCHES|LESS|GREATER|EQUAL|LESS_EQUAL|GREATER_EQUAL|STRLESS|STRGREATER|STREQUAL|STRLESS_EQUAL|STRGREATER_EQUAL|VERSION_LESS|VERSION_GREATER|VERSION_EQUAL|VERSION_LESS_EQUAL|VERSION_GREATER_EQUAL|IN_LIST)\\b",
          "name": "keyword.operator.cmake"
        },
        { "include": "#arguments" }
      ]
    },
    "block-definitions": {
      "begin": "(?i)\\b(function|macro|endfunction|endmacro)\\s*(\\()\\s*([A-Za-z_][A-Za-z0-9_]*)?",
      "beginCaptures": {
        "1": { "name": "storage.type.cmake" },
        "2": { "name": "punctuation.section.parens.begin.cmake" },
        "3": { "name": "entity.name.function.cmake" }
      },
      "end": "\\)",
      "endCaptures": {
        "0": { "name": "punctuation.section.parens.end.cmake" }
      },
      "patterns": [
        { "include": "#arguments" }
      ]
    },
{{#each modules}}
    "module-{{@key}}": {
      "begin": "(?i)\\b({{regex_alternation functions}})\\s*(\\()",
      "beginCaptures": {
        "1": { "name": "support.function.module.cmake" },
        "2": { "name": "punctuation.section.parens.begin.cmake" }
      },
      "end": "\\)",
      "endCaptures": {
        "0": { "name": "punctuation.section.parens.end.cmake" }
      },
      "patterns": [
{{#if keywords}}
        {
          "match": "\\b({{regex_alternation keywords}})\\b",
          "name": "keyword.other.module.cmake"
        },
{{/if}}
        { "include": "#arguments" }
      ]
    },
{{/each}}
    "commands": {
      "patterns": [
{{#each commands}}
        { "include": "#command-{{@key}}" }{{#unless @last}},{{/unless}}
{{/each}}
      ]
    },
{{#each commands}}
    "command-{{@key}}": {
      "begin": "(?i)\\b({{regex_alternation @key}})\\s*(\\()",
      "beginCaptures": {
        "1": { "name": "support.function.cmake" },
        "2": { "name": "punctuation.section.parens.begin.cmake" }
      },
      "end": "\\)",
      "endCaptures": {
        "0": { "name": "punctuation.section.parens.end.cmake" }
      },
      "patterns": [
{{#if this}}
        {
          "match": "\\b({{regex_alternation this}})\\b",
          "name": "keyword.other.cmake"
        },
{{/if}}
        { "include": "#arguments" }
      ]
    },
{{/each}}
    "arguments": {
      "patterns": [
        { "include": "#comments" },
        { "include": "#bracket-arguments" },
        { "include": "#strings" },
        { "include": "#variable-references" },
        { "include": "#generator-expressions" },
        { "include": "#variables" },
        { "include": "#properties" },
        { "include": "#constants" },
        { "include": "#nested-parens" }
      ]
    },
    "nested-parens": {
      "begin": "\\(",
      "end": "\\)",
      "patterns": [
        { "include": "#arguments" }
      ]
    },
    "bracket-arguments": {
      "begin": "\\[(=*)\\[",
      "end": "\\]\\1\\]",
      "name": "string.unquoted.bracket.cmake"
    },
    "strings": {
      "begin": "\"",
      "end": "\"",
      "name": "string.quoted.double.cmake",
      "patterns": [
        {
          "match": "\\\\.",
          "name": "constant.character.escape.cmake"
        },
        { "include": "#variable-references" },
        { "include": "#generator-expressions" }
      ]
    },
    "variable-references": {
      "begin": "\\$(ENV|CACHE)?\\{",
      "end": "\\}",
      "name": "variable.other.cmake",
      "patterns": [
        { "include": "#variable-references" }
      ]
    },
    "generator-expressions": {
      "begin": "\\$<({{regex_alternation generator_expressions}})?",
      "beginCaptures": {
        "0": { "name": "punctuation.definition.generator-expression.begin.cmake" },
        "1": { "name": "support.function.generator-expression.cmake" }
      },
      "end": ">",
      "endCaptures": {
        "0": { "name": "punctuation.definition.generator-expression.end.cmake" }
      },
      "patterns": [
        { "include": "#variable-references" },
        { "include": "#generator-expressions" }
      ]
    },
    "variables": {
{{#if variables}}
      "match": "\\b({{regex_alternation variables}})\\b",
{{else}}
      "match": "(?!)",
{{/if}}
      "name": "variable.language.cmake"
    },
    "properties": {
{{#if properties}}
      "match": "\\b({{regex_alternation properties}})\\b",
{{else}}
      "match": "(?!)",
{{/if}}
      "name": "support.constant.property.cmake"
    },
    "constants": {
      "match": "(?i)\\b(ON|OFF|TRUE|FALSE|YES|NO|Y|N|IGNORE|NOTFOUND|[A-Za-z0-9_-]*-NOTFOUND)\\b",
      "name": "constant.language.cmake"
    },
    "user-commands": {
      "begin": "\\b([A-Za-z_][A-Za-z0-9_]*)\\s*(\\()",
      "beginCaptures": {
        "1": { "name": "entity.name.function.call.cmake" },
        "2": { "name": "punctuation.section.parens.begin.cmake" }
      },
      "end": "\\)",
      "endCaptures": {
        "0": { "name": "punctuation.section.parens.end.cmake" }
      },
      "patterns": [
        { "include": "#arguments" }
      ]
    }
  }
}
"##

/-- The name that messages know the grammar's template by, and that it would include itself by. -/
def templateName : String := "grammar"

def render (stack : Nat) (template : Template) (v : Vocabulary) :
    Template.Rendering Template.Failure String := do
  return String.ofList (← Template.render stack templateName v.context template)

end Grammar
end CMakeGrammar
