import CMakeGrammar.Json.Basic
import CMakeGrammar.Json.Escape
/-! JSON as a document: two spaces of indentation for each level, one item or member on a line, and
empty containers closed at once. -/
namespace CMakeGrammar.Json

def literal (s : String) : List Char :=
  '"' :: escapeChars s.toList ++ ['"']

def newline (depth : Nat) : List Char :=
  '\n' :: List.replicate (2 * depth) ' '

mutual

def render (depth : Nat) : Json → List Char
  | null => "null".toList
  | bool b => (if b then "true" else "false").toList
  | integer n => (toString n).toList
  | real x => (NumberStyle.document.binary64 x).toList
  | string s => literal s
  | array [] => ['[', ']']
  | array (item :: items) =>
    '[' :: newline (depth + 1) ++ render (depth + 1) item ++ renderItems (depth + 1) items ++
      newline depth ++ [']']
  | object [] => ['{', '}']
  | object ((key, value) :: members) =>
    '{' :: newline (depth + 1) ++ literal key ++ [':', ' '] ++ render (depth + 1) value ++
      renderMembers (depth + 1) members ++ newline depth ++ ['}']

def renderItems (depth : Nat) : List Json → List Char
  | [] => []
  | item :: items => ',' :: newline depth ++ render depth item ++ renderItems depth items

def renderMembers (depth : Nat) : List (String × Json) → List Char
  | [] => []
  | (key, value) :: members =>
    ',' :: newline depth ++ literal key ++ [':', ' '] ++ render depth value ++
      renderMembers depth members

end

def pretty (value : Json) : String :=
  String.ofList (render 0 value)

end CMakeGrammar.Json
