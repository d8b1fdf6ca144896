import CMakeGrammar.Text.Printable
/-! Quoted text, for lines that a person reads: a text between double quotes in which every
character is visible, so that two different texts never look alike. -/
namespace CMakeGrammar.Text

def hexDigit (n : Nat) : Char :=
  "0123456789abcdef".toList.getD n '0'

def hexDigits (n : Nat) : List Char :=
  if n < 16 then [hexDigit n] else hexDigits (n / 16) ++ [hexDigit (n % 16)]

def quotedChar (c : Char) : List Char :=
  match c with
  | '"' => ['\\', '"']
  | '\\' => ['\\', '\\']
  | '\n' => ['\\', 'n']
  | '\r' => ['\\', 'r']
  | '\t' => ['\\', 't']
  | '\x00' => ['\\', '0']
  | c => if isPrintable c then [c] else ['\\', 'u', '{'] ++ hexDigits c.toNat ++ ['}']

def quoted (s : String) : String :=
  String.ofList ('"' :: s.toList.flatMap quotedChar ++ ['"'])

end CMakeGrammar.Text
