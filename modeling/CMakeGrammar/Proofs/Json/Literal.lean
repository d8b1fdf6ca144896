import CMakeGrammar.Json.Reader
import CMakeGrammar.Json.Printer
/-! String literals: what is escaped between two quotes is read back, whatever stands behind. -/
namespace CMakeGrammar.Json

theorem hexValue?_hexDigit {n : Nat} (h : n < 16) : hexValue? (Text.hexDigit n) = some n := by
  have all : ∀ n < 16, hexValue? (Text.hexDigit n) = some n := by decide
  exact all n h

theorem unit?_hexPair {n : Nat} (h : n < 256) :
    unit? '0' '0' (Text.hexDigit (n / 16)) (Text.hexDigit (n % 16)) = some n := by
  have zero : hexValue? '0' = some 0 := by decide
  have high : hexValue? (Text.hexDigit (n / 16)) = some (n / 16) := hexValue?_hexDigit (by omega)
  have low : hexValue? (Text.hexDigit (n % 16)) = some (n % 16) := hexValue?_hexDigit (by omega)
  simp only [unit?, zero, high, low, bind, Option.bind, pure, Option.some.injEq]
  omega

theorem content?_cons_of_plain {c : Char} (quote : c ≠ '"') (backslash : c ≠ '\\')
    (control : ¬c.toNat < 0x20) (rest : List Char) :
    content? none (c :: rest) = prepend c (content? none rest) := by
  simp [content?, backslash, control]

theorem content?_escapeChar (c : Char) (rest : List Char) :
    content? none (escapeChar c ++ rest) = prepend c (content? none rest) := by
  by_cases quote : c = '"'
  · subst quote; rfl
  by_cases backslash : c = '\\'
  · subst backslash; rfl
  by_cases newline : c = '\n'
  · subst newline; rfl
  by_cases ret : c = '\r'
  · subst ret; rfl
  by_cases tab : c = '\t'
  · subst tab; rfl
  by_cases back : c = '\x08'
  · subst back; rfl
  by_cases feed : c = '\x0c'
  · subst feed; rfl
  by_cases control : c.toNat < 0x20
  · have low : isLowUnit c.toNat = false := by simp [isLowUnit]; omega
    have high : isHighUnit c.toNat = false := by simp [isHighUnit]; omega
    simp only [escapeChar, quote, backslash, newline, ret, tab, back, feed, control, hexPair,
      if_true, if_false, List.cons_append, List.nil_append]
    rw [content?, unit?_hexPair (by omega)]
    simp [low, high]
  · simp only [escapeChar, quote, backslash, newline, ret, tab, back, feed, control, if_false]
    exact content?_cons_of_plain quote backslash control rest

theorem content?_escapeChars_append (text rest : List Char) :
    content? none (escapeChars text ++ rest) =
      (content? none rest).map fun r => (text ++ r.1, r.2) := by
  induction text with
  | nil => simp
  | cons c text ih =>
    rw [escapeChars_cons, List.append_assoc, content?_escapeChar, ih, prepend, Option.map_map]
    rfl

theorem content?_escapeChars (text rest : List Char) :
    content? none (escapeChars text ++ '"' :: rest) = some (text, rest) := by
  rw [content?_escapeChars_append, content?]
  simp

theorem unescape?_escapeChars (text : List Char) : unescape? (escapeChars text) = some text := by
  rw [unescape?, content?_escapeChars]

theorem literal?_literal (s : String) (rest : List Char) :
    literal? (literal s ++ rest) = some (s, rest) := by
  simp [literal, literal?, content?_escapeChars]

end CMakeGrammar.Json
