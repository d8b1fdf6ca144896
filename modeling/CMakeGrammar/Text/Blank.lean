import CMakeGrammar.Text.Range
/-! Blank characters: Unicode's White_Space. The zero-width space and the byte order mark are
not among them, and neither are the four separator controls below the space. -/
namespace CMakeGrammar.Text

def blankRanges : List (Nat × Nat) :=
  [(0x9, 0xD), (0x20, 0x20), (0x85, 0x85), (0xA0, 0xA0), (0x1680, 0x1680), (0x2000, 0x200A),
   (0x2028, 0x2029), (0x202F, 0x202F), (0x205F, 0x205F), (0x3000, 0x3000)]

def isBlank (c : Char) : Bool :=
  inRanges blankRanges c.toNat

@[simp] theorem isBlank_space : isBlank ' ' = true := rfl
@[simp] theorem isBlank_newline : isBlank '\n' = true := rfl

def dropBlankEnd (cs : List Char) : List Char :=
  (cs.reverse.dropWhile isBlank).reverse

def trimChars (cs : List Char) : List Char :=
  dropBlankEnd (cs.dropWhile isBlank)

def trim (s : String) : String :=
  String.ofList (trimChars s.toList)

@[simp] theorem dropBlankEnd_nil : dropBlankEnd [] = [] := rfl
@[simp] theorem trimChars_nil : trimChars [] = [] := rfl

@[simp] theorem toList_trim (s : String) : (trim s).toList = trimChars s.toList := by
  simp [trim]

end CMakeGrammar.Text
