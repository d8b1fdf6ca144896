/-! UTF-8. `encode` writes a text as bytes; `decodeLossy` reads any bytes, putting one replacement
character for each longest stretch that begins a character and does not finish it; `decode?` reads
only bytes that are UTF-8 throughout. -/
namespace CMakeGrammar.Text.Utf8

def encodeChar (c : Char) : List UInt8 :=
  let n := c.toNat
  if n < 0x80 then [n.toUInt8]
  else if n < 0x800 then [(0xC0 + n / 64).toUInt8, (0x80 + n % 64).toUInt8]
  else if n < 0x10000 then
    [(0xE0 + n / 4096).toUInt8, (0x80 + n / 64 % 64).toUInt8, (0x80 + n % 64).toUInt8]
  else
    [(0xF0 + n / 262144).toUInt8, (0x80 + n / 4096 % 64).toUInt8, (0x80 + n / 64 % 64).toUInt8,
      (0x80 + n % 64).toUInt8]

def encode (s : String) : List UInt8 :=
  s.toList.flatMap encodeChar

/-- What the first byte of a character says of the rest: its own bits, how many bytes follow, and
the least and greatest value of the next one. -/
structure Lead where
  bits : Nat
  tail : Nat
  low : Nat := 0x80
  high : Nat := 0xBF

def lead? (b : Nat) : Option Lead :=
  if b < 0x80 then some ⟨b, 0, 0x80, 0xBF⟩
  else if 0xC2 ≤ b && b ≤ 0xDF then some ⟨b - 0xC0, 1, 0x80, 0xBF⟩
  else if b = 0xE0 then some ⟨0, 2, 0xA0, 0xBF⟩
  else if b = 0xED then some ⟨0xD, 2, 0x80, 0x9F⟩
  else if 0xE1 ≤ b && b ≤ 0xEF then some ⟨b - 0xE0, 2, 0x80, 0xBF⟩
  else if b = 0xF0 then some ⟨0, 3, 0x90, 0xBF⟩
  else if b = 0xF4 then some ⟨4, 3, 0x80, 0x8F⟩
  else if 0xF1 ≤ b && b ≤ 0xF3 then some ⟨b - 0xF0, 3, 0x80, 0xBF⟩
  else none

def tail (bits : Nat) : Nat → Nat → Nat → List UInt8 → Option Nat × List UInt8
  | 0, _, _, rest => (some bits, rest)
  | _ + 1, _, _, [] => (none, [])
  | owed + 1, low, high, b :: rest =>
    if low ≤ b.toNat && b.toNat ≤ high then
      tail (bits * 64 + (b.toNat - 0x80)) owed 0x80 0xBF rest
    else (none, b :: rest)

theorem length_tail_le (bits owed low high : Nat) (bytes : List UInt8) :
    (tail bits owed low high bytes).2.length ≤ bytes.length := by
  induction owed generalizing bits low high bytes with
  | zero => simp [tail]
  | succ owed ih =>
    cases bytes with
    | nil => simp [tail]
    | cons b rest =>
      rw [tail]
      split
      · exact Nat.le_trans (ih ..) (Nat.le_succ _)
      · exact Nat.le_refl _

def next (b : UInt8) (rest : List UInt8) : Option Char × List UInt8 :=
  match lead? b.toNat with
  | none => (none, rest)
  | some lead =>
    let read := tail lead.bits lead.tail lead.low lead.high rest
    (read.1.map Char.ofNat, read.2)

theorem length_next_le (b : UInt8) (rest : List UInt8) :
    (next b rest).2.length ≤ rest.length := by
  unfold next
  split
  · exact Nat.le_refl _
  · exact length_tail_le ..

/-- The characters that the bytes hold, with none for each stretch that is no character. -/
def characters : List UInt8 → List (Option Char)
  | [] => []
  | b :: rest => (next b rest).1 :: characters (next b rest).2
termination_by bytes => bytes.length
decreasing_by exact Nat.lt_succ_of_le (length_next_le b rest)

def decodeLossy (bytes : List UInt8) : String :=
  String.ofList ((characters bytes).map (·.getD '\uFFFD'))

def decode? (bytes : List UInt8) : Option String :=
  ((characters bytes).mapM id).map String.ofList

end CMakeGrammar.Text.Utf8
