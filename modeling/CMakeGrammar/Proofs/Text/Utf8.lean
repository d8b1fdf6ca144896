import CMakeGrammar.Text.Utf8
/-! What is written as bytes is read again as the same text. -/
namespace CMakeGrammar.Text.Utf8

theorem toNat_toUInt8 {n : Nat} (h : n < 256) : n.toUInt8.toNat = n := by
  rw [Nat.toUInt8, UInt8.toNat_ofNat']
  omega

theorem tail_cons {n low high : Nat} (bits owed : Nat) (least : low ≤ n) (most : n ≤ high)
    (byte : n < 256) (rest : List UInt8) :
    tail bits (owed + 1) low high (n.toUInt8 :: rest) =
      tail (bits * 64 + (n - 0x80)) owed 0x80 0xBF rest := by
  rw [tail, toNat_toUInt8 byte, if_pos (by simp [least, most])]

/-- What its lead byte asks for makes up one character. -/
theorem characters_cons {n bits owed low high : Nat} {c : Char} {bytes rest : List UInt8}
    (byte : n < 256) (lead : lead? n = some ⟨bits, owed, low, high⟩)
    (read : tail bits owed low high bytes = (some c.toNat, rest)) :
    characters (n.toUInt8 :: bytes) = some c :: characters rest := by
  have one : next n.toUInt8 bytes = (some c, rest) := by
    rw [next, toNat_toUInt8 byte, lead]
    simp only [read, Option.map_some, Char.ofNat_toNat]
  rw [characters, one]

theorem lead_two {n : Nat} (least : 0x80 ≤ n) (most : n < 0x800) :
    lead? (0xC0 + n / 64) = some ⟨n / 64, 1, 0x80, 0xBF⟩ := by
  have low : 0xC2 ≤ 0xC0 + n / 64 := by omega
  have high : 0xC0 + n / 64 ≤ 0xDF := by omega
  have large : ¬0xC0 + n / 64 < 0x80 := by omega
  simp [lead?, low, high, large]

theorem lead_three {n : Nat} (least : 0x800 ≤ n) (most : n < 0x10000)
    (valid : n < 0xD800 ∨ 0xDFFF < n) : ∃ low high,
      lead? (0xE0 + n / 4096) = some ⟨n / 4096, 2, low, high⟩ ∧
        low ≤ 0x80 + n / 64 % 64 ∧ 0x80 + n / 64 % 64 ≤ high := by
  unfold lead?
  by_cases first : n / 4096 = 0
  · exact ⟨0xA0, 0xBF, by simp [first], by omega, by omega⟩
  · by_cases surrogates : n / 4096 = 0xD
    · exact ⟨0x80, 0x9F, by simp [surrogates], by omega, by omega⟩
    · refine ⟨0x80, 0xBF, ?_, by omega, by omega⟩
      have large : ¬0xE0 + n / 4096 < 0x80 := by omega
      have notTwo : ¬0xE0 + n / 4096 ≤ 0xDF := by omega
      have other : ¬0xE0 + n / 4096 = 0xED := by omega
      have low : 0xE1 ≤ 0xE0 + n / 4096 := by omega
      have high : 0xE0 + n / 4096 ≤ 0xEF := by omega
      simp [large, notTwo, first, other, low, high]

theorem lead_four {n : Nat} (least : 0x10000 ≤ n) (most : n < 0x110000) : ∃ low high,
      lead? (0xF0 + n / 262144) = some ⟨n / 262144, 3, low, high⟩ ∧
        low ≤ 0x80 + n / 4096 % 64 ∧ 0x80 + n / 4096 % 64 ≤ high := by
  unfold lead?
  by_cases first : n / 262144 = 0
  · exact ⟨0x90, 0xBF, by simp [first], by omega, by omega⟩
  · by_cases last : n / 262144 = 4
    · exact ⟨0x80, 0x8F, by simp [last], by omega, by omega⟩
    · refine ⟨0x80, 0xBF, ?_, by omega, by omega⟩
      have large : ¬0xF0 + n / 262144 < 0x80 := by omega
      have notTwo : ¬0xF0 + n / 262144 ≤ 0xDF := by omega
      have notThree : ¬0xF0 + n / 262144 ≤ 0xEF := by omega
      have low : 0xF1 ≤ 0xF0 + n / 262144 := by omega
      have high : 0xF0 + n / 262144 ≤ 0xF3 := by omega
      have overlong : ¬0xF0 + n / 262144 = 0xE0 := by omega
      have surrogates : ¬0xF0 + n / 262144 = 0xED := by omega
      have beyond : ¬0xF0 + n / 262144 = 0xF4 := by omega
      simp [large, notTwo, notThree, overlong, surrogates, first, beyond, low, high]

theorem characters_encodeChar (c : Char) (rest : List UInt8) :
    characters (encodeChar c ++ rest) = some c :: characters rest := by
  have valid : c.toNat < 0xD800 ∨ 0xDFFF < c.toNat ∧ c.toNat < 0x110000 := c.valid
  unfold encodeChar
  by_cases one : c.toNat < 0x80
  · have lead : lead? c.toNat = some ⟨c.toNat, 0, 0x80, 0xBF⟩ := by simp [lead?, one]
    rw [if_pos one]
    exact characters_cons (by omega) lead rfl
  · rw [if_neg one]
    by_cases two : c.toNat < 0x800
    · have number : c.toNat / 64 * 64 + (0x80 + c.toNat % 64 - 0x80) = c.toNat := by omega
      rw [if_pos two, List.cons_append]
      apply characters_cons (by omega) (lead_two (by omega) two)
      rw [List.singleton_append, tail_cons _ _ (by omega) (by omega) (by omega), tail, number]
    · rw [if_neg two]
      by_cases three : c.toNat < 0x10000
      · obtain ⟨low, high, lead, least, most⟩ := lead_three (by omega) three (by omega)
        have number : (c.toNat / 4096 * 64 + (0x80 + c.toNat / 64 % 64 - 0x80)) * 64 +
            (0x80 + c.toNat % 64 - 0x80) = c.toNat := by omega
        rw [if_pos three, List.cons_append]
        apply characters_cons (by omega) lead
        rw [List.cons_append, List.singleton_append, tail_cons _ _ least most (by omega),
          tail_cons _ _ (by omega) (by omega) (by omega), tail, number]
      · obtain ⟨low, high, lead, least, most⟩ := lead_four (n := c.toNat) (by omega) (by omega)
        have number : ((c.toNat / 262144 * 64 + (0x80 + c.toNat / 4096 % 64 - 0x80)) * 64 +
            (0x80 + c.toNat / 64 % 64 - 0x80)) * 64 + (0x80 + c.toNat % 64 - 0x80) = c.toNat := by
          omega
        rw [if_neg three, List.cons_append]
        apply characters_cons (by omega) lead
        rw [List.cons_append, List.cons_append, List.singleton_append,
          tail_cons _ _ least most (by omega), tail_cons _ _ (by omega) (by omega) (by omega),
          tail_cons _ _ (by omega) (by omega) (by omega), tail, number]

theorem characters_flatMap (cs : List Char) :
    characters (cs.flatMap encodeChar) = cs.map some := by
  induction cs with
  | nil => rw [List.flatMap_nil, characters, List.map_nil]
  | cons c cs ih => rw [List.flatMap_cons, characters_encodeChar, ih, List.map_cons]

theorem mapM_map_some (cs : List Char) : (cs.map some).mapM id = some cs := by
  induction cs with
  | nil => rfl
  | cons c cs ih => simp [ih]

theorem decode?_encode (s : String) : decode? (encode s) = some s := by
  rw [decode?, encode, characters_flatMap, mapM_map_some, Option.map_some, String.ofList_toList]

theorem decodeLossy_encode (s : String) : decodeLossy (encode s) = s := by
  rw [decodeLossy, encode, characters_flatMap, List.map_map]
  simp [Function.comp_def]

end CMakeGrammar.Text.Utf8
