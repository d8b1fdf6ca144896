import CMakeGrammar.Proofs.Json.Spelling
/-! What can stand between the quotes of a string literal. A content is made of characters that
stand for themselves and of escapes (`Denotes`), and it is one if it can be read
(`unescape?_eq_some_iff`). Contents can be put behind each other, and what is escaped is one. -/
namespace CMakeGrammar.Json

def paired (high low : Nat) : Char :=
  Char.ofNat (0x10000 + (high - 0xD800) * 0x400 + (low - 0xDC00))

/-- That a content denotes a text, where a high unit may be pending. -/
inductive Denotes : Option Nat → List Char → List Char → Prop
  | nil : Denotes none [] []
  | plain {c : Char} {cs text : List Char} : c ≠ '"' → c ≠ '\\' → ¬c.toNat < 0x20 →
    Denotes none cs text → Denotes none (c :: cs) (c :: text)
  | short {c d : Char} {cs text : List Char} : shortEscape? c = some d → Denotes none cs text →
    Denotes none ('\\' :: c :: cs) (d :: text)
  | unit {a b c d : Char} {n : Nat} {cs text : List Char} : unit? a b c d = some n →
    isHighUnit n = false → isLowUnit n = false → Denotes none cs text →
    Denotes none ('\\' :: 'u' :: a :: b :: c :: d :: cs) (Char.ofNat n :: text)
  | high {a b c d : Char} {n : Nat} {cs text : List Char} : unit? a b c d = some n →
    isHighUnit n = true → Denotes (some n) cs text →
    Denotes none ('\\' :: 'u' :: a :: b :: c :: d :: cs) text
  | low {a b c d : Char} {high n : Nat} {cs text : List Char} : unit? a b c d = some n →
    isLowUnit n = true → Denotes none cs text →
    Denotes (some high) ('\\' :: 'u' :: a :: b :: c :: d :: cs) (paired high n :: text)

theorem content?_short {c d : Char} (short : shortEscape? c = some d) (rest : List Char) :
    content? none ('\\' :: c :: rest) = prepend d (content? none rest) := by
  have notUnit : c ≠ 'u' := by
    rintro rfl
    cases short
  rw [content?]
  · simp only [short]
  · exact fun _ _ _ _ _ isUnit _ => notUnit isUnit

theorem Denotes.append {pending : Option Nat} {a b s t : List Char} (h : Denotes pending a s)
    (h' : Denotes none b t) : Denotes pending (a ++ b) (s ++ t) := by
  induction h with
  | nil => exact h'
  | plain quote backslash control _ ih => exact .plain quote backslash control ih
  | short isShort _ ih => exact .short isShort ih
  | unit isUnit high low _ ih => exact .unit isUnit high low ih
  | high isUnit high _ ih => exact .high isUnit high ih
  | low isUnit low _ ih => exact .low isUnit low ih

theorem Denotes.content? {pending : Option Nat} {cs text : List Char} (h : Denotes pending cs text)
    (rest : List Char) : content? pending (cs ++ rest) =
      (content? none rest).map fun r => (text ++ r.1, r.2) := by
  induction h with
  | nil => simp
  | plain quote backslash control _ ih =>
    rw [List.cons_append, content?_cons_of_plain quote backslash control, ih, prepend,
      Option.map_map]
    rfl
  | short isShort _ ih =>
    rw [List.cons_append, List.cons_append, content?_short isShort, ih, prepend, Option.map_map]
    rfl
  | unit isUnit high low _ ih =>
    simp [Json.content?, isUnit, high, low, ih, prepend, Option.map_map, Function.comp_def]
  | high isUnit high _ ih => simp [Json.content?, isUnit, high, ih]
  | low isUnit low _ ih =>
    simp [Json.content?, isUnit, low, ih, prepend, Option.map_map, Function.comp_def, paired]

theorem exists_denotes_of_prepend {pending : Option Nat} {cs text rest : List Char} {c : Char}
    (piece : List Char)
    (longer : ∀ {front text}, Denotes none front text →
      Denotes pending (piece ++ front) (c :: text))
    (behind : ∀ {text rest}, Json.content? none cs = some (text, rest) →
      ∃ front, cs = front ++ '"' :: rest ∧ Denotes none front text)
    (read : prepend c (Json.content? none cs) = some (text, rest)) :
    ∃ front, piece ++ cs = front ++ '"' :: rest ∧ Denotes pending front text := by
  obtain ⟨_, isRead, same⟩ := Option.map_eq_some_iff.mp read
  cases same
  obtain ⟨front, rfl, denotes⟩ := behind isRead
  exact ⟨piece ++ front, (List.append_assoc ..).symm, longer denotes⟩

theorem exists_denotes_of_content? {pending : Option Nat} {cs text rest : List Char}
    (read : content? pending cs = some (text, rest)) :
    ∃ front, cs = front ++ '"' :: rest ∧ Denotes pending front text := by
  fun_induction content? pending cs generalizing text rest with
  | case1 =>
    cases read
    exact ⟨[], rfl, .nil⟩
  | case3 a b c d _ n isUnit _ isLow ih =>
    exact exists_denotes_of_prepend ['\\', 'u', a, b, c, d] (.low isUnit isLow) ih read
  | case5 a b c d _ n isUnit isHigh ih =>
    obtain ⟨front, rfl, denotes⟩ := ih read
    exact ⟨'\\' :: 'u' :: a :: b :: c :: d :: front, rfl, .high isUnit isHigh denotes⟩
  | case7 a b c d _ n isUnit notHigh notLow ih =>
    have high : isHighUnit n = false := Bool.not_eq_true _ ▸ notHigh
    have low : isLowUnit n = false := Bool.not_eq_true _ ▸ notLow
    exact exists_denotes_of_prepend ['\\', 'u', a, b, c, d] (.unit isUnit high low) ih read
  | case8 c _ _ d short ih =>
    exact exists_denotes_of_prepend ['\\', c] (.short short) ih read
  | case11 c _ notQuote _ _ stands ih =>
    simp only [Bool.or_eq_true, decide_eq_true_eq, not_or] at stands
    exact exists_denotes_of_prepend [c] (.plain notQuote stands.1 stands.2) ih read
  -- in the other cases nothing is read
  | _ => cases read

/-- A content can be read if it denotes something, and then this is what is read. -/
theorem unescape?_eq_some_iff {cs text : List Char} :
    unescape? cs = some text ↔ Denotes none cs text := by
  rw [unescape?]
  constructor
  · intro read
    split at read
    · rename_i isRead
      cases read
      obtain ⟨front, same, denotes⟩ := exists_denotes_of_content? isRead
      rwa [List.append_cancel_right same]
    · cases read
  · intro denotes
    rw [denotes.content?, content?]
    simp

def escapesNext (before : List Char) : Bool :=
  before.foldl (fun escaped c => !escaped && c == '\\') false

/-- The escapes of the JSON grammar. -/
inductive IsEscape : List Char → Prop
  | short {c : Char} : c ∈ ['"', '\\', '/', 'b', 'f', 'n', 'r', 't'] → IsEscape ['\\', c]
  | unit {digits : List Char} : digits.length = 4 → (∀ c ∈ digits, (hexValue? c).isSome) →
    IsEscape ('\\' :: 'u' :: digits)

/-- That a text has no controls, no quote that is not escaped, and no backslash that is not escaped
but where an escape begins. -/
structure IsWellEscaped (cs : List Char) : Prop where
  controls : ∀ c ∈ cs, ¬c.toNat < 0x20
  quotes : ∀ before after, cs = before ++ '"' :: after → escapesNext before = true
  backslashes : ∀ before after, cs = before ++ '\\' :: after → escapesNext before = false →
    ∃ escape behind, IsEscape escape ∧ '\\' :: after = escape ++ behind

theorem isWellEscaped_nil : IsWellEscaped [] where
  controls := List.forall_mem_nil _
  quotes before after same := by simp at same
  backslashes before after same := by simp at same

theorem escapesNext_cons {c : Char} (backslash : c ≠ '\\') (before : List Char) :
    escapesNext (c :: before) = escapesNext before := by
  have stands : (c == '\\') = false := beq_eq_false_iff_ne.mpr backslash
  simp [escapesNext, stands]

theorem escapesNext_escaped (c : Char) (before : List Char) :
    escapesNext ('\\' :: c :: before) = escapesNext before := by
  simp [escapesNext]

theorem IsWellEscaped.plain {c : Char} {cs : List Char} (quote : c ≠ '"') (backslash : c ≠ '\\')
    (control : ¬c.toNat < 0x20) (h : IsWellEscaped cs) : IsWellEscaped (c :: cs) where
  controls := List.forall_mem_cons.mpr ⟨control, h.controls⟩
  quotes before after same := by
    rcases List.cons_eq_append_iff.mp same with ⟨-, here⟩ | ⟨before, rfl, rfl⟩
    · exact absurd (List.cons.inj here).1.symm quote
    · rw [escapesNext_cons backslash]
      exact h.quotes before after rfl
  backslashes before after same notEscaped := by
    rcases List.cons_eq_append_iff.mp same with ⟨-, here⟩ | ⟨before, rfl, rfl⟩
    · exact absurd (List.cons.inj here).1.symm backslash
    · rw [escapesNext_cons backslash] at notEscaped
      exact h.backslashes before after rfl notEscaped

theorem IsWellEscaped.escaped {c : Char} {cs : List Char} (control : ¬c.toNat < 0x20)
    (begins : ∃ escape behind, IsEscape escape ∧ '\\' :: c :: cs = escape ++ behind)
    (h : IsWellEscaped cs) : IsWellEscaped ('\\' :: c :: cs) where
  controls := List.forall_mem_cons.mpr ⟨by decide, List.forall_mem_cons.mpr ⟨control, h.controls⟩⟩
  quotes before after same := by
    rcases List.cons_eq_append_iff.mp same with ⟨-, here⟩ | ⟨before, rfl, others⟩
    · cases here
    rcases List.cons_eq_append_iff.mp others with ⟨rfl, -⟩ | ⟨before, rfl, rfl⟩
    · rfl
    · rw [escapesNext_escaped]
      exact h.quotes before after rfl
  backslashes before after same notEscaped := by
    rcases List.cons_eq_append_iff.mp same with ⟨-, here⟩ | ⟨before, rfl, others⟩
    · rwa [here]
    rcases List.cons_eq_append_iff.mp others with ⟨rfl, -⟩ | ⟨before, rfl, rfl⟩
    · cases notEscaped
    · rw [escapesNext_escaped] at notEscaped
      exact h.backslashes before after rfl notEscaped

theorem plain_of_hexValue? {c : Char} (isDigit : (hexValue? c).isSome) :
    c ≠ '"' ∧ c ≠ '\\' ∧ ¬c.toNat < 0x20 := by
  refine ⟨?_, ?_, fun control => ?_⟩
  · rintro rfl
    exact absurd isDigit (by decide)
  · rintro rfl
    exact absurd isDigit (by decide)
  · have above (d : Char) (h : 0x20 ≤ d.toNat) : ¬d ≤ c := by
      intro le
      have le : d.toNat ≤ c.toNat := le
      omega
    simp [hexValue?, above '0' (by decide), above 'a' (by decide), above 'A' (by decide)] at isDigit

theorem short_of_shortEscape? {c d : Char} (short : shortEscape? c = some d) :
    c ∈ ['"', '\\', '/', 'b', 'f', 'n', 'r', 't'] ∧ ¬c.toNat < 0x20 := by
  unfold shortEscape? at short
  split at short
  case h_9 => cases short
  all_goals exact ⟨by simp, by decide⟩

theorem IsWellEscaped.digits {digits cs : List Char}
    (areDigits : ∀ c ∈ digits, (hexValue? c).isSome) (h : IsWellEscaped cs) :
    IsWellEscaped (digits ++ cs) := by
  induction digits with
  | nil => exact h
  | cons c digits ih =>
    obtain ⟨first, others⟩ := List.forall_mem_cons.mp areDigits
    obtain ⟨quote, backslash, control⟩ := plain_of_hexValue? first
    exact .plain quote backslash control (ih others)

theorem IsWellEscaped.unit {digits cs : List Char} (four : digits.length = 4)
    (areDigits : ∀ c ∈ digits, (hexValue? c).isSome) (h : IsWellEscaped cs) :
    IsWellEscaped ('\\' :: 'u' :: (digits ++ cs)) :=
  .escaped (by decide) ⟨_, cs, .unit four areDigits, rfl⟩ (h.digits areDigits)

theorem digits_of_unit? {a b c d : Char} {n : Nat} (isUnit : unit? a b c d = some n) :
    ∀ x ∈ [a, b, c, d], (hexValue? x).isSome := by
  simp only [unit?, Option.bind_eq_bind, Option.bind_eq_some_iff] at isUnit
  obtain ⟨_, first, _, second, _, third, _, fourth, -⟩ := isUnit
  simp [first, second, third, fourth]

theorem Denotes.isWellEscaped {pending : Option Nat} {cs text : List Char}
    (h : Denotes pending cs text) : IsWellEscaped cs := by
  induction h with
  | nil => exact isWellEscaped_nil
  | plain quote backslash control _ ih => exact .plain quote backslash control ih
  | @short c d cs text isShort _ ih =>
    obtain ⟨mem, control⟩ := short_of_shortEscape? isShort
    exact .escaped control ⟨['\\', c], cs, .short mem, rfl⟩ ih
  | unit isUnit _ _ _ ih => exact .unit rfl (digits_of_unit? isUnit) ih
  | high isUnit _ _ ih => exact .unit rfl (digits_of_unit? isUnit) ih
  | low isUnit _ _ ih => exact .unit rfl (digits_of_unit? isUnit) ih

theorem denotes_escapeChars (text : List Char) : Denotes none (escapeChars text) text :=
  unescape?_eq_some_iff.mp (unescape?_escapeChars text)

theorem literal?_of_denotes {cs text : List Char} (h : Denotes none cs text) (rest : List Char) :
    literal? ('"' :: (cs ++ '"' :: rest)) = some (String.ofList text, rest) := by
  rw [literal?, h.content?, content?]
  simp

theorem parse?_of_denotes {cs text : List Char} (h : Denotes none cs text) :
    parse? (String.ofList ('"' :: (cs ++ ['"']))) = some (.string (String.ofList text)) := by
  have quote : isSpace '"' = false := by decide
  rw [parse?, String.toList_ofList, skipSpaces_of_neg quote]
  simp only [value?, literal?_of_denotes h]
  rfl

end CMakeGrammar.Json
