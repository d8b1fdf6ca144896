import CMakeGrammar.Proofs.Json.Literal
/-! Spellings of values made of texts, arrays and objects, with blanks between their parts. The
reader finds the value in every one of them (`parse?_of_spells`), so that what is left to show of a
printer is that it spells. -/
namespace CMakeGrammar.Json

def AreSpaces (cs : List Char) : Prop := ∀ c ∈ cs, isSpace c = true

mutual

/-- A text is a spelling of a value. -/
inductive Spells : Json → List Char → Prop
  | string (s : String) : Spells (.string s) (literal s)
  | noItem {gap : List Char} : AreSpaces gap → Spells (.array []) ('[' :: gap ++ [']'])
  | array {items : List Json} {cs : List Char} :
      SpellsItems items cs → Spells (.array items) ('[' :: cs)
  | noMember {gap : List Char} : AreSpaces gap → Spells (.object []) ('{' :: gap ++ ['}'])
  | object {members : List (String × Json)} {cs : List Char} :
      SpellsMembers members cs → Spells (.object members) ('{' :: cs)

inductive SpellsItems : List Json → List Char → Prop
  | last {item : Json} {before cs after : List Char} :
      AreSpaces before → Spells item cs → AreSpaces after →
        SpellsItems [item] (before ++ (cs ++ (after ++ [']'])))
  | more {item : Json} {items : List Json} {before cs after rest : List Char} :
      AreSpaces before → Spells item cs → AreSpaces after → SpellsItems items rest →
        SpellsItems (item :: items) (before ++ (cs ++ (after ++ ',' :: rest)))

inductive SpellsMembers : List (String × Json) → List Char → Prop
  | last {key : String} {value : Json} {before gap cs after : List Char} :
      AreSpaces before → AreSpaces gap → Spells value cs → AreSpaces after →
        SpellsMembers [(key, value)]
          (before ++ (literal key ++ ':' :: (gap ++ (cs ++ (after ++ ['}'])))))
  | more {key : String} {value : Json} {members : List (String × Json)}
      {before gap cs after rest : List Char} :
      AreSpaces before → AreSpaces gap → Spells value cs → AreSpaces after →
        SpellsMembers members rest →
        SpellsMembers ((key, value) :: members)
          (before ++ (literal key ++ ':' :: (gap ++ (cs ++ (after ++ ',' :: rest)))))

end

theorem areSpaces_nil : AreSpaces [] := by simp [AreSpaces]

theorem skipSpaces_append {gap : List Char} (h : AreSpaces gap) (cs : List Char) :
    skipSpaces (gap ++ cs) = skipSpaces cs := by
  induction gap with
  | nil => rfl
  | cons c gap ih =>
    have blank : isSpace c = true := h c (by simp)
    have rest : AreSpaces gap := fun c hc => h c (by simp [hc])
    simpa [skipSpaces, List.dropWhile_cons, blank] using ih rest

theorem skipSpaces_of_neg {c : Char} (h : isSpace c = false) (cs : List Char) :
    skipSpaces (c :: cs) = c :: cs := by
  simp [skipSpaces, h]

theorem Spells.head {v : Json} {cs : List Char} (h : Spells v cs) :
    ∃ c rest, cs = c :: rest ∧ (c = '"' ∨ c = '[' ∨ c = '{') := by
  cases h with
  | string s => exact ⟨'"', _, rfl, by simp⟩
  | noItem _ => exact ⟨'[', _, rfl, by simp⟩
  | array _ => exact ⟨'[', _, rfl, by simp⟩
  | noMember _ => exact ⟨'{', _, rfl, by simp⟩
  | object _ => exact ⟨'{', _, rfl, by simp⟩

theorem Spells.skipSpaces_append {v : Json} {cs : List Char} (h : Spells v cs) (rest : List Char) :
    skipSpaces (cs ++ rest) = cs ++ rest := by
  obtain ⟨c, others, rfl, hc⟩ := h.head
  refine skipSpaces_of_neg ?_ _
  rcases hc with rfl | rfl | rfl <;> rfl

theorem Spells.length_pos {v : Json} {cs : List Char} (h : Spells v cs) : 0 < cs.length := by
  obtain ⟨c, rest, rfl, -⟩ := h.head
  simp

theorem SpellsItems.head {items : List Json} {cs : List Char} (h : SpellsItems items cs)
    (rest : List Char) : ∃ c others, skipSpaces (cs ++ rest) = c :: others ∧ c ≠ ']' := by
  have item {before cs : List Char} {v : Json} (blank : AreSpaces before) (h : Spells v cs)
      (rest : List Char) :
      ∃ c others, skipSpaces (before ++ (cs ++ rest)) = c :: others ∧ c ≠ ']' := by
    rw [skipSpaces_append blank, h.skipSpaces_append]
    obtain ⟨c, others, rfl, hc⟩ := h.head
    refine ⟨c, others ++ rest, rfl, ?_⟩
    rcases hc with rfl | rfl | rfl <;> decide
  cases h with
  | last blank h _ => simpa using item blank h _
  | more blank h _ _ => simpa using item blank h _

theorem skipSpaces_literal (key : String) (rest : List Char) :
    skipSpaces (literal key ++ rest) = literal key ++ rest :=
  (Spells.string key).skipSpaces_append rest

theorem SpellsMembers.head {members : List (String × Json)} {cs : List Char}
    (h : SpellsMembers members cs) (rest : List Char) :
    ∃ others, skipSpaces (cs ++ rest) = '"' :: others := by
  cases h with
  | last blank _ _ _ =>
    simp only [List.append_assoc, skipSpaces_append blank, skipSpaces_literal]
    exact ⟨_, rfl⟩
  | more blank _ _ _ _ =>
    simp only [List.append_assoc, skipSpaces_append blank, skipSpaces_literal]
    exact ⟨_, rfl⟩

theorem value?_array {fuel : Nat} {cs : List Char} {c : Char} {others : List Char}
    (first : skipSpaces cs = c :: others) (isItem : c ≠ ']') :
    Json.value? (fuel + 1) ('[' :: cs) =
      (Json.items? fuel (skipSpaces cs)).map fun r => (array r.1, r.2) := by
  rw [Json.value?, first]
  split
  · rename_i eq
    cases eq
    exact absurd rfl isItem
  · rfl

theorem value?_object {fuel : Nat} {cs : List Char} {others : List Char}
    (first : skipSpaces cs = '"' :: others) :
    Json.value? (fuel + 1) ('{' :: cs) =
      (Json.members? fuel (skipSpaces cs)).map fun r => (object r.1, r.2) := by
  rw [Json.value?, first]
  rfl

mutual

/-- With two steps for each character the reader finds a value where it is spelled, and leaves what
follows. -/
theorem Spells.value? {v : Json} {cs : List Char} (h : Spells v cs) {fuel : Nat}
    (enough : 2 * cs.length ≤ fuel) (rest : List Char) :
    Json.value? fuel (cs ++ rest) = some (v, rest) := by
  have positive := h.length_pos
  obtain ⟨fuel, rfl⟩ : ∃ n, fuel = n + 1 := ⟨fuel - 1, by omega⟩
  cases h with
  | string s => simpa [literal, Json.value?] using literal?_literal s rest
  | noItem blank =>
    simp [Json.value?, skipSpaces_append blank, skipSpaces_of_neg (c := ']') rfl]
  | array items =>
    obtain ⟨c, others, first, isItem⟩ := items.head rest
    rw [List.cons_append, value?_array first isItem,
      items.items? (by simp at enough; omega) rest]
    rfl
  | noMember blank =>
    simp [Json.value?, skipSpaces_append blank, skipSpaces_of_neg (c := '}') rfl]
  | object members =>
    obtain ⟨others, first⟩ := members.head rest
    rw [List.cons_append, value?_object first,
      members.members? (by simp at enough; omega) rest]
    rfl

theorem SpellsItems.items? {items : List Json} {cs : List Char} (h : SpellsItems items cs)
    {fuel : Nat} (enough : 2 * cs.length < fuel) (rest : List Char) :
    Json.items? fuel (skipSpaces (cs ++ rest)) = some (items, rest) := by
  obtain ⟨fuel, rfl⟩ : ∃ n, fuel = n + 1 := ⟨fuel - 1, by omega⟩
  cases h with
  | @last item _ cs _ before value after =>
    simp only [List.length_append] at enough
    have read := value.value? (show 2 * cs.length ≤ fuel by omega)
    simp [Json.items?, skipSpaces_append before, value.skipSpaces_append, read,
      skipSpaces_append after, skipSpaces_of_neg (c := ']') rfl]
  | @more item items _ cs _ others before value after areItems =>
    simp only [List.length_append, List.length_cons] at enough
    have read := value.value? (show 2 * cs.length ≤ fuel by omega)
    have readOthers := areItems.items? (show 2 * others.length < fuel by omega) rest
    simp [Json.items?, skipSpaces_append before, value.skipSpaces_append, read,
      skipSpaces_append after, skipSpaces_of_neg (c := ',') rfl, readOthers]

theorem SpellsMembers.members? {members : List (String × Json)} {cs : List Char}
    (h : SpellsMembers members cs) {fuel : Nat} (enough : 2 * cs.length < fuel)
    (rest : List Char) :
    Json.members? fuel (skipSpaces (cs ++ rest)) = some (members, rest) := by
  obtain ⟨fuel, rfl⟩ : ∃ n, fuel = n + 1 := ⟨fuel - 1, by omega⟩
  cases h with
  | @last key _ _ _ cs _ before gap value after =>
    simp only [List.length_append, List.length_cons] at enough
    have read := value.value? (show 2 * cs.length ≤ fuel by omega)
    simp [Json.members?, skipSpaces_append before, skipSpaces_literal, literal?_literal,
      skipSpaces_of_neg (c := ':') rfl, skipSpaces_append gap, value.skipSpaces_append, read,
      skipSpaces_append after, skipSpaces_of_neg (c := '}') rfl]
  | @more key _ members _ _ cs _ others before gap value after areMembers =>
    simp only [List.length_append, List.length_cons] at enough
    have read := value.value? (show 2 * cs.length ≤ fuel by omega)
    have readOthers := areMembers.members? (show 2 * others.length < fuel by omega) rest
    simp [Json.members?, skipSpaces_append before, skipSpaces_literal, literal?_literal,
      skipSpaces_of_neg (c := ':') rfl, skipSpaces_append gap, value.skipSpaces_append, read,
      skipSpaces_append after, skipSpaces_of_neg (c := ',') rfl, readOthers]

end

theorem parse?_of_spells {v : Json} {before cs after : List Char} (leading : AreSpaces before)
    (h : Spells v cs) (trailing : AreSpaces after) :
    parse? (String.ofList (before ++ (cs ++ after))) = some v := by
  have left : skipSpaces after = [] := by
    simpa [skipSpaces] using skipSpaces_append trailing []
  simp only [parse?, String.toList_ofList, skipSpaces_append leading, h.skipSpaces_append]
  rw [h.value? (by simp only [List.length_append]; omega)]
  simp [left]

end CMakeGrammar.Json
