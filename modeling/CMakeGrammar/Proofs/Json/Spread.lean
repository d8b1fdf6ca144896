import CMakeGrammar.Proofs.Json.Spelling
/-! A layout of values: each item and each member has a line of its own, but texts stand in a row,
and so does an object whose only member is a text. Every value made of texts, arrays and objects is
spelled by it. -/
namespace CMakeGrammar.Json

/-- A piece of what is written: a character, or a text between quotes without them. -/
inductive Part
  | sign (c : Char)
  | content (s : String)

def Part.text : Part → List Char
  | sign c => [c]
  | content s => escapeChars s.toList

def written (parts : List Part) : List Char := parts.flatMap Part.text

def signs (cs : List Char) : List Part := cs.map .sign

def quoted (s : String) : List Part := [.sign '"', .content s, .sign '"']

def indent (depth : Nat) : List Part := signs (List.replicate (2 * depth) ' ')

mutual

def spread (depth : Nat) : Json → List Part
  | string s => quoted s
  | array (string s :: items) => .sign '[' :: quoted s ++ spreadRow depth items
  | array items =>
    signs ['[', '\n'] ++ spreadItems (depth + 1) items ++ indent depth ++ signs [']']
  | object [(key, string s)] =>
    signs ['{', ' '] ++ quoted key ++ signs [':', ' '] ++ quoted s ++ signs [' ', '}']
  | object members =>
    signs ['{', '\n'] ++ spreadMembers (depth + 1) members ++ indent depth ++ signs ['}']
  | v => signs (render depth v)

def spreadRow (depth : Nat) : List Json → List Part
  | [] => signs [']']
  | item :: items => signs [',', ' '] ++ spread depth item ++ spreadRow depth items

def spreadItems (depth : Nat) : List Json → List Part
  | [] => []
  | [item] => indent depth ++ spread depth item ++ signs ['\n']
  | item :: items =>
    indent depth ++ spread depth item ++ signs [',', '\n'] ++ spreadItems depth items

def spreadMembers (depth : Nat) : List (String × Json) → List Part
  | [] => []
  | [(key, value)] =>
    indent depth ++ quoted key ++ signs [':', ' '] ++ spread depth value ++ signs ['\n']
  | (key, value) :: members =>
    indent depth ++ quoted key ++ signs [':', ' '] ++ spread depth value ++ signs [',', '\n'] ++
      spreadMembers depth members

end

def leadItems (depth : Nat) (items : List Json) : List Part :=
  items.flatMap fun item => indent depth ++ spread depth item ++ signs [',', '\n']

def leadMembers (depth : Nat) (members : List (String × Json)) : List Part :=
  members.flatMap fun m =>
    indent depth ++ quoted m.1 ++ signs [':', ' '] ++ spread depth m.2 ++ signs [',', '\n']

mutual

/-- Whether a value is made of texts, arrays and objects only. -/
def isTextual : Json → Bool
  | string _ => true
  | array items => areTextual items
  | object members => haveTextual members
  | _ => false

def areTextual : List Json → Bool
  | [] => true
  | item :: items => isTextual item && areTextual items

def haveTextual : List (String × Json) → Bool
  | [] => true
  | (_, value) :: members => isTextual value && haveTextual members

end

theorem areTextual_eq_all (items : List Json) : areTextual items = items.all isTextual := by
  induction items with
  | nil => rfl
  | cons item items ih => rw [areTextual, ih, List.all_cons]

theorem haveTextual_eq_all (members : List (String × Json)) :
    haveTextual members = members.all fun m => isTextual m.2 := by
  induction members with
  | nil => rfl
  | cons m members ih => rw [haveTextual, ih, List.all_cons]

@[simp] theorem written_nil : written [] = [] := rfl

@[simp] theorem written_cons (p : Part) (ps : List Part) :
    written (p :: ps) = p.text ++ written ps :=
  rfl

@[simp] theorem written_append (ps qs : List Part) :
    written (ps ++ qs) = written ps ++ written qs := by
  simp [written]

@[simp] theorem written_signs (cs : List Char) : written (signs cs) = cs := by
  induction cs with
  | nil => rfl
  | cons c cs ih =>
    have tail : written (cs.map Part.sign) = cs := ih
    simp [signs, Part.text, tail]

@[simp] theorem written_quoted (s : String) : written (quoted s) = literal s := by
  simp [quoted, Part.text, literal]

theorem areSpaces_indent (depth : Nat) : AreSpaces (written (indent depth)) := by
  intro c hc
  rw [indent, written_signs] at hc
  rw [List.eq_of_mem_replicate hc]
  rfl

theorem AreSpaces.cons_newline {gap : List Char} (h : AreSpaces gap) : AreSpaces ('\n' :: gap) := by
  intro c hc
  rcases List.mem_cons.mp hc with rfl | hc
  · rfl
  · exact h c hc

theorem areSpaces_blank : AreSpaces [' '] := by
  simp [AreSpaces, isSpace]

theorem spread_array (depth : Nat) {items : List Json}
    (h : ∀ s others, items ≠ string s :: others) :
    spread depth (array items) =
      signs ['[', '\n'] ++ spreadItems (depth + 1) items ++ indent depth ++ signs [']'] := by
  rw [spread]
  intro s others
  exact h s others

/-- An object has a line for each member unless a text is its only one. -/
theorem spread_object (depth : Nat) {members : List (String × Json)}
    (h : ∀ key s, members ≠ [(key, string s)]) :
    spread depth (object members) =
      signs ['{', '\n'] ++ spreadMembers (depth + 1) members ++ indent depth ++ signs ['}'] := by
  rw [spread]
  intro key s
  exact h key s

theorem spreadItems_append (depth : Nat) (leading : List Json) {items : List Json}
    (h : items ≠ []) :
    spreadItems depth (leading ++ items) = leadItems depth leading ++ spreadItems depth items := by
  induction leading with
  | nil => rfl
  | cons item leading ih =>
    rw [List.cons_append, spreadItems, ih]
    · simp [leadItems]
    · simp [h]

theorem spreadMembers_append (depth : Nat) (leading : List (String × Json))
    {members : List (String × Json)} (h : members ≠ []) :
    spreadMembers depth (leading ++ members) =
      leadMembers depth leading ++ spreadMembers depth members := by
  induction leading with
  | nil => rfl
  | cons m leading ih =>
    rw [List.cons_append, spreadMembers, ih]
    · simp [leadMembers]
    · simp [h]

mutual

theorem spells_spread (depth : Nat) : (v : Json) → isTextual v = true →
    Spells v (written (spread depth v))
  | .string s, _ => by
    rw [spread, written_quoted]
    exact .string s
  | .array [], _ => by
    have gap := (areSpaces_indent depth).cons_newline
    simpa [spread_array, spreadItems] using Spells.noItem gap
  | .array (item :: items), h => by
    rw [isTextual] at h
    by_cases text : ∃ s, item = .string s
    · obtain ⟨s, rfl⟩ := text
      rw [areTextual, Bool.and_eq_true] at h
      have row := spells_row depth items h.2 areSpaces_nil (.string s)
      simpa [spread, Part.text] using Spells.array row
    · have notText : ∀ s others, item :: items ≠ .string s :: others := by
        rintro s others eq
        exact text ⟨s, (List.cons.inj eq).1⟩
      have lines := spells_lines (depth + 1) (item :: items) h (by simp) (areSpaces_indent depth)
      simpa [spread_array depth notText] using Spells.array lines
  | .object [], _ => by
    have gap := (areSpaces_indent depth).cons_newline
    simpa [spread_object, spreadMembers] using Spells.noMember gap
  | .object ((key, value) :: members), h => by
    rw [isTextual] at h
    by_cases alone : ∃ s, value = .string s ∧ members = []
    · obtain ⟨s, rfl, rfl⟩ := alone
      have only : SpellsMembers [(key, .string s)] _ :=
        .last areSpaces_blank areSpaces_blank (.string s) areSpaces_blank
      simpa [spread] using Spells.object only
    · have notAlone : ∀ k s, (key, value) :: members ≠ [(k, .string s)] := by
        rintro k s eq
        obtain ⟨first, rfl⟩ := List.cons.inj eq
        exact alone ⟨s, (Prod.mk.inj first).2, rfl⟩
      have lines := spells_memberLines (depth + 1) ((key, value) :: members) h (by simp)
        (areSpaces_indent depth)
      simpa [spread_object depth notAlone] using Spells.object lines

theorem spells_row (depth : Nat) : (items : List Json) → areTextual items = true →
    ∀ {item : Json} {before cs : List Char}, AreSpaces before → Spells item cs →
      SpellsItems (item :: items) (before ++ (cs ++ written (spreadRow depth items)))
  | [], _, item, before, cs, blank, spells => by
    simpa [spreadRow] using SpellsItems.last blank spells areSpaces_nil
  | next :: items, h, item, before, cs, blank, spells => by
    rw [areTextual, Bool.and_eq_true] at h
    have others := spells_row depth items h.2 areSpaces_blank (spells_spread depth next h.1)
    simpa [spreadRow, Part.text] using SpellsItems.more blank spells areSpaces_nil others

theorem spells_lines (depth : Nat) : (items : List Json) → areTextual items = true → items ≠ [] →
    ∀ {gap : List Char}, AreSpaces gap →
      SpellsItems items ('\n' :: (written (spreadItems depth items) ++ (gap ++ [']'])))
  | [item], h, _, gap, blank => by
    rw [areTextual, Bool.and_eq_true] at h
    have before := (areSpaces_indent depth).cons_newline
    have value := spells_spread depth item h.1
    simpa [spreadItems] using SpellsItems.last before value blank.cons_newline
  | item :: next :: items, h, _, gap, blank => by
    rw [areTextual, Bool.and_eq_true] at h
    have before := (areSpaces_indent depth).cons_newline
    have value := spells_spread depth item h.1
    have others := spells_lines depth (next :: items) h.2 (by simp) blank
    simpa [spreadItems] using SpellsItems.more before value areSpaces_nil others

theorem spells_memberLines (depth : Nat) : (members : List (String × Json)) →
    haveTextual members = true → members ≠ [] → ∀ {gap : List Char}, AreSpaces gap →
      SpellsMembers members ('\n' :: (written (spreadMembers depth members) ++ (gap ++ ['}'])))
  | [(key, value)], h, _, gap, blank => by
    rw [haveTextual, Bool.and_eq_true] at h
    have before := (areSpaces_indent depth).cons_newline
    have spelled := spells_spread depth value h.1
    have only : SpellsMembers [(key, value)] _ :=
      .last before areSpaces_blank spelled blank.cons_newline
    simpa [spreadMembers] using only
  | (key, value) :: next :: members, h, _, gap, blank => by
    rw [haveTextual, Bool.and_eq_true] at h
    have before := (areSpaces_indent depth).cons_newline
    have spelled := spells_spread depth value h.1
    have others := spells_memberLines depth (next :: members) h.2 (by simp) blank
    have all : SpellsMembers ((key, value) :: next :: members) _ :=
      .more before areSpaces_blank spelled areSpaces_nil others
    simpa [spreadMembers] using all

end

end CMakeGrammar.Json
