import CMakeGrammar.Proofs.Json.Spread
/-! The indented layout of values. Every value made of texts, arrays and objects is spelled by it,
and so it is read back from what is printed. -/
namespace CMakeGrammar.Json

theorem areSpaces_newline (depth : Nat) : AreSpaces (newline depth) := by
  have blanks := (areSpaces_indent depth).cons_newline
  rwa [indent, written_signs] at blanks

mutual

theorem spells_render (depth : Nat) : (v : Json) → isTextual v = true → Spells v (render depth v)
  | .string s, _ => by
    rw [render]
    exact .string s
  | .array [], _ => by
    rw [render]
    exact .noItem areSpaces_nil
  | .array (item :: items), h => by
    rw [isTextual, areTextual, Bool.and_eq_true] at h
    have first := spells_render (depth + 1) item h.1
    have items := spells_renderItems (depth + 1) items h.2 (areSpaces_newline (depth + 1)) first
      (areSpaces_newline depth)
    simpa [render] using Spells.array items
  | .object [], _ => by
    rw [render]
    exact .noMember areSpaces_nil
  | .object ((key, value) :: members), h => by
    rw [isTextual, haveTextual, Bool.and_eq_true] at h
    have first := spells_render (depth + 1) value h.1
    have members := spells_renderMembers (depth + 1) members h.2 key
      (areSpaces_newline (depth + 1)) first (areSpaces_newline depth)
    simpa [render] using Spells.object members

theorem spells_renderItems (depth : Nat) : (items : List Json) → areTextual items = true →
    ∀ {item : Json} {before cs after : List Char}, AreSpaces before → Spells item cs →
      AreSpaces after → SpellsItems (item :: items)
        (before ++ (cs ++ (renderItems depth items ++ (after ++ [']']))))
  | [], _, _, _, _, _, blank, spells, last => by
    rw [renderItems]
    exact .last blank spells last
  | next :: items, h, _, _, _, _, blank, spells, last => by
    rw [areTextual, Bool.and_eq_true] at h
    have value := spells_render depth next h.1
    have others := spells_renderItems depth items h.2 (areSpaces_newline depth) value last
    simpa [renderItems] using SpellsItems.more blank spells areSpaces_nil others

theorem spells_renderMembers (depth : Nat) : (members : List (String × Json)) →
    haveTextual members = true → ∀ (key : String) {value : Json} {before cs after : List Char},
      AreSpaces before → Spells value cs → AreSpaces after → SpellsMembers ((key, value) :: members)
        (before ++ (literal key ++ ':' ::
          ([' '] ++ (cs ++ (renderMembers depth members ++ (after ++ ['}']))))))
  | [], _, _, _, _, _, _, blank, spells, last => by
    rw [renderMembers]
    exact .last blank areSpaces_blank spells last
  | (key, value) :: members, h, _, _, _, _, _, blank, spells, last => by
    rw [haveTextual, Bool.and_eq_true] at h
    have first := spells_render depth value h.1
    have others := spells_renderMembers depth members h.2 key (areSpaces_newline depth) first last
    simpa [renderMembers] using
      SpellsMembers.more blank areSpaces_blank spells areSpaces_nil others

end

/-- What is printed of a value made of texts, arrays and objects is read as that value. -/
theorem parse?_pretty {v : Json} (h : isTextual v = true) : parse? v.pretty = some v := by
  have read := parse?_of_spells areSpaces_nil (spells_render 0 v h) areSpaces_nil
  simpa [pretty] using read

end CMakeGrammar.Json
