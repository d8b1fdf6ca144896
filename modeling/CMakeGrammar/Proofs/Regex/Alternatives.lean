import CMakeGrammar.Proofs.Regex.Expression
/-! An alternation of names as an expression. It is read back from its pattern, and of the names
that a text begins with it matches the one that comes first. -/
namespace CMakeGrammar.Regex

namespace Expression

def literal (cs : List Char) : Expression := cs.foldr (fun c e => .both (.character c) e) .nothing

def alternation : List (List Char) → Expression
  | [] => literal []
  | [name] => literal name
  | name :: others => .either (literal name) (alternation others)

theorem inOrder_reverse (cs : List Char) : inOrder (cs.map .character).reverse = literal cs := by
  rw [inOrder, List.foldl_reverse, literal, List.foldr_map]

theorem run_literal (cs : List Char) (p : Progress) :
    (literal cs).run p =
      if cs.isPrefixOf p.rest then [⟨p.groups, p.rest.drop cs.length⟩] else [] := by
  induction cs generalizing p with
  | nil => rfl
  | cons c cs ih =>
    have step : (literal (c :: cs)).run p =
        (if p.rest.head? = some c then [⟨p.groups, p.rest.tail⟩] else []).flatMap
          (literal cs).run := rfl
    rw [step]
    cases rest : p.rest with
    | nil => simp
    | cons d ds =>
      by_cases same : d = c
      · subst same
        simp [ih]
      · have other : ¬c = d := fun eq => same eq.symm
        simp [same, other]

theorem run_alternation {names : List (List Char)} (some : names ≠ []) (p : Progress) :
    (alternation names).run p =
      (names.filter (·.isPrefixOf p.rest)).map fun name =>
        ⟨p.groups, p.rest.drop name.length⟩ := by
  induction names with
  | nil => exact absurd rfl some
  | cons name others ih =>
    cases others with
    | nil =>
      rw [alternation, run_literal]
      by_cases h : name.isPrefixOf p.rest = true <;> simp [h]
    | cons other others =>
      have first : (alternation (name :: other :: others)).run p =
          (literal name).run p ++ (alternation (other :: others)).run p := rfl
      rw [first, run_literal, ih (by simp)]
      cases h : name.isPrefixOf p.rest with
      | true => simp [h]
      | false => simp [h]

theorem take_of_prefix {name text : List Char} (h : name.isPrefixOf text = true) :
    text.take (text.length - (text.length - name.length)) = name := by
  obtain ⟨rest, rfl⟩ := List.isPrefixOf_iff_prefix.mp h
  have size : (name ++ rest).length - ((name ++ rest).length - name.length) = name.length := by
    rw [List.length_append]
    omega
  rw [size, List.take_left]

theorem run_behind (before : List Char) (e : Expression) (groups : List (Nat × List Char))
    (text : List Char) :
    (before.foldr (fun c e => .both (.character c) e) e).run ⟨groups, before ++ text⟩ =
      e.run ⟨groups, text⟩ := by
  induction before with
  | nil => rfl
  | cons c before ih =>
    rw [List.foldr_cons, List.cons_append, run, run]
    simpa using ih

theorem captured?_alternation {names : List (List Char)} (some : names ≠ []) (before : List Char)
    (index : Nat) (text : List Char) :
    captured? (before.foldr (fun c e => .both (.character c) e)
      (.both (.maybe (.group index (alternation names))) .nothing)) index (before ++ text) =
        names.find? (·.isPrefixOf text) := by
  rw [captured?, run_behind, run, run, run, run_alternation some, ← List.head?_filter]
  cases found : names.filter (·.isPrefixOf text) with
  | nil => simp [run]
  | cons name others =>
    have begins : name.isPrefixOf text = true := by
      have mem : name ∈ names.filter (·.isPrefixOf text) := by rw [found]; simp
      exact (List.mem_filter.mp mem).2
    simp [run, take_of_prefix begins]

end Expression

theorem not_sign {c : Char} (h : Alternation.metaChars.contains c = false) :
    c ≠ '\\' ∧ c ≠ '(' ∧ c ≠ ')' ∧ c ≠ '|' ∧ c ≠ '?' := by
  refine ⟨?_, ?_, ?_, ?_, ?_⟩ <;>
  · rintro rfl
    revert h
    decide

theorem readFrom_escapeChars (count : Nat) (inner : OpenGroup) (outer : List OpenGroup)
    (name rest : List Char) :
    readFrom count inner outer (Alternation.escapeChars name ++ rest) =
      readFrom count { inner with parts := (name.map .character).reverse ++ inner.parts } outer
        rest := by
  induction name generalizing inner with
  | nil => rfl
  | cons c name ih =>
    have one (rest : List Char) : readFrom count inner outer (Alternation.escapeChar c ++ rest) =
        readFrom count (inner.push (.character c)) outer rest := by
      rw [Alternation.escapeChar]
      cases sign : Alternation.metaChars.contains c with
      | true =>
        simp only [if_true, List.cons_append, List.nil_append]
        rw [readFrom, sign]
        rfl
      | false =>
        obtain ⟨backslash, opening, closing, bar, mark⟩ := not_sign sign
        simp only [Bool.false_eq_true, if_false, List.cons_append, List.nil_append]
        rw [readFrom]
        · rw [sign]
          rfl
        all_goals simp_all
    rw [Alternation.escapeChars_cons, List.append_assoc, one, ih]
    simp [OpenGroup.push]

/-- A group of escaped names with bars between them is read as their alternation. -/
theorem readFrom_names {names : List String} (some : names ≠ []) (count index : Nat)
    (earlier : List Expression) (g : OpenGroup) (outer : List OpenGroup) (rest : List Char) :
    readFrom count ⟨index, earlier, []⟩ (g :: outer)
      ((Alternation.join names).toList ++ ')' :: rest) =
        readFrom count
          (g.push (.group index (.branches (.alternation (names.map String.toList)) earlier)))
          outer rest := by
  induction names generalizing earlier with
  | nil => exact absurd rfl some
  | cons name others ih =>
    cases others with
    | nil =>
      rw [Alternation.toList_join_singleton, readFrom_escapeChars, readFrom, List.append_nil,
        OpenGroup.expression, Expression.inOrder_reverse]
      rfl
    | cons other others =>
      rw [Alternation.toList_join_cons_cons, List.append_assoc, List.cons_append,
        readFrom_escapeChars, readFrom, List.append_nil, ih (List.cons_ne_nil _ _),
        Expression.inOrder_reverse]
      rfl

end CMakeGrammar.Regex
