import CMakeGrammar.Proofs.Text.Collapsing
import CMakeGrammar.Proofs.Text.Places
/-! Texts up to the spacing around their parentheses. What is left of a text when it is collapsed
and has no spaces next to parentheses can be taken part by part (`tight_append_paren`): the parts
between the parentheses are collapsed, each for itself. -/
namespace CMakeGrammar.Text

def isParen (c : Char) : Bool := c == '(' || c == ')'

/-- Leaves out the spaces next to parentheses. `before` is the character in front of the text. -/
def tightenFrom (before : Option Char) : List Char → List Char
  | [] => []
  | c :: cs =>
    if c == ' ' && (before.any isParen || cs.head?.any isParen) then tightenFrom (some c) cs
    else c :: tightenFrom (some c) cs

/-- A text as its words and parentheses are spaced at the least. -/
def tight (cs : List Char) : List Char := tightenFrom none (collapseChars cs)

def IsPlain (cs : List Char) : Prop := ∀ c ∈ cs, isParen c = false

section
variable {before other : Option Char} {c : Char} {cs : List Char}

theorem ne_space (h : isBlank c = false) : c ≠ ' ' := by
  rintro rfl
  cases h

theorem eq_of_isParen (paren : isParen c = true) : c = '(' ∨ c = ')' := by
  rwa [isParen, Bool.or_eq_true, beq_iff_eq, beq_iff_eq] at paren

theorem isBlank_of_isParen (paren : isParen c = true) : isBlank c = false := by
  rcases eq_of_isParen paren with rfl | rfl <;> decide

theorem isWordChar_of_isParen (paren : isParen c = true) : isWordChar c = false := by
  rcases eq_of_isParen paren with rfl | rfl <;> decide

theorem tightenFrom_cons (before : Option Char) (ne : c ≠ ' ') (cs : List Char) :
    tightenFrom before (c :: cs) = c :: tightenFrom (some c) cs := by
  rw [tightenFrom, beq_eq_false_iff_ne.mpr ne, Bool.false_and, if_neg (by simp)]

theorem tightenFrom_congr (same : before.any isParen = other.any isParen) (cs : List Char) :
    tightenFrom before cs = tightenFrom other cs := by
  cases cs with
  | nil => rfl
  | cons c cs => rw [tightenFrom, tightenFrom, same]

theorem tightenFrom_of_first (before other : Option Char)
    (first : ∀ c ∈ cs.head?, isBlank c = false) : tightenFrom before cs = tightenFrom other cs := by
  cases cs with
  | nil => rfl
  | cons c cs =>
    have ne := ne_space (first c rfl)
    rw [tightenFrom_cons before ne, tightenFrom_cons other ne]

theorem tightenFrom_space (before : Option Char) (cs : List Char) :
    tightenFrom before (' ' :: cs) =
      if before.any isParen || cs.head?.any isParen then tightenFrom none cs
      else ' ' :: tightenFrom none cs := by
  have same : tightenFrom (some ' ') cs = tightenFrom none cs := tightenFrom_congr (by decide) cs
  rw [tightenFrom, same, beq_self_eq_true, Bool.true_and]

theorem mem_tightenFrom (ne : c ≠ ' ') : c ∈ tightenFrom before cs ↔ c ∈ cs := by
  induction cs generalizing before with
  | nil => rfl
  | cons d cs ih =>
    rw [tightenFrom]
    split
    · rename_i dropped
      have isSpace : d = ' ' := by simp at dropped; exact dropped.1
      rw [ih, List.mem_cons, isSpace]
      simp [ne]
    · rw [List.mem_cons, ih, List.mem_cons]

theorem mem_tight (h : isBlank c = false) : c ∈ tight cs ↔ c ∈ cs :=
  (mem_tightenFrom (ne_space h)).trans (mem_collapseChars h)

theorem tightenFrom_of_isPlain (free : before.any isParen = false) (plain : IsPlain cs) :
    tightenFrom before cs = cs := by
  induction cs generalizing before with
  | nil => rfl
  | cons c cs ih =>
    obtain ⟨first, rest⟩ := List.forall_mem_cons.mp plain
    have next : cs.head?.any isParen = false := by
      cases cs with
      | nil => rfl
      | cons d cs => exact rest d List.mem_cons_self
    have kept : tightenFrom (some c) cs = cs := ih first rest
    rw [tightenFrom, free, next, Bool.or_false, Bool.and_false, if_neg (by simp), kept]

theorem IsPlain.collapseChars (plain : IsPlain cs) : IsPlain (collapseChars cs) := by
  intro c mem
  cases paren : isParen c with
  | false => rfl
  | true =>
    rw [mem_collapseChars (isBlank_of_isParen paren)] at mem
    rw [plain c mem] at paren
    cases paren

theorem tight_of_isPlain (plain : IsPlain cs) : tight cs = collapseChars cs :=
  tightenFrom_of_isPlain rfl plain.collapseChars

end

section
variable {paren : Char} (isParen : isParen paren = true)
include isParen

theorem tightenFrom_collapseBehind (cs : List Char) :
    tightenFrom (some paren) (collapseBehind cs) = tight cs := by
  cases cs with
  | nil => rfl
  | cons c cs =>
    cases blank : isBlank c with
    | false =>
      rw [collapseBehind_cons cs blank, ← collapseChars_cons cs blank]
      exact tightenFrom_of_first _ _ first_collapseChars
    | true =>
      rw [collapseBehind_cons_of_blank cs blank, tight, collapseChars_cons_of_blank cs blank]
      split
      · rename_i none
        rw [none]
        rfl
      · rw [tightenFrom_space, Option.any_some, isParen, Bool.true_or, if_pos rfl]

theorem tightenFrom_paren (before : Option Char) (cs : List Char) :
    tightenFrom before (paren :: collapseBehind cs) = paren :: tight cs := by
  rw [tightenFrom_cons before (ne_space (isBlank_of_isParen isParen)),
    tightenFrom_collapseBehind isParen]

theorem tight_append_paren (front cs : List Char) :
    tight (front ++ paren :: cs) = tight front ++ paren :: tight cs := by
  have notBlank := isBlank_of_isParen isParen
  refine (collapse_induction
    (fun front => tight (front ++ paren :: cs) = tight front ++ paren :: tight cs)
    (fun front => ∀ c, isBlank c = false →
      tightenFrom (some c) (collapseBehind (front ++ paren :: cs)) =
        tightenFrom (some c) (collapseBehind front) ++ paren :: tight cs) ?_ ?_ ?_ ?_ ?_ ?_ front).1
  · rw [List.nil_append, tight, collapseChars_cons cs notBlank, tightenFrom_paren isParen]
    rfl
  · intro c front h same
    rw [List.cons_append, tight, tight, collapseChars_cons _ h, collapseChars_cons _ h,
      tightenFrom_cons none (ne_space h), tightenFrom_cons none (ne_space h), same c h,
      List.cons_append]
  · intro c front blank same
    rwa [List.cons_append, tight, tight, collapseChars_cons_of_blank _ blank,
      collapseChars_cons_of_blank _ blank]
  · intro c h
    rw [List.nil_append, collapseBehind_cons cs notBlank, tightenFrom_paren isParen]
    rfl
  · intro c front h same d _
    rw [List.cons_append, collapseBehind_cons _ h, collapseBehind_cons _ h,
      tightenFrom_cons _ (ne_space h), tightenFrom_cons _ (ne_space h), same c h, List.cons_append]
  · intro c front blank same d _
    -- a space is written for the blanks, and left out at both ends or at neither
    have first : (collapseChars (front ++ paren :: cs)).head? =
        (collapseChars front).head?.or (some paren) := by
      rw [head?_collapseChars_append, collapseChars_cons cs notBlank, List.head?_cons]
    have more : collapseChars (front ++ paren :: cs) ≠ [] := by
      intro none
      rw [none] at first
      cases isFirst : (collapseChars front).head? <;> simp [isFirst] at first
    rw [List.cons_append, collapseBehind_cons_of_blank _ blank, if_neg more,
      tightenFrom_space, first, collapseBehind_cons_of_blank _ blank, ← tight, same]
    cases written : collapseChars front with
    | nil =>
      have isNext : (some paren).any Text.isParen = true := isParen
      rw [List.head?_nil, Option.none_or, isNext, Bool.or_true, if_pos rfl, if_pos rfl, tight,
        written]
      rfl
    | cons e others =>
      rw [if_neg (List.cons_ne_nil e others), tightenFrom_space, List.head?_cons, Option.some_or,
        ← written, ← tight]
      split <;> rfl

end

theorem isPlain_or_exists_paren (cs : List Char) :
    IsPlain cs ∨ ∃ part paren rest, cs = part ++ paren :: rest ∧ IsPlain part ∧
      isParen paren = true := by
  induction cs with
  | nil => exact .inl (List.forall_mem_nil _)
  | cons c cs ih =>
    cases paren : isParen c with
    | true => exact .inr ⟨[], c, cs, rfl, List.forall_mem_nil _, paren⟩
    | false =>
      rcases ih with plain | ⟨part, q, rest, rfl, plain, isParen⟩
      · exact .inl (List.forall_mem_cons.mpr ⟨paren, plain⟩)
      · exact .inr ⟨c :: part, q, rest, rfl, List.forall_mem_cons.mpr ⟨paren, plain⟩, isParen⟩

theorem eq_of_append_paren {part part' rest rest' : List Char} {q q' : Char} (plain : IsPlain part)
    (plain' : IsPlain part') (paren : isParen q = true) (paren' : isParen q' = true)
    (same : part ++ q :: rest = part' ++ q' :: rest') : part = part' ∧ q = q' ∧ rest = rest' := by
  have upTo {front : List Char} {c : Char} (isPlain : IsPlain front) (isParen : isParen c = true)
      (after : List Char) : (front ++ c :: after).takeWhile (!Text.isParen ·) = front :=
    takeWhile_append_cons (fun d mem => by rw [isPlain d mem]; rfl) (by rw [isParen]; rfl) after
  have isPart : part = part' := by
    rw [← upTo plain paren rest, same, upTo plain' paren']
  rw [isPart] at same
  exact ⟨isPart, List.cons.injEq .. ▸ List.append_cancel_left same⟩

theorem mem_of_tight_eq {cs other : List Char} (same : tight cs = tight other) {c : Char}
    (h : isBlank c = false) : c ∈ cs ↔ c ∈ other := by
  rw [← mem_tight h, same, mem_tight h]

/-- A text that is tightened to the same as another has the same first parenthesis. -/
theorem exists_of_tight_eq {part rest other : List Char} {q : Char} (plain : IsPlain part)
    (paren : isParen q = true) (same : tight (part ++ q :: rest) = tight other) :
    ∃ part' rest', other = part' ++ q :: rest' ∧ IsPlain part' ∧
      collapseChars part = collapseChars part' ∧ tight rest = tight rest' := by
  rcases isPlain_or_exists_paren other with plain' | ⟨part', q', rest', rfl, plain', paren'⟩
  · have inOther := (mem_of_tight_eq same (isBlank_of_isParen paren)).mp
      (List.mem_append_right part List.mem_cons_self)
    rw [plain' q inOther] at paren
    cases paren
  · rw [tight_append_paren paren, tight_append_paren paren', tight_of_isPlain plain,
      tight_of_isPlain plain'] at same
    obtain ⟨samePart, rfl, sameRest⟩ := eq_of_append_paren plain.collapseChars
      plain'.collapseChars paren paren' same
    exact ⟨part', rest', rfl, plain', samePart, sameRest⟩

theorem runs_tight {p : Char → Bool} (noBlank : ∀ c, isBlank c = true → p c = false)
    (noParen : ∀ c, isParen c = true → p c = false) (cs : List Char) :
    runs p (tight cs) = runs p cs := by
  rcases isPlain_or_exists_paren cs with plain | ⟨part, paren, rest, rfl, plain, isParen⟩
  · rw [tight_of_isPlain plain, runs_collapseChars noBlank]
  · have stops := noParen paren isParen
    have ih := runs_tight noBlank noParen rest
    rw [tight_append_paren isParen, runs_append_cons_of_neg stops,
      runs_append_cons_of_neg stops, ih, tight_of_isPlain plain, runs_collapseChars noBlank]
termination_by cs.length

theorem tight_collapseChars (cs : List Char) : tight (collapseChars cs) = tight cs := by
  rw [tight, collapseChars_collapseChars, tight]

end CMakeGrammar.Text
