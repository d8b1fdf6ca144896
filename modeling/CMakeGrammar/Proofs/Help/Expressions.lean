import CMakeGrammar.Proofs.Help.Keywords
import CMakeGrammar.Proofs.Regex.Captures
import CMakeGrammar.Proofs.Text.Wrapping
/-! Generator expressions by where they stand in a text. No blank belongs to their beginnings, so
those of a help text are those of the collapsed help; and none begins inside of another one's
beginning, so a search that goes on behind each of them misses none. -/
namespace CMakeGrammar.Help
open Regex (Expression)
open Text (isBlank collapseChars)

def expressionStart (name : List Char) : List Char := ['$', '<'] ++ (name ++ [':'])

def keywordClass : Regex.CharClass where
  has := isKeywordChar
  chars := keywordChars
  ne_nil := by decide
  mem_iff _ := mem_keywordChars.trans isKeywordChar_iff.symm

/-- `\$<([A-Z_]+):` for all texts that have no more characters than `n`. -/
def expressionPattern (n : Nat) : Expression :=
  .both (.literal ['$', '<']) (.both (.group 1 (keywordClass.many n)) (.literal [':']))

theorem isExpressionName_iff {name : List Char} :
    IsExpressionName name ↔ name ≠ [] ∧ ∀ c ∈ name, isKeywordChar c = true := by
  simp only [IsExpressionName, isKeywordChar_iff]

theorem generatorExpressionAt?_eq_some_iff {cs name : List Char} :
    generatorExpressionAt? cs = some name ↔ IsExpressionName name ∧
    expressionStart name <+: cs := by
  constructor
  · intro found
    refine ⟨isExpressionName_of_generatorExpressionAt? found, ?_⟩
    unfold generatorExpressionAt? at found
    split at found
    · rename_i rest
      dsimp only at found
      split at found
      · rename_i closes
        cases found
        rw [Bool.and_eq_true, beq_iff_eq] at closes
        obtain ⟨behind, isBehind⟩ := List.head?_eq_some_iff.mp closes.2
        have whole := List.prefix_iff_eq_append.mp (List.takeWhile_prefix (l := rest) isKeywordChar)
        rw [isBehind] at whole
        exact ⟨behind, by simpa [expressionStart] using whole⟩
      · cases found
    · cases found
  · rintro ⟨isName, behind, rfl⟩
    obtain ⟨some, all⟩ := isExpressionName_iff.mp isName
    have upTo : (name ++ ':' :: behind).takeWhile isKeywordChar = name :=
      Text.takeWhile_append_cons all (by decide) behind
    have whole : expressionStart name ++ behind = '$' :: '<' :: (name ++ ':' :: behind) := by
      simp [expressionStart]
    rw [whole, generatorExpressionAt?, upTo]
    simp [some]

theorem mem_generatorExpressionsOf {text name : List Char} :
    name ∈ generatorExpressionsOf text ↔ IsExpressionName name ∧
    expressionStart name <:+: text := by
  rw [generatorExpressionsOf, Text.mem_everywhere]
  constructor
  · rintro ⟨before, after, rfl, -, found⟩
    obtain ⟨isName, here⟩ := generatorExpressionAt?_eq_some_iff.mp found
    exact ⟨isName, here.isInfix.trans (List.suffix_append before after).isInfix⟩
  · rintro ⟨isName, before, behind, rfl⟩
    refine ⟨before, expressionStart name ++ behind, List.append_assoc .., List.cons_ne_nil _ _, ?_⟩
    exact generatorExpressionAt?_eq_some_iff.mpr ⟨isName, List.prefix_append _ behind⟩

theorem isBlank_of_isKeywordChar {c : Char} (h : isKeywordChar c = true) : isBlank c = false := by
  have all : ∀ c ∈ keywordChars, isBlank c = false := Text.solid_of_all (by decide)
  exact all c (mem_keywordChars.mpr (isKeywordChar_iff.mp h))

theorem isBlank_expressionStart {name : List Char} (isName : IsExpressionName name) :
    ∀ c ∈ expressionStart name, isBlank c = false := by
  have all := (isExpressionName_iff.mp isName).2
  simp only [expressionStart, List.mem_append]
  rintro c (opens | inName | closes)
  · exact Text.solid_of_all (by decide) c opens
  · exact isBlank_of_isKeywordChar (all c inName)
  · exact Text.solid_of_all (by decide) c closes

theorem matches_expressionPattern {n : Nat} {part : List Char}
    (isMatch : (expressionPattern n).Matches part) :
    ∃ name, IsExpressionName name ∧ part = expressionStart name := by
  obtain ⟨_, _, rfl, opens, _, _, rfl, isName, closes⟩ := isMatch
  obtain rfl := Expression.matches_literal.mp opens
  obtain rfl := Expression.matches_literal.mp closes
  obtain ⟨some, all, -⟩ := Expression.matches_many.mp isName
  exact ⟨_, isExpressionName_iff.mpr ⟨some, all⟩, rfl⟩

theorem head?_run_expressionPattern {n : Nat} {name behind : List Char}
    (isName : IsExpressionName name)
    (fits : name.length ≤ n) :
    ((expressionPattern n).run ⟨[], expressionStart name ++ behind⟩).head? =
      some ⟨[(1, name)], behind⟩ := by
  obtain ⟨some, all⟩ := isExpressionName_iff.mp isName
  have whole : expressionStart name ++ behind = ['$', '<'] ++ (name ++ ([':'] ++ behind)) := by
    simp [expressionStart]
  have opened : Text.after? ['$', '<'] (['$', '<'] ++ (name ++ ([':'] ++ behind))) =
      .some (name ++ ([':'] ++ behind)) := Text.after?_eq_some_iff.mpr rfl
  have closed : Text.after? [':'] ([':'] ++ behind) = .some behind :=
    Text.after?_eq_some_iff.mpr rfl
  rw [Expression.head?_run, whole, expressionPattern, Expression.firstOf_both,
    Expression.firstOf_literal, opened, Option.bind_some, Expression.firstOf_both,
    Expression.firstOf_group, Expression.firstOf_many keywordClass some all fits]
  · rw [Expression.firstOf_literal, closed, Option.bind_some, Expression.take_front]
  · rintro c ⟨⟩
    decide
  · -- no name goes on behind a colon
    intro _ c inName rest
    have other : c ≠ ':' := by
      rintro rfl
      revert inName
      decide
    rw [Expression.firstOf_literal, Text.after?_cons_of_ne other, Option.bind_none]

/-- No expression begins inside of the beginning of another one: a dollar stands only in front of
it. -/
theorem generatorExpressionAt?_inside {front back name : List Char}
    (found : generatorExpressionAt? (front ++ back) = some name) (some : front ≠ [])
    (inside : front.length < (expressionStart name).length) :
    generatorExpressionAt? back = none := by
  obtain ⟨isName, begins⟩ := generatorExpressionAt?_eq_some_iff.mp found
  have once : '$' ∉ '<' :: (name ++ [':']) := by
    simp only [List.mem_cons, List.mem_append, List.not_mem_nil, or_false]
    rintro (opens | inName | closes)
    · cases opens
    · cases (isExpressionName_iff.mp isName).2 _ inName
    · cases closes
  have other := Regex.not_mem_head?_inside begins once some (Nat.le_of_lt_succ inside)
  rw [Option.eq_none_iff_forall_ne_some]
  intro name' foundInside
  obtain ⟨behind, rfl⟩ := (generatorExpressionAt?_eq_some_iff.mp foundInside).2
  exact other rfl

theorem reads_expressionPattern {n : Nat} {text : List Char} (fits : text.length ≤ n) :
    Regex.Reads (expressionPattern n) 1 generatorExpressionAt? expressionStart text where
  begins _ _ found := (generatorExpressionAt?_eq_some_iff.mp found).2
  taken name behind isEnd found := by
    have bound := isEnd.length_le
    simp only [expressionStart, List.length_append] at bound
    exact head?_run_expressionPattern (generatorExpressionAt?_eq_some_iff.mp found).1 (by omega)
  matched rest part _ isMatch begins := by
    obtain ⟨name, isName, rfl⟩ := matches_expressionPattern isMatch
    rw [generatorExpressionAt?_eq_some_iff.mpr ⟨isName, begins⟩]
    exact Option.some_ne_none name
  nothing := rfl
  apart front back name _ found some inside := generatorExpressionAt?_inside found some inside

/-- The generator expressions of a help text are the names of uppercase letters and underscores that
stand between a dollar with an angle and a colon anywhere in the text: a search of the collapsed
text that goes on behind each match misses none of them, and collapsing neither makes nor breaks
one. -/
theorem generatorExpressions_everywhere (help : String) (more : Nat) :
    (∀ name, name ∈ generatorExpressions help ↔
      IsExpressionName name.toList ∧ expressionStart name.toList <:+: help.toList) ∧
    (∀ name, IsExpressionName name →
      (expressionStart name <:+: collapseChars help.toList ↔
        expressionStart name <:+: help.toList)) ∧
    generatorExpressions help =
      .ofList ((Regex.captures (expressionPattern (help.length + more)) 1
        (collapseChars help.toList)).map String.ofList) := by
  have kept (name : List Char) (isName : IsExpressionName name) :
      expressionStart name <:+: collapseChars help.toList ↔ expressionStart name <:+: help.toList :=
    Text.infix_collapseChars (isBlank_expressionStart isName)
  have fits := Text.length_collapseChars_toList_le help more
  refine ⟨fun name => ?_, kept, ?_⟩
  · have listed : name ∈ generatorExpressions help ↔
        name.toList ∈ generatorExpressionsOf (collapseChars help.toList) := by
      rw [generatorExpressions, NameSet.mem_ofList, List.mem_map]
      constructor
      · rintro ⟨found, mem, rfl⟩
        rwa [String.toList_ofList]
      · exact fun mem => ⟨name.toList, mem, String.ofList_toList⟩
    rw [listed, mem_generatorExpressionsOf]
    exact and_congr_right (kept name.toList)
  · rw [Regex.captures_eq_everywhere (reads_expressionPattern fits)]
    rfl

example : generatorExpressions "$<IF:$<BOOL:a>,$<$<CONFIG:b>:\n" =
    .ofList ["BOOL", "CONFIG", "IF"] := by
  decide +kernel

end CMakeGrammar.Help
