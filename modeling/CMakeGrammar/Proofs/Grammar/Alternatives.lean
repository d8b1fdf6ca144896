import CMakeGrammar.Proofs.Alternation.Pieces
import CMakeGrammar.Proofs.Gather.WellFormed
import CMakeGrammar.Proofs.Grammar.References
/-! The alternations in the grammar of a gathered vocabulary. No name that is gathered is empty, and
a module without functions ends the run, so wherever the template writes names into a pattern there
is something to match. An empty alternative would match everywhere. -/
namespace CMakeGrammar.Grammar
open Alternation (IsFull)
open Json (valuesOf valuesOfItems valuesOfMembers valuesOfItems_append)

/-- A full alternation between two texts. -/
def SurroundsFull (before after pattern : String) : Prop :=
  ∃ alternation, pattern = before ++ alternation ++ after ∧ IsFull alternation

/-- A rule of calls that says what is called, and each keyword it matches. -/
structure IsFullCallRule (rule : Json) : Prop where
  opening : ∃ pattern, rule.get? "begin" = some (.string pattern) ∧
    SurroundsFull "(?i)\\b(" ")\\s*(\\()" pattern
  keywords : ∀ value ∈ rule.valuesOf "match", ∃ pattern, value = .string pattern ∧
    SurroundsFull "\\b(" ")\\b" pattern

/-- The alternations of a grammar. Only that of the generator expressions can be empty. -/
structure HasFullAlternations (v : Vocabulary) (rules : List (String × Json)) : Prop where
  calls : ∀ key rule, (key, rule) ∈ rules →
    (∃ name, key = "module-" ++ name ∨ key = "command-" ++ name) → IsFullCallRule rule
  names : ∀ key ∈ ["variables", "properties"], ∃ rule pattern, rules.lookup key = some rule ∧
    rule.get? "match" = some (.string pattern) ∧
      (pattern = "(?!)" ∨ SurroundsFull "\\b(" ")\\b" pattern)
  generatorExpressions : ∃ rule alternation, rules.lookup "generator-expressions" = some rule ∧
    rule.get? "begin" = some (.string ("\\$<(" ++ alternation ++ ")?")) ∧
      (alternation = "" ↔ v.generatorExpressions.isEmpty = true) ∧
      (alternation ≠ "" → IsFull alternation)

theorem surroundsFull_wordPattern {names : NameSet} (any : names.isEmpty = false)
    (named : ∀ name ∈ names, name.toList ≠ []) :
    SurroundsFull "\\b(" ")\\b" (wordPattern names.toList) :=
  ⟨_, rfl, Alternation.isFull_ofNames any named⟩

theorem matches_callRule (opening scope : String) (rules : List Json) :
    valuesOf "match" (callRule opening scope rules) = valuesOfItems "match" rules := by
  simp [callRule, parenthesized, parenthesisMembers, callCaptures, openingParenthesis, textMember,
    named, patterns, valuesOf, valuesOfMembers]

theorem matches_keywordRules (scope : String) (keywords : NameSet) :
    valuesOfItems "match" (keywordRules scope keywords ++ [reference "arguments"]) =
      if keywords.isEmpty then [] else [.string (wordPattern keywords.toList)] := by
  rw [valuesOfItems_append, keywordRules]
  split <;> simp [reference, textMember, valuesOf, valuesOfItems, valuesOfMembers]

theorem isFullCallRule_callRule {names : List String} (scope keywordScope : String)
    {keywords : NameSet} (full : IsFull (Alternation.ofNames names))
    (named : ∀ word ∈ keywords, word.toList ≠ []) :
    IsFullCallRule (callRule (callPattern names) scope
      (keywordRules keywordScope keywords ++ [reference "arguments"])) := by
  refine ⟨⟨_, rfl, _, rfl, full⟩, fun value mem => ?_⟩
  rw [matches_callRule, matches_keywordRules] at mem
  cases any : keywords.isEmpty with
  | true => simp [any] at mem
  | false =>
    rw [any, if_neg Bool.false_ne_true, List.mem_singleton] at mem
    exact ⟨_, mem, surroundsFull_wordPattern any named⟩

theorem mem_callRules {v : Vocabulary} {key : String} {rule : Json}
    (mem : (key, rule) ∈ repository v) (stem : stemOf key ≠ 0) :
    (key, rule) ∈ moduleRules v ∨ (key, rule) ∈ commandRules v := by
  have stemless : ∀ key ∈ commonKeys, stemOf key = 0 := by decide
  have notCommon : key ∉ commonKeys := fun isCommon => stem (stemless key isCommon)
  have other {rules : List (String × Json)} (isRule : (key, rule) ∈ rules) :
      key ∈ rules.map Prod.fst := List.mem_map.mpr ⟨_, isRule, rfl⟩
  simp only [commonKeys, List.mem_append, List.mem_cons, not_or] at notCommon
  obtain ⟨leading, commands, arguments, expressions, variableNames, properties, trailing⟩ :=
    notCommon
  simp only [repository, List.mem_append, List.mem_cons, Prod.mk.injEq, commands, expressions,
    variableNames, properties, false_and, false_or] at mem
  rcases mem with isLeading | isModule | isCommand | isArgument | isTrailing
  · exact absurd (other isLeading) leading
  · exact .inl isModule
  · exact .inr isCommand
  · exact absurd (other isArgument) arguments
  · exact absurd (other isTrailing) trailing

theorem stemOf_of_called {key : String}
    (called : ∃ name, key = "module-" ++ name ∨ key = "command-" ++ name) : stemOf key ≠ 0 := by
  obtain ⟨name, rfl | rfl⟩ := called
  · have stem := stemOf_moduleKey name
    rw [moduleKey] at stem
    omega
  · have stem := stemOf_commandKey name
    rw [commandKey] at stem
    omega

section
variable {v : Vocabulary} {c : Client} {e : Extraction} (gathered : Gather.IsGathered c e v)
include gathered

theorem isFullCallRule_of_mem {key : String} {rule : Json} (mem : (key, rule) ∈ repository v)
    (stem : stemOf key ≠ 0) : IsFullCallRule rule := by
  rcases mem_callRules mem stem with isModule | isCommand
  · obtain ⟨entry, isEntry, same⟩ := List.mem_map.mp isModule
    cases same
    have wellFormed := (Gather.modules_of_ok gathered.modules).2 entry isEntry
    have any : entry.2.functions.isEmpty = false := by
      obtain ⟨function, isFunction⟩ := wellFormed.declares
      simpa [NameSet.isEmpty] using List.ne_nil_of_mem (NameSet.mem_def.mp isFunction)
    have full := Alternation.isFull_ofNames any fun name isFunction =>
      (wellFormed.functions name isFunction).1
    refine isFullCallRule_callRule _ _ full fun word isWord => ?_
    obtain ⟨first, rest, isChars, -⟩ := (wellFormed.keywords word isWord).1
    simp [isChars]
  · obtain ⟨entry, isEntry, same⟩ := List.mem_map.mp isCommand
    cases same
    obtain ⟨names, keywords⟩ := Gather.commandMap_of_ok gathered.commands
    have isKey : entry.1 ∈ v.commands.keys := List.mem_map_of_mem isEntry
    have isValue : entry.2 ∈ v.commands.values := List.mem_map_of_mem isEntry
    have full : IsFull (Alternation.ofNames [entry.1]) := by
      rw [Alternation.ofNames_of_pairwise (List.pairwise_singleton _ _),
        Alternation.isFull_join_iff (List.cons_ne_nil _ _), List.mem_singleton]
      intro empty
      exact (names entry.1 isKey).1.ne_nil (by rw [← empty]; rfl)
    refine isFullCallRule_callRule _ _ full fun word isWord => ?_
    obtain ⟨first, rest, isChars, -⟩ := (keywords entry.2 isValue word isWord).1
    simp [isChars]

theorem hasFullAlternations_repository : HasFullAlternations v (repository v) := by
  have rules := hasRules_repository v
  have namesRule {key : String} {names : NameSet} {rule : Json}
      (here : (repository v).lookup key = some rule) (isRule : IsNamesRule names rule)
      (named : ∀ name ∈ names, Text.IsEntry name.toList) :
      ∃ rule pattern, (repository v).lookup key = some rule ∧
        rule.get? "match" = some (.string pattern) ∧
          (pattern = "(?!)" ∨ SurroundsFull "\\b(" ")\\b" pattern) := by
    cases any : names.isEmpty with
    | true => exact ⟨rule, _, here, isRule.matchesNothing.mpr any, .inl rfl⟩
    | false =>
      refine ⟨rule, _, here, isRule.matchesNames any, .inr ?_⟩
      exact surroundsFull_wordPattern any fun name mem => (named name mem).ne_nil
  refine ⟨?calls, ?names, ?generatorExpressions⟩
  case calls =>
    intro key rule mem called
    exact isFullCallRule_of_mem gathered mem (stemOf_of_called called)
  case names =>
    have variableNames := Gather.isEntry_of_listing gathered.variableNames
    have properties := Gather.isEntry_of_listing gathered.properties
    obtain ⟨first, isFirst, firstNames⟩ := rules.variableNames
    obtain ⟨second, isSecond, secondNames⟩ := rules.properties
    rw [List.forall_mem_cons, List.forall_mem_singleton]
    exact ⟨namesRule isFirst firstNames variableNames, namesRule isSecond secondNames properties⟩
  case generatorExpressions =>
    obtain ⟨rule, here, opening⟩ := rules.generatorExpressions
    refine ⟨rule, _, here, opening, ?_⟩
    have named := Gather.isExpressionName_of_ok gathered.generatorExpressions
    cases any : v.generatorExpressions.isEmpty with
    | true =>
      have none : v.generatorExpressions.toList = [] := by simpa [NameSet.isEmpty] using any
      have empty : Alternation.ofNames [] = "" := Alternation.ofNames_of_pairwise .nil
      rw [none, empty]
      simp
    | false =>
      have full := Alternation.isFull_ofNames any fun name mem => (named name mem).1
      have some : Alternation.ofNames v.generatorExpressions.toList ≠ "" := by
        intro empty
        rw [empty] at full
        exact full.2 [] (List.mem_singleton_self []) rfl
      simp [some, full]

end

/-- Whatever a client answers and whatever the settings are, the grammar of what is gathered matches
names only: none of its alternations can match the empty text. -/
theorem builtIn_fullAlternations {c : Client} {e : Extraction} {v : Vocabulary}
    (ok : (Gather.vocabulary c e).result = .ok v) :
    ∃ template text document rules, builtIn = .ok template ∧
      (∀ stack, (render stack template v).result = .ok text) ∧ Json.parse? text = some document ∧
        document.get? "repository" = some (.object rules) ∧ HasFullAlternations v rules := by
  obtain ⟨text, rendered, read⟩ := parse?_render v
  exact ⟨nodes, text, document v, repository v, builtIn_eq, rendered, read, rfl,
    hasFullAlternations_repository (Gather.isGathered_of_ok c e ok)⟩

theorem builtIn_fullAlternations_small :
    (Gather.vocabulary (.ofTable Gather.smallHelp) Gather.smallSettings).result =
        .ok Gather.smallVocabulary ∧
      ∃ template text document rules, builtIn = .ok template ∧
        (∀ stack, (render stack template Gather.smallVocabulary).result = .ok text) ∧
        Json.parse? text = some document ∧ document.get? "repository" = some (.object rules) ∧
          HasFullAlternations Gather.smallVocabulary rules :=
  ⟨Gather.gathered_small, builtIn_fullAlternations Gather.gathered_small⟩

end CMakeGrammar.Grammar
