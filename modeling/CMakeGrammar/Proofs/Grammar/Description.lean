import CMakeGrammar.Proofs.Grammar.Rendering
import CMakeGrammar.Proofs.Grammar.Source
import CMakeGrammar.Proofs.NameMap.Lookup
/-! The grammar of every vocabulary: what stands in the text that the template makes, once it is
read as a document again. -/
namespace CMakeGrammar.Grammar
open Json (written signs spread isTextual haveTextual areTextual)

theorem haveTextual_append (ms ns : List (String × Json)) :
    haveTextual (ms ++ ns) = (haveTextual ms && haveTextual ns) := by
  simp only [Json.haveTextual_eq_all, List.all_append]

theorem areTextual_append (items others : List Json) :
    areTextual (items ++ others) = (areTextual items && areTextual others) := by
  simp only [Json.areTextual_eq_all, List.all_append]

theorem areTextual_map_reference (names : List String) :
    areTextual (names.map reference) = true := by
  rw [Json.areTextual_eq_all, List.all_eq_true]
  intro item mem
  obtain ⟨name, -, rfl⟩ := List.mem_map.mp mem
  rfl

theorem moduleIncludes_eq (v : Vocabulary) :
    moduleIncludes v = (v.modules.keys.map moduleKey).map reference := by
  rw [moduleIncludes, List.map_map]
  rfl

theorem commandIncludes_eq (v : Vocabulary) :
    commandIncludes v = (v.commands.keys.map commandKey).map reference := by
  rw [commandIncludes, List.map_map]
  rfl

theorem keys_moduleRules (v : Vocabulary) :
    (moduleRules v).map Prod.fst = v.modules.keys.map moduleKey := by
  rw [moduleRules, NameMap.keys, List.map_map, List.map_map]
  rfl

theorem keys_commandRules (v : Vocabulary) :
    (commandRules v).map Prod.fst = v.commands.keys.map commandKey := by
  rw [commandRules, NameMap.keys, List.map_map, List.map_map]
  rfl

theorem areTextual_keywordRules (scope : String) (keywords : NameSet) :
    areTextual (keywordRules scope keywords) = true := by
  unfold keywordRules
  split <;> rfl

theorem isTextual_callRule (opening scope : String) {rules : List Json}
    (h : areTextual rules = true) : isTextual (callRule opening scope rules) = true := by
  simp [callRule, parenthesized, parenthesisMembers, callCaptures, openingParenthesis, textMember,
    named, patterns, isTextual, haveTextual, h]

theorem haveTextual_map {α : Type} (member : α → String × Json) (entries : List α)
    (h : ∀ a, isTextual (member a).2 = true) : haveTextual (entries.map member) = true := by
  rw [Json.haveTextual_eq_all, List.all_eq_true]
  intro m mem
  obtain ⟨a, -, rfl⟩ := List.mem_map.mp mem
  exact h a

theorem haveTextual_repository (v : Vocabulary) : haveTextual (repository v) = true := by
  have modules : haveTextual (moduleRules v) = true := by
    refine haveTextual_map _ _ fun entry => isTextual_callRule _ _ ?_
    rw [areTextual_append, areTextual_keywordRules]
    rfl
  have commands : haveTextual (commandRules v) = true := by
    refine haveTextual_map _ _ fun entry => isTextual_callRule _ _ ?_
    rw [areTextual_append, areTextual_keywordRules]
    rfl
  have includes : areTextual (commandIncludes v) = true := by
    rw [commandIncludes_eq]
    exact areTextual_map_reference _
  have leading : haveTextual leadingRules = true := rfl
  have arguments : haveTextual argumentRules = true := rfl
  have trailing : haveTextual trailingRules = true := rfl
  simp only [repository, haveTextual_append, haveTextual, leading, modules, commands, arguments,
    trailing, patterns, isTextual, includes, generatorExpressionsRule, namesRule, textMember,
    generatorExpressionMembers, named, reference, areTextual, Bool.and_true]

theorem isTextual_document (v : Vocabulary) : isTextual (document v) = true := by
  have modules : areTextual (moduleIncludes v) = true := by
    rw [moduleIncludes_eq]
    exact areTextual_map_reference _
  have leading : areTextual leadingIncludes = true := rfl
  have trailing : areTextual trailingIncludes = true := rfl
  have heading : haveTextual heading = true := rfl
  simp only [document, isTextual, haveTextual_append, heading, haveTextual, textMember, patterns,
    areTextual_append, leading, modules, trailing, haveTextual_repository, Bool.and_true]

/-- Which of the stems for modules and commands a key begins with. -/
def stemOf (key : String) : Nat :=
  if "module-".toList.isPrefixOf key.toList then 1
  else if "command-".toList.isPrefixOf key.toList then 2
  else 0

theorem stemOf_moduleKey (name : String) : stemOf (moduleKey name) = 1 := by
  rw [stemOf, moduleKey, String.toList_append, if_pos]
  rw [List.isPrefixOf_iff_prefix]
  exact List.prefix_append _ _

theorem stemOf_commandKey (name : String) : stemOf (commandKey name) = 2 := by
  rw [stemOf, commandKey, String.toList_append, if_neg, if_pos]
  · rw [List.isPrefixOf_iff_prefix]
    exact List.prefix_append _ _
  · simp

def commonKeys : List String :=
  leadingRules.map Prod.fst ++ ("commands" :: (argumentRules.map Prod.fst ++
    "generator-expressions" :: "variables" :: "properties" :: trailingRules.map Prod.fst))

theorem nodup_map_append {names : List String} (ascending : names.Pairwise (· < ·))
    (stem : String) : (names.map (stem ++ ·)).Nodup := by
  refine List.Pairwise.map (stem ++ ·) ?_ ascending
  intro a b less same
  exact String.ne_of_lt less ((String.append_right_inj stem).mp same)

theorem nodup_repository (v : Vocabulary) : ((repository v).map Prod.fst).Nodup := by
  have modules : (v.modules.keys.map moduleKey).Nodup := nodup_map_append v.modules.ascending _
  have commands : (v.commands.keys.map commandKey).Nodup := nodup_map_append v.commands.ascending _
  have common : commonKeys.Nodup := by decide
  have stemless : ∀ key ∈ commonKeys, stemOf key = 0 := by decide
  have shuffled : ((repository v).map Prod.fst).Perm
      (v.modules.keys.map moduleKey ++ (v.commands.keys.map commandKey ++ commonKeys)) := by
    rw [List.perm_iff_count]
    intro key
    simp only [repository, commonKeys, List.map_append, List.map_cons, List.count_append,
      List.count_cons, keys_moduleRules, keys_commandRules]
    omega
  rw [shuffled.nodup_iff, List.nodup_append, List.nodup_append]
  refine ⟨modules, ⟨commands, common, ?_⟩, ?_⟩
  · rintro key mem _ isCommon rfl
    obtain ⟨name, -, rfl⟩ := List.mem_map.mp mem
    have stem := stemless _ isCommon
    rw [stemOf_commandKey] at stem
    omega
  · rintro key mem _ other rfl
    obtain ⟨name, -, rfl⟩ := List.mem_map.mp mem
    have stem := stemOf_moduleKey name
    rcases List.mem_append.mp other with mem | isCommon
    · obtain ⟨command, -, same⟩ := List.mem_map.mp mem
      rw [← same, stemOf_commandKey] at stem
      omega
    · rw [stemless _ isCommon] at stem
      omega

theorem parse?_render (v : Vocabulary) :
    ∃ text, (∀ stack, (render stack nodes v).result = .ok text) ∧
      Json.parse? text = some (document v) := by
  refine ⟨_, fun stack => render_nodes stack v, ?_⟩
  have spells := Json.spells_spread 0 (document v) (isTextual_document v)
  have newline : Json.AreSpaces ['\n'] := by simp [Json.AreSpaces, Json.isSpace]
  simpa using Json.parse?_of_spells Json.areSpaces_nil spells newline

/-- A rule of calls, with a rule of keywords in front of the arguments if there are keywords. -/
structure IsCallRule (callee : String) (keywords : NameSet) (rule : Json) : Prop where
  opening : rule.get? "begin" = some (.string ("(?i)\\b(" ++ callee ++ ")\\s*(\\()"))
  withKeywords : keywords.isEmpty = false → ∃ first,
    rule.get? "patterns" = some (.array [first, reference "arguments"]) ∧
      first.get? "match" = some (.string ("\\b(" ++ Alternation.ofNames keywords.toList ++ ")\\b"))
  withoutKeywords : keywords.isEmpty = true →
    rule.get? "patterns" = some (.array [reference "arguments"])

/-- A rule that matches names, and nothing only if there are none. -/
structure IsNamesRule (names : NameSet) (rule : Json) : Prop where
  matchesNothing : rule.get? "match" = some (.string "(?!)") ↔ names.isEmpty = true
  matchesNames : names.isEmpty = false →
    rule.get? "match" = some (.string ("\\b(" ++ Alternation.ofNames names.toList ++ ")\\b"))

structure HasRules (v : Vocabulary) (rules : List (String × Json)) : Prop where
  distinct : (rules.map Prod.fst).Nodup
  command : ∀ entry ∈ v.commands.entries, ∃ rule, rules.lookup ("command-" ++ entry.1) = some rule ∧
    IsCallRule (Alternation.escape entry.1) entry.2 rule
  moduleEntry : ∀ entry ∈ v.modules.entries, ∃ rule,
    rules.lookup ("module-" ++ entry.1) = some rule ∧
      IsCallRule (Alternation.ofNames entry.2.functions.toList) entry.2.keywords rule
  commands : rules.lookup "commands" =
    some (.object [patterns ((v.commands.keys.map ("command-" ++ ·)).map reference)])
  variableNames : ∃ rule, rules.lookup "variables" = some rule ∧ IsNamesRule v.variableNames rule
  properties : ∃ rule, rules.lookup "properties" = some rule ∧ IsNamesRule v.properties rule
  generatorExpressions : ∃ rule, rules.lookup "generator-expressions" = some rule ∧
    rule.get? "begin" =
      some (.string ("\\$<(" ++ Alternation.ofNames v.generatorExpressions.toList ++ ")?"))

/-- A document that is a grammar of a vocabulary. -/
structure Describes (v : Vocabulary) (document : Json) : Prop where
  isObject : ∃ members, document = .object members ∧ (members.map Prod.fst).Nodup
  comment : ∃ before after,
    document.get? "comment" = some (.string (before ++ v.version ++ after))
  includes : document.get? "patterns" = some (.array ((["comments", "control-flow",
    "block-definitions"] ++ v.modules.keys.map ("module-" ++ ·) ++
      ["commands", "user-commands"]).map reference))
  repository : ∃ rules, document.get? "repository" = some (.object rules) ∧ HasRules v rules

theorem ofNames_singleton (name : String) :
    Alternation.ofNames [name] = Alternation.escape name := by
  rw [Alternation.ofNames, Alternation.arrange, List.mergeSort_singleton]
  rfl

theorem isCallRule_callRule (names : List String) (scope keywordScope : String)
    (keywords : NameSet) :
    IsCallRule (Alternation.ofNames names) keywords
      (callRule (callPattern names) scope
        (keywordRules keywordScope keywords ++ [reference "arguments"])) := by
  refine ⟨rfl, ?_, ?_⟩
  · intro some
    refine ⟨.object [textMember "match" (wordPattern keywords.toList),
      textMember "name" keywordScope], ?_, rfl⟩
    rw [keywordRules, if_neg (by simp [some])]
    rfl
  · intro none
    rw [keywordRules, if_pos none]
    rfl

theorem isNamesRule_namesRule (names : NameSet) (scope : String) :
    IsNamesRule names (namesRule names scope) := by
  have here : (namesRule names scope).get? "match" =
      some (.string (if names.isEmpty then nothingPattern else wordPattern names.toList)) := rfl
  refine ⟨?_, ?_⟩
  · rw [here]
    cases isEmpty : names.isEmpty with
    | true => simp [nothingPattern]
    | false =>
      have other : wordPattern names.toList ≠ "(?!)" := by
        intro same
        have chars := congrArg String.toList same
        simp [wordPattern] at chars
      simpa using other
  · intro some
    rw [here, some]
    rfl

theorem hasRules_repository (v : Vocabulary) : HasRules v (repository v) := by
  have rule {key : String} {value : Json} (mem : (key, value) ∈ repository v) :
      (repository v).lookup key = some value := NameMap.lookup_of_mem (nodup_repository v) mem
  refine ⟨nodup_repository v, ?command, ?moduleEntry, ?commands, ?names, ?properties, ?opening⟩
  case command =>
    intro entry mem
    have isRule : (commandKey entry.1, commandRule entry.1 entry.2) ∈ commandRules v :=
      List.mem_map.mpr ⟨entry, mem, rfl⟩
    have here : (commandKey entry.1, commandRule entry.1 entry.2) ∈ repository v := by
      simp [repository, isRule]
    refine ⟨_, rule here, ?_⟩
    rw [← ofNames_singleton]
    exact isCallRule_callRule _ _ _ _
  case moduleEntry =>
    intro entry mem
    have isRule : (moduleKey entry.1, moduleRule entry.2) ∈ moduleRules v :=
      List.mem_map.mpr ⟨entry, mem, rfl⟩
    have here : (moduleKey entry.1, moduleRule entry.2) ∈ repository v := by
      simp [repository, isRule]
    exact ⟨_, rule here, isCallRule_callRule _ _ _ _⟩
  case commands =>
    have here : ("commands", .object [patterns (commandIncludes v)]) ∈ repository v := by
      simp [repository]
    rw [commandIncludes_eq] at here
    exact rule here
  case names =>
    have here : ("variables", namesRule v.variableNames "variable.language.cmake") ∈
        repository v := by
      simp [repository]
    exact ⟨_, rule here, isNamesRule_namesRule _ _⟩
  case properties =>
    have here : ("properties", namesRule v.properties "support.constant.property.cmake") ∈
        repository v := by
      simp [repository]
    exact ⟨_, rule here, isNamesRule_namesRule _ _⟩
  case opening =>
    have here : ("generator-expressions",
        generatorExpressionsRule v.generatorExpressions.toList) ∈ repository v := by
      simp [repository]
    exact ⟨_, rule here, rfl⟩

theorem describes_document (v : Vocabulary) : Describes v (document v) := by
  refine ⟨⟨_, rfl, by simp [heading, textMember, patterns]⟩, ⟨_, _, rfl⟩, ?_,
    ⟨_, rfl, hasRules_repository v⟩⟩
  rw [document, moduleIncludes_eq, List.map_append, List.map_append, List.append_assoc]
  rfl

/-- The template is well formed, and of every vocabulary it makes a grammar that can be read and
that describes the vocabulary, whatever characters its names are made of. -/
theorem builtIn_describes :
    ∃ template, builtIn = .ok template ∧ ∀ v : Vocabulary, ∃ text document,
      (∀ stack, (render stack template v).result = .ok text) ∧ Json.parse? text = some document ∧
        Describes v document := by
  refine ⟨nodes, builtIn_eq, ?_⟩
  intro v
  obtain ⟨text, rendered, read⟩ := parse?_render v
  exact ⟨text, document v, rendered, read, describes_document v⟩

end CMakeGrammar.Grammar
