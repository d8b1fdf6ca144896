import Mathlib.Data.List.Nodup
import CMakeGrammar.Proofs.Grammar.Description
/-! How the rules of the grammar refer to one another. The repository has a rule under each key and
under none two of them, every include leads to one of the rules, and the rules of modules and of
commands are included once each. -/
namespace CMakeGrammar

namespace Json

mutual

/-- The values of all members of one key, wherever in a value they stand. -/
def valuesOf (key : String) : Json → List Json
  | array items => valuesOfItems key items
  | object members => valuesOfMembers key members
  | _ => []

def valuesOfItems (key : String) : List Json → List Json
  | [] => []
  | item :: items => valuesOf key item ++ valuesOfItems key items

def valuesOfMembers (key : String) : List (String × Json) → List Json
  | [] => []
  | (name, value) :: members =>
    (if name = key then [value] else []) ++ valuesOf key value ++ valuesOfMembers key members

end

theorem valuesOfItems_eq_flatMap (key : String) (items : List Json) :
    valuesOfItems key items = items.flatMap (valuesOf key) := by
  induction items with
  | nil => rfl
  | cons item items ih => rw [valuesOfItems, ih, List.flatMap_cons]

theorem valuesOfItems_append (key : String) (items others : List Json) :
    valuesOfItems key (items ++ others) =
      valuesOfItems key items ++ valuesOfItems key others := by
  simp only [valuesOfItems_eq_flatMap, List.flatMap_append]

theorem valuesOfMembers_append (key : String) (members others : List (String × Json)) :
    valuesOfMembers key (members ++ others) =
      valuesOfMembers key members ++ valuesOfMembers key others := by
  induction members with
  | nil => rfl
  | cons m members ih =>
    rw [List.cons_append, valuesOfMembers, valuesOfMembers, ih]
    simp only [List.append_assoc]

end Json

namespace Grammar
open Json (valuesOf valuesOfItems valuesOfMembers valuesOfItems_append valuesOfMembers_append)

def included? (item : Json) : Option String :=
  match item.get? "include" with
  | some (.string target) => some target
  | _ => none

/-- The rules of a document, with their keys, and what refers to them. -/
structure IsLinked (v : Vocabulary) (document : Json) (rules : List (String × Json)) : Prop where
  repository : document.get? "repository" = some (.object rules)
  keys : rules.map Prod.fst =
    ["comments", "control-flow", "block-definitions"] ++ (v.modules.keys.map ("module-" ++ ·) ++
      "commands" :: (v.commands.keys.map ("command-" ++ ·) ++
        ["arguments", "nested-parens", "bracket-arguments", "strings", "variable-references",
          "generator-expressions", "variables", "properties", "constants", "user-commands"]))
  distinct : (rules.map Prod.fst).Nodup
  resolved : ∀ target ∈ document.valuesOf "include",
    ∃ key ∈ rules.map Prod.fst, target = .string ("#" ++ key)
  modules : ∃ items, document.get? "patterns" = some (.array items) ∧
    items = (["comments", "control-flow", "block-definitions"] ++
      (v.modules.keys.map ("module-" ++ ·) ++ ["commands", "user-commands"])).map reference ∧
    ∀ name ∈ v.modules.keys, (items.filterMap included?).count ("#module-" ++ name) = 1
  commands : ∃ rule, rules.lookup "commands" = some rule ∧
    rule.get? "patterns" =
      some (.array ((v.commands.keys.map ("command-" ++ ·)).map reference)) ∧
    ∀ name ∈ v.commands.keys,
      (((v.commands.keys.map ("command-" ++ ·)).map reference).filterMap included?).count
        ("#command-" ++ name) = 1

variable (v : Vocabulary)

theorem keys_repository :
    (repository v).map Prod.fst =
      ["comments", "control-flow", "block-definitions"] ++ (v.modules.keys.map moduleKey ++
        "commands" :: (v.commands.keys.map commandKey ++
          ["arguments", "nested-parens", "bracket-arguments", "strings", "variable-references",
            "generator-expressions", "variables", "properties", "constants",
            "user-commands"])) := by
  simp only [repository, List.map_append, List.map_cons, keys_moduleRules, keys_commandRules]
  rfl

def targets (keys : List String) : List Json := keys.map fun key => .string ("#" ++ key)

theorem valuesOfItems_reference (keys : List String) :
    valuesOfItems "include" (keys.map reference) = targets keys := by
  induction keys with
  | nil => rfl
  | cons key keys ih =>
    rw [List.map_cons, valuesOfItems, ih]
    simp [reference, textMember, valuesOf, valuesOfMembers, targets]

theorem valuesOf_callRule (opening scope : String) (rules : List Json) :
    valuesOf "include" (callRule opening scope rules) = valuesOfItems "include" rules := by
  simp [callRule, parenthesized, parenthesisMembers, callCaptures, openingParenthesis, textMember,
    named, patterns, valuesOf, valuesOfMembers]

theorem valuesOfItems_keywordRules (scope : String) (keywords : NameSet) :
    valuesOfItems "include" (keywordRules scope keywords) = [] := by
  unfold keywordRules
  split <;> simp [textMember, valuesOf, valuesOfItems, valuesOfMembers]

theorem valuesOf_keywordCallRule (opening scope keywordScope : String) (keywords : NameSet) :
    valuesOf "include" (callRule opening scope
      (keywordRules keywordScope keywords ++ [reference "arguments"])) =
        targets ["arguments"] := by
  have arguments := valuesOfItems_reference ["arguments"]
  rw [List.map_singleton] at arguments
  rw [valuesOf_callRule, valuesOfItems_append, valuesOfItems_keywordRules, arguments]
  rfl

/-- Each of some values includes the rule of one of some keys. -/
def LeadTo (keys : List String) (values : List Json) : Prop :=
  ∀ target ∈ values, ∃ key ∈ keys, target = .string ("#" ++ key)

theorem leadTo_append {keys : List String} {values others : List Json} :
    LeadTo keys (values ++ others) ↔ LeadTo keys values ∧ LeadTo keys others :=
  List.forall_mem_append

theorem leadTo_nil (keys : List String) : LeadTo keys [] := List.forall_mem_nil _

theorem leadTo_targets {keys included : List String} (h : ∀ key ∈ included, key ∈ keys) :
    LeadTo keys (targets included) := by
  intro target mem
  obtain ⟨key, isIncluded, rfl⟩ := List.mem_map.mp mem
  exact ⟨key, h key isIncluded, rfl⟩

theorem leadTo_map {α : Type} {keys : List String} {member : α → String × Json}
    (entries : List α) (other : ∀ a, (member a).1 ≠ "include")
    (h : ∀ a, LeadTo keys (valuesOf "include" (member a).2)) :
    LeadTo keys (valuesOfMembers "include" (entries.map member)) := by
  induction entries with
  | nil => exact leadTo_nil keys
  | cons a entries ih =>
    rw [List.map_cons, valuesOfMembers, if_neg (other a), List.nil_append, leadTo_append]
    exact ⟨h a, ih⟩

section
variable {keys : List String} (common : ∀ key ∈ commonKeys, key ∈ keys)
include common

theorem leadTo_common {included : List String} (h : ∀ key ∈ included, key ∈ commonKeys) :
    LeadTo keys (targets included) :=
  leadTo_targets fun key mem => common key (h key mem)

theorem leadTo_moduleRules : LeadTo keys (valuesOfMembers "include" (moduleRules v)) := by
  refine leadTo_map _ (fun entry same => ?_) fun entry => ?_
  · have stem := (congrArg stemOf same).symm.trans (stemOf_moduleKey entry.1)
    revert stem
    decide
  · rw [moduleRule, valuesOf_keywordCallRule]
    exact leadTo_common common (by decide)

theorem leadTo_commandRules : LeadTo keys (valuesOfMembers "include" (commandRules v)) := by
  refine leadTo_map _ (fun entry same => ?_) fun entry => ?_
  · have stem := (congrArg stemOf same).symm.trans (stemOf_commandKey entry.1)
    revert stem
    decide
  · rw [commandRule, valuesOf_keywordCallRule]
    exact leadTo_common common (by decide)

theorem leadTo_repository (commands : ∀ name ∈ v.commands.keys, commandKey name ∈ keys) :
    LeadTo keys (valuesOfMembers "include" (repository v)) := by
  have leading : valuesOfMembers "include" leadingRules =
      targets ["arguments", "arguments"] := rfl
  have inArguments : valuesOfMembers "include" argumentRules =
      targets ["comments", "bracket-arguments", "strings", "variable-references",
        "generator-expressions", "variables", "properties", "constants", "nested-parens",
        "arguments", "variable-references", "generator-expressions", "variable-references"] := rfl
  have inExpressions (names : List String) :
      valuesOf "include" (generatorExpressionsRule names) =
        targets ["variable-references", "generator-expressions"] := rfl
  have inNames (names : NameSet) (scope : String) :
      valuesOf "include" (namesRule names scope) = [] := rfl
  have trailing : valuesOfMembers "include" trailingRules = targets ["arguments"] := rfl
  have includes : valuesOf "include" (.object [patterns (commandIncludes v)]) =
      targets (v.commands.keys.map commandKey) := by
    rw [commandIncludes_eq, ← valuesOfItems_reference]
    simp [patterns, valuesOf, valuesOfMembers]
  simp only [repository, valuesOfMembers_append, valuesOfMembers, String.reduceEq, if_false,
    List.nil_append, leading, inArguments, inExpressions, inNames, trailing, includes,
    leadTo_append]
  refine ⟨leadTo_common common (by decide), leadTo_moduleRules v common, ?_,
    leadTo_commandRules v common, leadTo_common common (by decide),
    leadTo_common common (by decide), leadTo_common common (by decide)⟩
  refine leadTo_targets fun key mem => ?_
  obtain ⟨name, isCommand, rfl⟩ := List.mem_map.mp mem
  exact commands name isCommand

theorem leadTo_document (modules : ∀ name ∈ v.modules.keys, moduleKey name ∈ keys)
    (commands : ∀ name ∈ v.commands.keys, commandKey name ∈ keys) :
    LeadTo keys (valuesOf "include" (document v)) := by
  have inHeading : valuesOfMembers "include" heading = [] := rfl
  have leading : valuesOfItems "include" leadingIncludes =
      targets ["comments", "control-flow", "block-definitions"] := rfl
  have trailing : valuesOfItems "include" trailingIncludes =
      targets ["commands", "user-commands"] := rfl
  have includes : valuesOfItems "include" (moduleIncludes v) =
      targets (v.modules.keys.map moduleKey) := by
    rw [moduleIncludes_eq, valuesOfItems_reference]
  simp only [document, valuesOf, valuesOfMembers_append, valuesOfMembers, textMember, patterns,
    valuesOfItems_append, String.reduceEq, if_false, List.nil_append, List.append_nil, inHeading,
    leading, includes, trailing, leadTo_append]
  refine ⟨⟨leadTo_common common (by decide), ?_, leadTo_common common (by decide)⟩,
    leadTo_repository v common commands⟩
  refine leadTo_targets fun key mem => ?_
  obtain ⟨name, isModule, rfl⟩ := List.mem_map.mp mem
  exact modules name isModule

end

theorem filterMap_included? (keys : List String) :
    (keys.map reference).filterMap included? = keys.map ("#" ++ ·) := by
  induction keys with
  | nil => rfl
  | cons key keys ih =>
    have first : included? (reference key) = some ("#" ++ key) := rfl
    rw [List.map_cons, List.filterMap_cons_some first, ih, List.map_cons]

/-- Where distinct rules are included, each of them is included once. -/
theorem count_included? {keys : List String} (distinct : keys.Nodup) {key : String}
    (mem : key ∈ keys) : ((keys.map reference).filterMap included?).count ("#" ++ key) = 1 := by
  have injective : Function.Injective ("#" ++ · : String → String) :=
    fun _ _ same => (String.append_right_inj "#").mp same
  rw [filterMap_included?]
  exact List.count_eq_one_of_mem (distinct.map injective) (List.mem_map_of_mem mem)

def topKeys : List String :=
  ["comments", "control-flow", "block-definitions"] ++
    (v.modules.keys.map moduleKey ++ ["commands", "user-commands"])

theorem topIncludes_eq :
    leadingIncludes ++ (moduleIncludes v ++ trailingIncludes) = (topKeys v).map reference := by
  simp [topKeys, leadingIncludes, moduleIncludes, trailingIncludes]

theorem moduleKey_mem_topKeys {name : String} (mem : name ∈ v.modules.keys) :
    moduleKey name ∈ topKeys v :=
  List.mem_append_right _ (List.mem_append_left _ (List.mem_map_of_mem mem))

theorem topKeys_sublist : (topKeys v).Sublist ((repository v).map Prod.fst) := by
  have commands (others : List String) : ["commands", "user-commands"].Sublist
      ("commands" :: (others ++ ["arguments", "nested-parens", "bracket-arguments", "strings",
        "variable-references", "generator-expressions", "variables", "properties", "constants",
        "user-commands"])) := by
    refine .cons_cons _ (.trans ?_ (List.sublist_append_right _ _))
    decide
  rw [keys_repository, topKeys]
  exact (List.Sublist.refl _).append ((List.Sublist.refl _).append (commands _))

theorem commandKeys_sublist :
    (v.commands.keys.map commandKey).Sublist ((repository v).map Prod.fst) := by
  rw [keys_repository]
  refine .trans ?_ (List.sublist_append_right _ _)
  refine .trans ?_ (List.sublist_append_right _ _)
  exact .cons _ (List.sublist_append_left _ _)

theorem commonKeys_sublist : commonKeys.Sublist ((repository v).map Prod.fst) := by
  rw [keys_repository]
  refine (List.Sublist.refl _).append (.trans ?_ (List.sublist_append_right _ _))
  exact .cons_cons _ (List.sublist_append_right _ _)

theorem isLinked_document : IsLinked v (document v) (repository v) := by
  have distinct := nodup_repository v
  refine ⟨rfl, keys_repository v, distinct, ?resolved, ?modules, ?commands⟩
  case resolved =>
    refine leadTo_document v ?_ ?_ ?_
    · intro key mem
      exact (commonKeys_sublist v).subset mem
    · intro name mem
      exact (topKeys_sublist v).subset (moduleKey_mem_topKeys v mem)
    · intro name mem
      exact (commandKeys_sublist v).subset (List.mem_map_of_mem mem)
  case modules =>
    refine ⟨(topKeys v).map reference, ?_, rfl, ?_⟩
    · rw [← topIncludes_eq]
      rfl
    · intro name mem
      have distinct := distinct.sublist (topKeys_sublist v)
      exact count_included? distinct (moduleKey_mem_topKeys v mem)
  case commands =>
    refine ⟨.object [patterns (commandIncludes v)], ?_, ?_, ?_⟩
    · have here : ("commands", .object [patterns (commandIncludes v)]) ∈ repository v := by
        simp [repository]
      exact NameMap.lookup_of_mem distinct here
    · rw [commandIncludes_eq]
      rfl
    · intro name mem
      exact count_included? (distinct.sublist (commandKeys_sublist v)) (List.mem_map_of_mem mem)

/-- The grammar that the template makes of a vocabulary is linked, whatever characters the names of
commands and modules are made of. -/
theorem builtIn_linked :
    ∃ template, builtIn = .ok template ∧ ∀ v : Vocabulary, ∃ text document rules,
      (∀ stack, (render stack template v).result = .ok text) ∧ Json.parse? text = some document ∧
        IsLinked v document rules := by
  refine ⟨nodes, builtIn_eq, ?_⟩
  intro v
  obtain ⟨text, rendered, read⟩ := parse?_render v
  exact ⟨text, document v, repository v, rendered, read, isLinked_document v⟩

end Grammar
end CMakeGrammar
