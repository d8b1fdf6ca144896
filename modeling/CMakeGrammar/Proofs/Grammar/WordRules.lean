import CMakeGrammar.Proofs.Grammar.Description
import CMakeGrammar.Proofs.Help.Shape
import CMakeGrammar.Proofs.Regex.Words
/-! The rules of the grammar that match names as whole words: those of variables, of properties and
of the keywords of commands and of modules. -/
namespace CMakeGrammar.Grammar
open Text (Place isWordChar)

inductive WordRule
  | variableNames
  | properties
  | commandKeywords (command : String)
  | moduleKeywords (name : String)
  deriving DecidableEq, Repr

namespace WordRule

def names? (v : Vocabulary) : WordRule → Option NameSet
  | variableNames => some v.variableNames
  | properties => some v.properties
  | commandKeywords command => v.commands.get? command
  | moduleKeywords name => (v.modules.get? name).map (·.keywords)

def key : WordRule → String
  | variableNames => "variables"
  | properties => "properties"
  | commandKeywords command => commandKey command
  | moduleKeywords name => moduleKey name

def firstRule? (rule : Json) : Option Json :=
  match rule.get? "patterns" with
  | some (.array (first :: _)) => some first
  | _ => none

def within? : WordRule → Json → Option Json
  | variableNames, rule | properties, rule => some rule
  | commandKeywords _, call | moduleKeywords _, call => firstRule? call

def pattern? (v : Vocabulary) (rule : WordRule) : Option String := do
  let template ← builtIn.toOption
  let text ← (render 0 template v).result.toOption
  let document ← Json.parse? text
  let repository ← document.get? "repository"
  let inRepository ← repository.get? rule.key
  let found ← rule.within? inRepository
  match ← found.get? "match" with
  | .string pattern => some pattern
  | _ => none

def matches? (v : Vocabulary) (rule : WordRule) (text : List Char) : Option (List Place) := do
  let pattern ← rule.pattern? v
  let parts ← Regex.readParts? pattern
  some (Regex.search parts text)

theorem pattern?_of_lookup {v : Vocabulary} (rule : WordRule) {inRepository found : Json}
    {pattern : String} (here : (repository v).lookup rule.key = some inRepository)
    (isFound : rule.within? inRepository = some found)
    (isPattern : found.get? "match" = some (.string pattern)) : rule.pattern? v = some pattern := by
  obtain ⟨text, rendered, read⟩ := parse?_render v
  have rules : (document v).get? "repository" = some (.object (repository v)) := rfl
  have isHere : (Json.object (repository v)).get? rule.key = some inRepository := here
  rw [pattern?, builtIn_eq]
  simp only [Except.toOption, Option.bind_eq_bind, Option.bind_some, rendered, read, rules, isHere,
    isFound, isPattern]

theorem firstRule?_eq {rule first : Json} {others : List Json}
    (h : rule.get? "patterns" = some (.array (first :: others))) :
    firstRule? rule = some first := by
  rw [firstRule?, h]

theorem pattern?_eq {v : Vocabulary} {rule : WordRule} {names : NameSet}
    (found : rule.names? v = some names) (any : names.isEmpty = false) :
    rule.pattern? v = some (wordPattern names.toList) := by
  have rules := hasRules_repository v
  cases rule with
  | variableNames =>
    cases found
    obtain ⟨rule, here, isRule⟩ := rules.variableNames
    exact pattern?_of_lookup .variableNames here rfl (isRule.matchesNames any)
  | properties =>
    cases found
    obtain ⟨rule, here, isRule⟩ := rules.properties
    exact pattern?_of_lookup .properties here rfl (isRule.matchesNames any)
  | commandKeywords command =>
    obtain ⟨call, here, isCall⟩ := rules.command _ (NameMap.mem_entries_of_get? found)
    obtain ⟨first, patterns, isPattern⟩ := isCall.withKeywords any
    exact pattern?_of_lookup (.commandKeywords command) here (firstRule?_eq patterns) isPattern
  | moduleKeywords name =>
    obtain ⟨entry, isEntry, rfl⟩ := Option.map_eq_some_iff.mp found
    obtain ⟨call, here, isCall⟩ := rules.moduleEntry _ (NameMap.mem_entries_of_get? isEntry)
    obtain ⟨first, patterns, isPattern⟩ := isCall.withKeywords any
    exact pattern?_of_lookup (.moduleKeywords name) here (firstRule?_eq patterns) isPattern

theorem matches?_eq {v : Vocabulary} {rule : WordRule} {names : NameSet}
    (found : rule.names? v = some names) (any : names.isEmpty = false) (text : List Char) :
    rule.matches? v text = some (Regex.search (Regex.wordParts names.toList) text) := by
  rw [matches?, pattern?_eq found any, Option.bind_eq_bind, Option.bind_some, wordPattern,
    Regex.readParts?_words (NameSet.toList_ne_nil any) names.ascending]
  rfl

end WordRule

/-- Places from left to right, none reaching into another one: those of the words of a text that are
wanted. -/
structure AreWords (text : List Char) (wanted : List Char → Prop) (places : List Place) : Prop where
  apart : places.Pairwise fun o e => o.stop ≤ e.start
  whole : ∀ o, o ∈ places ↔ o.text = text ∧ o.IsRun isWordChar ∧ wanted o.inside

namespace WordRule
variable {v : Vocabulary} {rule : WordRule} {names : NameSet}

theorem areWords_of_names (found : rule.names? v = some names) (any : names.isEmpty = false)
    (words : ∀ name ∈ names, Text.IsWord name) (text : List Char) :
    ∃ places, rule.matches? v text = some places ∧
      AreWords text (fun word => String.ofList word ∈ names) places := by
  refine ⟨_, matches?_eq found any text, Regex.pairwise_search _ text, fun o => ?_⟩
  exact Regex.mem_search_wordParts (NameSet.toList_ne_nil any) words

/-- A rule matches exactly the words of a text that are among its names, each as a whole. If the
names are the keywords of the text itself, these are all places where a keyword stands, and each
keyword stands somewhere. -/
theorem matches?_areWords (found : rule.names? v = some names) (any : names.isEmpty = false)
    (text : List Char) :
    ((∀ name ∈ names, Text.IsWord name) → ∃ places, rule.matches? v text = some places ∧
      AreWords text (fun word => String.ofList word ∈ names) places) ∧
    ∀ stoplist, names = Help.keywords stoplist (String.ofList text) →
      ∃ places, rule.matches? v text = some places ∧
        AreWords text (fun word => Help.IsKeyword word ∧ String.ofList word ∉ stoplist) places ∧
        ∀ name ∈ names, ∃ o ∈ places, o.inside = name.toList := by
  refine ⟨fun words => areWords_of_names found any words text, ?_⟩
  rintro stoplist rfl
  obtain ⟨places, isFound, apart, whole⟩ :=
    areWords_of_names found any (fun _ mem => Help.isWord_of_mem_keywords mem) text
  refine ⟨places, isFound, ⟨apart, fun o => ?_⟩, fun name mem => ?_⟩
  · rw [whole]
    constructor
    · rintro ⟨rfl, isRun, isName⟩
      exact ⟨rfl, isRun, (Help.mem_keywords_iff_of_isRun isRun).mp isName⟩
    · rintro ⟨rfl, isRun, wanted⟩
      exact ⟨rfl, isRun, (Help.mem_keywords_iff_of_isRun isRun).mpr wanted⟩
  · obtain ⟨o, isText, isRun, inside⟩ := Help.exists_isRun_of_mem_keywords mem
    refine ⟨o, (whole o).mpr ⟨isText, isRun, ?_⟩, inside⟩
    rwa [inside, String.ofList_toList]

def versions : Vocabulary :=
  { (default : Vocabulary) with
    commands := .ofList [("project", .ofList ["VERSION", "VERSION_LIST"])] }

theorem matches?_areWords_versions :
    (commandKeywords "project").names? versions = some (.ofList ["VERSION", "VERSION_LIST"]) ∧
      ∃ places, (commandKeywords "project").matches? versions "VERSION_LIST VERSION".toList =
        some places ∧
          AreWords "VERSION_LIST VERSION".toList
            (fun word => String.ofList word ∈ NameSet.ofList ["VERSION", "VERSION_LIST"]) places ∧
          ∀ name ∈ NameSet.ofList ["VERSION", "VERSION_LIST"],
            ∃ o ∈ places, o.inside = name.toList := by
  have found : (commandKeywords "project").names? versions =
      some (.ofList ["VERSION", "VERSION_LIST"]) := by decide
  have any : (NameSet.ofList ["VERSION", "VERSION_LIST"]).isEmpty = false := by decide
  have words : ∀ name ∈ NameSet.ofList ["VERSION", "VERSION_LIST"], Text.IsWord name := by decide
  have keywords : NameSet.ofList ["VERSION", "VERSION_LIST"] =
      Help.keywords ∅ (String.ofList "VERSION_LIST VERSION".toList) := by decide
  obtain ⟨ofNames, ofKeywords⟩ := matches?_areWords found any "VERSION_LIST VERSION".toList
  obtain ⟨places, isFound, areWords⟩ := ofNames words
  obtain ⟨others, isSame, -, all⟩ := ofKeywords ∅ keywords
  obtain rfl : places = others := Option.some.inj (isFound.symm.trans isSame)
  exact ⟨found, places, isFound, areWords, all⟩

end WordRule
end CMakeGrammar.Grammar
