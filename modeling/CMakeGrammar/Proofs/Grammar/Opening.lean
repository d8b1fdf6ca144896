import CMakeGrammar.Proofs.Regex.Alternatives
import CMakeGrammar.Proofs.Grammar.Description
import CMakeGrammar.Help.GeneratorExpression
/-! What the grammar takes for the name of a generator expression. Nothing has to stand behind the
name, and the names are tried in ascending order, so it is the shortest name that fits. -/
namespace CMakeGrammar

namespace Regex

open Expression

theorem read?_openingPattern {names : List String} (some : names ≠ [])
    (sorted : names.Pairwise (· < ·)) :
    read? (Grammar.openingPattern names) = .some (['$', '<'].foldr
      (fun c e => .both (.character c) e)
        (.both (.maybe (.group 1 (alternation (names.map String.toList)))) .nothing)) := by
  have signs : (Grammar.openingPattern names).toList = '\\' :: '$' :: '<' :: '(' ::
      ((Alternation.join names).toList ++ [')', '?']) := by
    rw [Grammar.openingPattern, Alternation.ofNames_of_pairwise sorted, String.toList_append,
      String.toList_append]
    rfl
  have dollar : '$' ∈ Alternation.metaChars := by decide
  have angle : '<' ∉ Alternation.metaChars := by decide
  have start (rest : List Char) : readFrom 0 ⟨0, [], []⟩ [] ('\\' :: '$' :: '<' :: '(' :: rest) =
      readFrom 1 ⟨1, [], []⟩ [⟨0, [], [.character '<', .character '$']⟩] rest := by
    simp [readFrom, OpenGroup.push, dollar, angle]
  rw [read?, signs, start, readFrom_names some]
  rfl

end Regex

/-- Of the names that a text begins with, the first in ascending order is the shortest. -/
theorem isPrefix_of_find? {names : List String} (sorted : names.Pairwise (· < ·)) {first : String}
    {text : List Char} (found : names.find? (·.toList.isPrefixOf text) = some first)
    {name : String} (mem : name ∈ names) (begins : name.toList <+: text) :
    first.toList <+: name.toList := by
  obtain ⟨fits, before, behind, rfl, misfits⟩ := List.find?_eq_some_iff_append.mp found
  have fits : first.toList <+: text := List.isPrefixOf_iff_prefix.mp fits
  rcases List.mem_append.mp mem with early | late
  · have misfit := misfits name early
    rw [List.isPrefixOf_iff_prefix.mpr begins] at misfit
    simp at misfit
  · rcases List.mem_cons.mp late with rfl | later
    · exact List.prefix_rfl
    · have less : first < name :=
        (List.pairwise_cons.mp (List.pairwise_append.mp sorted).2.1).1 name later
      rcases List.prefix_or_prefix_of_prefix fits begins with shorter | longer
      · exact shorter
      · exact absurd (String.lt_iff.mp less) longer.le

namespace Grammar

/-- The pattern of the opening of a generator expression, as it stands in the text that the
grammar's template makes. -/
def opening? (v : Vocabulary) : Option String := do
  let template ← builtIn.toOption
  let text ← (render 0 template v).result.toOption
  let document ← Json.parse? text
  let repository ← document.get? "repository"
  let rule ← repository.get? "generator-expressions"
  match ← rule.get? "begin" with
  | .string pattern => some pattern
  | _ => none

/-- What the pattern captures as the name where a generator expression of a name begins. -/
def highlighted? (v : Vocabulary) (name : String) : Option (List Char) := do
  let pattern ← opening? v
  let e ← Regex.read? pattern
  e.captured? 1 ("$<".toList ++ (name.toList ++ [':']))

theorem opening?_eq (v : Vocabulary) :
    opening? v = some (openingPattern v.generatorExpressions.toList) := by
  obtain ⟨text, rendered, read⟩ := parse?_render v
  obtain ⟨rule, here, pattern⟩ := (hasRules_repository v).generatorExpressions
  have rules : (document v).get? "repository" = some (.object (repository v)) := rfl
  have found : (Json.object (repository v)).get? "generator-expressions" = some rule := here
  rw [opening?, builtIn_eq]
  simp only [Except.toOption, Option.bind_eq_bind, Option.bind_some, rendered, read, rules, found,
    pattern, openingPattern]

theorem highlighted?_eq {v : Vocabulary} {name : String} (mem : name ∈ v.generatorExpressions) :
    highlighted? v name = (v.generatorExpressions.toList.find?
      (·.toList.isPrefixOf (name.toList ++ [':']))).map String.toList := by
  have some : v.generatorExpressions.toList ≠ [] := List.ne_nil_of_mem mem
  have names : v.generatorExpressions.toList.map String.toList ≠ [] := by simpa using some
  rw [highlighted?, opening?_eq, Option.bind_eq_bind, Option.bind_some,
    Regex.read?_openingPattern some v.generatorExpressions.ascending, Option.bind_eq_bind,
    Option.bind_some]
  have captured := Regex.Expression.captured?_alternation names ['$', '<'] 1 (name.toList ++ [':'])
  rw [List.find?_map] at captured
  exact captured

/-- Where a generator expression begins, the shortest name that the expression's name begins with is
taken for its name. The whole name is taken exactly if no other name is a beginning of it. -/
theorem highlighted?_shortest {v : Vocabulary} {name : String}
    (mem : name ∈ v.generatorExpressions) :
    (∃ first ∈ v.generatorExpressions, highlighted? v name = some first.toList ∧
      first.toList <+: name.toList ∧
        ∀ other ∈ v.generatorExpressions, other.toList <+: name.toList →
          first.toList <+: other.toList) ∧
    (highlighted? v name = some name.toList ↔
      ∀ other ∈ v.generatorExpressions, other.toList <+: name.toList → other = name) := by
  have ascending := v.generatorExpressions.ascending
  have fits : name.toList <+: name.toList ++ [':'] := List.prefix_append _ _
  obtain ⟨first, found⟩ : ∃ first, v.generatorExpressions.toList.find?
      (·.toList.isPrefixOf (name.toList ++ [':'])) = some first := by
    apply Option.isSome_iff_exists.mp
    exact List.find?_isSome.mpr ⟨name, mem, List.isPrefixOf_iff_prefix.mpr fits⟩
  have taken : highlighted? v name = some first.toList := by
    rw [highlighted?_eq mem, found, Option.map_some]
  have here : first ∈ v.generatorExpressions := List.mem_of_find?_eq_some found
  have shortest : ∀ other ∈ v.generatorExpressions, other.toList <+: name.toList →
      first.toList <+: other.toList := by
    intro other mem begins
    exact isPrefix_of_find? ascending found mem (begins.trans fits)
  have start := shortest name mem List.prefix_rfl
  refine ⟨⟨first, here, taken, start, shortest⟩, ?_, ?_⟩
  · intro whole other mem begins
    have same : first.toList = name.toList := Option.some.inj (taken.symm.trans whole)
    have extension := shortest other mem begins
    rw [same] at extension
    exact String.toList_inj.mp (begins.eq_of_length_le extension.length_le)
  · intro only
    rw [taken, only first here start]

/-- A vocabulary with two generator expressions, the name of one a beginning of the other's. -/
def targetFiles : Vocabulary :=
  { (default : Vocabulary) with
    generatorExpressions := ⟨["TARGET_FILE", "TARGET_FILE_NAME"], by decide⟩ }

theorem highlighted?_shortest_targetFiles :
    "TARGET_FILE_NAME" ∈ targetFiles.generatorExpressions ∧
      (∃ first ∈ targetFiles.generatorExpressions,
        highlighted? targetFiles "TARGET_FILE_NAME" = some first.toList ∧
          first.toList <+: "TARGET_FILE_NAME".toList) ∧
      (highlighted? targetFiles "TARGET_FILE_NAME" = some "TARGET_FILE_NAME".toList ↔
        ∀ other ∈ targetFiles.generatorExpressions,
          other.toList <+: "TARGET_FILE_NAME".toList → other = "TARGET_FILE_NAME") := by
  have mem : "TARGET_FILE_NAME" ∈ targetFiles.generatorExpressions := by decide
  obtain ⟨⟨first, here, taken, start, -⟩, whole⟩ := highlighted?_shortest mem
  exact ⟨mem, ⟨first, here, taken, start⟩, whole⟩

theorem highlighted?_not_whole :
    ¬∀ v : Vocabulary, (∀ name ∈ v.generatorExpressions,
      name ≠ "" ∧ name.toList.all Help.isKeywordChar = true) →
        ∀ name ∈ v.generatorExpressions, highlighted? v name = some name.toList := by
  intro whole
  have scanned : ∀ name ∈ targetFiles.generatorExpressions,
      name ≠ "" ∧ name.toList.all Help.isKeywordChar = true := by decide
  have mem : "TARGET_FILE_NAME" ∈ targetFiles.generatorExpressions := by decide
  have taken := whole targetFiles scanned "TARGET_FILE_NAME" mem
  rw [highlighted?_eq mem] at taken
  revert taken
  decide

end Grammar
end CMakeGrammar
