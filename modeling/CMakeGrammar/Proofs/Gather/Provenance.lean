import CMakeGrammar.Proofs.Gather.Comparison
import CMakeGrammar.Proofs.Gather.WellFormed
/-! Where the parts of a vocabulary come from. Each query feeds one part, or the entry of one
command or one module; with another answer to it nothing else is gathered otherwise. -/
namespace CMakeGrammar.Gather
variable {responses others : NameMap String} {q : Query} {c c' : Client} {e : Extraction}
  {v w : Vocabulary}

/-- Vocabularies that agree but in what a query feeds: a whole part, or the entry of one name. -/
structure AgreeBut (q : Query) (v w : Vocabulary) (e : Extraction) : Prop where
  version : q ≠ .version → v.version = w.version
  variableNames : q ≠ .variableList → v.variableNames = w.variableNames
  commandKeys : v.commands.keys = w.commands.keys
  commands : ∀ name, q ≠ .command name → v.commands.get? name = w.commands.get? name
  generatorExpressions : q ≠ .manual e.manual → v.generatorExpressions = w.generatorExpressions
  properties : q ≠ .propertyList → v.properties = w.properties
  moduleKeys : v.modules.keys = w.modules.keys
  modules : ∀ name, q ≠ .moduleHelp name → v.modules.get? name = w.modules.get? name

theorem agreeBut_of_alike (sameKept : kept c e = kept c' e)
    (alike : ∀ p, q ≠ p → AnswersAlike c c' p) (here : IsGathered c e v)
    (there : IsGathered c' e w) : AgreeBut q v w e where
  version other := ok_unique ((version_alike (alike _ other)).mp here.version) there.version
  variableNames other :=
    ok_unique ((listing_alike (alike _ other)).mp here.variableNames) there.variableNames
  commandKeys := by
    rw [keys_of_commandMap here.commands, keys_of_commandMap there.commands, sameKept]
  commands name other := by
    apply Option.ext
    intro keywords
    rw [get?_of_commandMap here.commands, get?_of_commandMap there.commands, sameKept,
      commandKeywords_alike (alike _ other)]
  generatorExpressions other :=
    ok_unique ((generatorExpressions_alike (alike _ other)).mp here.generatorExpressions)
      there.generatorExpressions
  properties other :=
    ok_unique ((listing_alike (alike _ other)).mp here.properties) there.properties
  moduleKeys := by
    apply NameSet.eq_of_forall_mem v.modules.ascending w.modules.ascending
    intro name
    rw [← NameMap.keys, ← NameMap.keys, mem_keys_of_modules here.modules,
      mem_keys_of_modules there.modules]
  modules name other := by
    apply Option.ext
    intro entry
    rw [get?_of_modules here.modules, get?_of_modules there.modules,
      moduleEntry_alike (alike _ other)]

/-- Tables that differ in the answer to one query, which is not that for the list of commands: runs
over them that end well put the same queries, and what they gather differs in what that query
feeds. -/
theorem vocabulary_agreeBut (notList : q ≠ .commandList)
    (same : ∀ line, line ≠ q.line → responses.get? line = others.get? line)
    (here : (vocabulary (.ofTable responses) e).result = .ok v)
    (there : (vocabulary (.ofTable others) e).result = .ok w) :
    askedLines responses e = askedLines others e ∧ AgreeBut q v w e := by
  have answers (p : Query) (other : q ≠ p) : (Client.ofTable responses).answer p.arguments =
      (Client.ofTable others).answer p.arguments := by
    apply answer_ofTable_congr
    rw [same p.line fun sameLine => other (Query.line_injective sameLine).symm]
  have sameKept : kept (.ofTable responses) e = kept (.ofTable others) e :=
    kept_congr (answers _ notList)
  refine ⟨by rw [askedLines_of_ok here, askedLines_of_ok there, sameKept], ?_⟩
  exact agreeBut_of_alike sameKept (fun p other => answersAlike_of_eq (answers p other))
    (isGathered_of_ok _ _ here) (isGathered_of_ok _ _ there)

/-- `smallHelp` with another signature of one command. -/
def changedHelp : NameMap String :=
  smallHelp.insert (Query.command "project").line "project(<name>\n [VERSION <version>])\n"

def changedVocabulary : Vocabulary :=
  { smallVocabulary with commands := .ofList [("project", .ofList ["VERSION"])] }

theorem vocabulary_agreeBut_project :
    Query.command "project" ≠ .commandList ∧
      (∀ line, line ≠ (Query.command "project").line →
        smallHelp.get? line = changedHelp.get? line) ∧
      (vocabulary (.ofTable smallHelp) smallSettings).result = .ok smallVocabulary ∧
      (vocabulary (.ofTable changedHelp) smallSettings).result = .ok changedVocabulary ∧
      askedLines smallHelp smallSettings = askedLines changedHelp smallSettings ∧
      AgreeBut (.command "project") smallVocabulary changedVocabulary smallSettings := by
  have notList : Query.command "project" ≠ .commandList := nofun
  have same : ∀ line, line ≠ (Query.command "project").line →
      smallHelp.get? line = changedHelp.get? line := by
    intro line other
    rw [changedHelp, NameMap.get?_insert, if_neg other]
  have there : (vocabulary (.ofTable changedHelp) smallSettings).result = .ok changedVocabulary :=
    ok_of_toOption (by decide +kernel)
  exact ⟨notList, same, gathered_small, there,
    vocabulary_agreeBut notList same gathered_small there⟩

end CMakeGrammar.Gather
