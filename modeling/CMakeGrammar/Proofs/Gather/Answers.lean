import CMakeGrammar.Proofs.Gather.Plan
import CMakeGrammar.Proofs.NameMap.Lookup
/-! What each part of a run makes of the answers it gets. A part succeeds if the answer is there and
is taken; so two runs whose queries are answered alike (`AnswersAlike`) have that part in common. -/
namespace CMakeGrammar.Gather

variable {c c' : Client} {e e' : Extraction}

theorem bind_eq_ok_iff {α β : Type} {x : Gathering α} {f : α → Gathering β} {b : β} :
    (x >>= f).result = .ok b ↔ ∃ a, x.result = .ok a ∧ (f a).result = .ok b := by
  refine ⟨ok_of_bind, ?_⟩
  rintro ⟨a, first, second⟩
  rw [Recorded.bind_of_ok first, second]

theorem query_bind_eq_ok_iff {α : Type} {q : Query} {f : String → Gathering α} {a : α} :
    (c.query q >>= f).result = .ok a ↔
      ∃ output, c.answer q.arguments = .ok output ∧ (f output).result = .ok a :=
  bind_eq_ok_iff

theorem version_eq_ok_iff {v : String} :
    (version c).result = .ok v ↔
      ∃ output, c.answer Query.version.arguments = .ok output ∧
        Help.version? output = some v := by
  refine query_bind_eq_ok_iff.trans (exists_congr fun output => and_congr_right fun _ => ?_)
  cases found : Help.version? output <;> simp

theorem listing_eq_ok_iff {q : Query} {names : NameSet} :
    (listing c e q).result = .ok names ↔
      ∃ output, c.answer q.arguments = .ok output ∧
        Help.expand e.placeholder e.languages (Help.listingEntries output) = names := by
  refine query_bind_eq_ok_iff.trans (exists_congr fun output => and_congr_right fun _ => ?_)
  rw [Recorded.bind_of_ok (a := ()) rfl]
  simp

theorem commandKeywords_eq_ok_iff {command : String} {keywords : NameSet} :
    (commandKeywords c e command).result = .ok keywords ↔
      ∃ help, c.answer (Query.command command).arguments = .ok help ∧
        Help.isSearchable command = true ∧
          Help.signatureKeywords e.stoplist command help = keywords := by
  refine query_bind_eq_ok_iff.trans (exists_congr fun help => and_congr_right fun _ => ?_)
  exact signatureKeywords_eq_ok_iff

theorem generatorExpressions_eq_ok_iff {names : NameSet} :
    (generatorExpressions c e).result = .ok names ↔
      ∃ help, c.answer (Query.manual e.manual).arguments = .ok help ∧
        Help.generatorExpressions help = names := by
  refine query_bind_eq_ok_iff.trans (exists_congr fun help => and_congr_right fun _ => ?_)
  simp

theorem moduleEntry_eq_ok_iff {name : String} {entry : ModuleEntry} :
    (moduleEntry c e name).result = .ok entry ↔
      ∃ help, c.answer (Query.moduleHelp name).arguments = .ok help ∧
        ∃ functions, Help.moduleFunctions? help = some functions ∧
          (⟨name, functions, Help.moduleKeywords e.stoplist help⟩ : ModuleEntry) = entry := by
  refine query_bind_eq_ok_iff.trans (exists_congr fun help => and_congr_right fun _ => ?_)
  cases found : Help.moduleFunctions? help <;> simp

theorem keywordsOf_of_ok {names : List String} {found : List (String × NameSet)}
    (h : (keywordsOf c e names).result = .ok found) :
    found.map Prod.fst = names ∧
      ∀ entry ∈ found, (commandKeywords c e entry.1).result = .ok entry.2 := by
  induction names generalizing found with
  | nil =>
    cases h
    exact ⟨rfl, List.forall_mem_nil _⟩
  | cons command others ih =>
    obtain ⟨keywords, first, h⟩ := ok_of_bind h
    obtain ⟨_, -, h⟩ := ok_of_bind h
    obtain ⟨rest, isRest, h⟩ := ok_of_bind h
    cases h
    obtain ⟨names, entries⟩ := ih isRest
    exact ⟨by rw [List.map_cons, names], List.forall_mem_cons.mpr ⟨first, entries⟩⟩

theorem entriesOf_of_ok {names : List String} {found : List (String × ModuleEntry)}
    (h : (entriesOf c e names).result = .ok found) :
    found.map Prod.fst = names ∧
      ∀ entry ∈ found, (moduleEntry c e entry.1).result = .ok entry.2 := by
  induction names generalizing found with
  | nil =>
    cases h
    exact ⟨rfl, List.forall_mem_nil _⟩
  | cons name others ih =>
    obtain ⟨m, first, h⟩ := ok_of_bind h
    obtain ⟨rest, isRest, h⟩ := ok_of_bind h
    cases h
    obtain ⟨names, entries⟩ := ih isRest
    exact ⟨by rw [List.map_cons, names], List.forall_mem_cons.mpr ⟨first, entries⟩⟩

theorem ok_unique {α : Type} {g : Gathering α} {a b : α} (h : g.result = .ok a)
    (h' : g.result = .ok b) : a = b :=
  Except.ok.inj (h.symm.trans h')

theorem get?_of_commandMap {commands : NameMap NameSet}
    (h : (commandMap c e).result = .ok commands) {command : String} {keywords : NameSet} :
    commands.get? command = some keywords ↔
      command ∈ kept c e ∧ (commandKeywords c e command).result = .ok keywords := by
  obtain ⟨names, areNames, h⟩ := ok_of_bind h
  obtain ⟨found, isFound, h⟩ := ok_of_bind h
  cases h
  obtain ⟨keys, entries⟩ := keywordsOf_of_ok isFound
  rw [NameMap.get?_ofList_eq_some_iff (fun k v => (commandKeywords c e k).result = .ok v)
    (fun _ _ _ => ok_unique) entries, keys, toList_commands c e areNames]
  rfl

theorem keys_of_commandMap {commands : NameMap NameSet}
    (h : (commandMap c e).result = .ok commands) : commands.keys = (kept c e).toList := by
  obtain ⟨names, areNames, h⟩ := ok_of_bind h
  obtain ⟨found, isFound, h⟩ := ok_of_bind h
  cases h
  apply NameSet.eq_of_forall_mem (NameMap.ascending _) (kept c e).ascending
  intro command
  rw [← NameMap.keys, NameMap.mem_keys_ofList, (keywordsOf_of_ok isFound).1,
    toList_commands c e areNames]

theorem get?_of_modules {found : NameMap ModuleEntry} (h : (modules c e).result = .ok found)
    {name : String} {entry : ModuleEntry} :
    found.get? name = some entry ↔
      name ∈ e.modules ∧ (moduleEntry c e name).result = .ok entry := by
  obtain ⟨found, isFound, h⟩ := ok_of_bind h
  cases h
  obtain ⟨keys, entries⟩ := entriesOf_of_ok isFound
  rw [NameMap.get?_ofList_eq_some_iff (fun k v => (moduleEntry c e k).result = .ok v)
    (fun _ _ _ => ok_unique) entries, keys]

theorem mem_keys_of_modules {found : NameMap ModuleEntry} (h : (modules c e).result = .ok found)
    {name : String} : name ∈ found.keys ↔ name ∈ e.modules := by
  obtain ⟨found, isFound, h⟩ := ok_of_bind h
  cases h
  rw [NameMap.mem_keys_ofList, (entriesOf_of_ok isFound).1]

/-- Two clients give the same answer to a query, if they give one. -/
def AnswersAlike (c c' : Client) (q : Query) : Prop :=
  ∀ output, c.answer q.arguments = .ok output ↔ c'.answer q.arguments = .ok output

theorem answersAlike_of_eq {q : Query} (h : c.answer q.arguments = c'.answer q.arguments) :
    AnswersAlike c c' q := fun _ => by rw [h]

theorem version_alike (h : AnswersAlike c c' .version) {v : String} :
    (version c).result = .ok v ↔ (version c').result = .ok v := by
  simp only [version_eq_ok_iff, h _]

theorem listing_alike {q : Query} (h : AnswersAlike c c' q) {names : NameSet} :
    (listing c e q).result = .ok names ↔ (listing c' e q).result = .ok names := by
  simp only [listing_eq_ok_iff, h _]

theorem commandKeywords_alike {command : String} (h : AnswersAlike c c' (.command command))
    {keywords : NameSet} :
    (commandKeywords c e command).result = .ok keywords ↔
      (commandKeywords c' e command).result = .ok keywords := by
  simp only [commandKeywords_eq_ok_iff, h _]

theorem generatorExpressions_alike (h : AnswersAlike c c' (.manual e.manual)) {names : NameSet} :
    (generatorExpressions c e).result = .ok names ↔
      (generatorExpressions c' e).result = .ok names := by
  simp only [generatorExpressions_eq_ok_iff, h _]

theorem moduleEntry_alike {name : String} (h : AnswersAlike c c' (.moduleHelp name))
    {entry : ModuleEntry} :
    (moduleEntry c e name).result = .ok entry ↔ (moduleEntry c' e name).result = .ok entry := by
  simp only [moduleEntry_eq_ok_iff, h _]

end CMakeGrammar.Gather
