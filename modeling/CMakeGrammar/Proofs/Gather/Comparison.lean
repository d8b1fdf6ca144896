import CMakeGrammar.Proofs.Gather.Answers
/-! Two runs side by side. Runs with one plan whose queries fail alike put the same queries and end
alike; what each of them gathers is then compared part by part. A table answers by the lines of the
queries, of which no two are the same (`Query.line_injective`). -/
namespace CMakeGrammar.Gather
variable {α : Type} {c c' : Client} {e e' : Extraction}

theorem follow_congr {plan : List Query} (alike : ∀ q ∈ plan, failure? c q = failure? c' q) :
    follow c plan = follow c' plan := by
  induction plan with
  | nil => rfl
  | cons q plan ih =>
    obtain ⟨first, others⟩ := List.forall_mem_cons.mp alike
    rw [follow, follow, first, ih others]

theorem follow_of_passed {plan : List Query} (h : ∀ q ∈ plan, failure? c q = none) :
    (follow c plan).2 = none := by
  induction plan with
  | nil => rfl
  | cons q plan ih =>
    obtain ⟨first, others⟩ := List.forall_mem_cons.mp h
    rw [follow, first]
    exact ih others

theorem error?_eq_none_iff {result : Except Error α} :
    error? result = none ↔ ∃ a, result = .ok a := by
  cases result <;> simp [error?]

theorem error?_eq_some_iff {result : Except Error α} {error : Error} :
    error? result = some error ↔ result = .error error := by
  cases result <;> simp [error?]

theorem exists_ok_of_error?_eq {x : Except Error α} {y : Except Error α}
    (ends : error? x = error? y)
    {a : α} (ok : x = .ok a) : ∃ b, y = .ok b := by
  rw [← error?_eq_none_iff, ← ends, ok]
  rfl

theorem result_eq {x y : Except Error α} (ends : error? x = error? y)
    (same : ∀ a b, x = .ok a → y = .ok b → a = b) : x = y := by
  cases x with
  | ok a =>
    obtain ⟨b, rfl⟩ := exists_ok_of_error?_eq ends rfl
    rw [same a b rfl rfl]
  | error problem =>
    cases y with
    | ok b => cases ends
    | error other => rw [Option.some.inj ends]

/-- Runs with one plan whose queries fail alike put the same queries and fail alike. -/
theorem queries_vocabulary_congr (samePlan : plan (kept c e).toList e = plan (kept c' e').toList e')
    (alike : ∀ q ∈ plan (kept c e).toList e, failure? c q = failure? c' q) :
    (vocabulary c e).queries = (vocabulary c' e').queries ∧
      error? (vocabulary c e).result = error? (vocabulary c' e').result := by
  have here := follows_vocabulary c e
  have there := follows_vocabulary c' e'
  rw [← samePlan] at there
  exact ⟨by rw [here.queries, there.queries, follow_congr alike],
    by rw [here.error, there.error, follow_congr alike]⟩

theorem queries_of_ok {v : Vocabulary} (h : (vocabulary c e).result = .ok v) :
    (vocabulary c e).queries = (plan (kept c e).toList e).map Query.arguments ∧
      ∀ q ∈ plan (kept c e).toList e, failure? c q = none := by
  have follows := follows_vocabulary c e
  have ended := follows.error
  rw [h] at ended
  obtain ⟨whole, passed⟩ := follow_of_none ended.symm
  exact ⟨by rw [follows.queries, whole], passed⟩

theorem exists_ok_of_passed (h : ∀ q ∈ plan (kept c e).toList e, failure? c q = none) :
    ∃ v, (vocabulary c e).result = .ok v := by
  rw [← error?_eq_none_iff, (follows_vocabulary c e).error]
  exact follow_of_passed h

theorem eq_of_parts {v w : Vocabulary} (version : v.version = w.version)
    (variableNames : v.variableNames = w.variableNames) (commands : v.commands = w.commands)
    (generatorExpressions : v.generatorExpressions = w.generatorExpressions)
    (properties : v.properties = w.properties) (modules : v.modules = w.modules) : v = w := by
  cases v
  cases w
  simp_all

theorem commandMap_unique_of_kept {commands others : NameMap NameSet}
    (h : (commandMap c e).result = .ok commands) (h' : (commandMap c' e').result = .ok others)
    (sameKept : ∀ command, command ∈ kept c e ↔ command ∈ kept c' e')
    (alike : ∀ command ∈ kept c e, ∀ keywords, (commandKeywords c e command).result = .ok keywords ↔
      (commandKeywords c' e' command).result = .ok keywords) : commands = others := by
  apply NameMap.ext_get?
  intro command keywords
  rw [get?_of_commandMap h, get?_of_commandMap h', ← sameKept]
  exact and_congr_right fun isKept => alike command isKept keywords

theorem commandMap_unique {commands others : NameMap NameSet}
    (h : (commandMap c e).result = .ok commands) (h' : (commandMap c' e').result = .ok others)
    (sameKept : ∀ command, command ∈ kept c e ↔ command ∈ kept c' e')
    (alike : ∀ command keywords, (commandKeywords c e command).result = .ok keywords ↔
      (commandKeywords c' e' command).result = .ok keywords) : commands = others :=
  commandMap_unique_of_kept h h' sameKept fun command _ => alike command

theorem modules_unique_of_named {found others : NameMap ModuleEntry}
    (h : (modules c e).result = .ok found) (h' : (modules c' e').result = .ok others)
    (sameNames : e.modules = e'.modules)
    (alike : ∀ name ∈ e.modules, ∀ entry, (moduleEntry c e name).result = .ok entry ↔
      (moduleEntry c' e' name).result = .ok entry) : found = others := by
  apply NameMap.ext_get?
  intro name entry
  rw [get?_of_modules h, get?_of_modules h', ← sameNames]
  exact and_congr_right fun isNamed => alike name isNamed entry

theorem modules_unique {found others : NameMap ModuleEntry}
    (h : (modules c e).result = .ok found) (h' : (modules c' e').result = .ok others)
    (sameNames : e.modules = e'.modules)
    (alike : ∀ name entry, (moduleEntry c e name).result = .ok entry ↔
      (moduleEntry c' e' name).result = .ok entry) : found = others :=
  modules_unique_of_named h h' sameNames fun name _ => alike name

theorem kept_congr
    (h : c.answer Query.commandList.arguments = c'.answer Query.commandList.arguments) :
    kept c e = kept c' e := by
  rw [kept, kept, h]

section
variable {responses others : NameMap String} {q : Query}

theorem exists_response {answer : String}
    (h : (Client.ofTable responses).answer q.arguments = .ok answer) :
    ∃ output, responses.get? q.line = some output ∧ Text.trim output = answer := by
  cases found : responses.get? q.line with
  | none =>
    rw [answer_of_none found] at h
    cases h
  | some output =>
    rw [answer_of_some found] at h
    exact ⟨output, rfl, Except.ok.inj h⟩

theorem answer_ofTable_congr
    (h : (responses.get? q.line).map Text.trim = (others.get? q.line).map Text.trim) :
    (Client.ofTable responses).answer q.arguments = (Client.ofTable others).answer q.arguments := by
  cases here : responses.get? q.line with
  | none =>
    rw [here, Option.map_none, eq_comm, Option.map_eq_none_iff] at h
    rw [answer_of_none here, answer_of_none h]
  | some output =>
    rw [here, Option.map_some, eq_comm, Option.map_eq_some_iff] at h
    obtain ⟨other, there, same⟩ := h
    rw [answer_of_some here, answer_of_some there, same]

theorem askedLines_of_ok {v : Vocabulary}
    (h : (vocabulary (.ofTable responses) e).result = .ok v) :
    askedLines responses e = (plan (kept (.ofTable responses) e).toList e).map Query.line := by
  rw [askedLines, (queries_of_ok h).1, List.map_map]
  rfl

end

end CMakeGrammar.Gather
