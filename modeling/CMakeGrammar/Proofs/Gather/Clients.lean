import CMakeGrammar.Proofs.Gather.Comparison
import CMakeGrammar.Proofs.Gather.WellFormed
import CMakeGrammar.Proofs.Text.Utf8
import CMakeGrammar.Reply
/-! Clients that answer alike. A run knows its client by the answers, so clients with the same
answers are asked the same, and their runs come to the same vocabulary or stop at the same query;
only the name of the client shows in what is said of an answer that is not taken. An executable that
prints the texts of a table is asked like the table itself. -/
namespace CMakeGrammar.Gather

/-- Why an answer that two clients share is not taken from either. -/
inductive RejectedAlike (c c' : Client) : Query → Error → Error → Prop
  | missingVersion (output : String) : RejectedAlike c c' .version
      (.missingVersion (Client.commandLine c.name ["--version"]) output)
      (.missingVersion (Client.commandLine c'.name ["--version"]) output)
  | unsearchable (command : String) : RejectedAlike c c' (.command command)
      (unsearchable command) (unsearchable command)
  | emptyModule (name : String) : RejectedAlike c c' (.moduleHelp name)
      (.emptyModule name (Client.commandLine c.name ["--help-module", name]))
      (.emptyModule name (Client.commandLine c'.name ["--help-module", name]))

/-- How runs end after the same queries: with the same vocabulary, or both at the last query, which
neither client answers or both with a text that is not taken. -/
inductive EndAlike (c c' : Client) (asked : List (List String)) :
    Except Error Vocabulary → Except Error Vocabulary → Prop
  | gathered (v : Vocabulary) : EndAlike c c' asked (.ok v) (.ok v)
  | unanswered {q : Query} {error error' : Error} : asked.getLast? = some q.arguments →
      c.answer q.arguments = .error error → c'.answer q.arguments = .error error' →
      EndAlike c c' asked (.error error) (.error error')
  | rejected {q : Query} {output : String} {error error' : Error} :
      asked.getLast? = some q.arguments →
      c.answer q.arguments = .ok output → c'.answer q.arguments = .ok output →
      RejectedAlike c c' q error error' → EndAlike c c' asked (.error error) (.error error')

structure RunAlike (c c' : Client) (e : Extraction) : Prop where
  queries : (vocabulary c e).queries = (vocabulary c' e).queries
  results : EndAlike c c' (vocabulary c e).queries (vocabulary c e).result (vocabulary c' e).result

variable {c c' : Client} {e : Extraction} {q : Query}

theorem rejectedAlike (c' : Client) {output : String} {error : Error}
    (h : rejection? c output q = some error) :
    ∃ error', rejection? c' output q = some error' ∧ RejectedAlike c c' q error error' := by
  cases q with
  | version =>
    rw [rejection?] at h ⊢
    cases found : Help.version? output with
    | some _ => simp [found] at h
    | none =>
      simp only [found, Option.some.injEq] at h ⊢
      subst h
      exact ⟨_, rfl, .missingVersion output⟩
  | command name =>
    rw [rejection?] at h ⊢
    split at h
    · cases h
    · rename_i tooLarge
      cases h
      exact ⟨_, if_neg tooLarge, .unsearchable name⟩
  | moduleHelp name =>
    rw [rejection?] at h ⊢
    cases found : Help.moduleFunctions? output with
    | some _ => simp [found] at h
    | none =>
      simp only [found, Option.some.injEq] at h ⊢
      subst h
      exact ⟨_, rfl, .emptyModule name⟩
  | _ => cases h

theorem AnswersAlike.symm (h : AnswersAlike c c' q) : AnswersAlike c' c q :=
  fun output => (h output).symm

theorem failure?_eq_none_of_alike (alike : AnswersAlike c c' q) (passed : failure? c q = none) :
    failure? c' q = none := by
  rw [failure?] at passed
  cases answer : c.answer q.arguments with
  | error error => simp [answer] at passed
  | ok output =>
    simp only [answer] at passed
    simp only [failure?, (alike output).mp answer]
    rw [Option.eq_none_iff_forall_ne_some]
    intro error rejected
    obtain ⟨other, same, -⟩ := rejectedAlike c rejected
    rw [passed] at same
    cases same

theorem follow_alike {plan : List Query} (alike : ∀ q ∈ (follow c plan).1, AnswersAlike c c' q) :
    (follow c' plan).1 = (follow c plan).1 ∧
      ((follow c' plan).2 = none ↔ (follow c plan).2 = none) := by
  induction plan with
  | nil => exact ⟨rfl, Iff.rfl⟩
  | cons q plan ih =>
    cases failed : failure? c q with
    | some error =>
      have asked : follow c (q :: plan) = ([q], some error) := by rw [follow, failed]
      rw [asked] at alike ⊢
      cases failed' : failure? c' q with
      | some error' =>
        rw [follow, failed']
        simp
      | none =>
        have first : AnswersAlike c' c q := (alike q (List.mem_singleton_self q)).symm
        rw [failure?_eq_none_of_alike first failed'] at failed
        cases failed
    | none =>
      have asked : follow c (q :: plan) = (q :: (follow c plan).1, (follow c plan).2) := by
        rw [follow, failed]
      rw [asked] at alike ⊢
      obtain ⟨first, others⟩ := List.forall_mem_cons.mp alike
      obtain ⟨same, ends⟩ := ih others
      rw [follow, failure?_eq_none_of_alike first failed]
      exact ⟨by rw [same], ends⟩

theorem kept_alike (alike : AnswersAlike c c' .commandList) : kept c e = kept c' e := by
  unfold kept
  cases answer : c.answer Query.commandList.arguments with
  | ok output => rw [(alike output).mp answer]
  | error error =>
    cases answer' : c'.answer Query.commandList.arguments with
    | ok output =>
      rw [(alike output).mpr answer'] at answer
      cases answer
    | error error' => rfl

theorem follow_plan_alike
    (alike : ∀ q ∈ (follow c (plan (kept c e).toList e)).1, AnswersAlike c c' q) :
    (follow c' (plan (kept c' e).toList e)).1 = (follow c (plan (kept c e).toList e)).1 ∧
      ((follow c' (plan (kept c' e).toList e)).2 = none ↔
        (follow c (plan (kept c e).toList e)).2 = none) := by
  let start : List Query := [.version, .variableList, .commandList]
  have parts (commands : List String) : ∃ rest, plan commands e = start ++ rest :=
    ⟨_, rfl⟩
  obtain ⟨rest, isPlan⟩ := parts (kept c e).toList
  obtain ⟨rest', isPlan'⟩ := parts (kept c' e).toList
  cases ended : (follow c start).2 with
  -- the list of commands is not had, and the rest of the plan does not count
  | some error =>
    have here : follow c (plan (kept c e).toList e) = ((follow c start).1, some error) := by
      rw [isPlan, follow_append, ended]
    rw [here] at alike ⊢
    obtain ⟨same, ends⟩ := follow_alike alike
    rw [ended] at ends
    cases ended' : (follow c' start).2 with
    | none => simp [ended'] at ends
    | some error' =>
      rw [isPlan', follow_append, ended']
      simp [same]
  | none =>
    have whole := (follow_of_none ended).1
    have asked : Query.commandList ∈ (follow c (plan (kept c e).toList e)).1 := by
      rw [isPlan, follow_append, ended]
      simp [whole, start]
    rw [← kept_alike (alike .commandList asked)]
    exact follow_alike alike

theorem mem_queries_of_mem_follow (h : q ∈ (follow c (plan (kept c e).toList e)).1) :
    q.arguments ∈ (vocabulary c e).queries := by
  rw [(follows_vocabulary c e).queries]
  exact List.mem_map_of_mem h

theorem gathered_alike {v w : Vocabulary}
    (alike : ∀ q ∈ plan (kept c e).toList e, AnswersAlike c c' q)
    (h : (vocabulary c e).result = .ok v) (h' : (vocabulary c' e).result = .ok w) : v = w := by
  have here := isGathered_of_ok c e h
  have there := isGathered_of_ok c' e h'
  have sameKept : kept c e = kept c' e := kept_alike (alike _ (by simp [plan]))
  apply eq_of_parts
  · exact ok_unique ((version_alike (alike _ (by simp [plan]))).mp here.version) there.version
  · exact ok_unique ((listing_alike (alike _ (by simp [plan]))).mp here.variableNames)
      there.variableNames
  · refine commandMap_unique_of_kept here.commands there.commands (by simp [sameKept]) ?_
    intro command isKept keywords
    have asked : Query.command command ∈ plan (kept c e).toList e := by
      simp [plan, ← NameSet.mem_def, isKept]
    exact commandKeywords_alike (alike _ asked)
  · exact ok_unique ((generatorExpressions_alike (alike _ (by simp [plan]))).mp
      here.generatorExpressions) there.generatorExpressions
  · exact ok_unique ((listing_alike (alike _ (by simp [plan]))).mp here.properties)
      there.properties
  · refine modules_unique_of_named here.modules there.modules rfl ?_
    intro name isNamed entry
    have asked : Query.moduleHelp name ∈ plan (kept c e).toList e := by simp [plan, isNamed]
    exact moduleEntry_alike (alike _ asked)

theorem endAlike_of_failures {asked : List (List String)} {error error' : Error}
    (alike : AnswersAlike c c' q) (last : asked.getLast? = some q.arguments)
    (failed : failure? c q = some error) (failed' : failure? c' q = some error') :
    EndAlike c c' asked (.error error) (.error error') := by
  rw [failure?] at failed failed'
  cases answer : c.answer q.arguments with
  | ok output =>
    have answer' := (alike output).mp answer
    simp only [answer] at failed
    simp only [answer'] at failed'
    obtain ⟨other, rejected, rejectedAlike⟩ := rejectedAlike c' failed
    rw [failed'] at rejected
    cases rejected
    exact .rejected last answer answer' rejectedAlike
  | error problem =>
    cases answer' : c'.answer q.arguments with
    | ok output =>
      rw [(alike output).mpr answer'] at answer
      cases answer
    | error problem' =>
      simp only [answer, Option.some.injEq] at failed
      simp only [answer', Option.some.injEq] at failed'
      subst failed failed'
      exact .unanswered last answer answer'

theorem runAlike_of_asked
    (alike : ∀ q : Query, q.arguments ∈ (vocabulary c e).queries → AnswersAlike c c' q) :
    RunAlike c c' e := by
  have here := follows_vocabulary c e
  have there := follows_vocabulary c' e
  have askedAlike : ∀ q ∈ (follow c (plan (kept c e).toList e)).1, AnswersAlike c c' q :=
    fun q mem => alike q (mem_queries_of_mem_follow mem)
  obtain ⟨same, ends⟩ := follow_plan_alike askedAlike
  refine ⟨by rw [here.queries, there.queries, same], ?_⟩
  rw [← there.error, ← here.error] at ends
  cases result : (vocabulary c e).result with
  | ok v =>
    rw [result] at ends
    obtain ⟨w, result'⟩ := error?_eq_none_iff.mp (ends.mpr rfl)
    have whole := (queries_of_ok result).1
    have equal : v = w := by
      refine gathered_alike (fun q mem => alike q ?_) result result'
      rw [whole]
      exact List.mem_map_of_mem mem
    rw [result', equal]
    exact .gathered w
  | error error =>
    obtain ⟨done, q, rest, -, asked, -, failed⟩ :=
      follow_of_some (here.error.symm.trans (by rw [result, error?]))
    have last : (vocabulary c e).queries.getLast? = some q.arguments := by
      rw [here.queries, asked]
      simp
    cases result' : (vocabulary c' e).result with
    | ok w => simp [result, result', error?] at ends
    | error error' =>
      obtain ⟨done', q', rest', -, asked', -, failed'⟩ :=
        follow_of_some (there.error.symm.trans (by rw [result', error?]))
      obtain ⟨-, sameLast⟩ := List.append_inj' (asked'.symm.trans (same.trans asked)) rfl
      cases sameLast
      exact endAlike_of_failures (askedAlike q (by simp [asked])) last failed failed'

theorem answersAlike_ofExecutable {run run' : List String → Except String Output}
    (executable : String)
    (same : (run q.arguments).toOption = (run' q.arguments).toOption) :
    AnswersAlike (.ofExecutable executable run) (.ofExecutable executable run') q := by
  intro text
  cases here : run q.arguments with
  | ok output =>
    cases there : run' q.arguments with
    | ok output' =>
      rw [here, there] at same
      cases same
      simp only [Client.ofExecutable, here, there]
    | error reason =>
      rw [here, there] at same
      cases same
  | error reason =>
    cases there : run' q.arguments with
    | ok output' =>
      rw [here, there] at same
      cases same
    | error reason' =>
      simp only [Client.ofExecutable, here, there]
      exact iff_of_false nofun nofun

/-- What running an executable with some arguments leaves, if it prints the texts of a table and
refuses what is not in it. -/
structure AnswersFrom (responses : NameMap String) (run : List String → Except String Output)
    (arguments : List String) : Prop where
  printed : ∀ text, responses.get? (argumentLine arguments) = some text →
    ∃ stderr, run arguments = .ok ⟨true, Text.Utf8.encode text, stderr⟩
  refused : responses.get? (argumentLine arguments) = none →
    ∀ output, run arguments = .ok output → output.succeeded = false

variable {responses : NameMap String} {run : List String → Except String Output}

theorem AnswersFrom.alike (h : AnswersFrom responses run q.arguments) (executable : String) :
    AnswersAlike (.ofTable responses) (.ofExecutable executable run) q := by
  intro output
  cases found : responses.get? q.line with
  | some text =>
    obtain ⟨stderr, left⟩ := h.printed text found
    rw [answer_of_some found]
    simp only [Client.ofExecutable, left, if_true, Text.Utf8.decodeLossy_encode]
  | none =>
    rw [answer_of_none found]
    refine iff_of_false nofun ?_
    cases left : run q.arguments with
    | error reason => simp [Client.ofExecutable, left]
    | ok left' => simp [Client.ofExecutable, left, h.refused found left' left]

theorem answersFrom_run {files : FileSystem} {searchPath name : String} {replies : NameMap Reply}
    {arguments : List String}
    (installed : files.program searchPath name = .ok (Reply.behaviour replies))
    (prints : ∀ line, replies.get? line = (responses.get? line).map Reply.printing)
    (plain : ∀ a ∈ name :: arguments, '\x00' ∉ a.toList)
    (short : ∀ a ∈ arguments, a.utf8ByteSize < FileSystem.argumentLimit) :
    AnswersFrom responses (files.run searchPath name) arguments := by
  have noNul : ((name :: arguments).any fun a => a.toList.contains '\x00') = false := by
    rw [List.any_eq_false]
    intro a mem
    simpa using plain a mem
  have noneLong : (arguments.any fun a => FileSystem.argumentLimit ≤ a.utf8ByteSize) = false := by
    rw [List.any_eq_false]
    intro a mem
    simpa using short a mem
  have left : files.run searchPath name arguments =
      .ok ((((responses.get? (argumentLine arguments)).map Reply.printing).getD
        (Reply.refusing (argumentLine arguments))).output) := by
    rw [FileSystem.run, noNul, installed, ← prints]
    simp only [Bool.false_eq_true, if_false, noneLong]
    rfl
  refine ⟨fun text found => ⟨[], ?_⟩, fun none output => ?_⟩
  · rw [left, found]
    rfl
  · rw [left, none]
    rintro ⟨⟩
    rfl

/-- Clients with the same answers have runs alike. So do a table and an executable that prints its
texts, as long as nothing is asked that cannot be passed to a process. -/
theorem runAlike_of_answers (e : Extraction) :
    (∀ c c' : Client, (∀ arguments output,
        c.answer arguments = .ok output ↔ c'.answer arguments = .ok output) →
      RunAlike c c' e) ∧
    ∀ (responses : NameMap String) (executable : String) (run : List String → Except String Output),
      (∀ arguments ∈ (vocabulary (.ofTable responses) e).queries,
        ∀ a ∈ arguments, '\x00' ∉ a.toList) →
      (∀ arguments ∈ (vocabulary (.ofTable responses) e).queries,
        (∀ a ∈ arguments, '\x00' ∉ a.toList) → AnswersFrom responses run arguments) →
      RunAlike (.ofTable responses) (.ofExecutable executable run) e := by
  refine ⟨fun c c' alike => runAlike_of_asked fun q _ => alike q.arguments, ?_⟩
  intro responses executable run plain answers
  refine runAlike_of_asked fun q asked => ?_
  exact (answers q.arguments asked (plain q.arguments asked)).alike executable

def smallInstallation : FileSystem where
  entries := [(["cmake"], .program [] (Reply.behaviour (smallHelp.map Reply.printing)))]
  current := []

theorem runAlike_small :
    (∀ arguments output, (Client.ofTable smallHelp).answer arguments = .ok output ↔
      ({ Client.ofTable smallHelp with name := "cmake" } : Client).answer arguments = .ok output) ∧
    RunAlike (.ofTable smallHelp) { Client.ofTable smallHelp with name := "cmake" } smallSettings ∧
    (∀ arguments ∈ (vocabulary (.ofTable smallHelp) smallSettings).queries,
      ∀ a ∈ arguments, '\x00' ∉ a.toList) ∧
    (∀ arguments ∈ (vocabulary (.ofTable smallHelp) smallSettings).queries,
      (∀ a ∈ arguments, '\x00' ∉ a.toList) →
        AnswersFrom smallHelp (smallInstallation.run "" "/cmake") arguments) ∧
    RunAlike (.ofTable smallHelp) (.ofExecutable "/cmake" (smallInstallation.run "" "/cmake"))
      smallSettings := by
  have same : ∀ arguments output, (Client.ofTable smallHelp).answer arguments = .ok output ↔
      ({ Client.ofTable smallHelp with name := "cmake" } : Client).answer arguments = .ok output :=
    fun _ _ => Iff.rfl
  have passed : ∀ arguments ∈ (vocabulary (.ofTable smallHelp) smallSettings).queries,
      ∀ a ∈ arguments, '\x00' ∉ a.toList ∧ a.utf8ByteSize < FileSystem.argumentLimit := by
    decide +kernel
  have plain : ∀ arguments ∈ (vocabulary (.ofTable smallHelp) smallSettings).queries,
      ∀ a ∈ arguments, '\x00' ∉ a.toList := fun arguments asked a mem =>
    (passed arguments asked a mem).1
  have prints (line : String) : (smallHelp.map Reply.printing).get? line =
      (smallHelp.get? line).map Reply.printing := by
    rw [Option.ext_iff]
    intro reply
    rw [NameMap.get?_map_eq_some_iff, Option.map_eq_some_iff]
  have answers : ∀ arguments ∈ (vocabulary (.ofTable smallHelp) smallSettings).queries,
      (∀ a ∈ arguments, '\x00' ∉ a.toList) →
        AnswersFrom smallHelp (smallInstallation.run "" "/cmake") arguments := by
    intro arguments asked passable
    refine answersFrom_run rfl prints ?_ fun a mem => (passed arguments asked a mem).2
    exact List.forall_mem_cons.mpr ⟨by decide, passable⟩
  obtain ⟨clients, executables⟩ := runAlike_of_answers smallSettings
  exact ⟨same, clients _ _ same, plain, answers, executables _ _ _ plain answers⟩

end CMakeGrammar.Gather
