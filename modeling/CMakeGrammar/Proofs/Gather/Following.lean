import CMakeGrammar.Gather
/-! Following a plan: queries are put in turn until one fails or its answer is not taken. What each
step of a gathering follows adds up to what the whole follows. -/
namespace CMakeGrammar.Gather

def rejection? (c : Client) (output : String) : Query → Option Error
  | .version =>
    match Help.version? output with
    | some _ => none
    | none => some (.missingVersion (Client.commandLine c.name Query.version.arguments) output)
  | .command name => if Help.isSearchable name then none else some (unsearchable name)
  | .moduleHelp name =>
    match Help.moduleFunctions? output with
    | some _ => none
    | none => some (.emptyModule name (Client.commandLine c.name (Query.moduleHelp name).arguments))
  | _ => none

def failure? (c : Client) (q : Query) : Option Error :=
  match c.answer q.arguments with
  | .ok output => rejection? c output q
  | .error e => some e

/-- The queries of a plan that are put, and the failure that ends them. -/
def follow (c : Client) : List Query → List Query × Option Error
  | [] => ([], none)
  | q :: others =>
    match failure? c q with
    | some e => ([q], some e)
    | none => (q :: (follow c others).1, (follow c others).2)

def error? {α : Type} : Except Error α → Option Error
  | .ok _ => none
  | .error e => some e

/-- A gathering puts the queries of a plan, and ends as the plan does. -/
structure Follows {α : Type} (c : Client) (plan : List Query) (g : Gathering α) : Prop where
  queries : g.queries = (follow c plan).1.map Query.arguments
  error : error? g.result = (follow c plan).2

variable {α β : Type} {c : Client}

theorem follow_append (c : Client) (plan others : List Query) :
    follow c (plan ++ others) =
      match (follow c plan).2 with
      | some e => ((follow c plan).1, some e)
      | none => ((follow c plan).1 ++ (follow c others).1, (follow c others).2) := by
  induction plan with
  | nil => rfl
  | cons q plan ih =>
    rw [List.cons_append, follow, follow]
    cases failed : failure? c q with
    | some e => rfl
    | none =>
      simp only [ih]
      cases ended : (follow c plan).2 <;> rfl

section
variable {ε : Type} {x : Recorded Event ε α}

theorem queries_bind_of_ok {a : α} (h : x.result = .ok a) (f : α → Recorded Event ε β) :
    (x >>= f).queries = x.queries ++ (f a).queries := by
  rw [Recorded.bind_of_ok h]
  simp [Recorded.queries]

theorem queries_bind_of_error {e : ε} (h : x.result = .error e) (f : α → Recorded Event ε β) :
    (x >>= f).queries = x.queries := by
  rw [Recorded.bind_of_error h]
  rfl

end

theorem Follows.bind {plan others : List Query} {x : Gathering α} {f : α → Gathering β}
    (h : Follows c plan x) (h' : ∀ a, x.result = .ok a → Follows c others (f a)) :
    Follows c (plan ++ others) (x >>= f) := by
  have ended := h.error
  cases result : x.result with
  | error error =>
    rw [result, error?] at ended
    refine ⟨?_, ?_⟩
    · rw [queries_bind_of_error result, h.queries, follow_append, ← ended]
    · rw [Recorded.result_bind, result, follow_append, ← ended]
      rfl
  | ok a =>
    rw [result, error?] at ended
    have next := h' a result
    refine ⟨?_, ?_⟩
    · rw [queries_bind_of_ok result, h.queries, next.queries, follow_append, ← ended,
        List.map_append]
    · rw [Recorded.result_bind, result, follow_append, ← ended]
      exact next.error

theorem follows_nil {g : Gathering α} {a : α} (quiet : g.queries = []) (ok : g.result = .ok a) :
    Follows c [] g := by
  refine ⟨quiet, ?_⟩
  rw [ok]
  rfl

theorem queries_sayAll (entries : List LogEntry) : (Gathering.sayAll entries).queries = [] := by
  induction entries with
  | nil => rfl
  | cons entry entries ih => exact ih

theorem follows_say (entry : LogEntry) : Follows c [] (Gathering.say entry) := follows_nil rfl rfl

theorem follows_sayAll (entries : List LogEntry) : Follows c [] (Gathering.sayAll entries) :=
  follows_nil (queries_sayAll entries) rfl

theorem follows_pure (a : α) : Follows c [] (pure a : Gathering α) := follows_nil rfl rfl

theorem queries_query (c : Client) (q : Query) : (c.query q).queries = [q.arguments] := by
  have said (entries : List LogEntry) :
      (entries.map Event.log).filterMap Event.query? = [] := by
    induction entries with
    | nil => rfl
    | cons entry entries ih => exact ih
  show (Event.query q.arguments :: (c.notices q.arguments).map Event.log).filterMap
    Event.query? = _
  rw [List.filterMap_cons, said]
  rfl

theorem follows_query {q : Query} {f : String → Gathering α}
    (quiet : ∀ output, (f output).queries = [])
    (ends : ∀ output, error? (f output).result = rejection? c output q) :
    Follows c [q] (c.query q >>= f) := by
  have asked : (c.query q >>= f).queries = [q.arguments] := by
    cases answer : c.answer q.arguments with
    | ok output =>
      have result : (c.query q).result = .ok output := answer
      rw [queries_bind_of_ok result, queries_query, quiet, List.append_nil]
    | error e =>
      have result : (c.query q).result = .error e := answer
      rw [queries_bind_of_error result, queries_query]
  have ended : error? (c.query q >>= f).result = failure? c q := by
    rw [Recorded.result_bind, Client.result_query, failure?]
    cases answer : c.answer q.arguments with
    | ok output => exact ends output
    | error e => rfl
  refine ⟨?_, ?_⟩
  · rw [asked, follow]
    cases failure? c q <;> rfl
  · rw [ended, follow]
    cases failure? c q <;> rfl

theorem follow_of_some {plan : List Query} {error : Error} (h : (follow c plan).2 = some error) :
    ∃ done q rest, plan = done ++ q :: rest ∧ (follow c plan).1 = done ++ [q] ∧
      (∀ p ∈ done, failure? c p = none) ∧ failure? c q = some error := by
  induction plan with
  | nil => cases h
  | cons q plan ih =>
    rw [follow] at h ⊢
    cases failed : failure? c q with
    | some e =>
      rw [failed] at h
      exact ⟨[], q, plan, rfl, rfl, by simp, failed.trans h⟩
    | none =>
      rw [failed] at h
      obtain ⟨done, last, rest, split, asked, passed, ended⟩ := ih h
      refine ⟨q :: done, last, rest, by rw [split, List.cons_append], ?_, ?_, ended⟩
      · simp only [asked, List.cons_append]
      · intro p mem
        rcases List.mem_cons.mp mem with rfl | mem
        · exact failed
        · exact passed p mem

theorem follow_of_none {plan : List Query} (h : (follow c plan).2 = none) :
    (follow c plan).1 = plan ∧ ∀ p ∈ plan, failure? c p = none := by
  induction plan with
  | nil => exact ⟨rfl, by simp⟩
  | cons q plan ih =>
    rw [follow] at h ⊢
    cases failed : failure? c q with
    | some e =>
      rw [failed] at h
      cases h
    | none =>
      rw [failed] at h
      obtain ⟨asked, passed⟩ := ih h
      refine ⟨by simp only [asked], ?_⟩
      intro p mem
      rcases List.mem_cons.mp mem with rfl | mem
      · exact failed
      · exact passed p mem

end CMakeGrammar.Gather
