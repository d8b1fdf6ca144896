import CMakeGrammar.Proofs.Gather.Plan
import CMakeGrammar.Proofs.Program.Delivery
/-! The stages of a run, each of which may be at fault by itself. Of several faults the one of the
earliest stage ends the run, and if it is a failure it is what is reported. Queries are put by one
stage only, which is not come to before there is a configuration, and a template if one is
needed. -/
namespace CMakeGrammar.Program

inductive Stage
  | configuration | template | gathering | rendering | delivery
  deriving DecidableEq

namespace Stage

def position : Stage → Nat
  | configuration => 0
  | template => 1
  | gathering => 2
  | rendering => 3
  | delivery => 4

instance : LT Stage := ⟨fun a b => a.position < b.position⟩

instance (a b : Stage) : Decidable (a < b) := inferInstanceAs (Decidable (a.position < b.position))

end Stage

/-- The settings that stages are judged by: the standard ones where the configuration is at
fault. -/
def settings (h : Host) (c : CommandLine) : Config :=
  match configuration? h c with
  | .ok config => config
  | .error _ => .standard

/-- That a stage is at fault, whatever the other ones are, and how: it fails, or it fills the stack.
A place to deliver to is judged by the document, or by any text where no document comes to be. -/
inductive Faulty (h : Host) (c : CommandLine) : Stage → Halt Error → Prop
  | configuration {fault : Config.Fault} : configuration? h c = .error fault →
      Faulty h c .configuration (.failed (.config fault.message))
  | template {fault : Grammar.Fault} : c.format = .grammar →
      template? h c (settings h c) = .error fault → Faulty h c .template (.failed fault.error)
  | gathering {e : Error} : gathered h c (settings h c) = .error e →
      Faulty h c .gathering (.failed e)
  | rendering {template : Template} {v : Vocabulary} {failure : Template.Failure} :
      c.format = .grammar → template? h c (settings h c) = .ok template →
      gathered h c (settings h c) = .ok v →
      (Grammar.render h.stack template v).result = .error (.failed failure) →
      Faulty h c .rendering (.failed (.template (failure.message Grammar.templateName)))
  | overflowing {template : Template} {v : Vocabulary} :
      c.format = .grammar → template? h c (settings h c) = .ok template →
      gathered h c (settings h c) = .ok v →
      (Grammar.render h.stack template v).result = .error .overflow →
      Faulty h c .rendering .overflow
  | printing : c.stdout = true → h.stdoutHasRoom = false →
      Faulty h c .delivery
        (.failed (.io s!"Failed to write to stdout: {Refusal.noSpace.message}"))
  | saving {document : String} {refusal : Refusal} : c.stdout = false →
      (∀ made, Makes h c (settings h c) made → made = document) →
      h.files.write ((settings h c).outputFor c.output) (Text.Utf8.encode document) =
        .error refusal →
      Faulty h c .delivery
        (.failed (.io s!"Failed to write {(settings h c).outputFor c.output}: {refusal.message}"))

/-- The heading that a failure is reported under, and what is reported. -/
inductive IsWorded : Error → String → String → Prop
  | externalTool (command stderr : String) : IsWorded (.externalTool command stderr) "CMake Error"
      s!"Command `{command}` failed with error: {stderr}"
  | launch (command reason : String) : IsWorded (.launch command reason) "CMake Error"
      s!"Could not run `{command}`: {reason}"
  | missingVersion (command output : String) :
      IsWorded (.missingVersion command output) "Version Error"
        s!"Could not determine CMake version from `{command}` output: {output}"
  | emptyModule (name command : String) : IsWorded (.emptyModule name command) "Module Error"
      s!"No functions found for module {name} in `{command}` output"
  | pattern (reason : String) :
    IsWorded (.pattern reason) "Pattern Error" s!"Pattern error: {reason}"
  | config (reason : String) : IsWorded (.config reason) "Configuration Error"
      s!"Configuration error: {reason}"
  | template (reason : String) : IsWorded (.template reason) "Template Error"
      s!"Template error: {reason}"
  | io (reason : String) : IsWorded (.io reason) "I/O Error" s!"I/O error: {reason}"
  | internal (reason : String) : IsWorded (.internal reason) "Internal Error"
      s!"Internal error: {reason}"

/-- That a run ends with a failure, which is the last that it says, as an error of its own. -/
structure Reports (h : Host) (c : CommandLine) (e : Error) : Prop where
  result : (perform h c).result = .error (.failed e)
  exitCode : (run h c).exitCode = some 1
  lastEvent : ∃ heading message, IsWorded e heading message ∧
    (run h c).events.getLast? =
      some (.log ⟨.program, .error, heading ++ ": " ++ message, []⟩)

/-- That the system ends a run. Then nothing more is said. -/
structure IsCutOff (h : Host) (c : CommandLine) : Prop where
  result : (perform h c).result = .error .overflow
  exitCode : (run h c).exitCode = none
  events : (run h c).events = (perform h c).events

def EndsBy (h : Host) (c : CommandLine) : Halt Error → Prop
  | .failed e => Reports h c e
  | .overflow => IsCutOff h c

/-- That the earliest of the faults of a run ends it, and that it ends well only if there is
none. -/
structure EndsByEarliest (h : Host) (c : CommandLine) : Prop where
  faulty : ∀ stage fault, Faulty h c stage fault →
    (∀ earlier < stage, ∀ other, ¬Faulty h c earlier other) → EndsBy h c fault
  faultless : (∀ stage fault, ¬Faulty h c stage fault) → (run h c).exitCode = some 0

variable {h : Host} {c : CommandLine} {config : Config} {e : Error} {halt : Halt Error}

theorem settings_of_ok (loaded : configuration? h c = .ok config) : settings h c = config := by
  rw [settings, loaded]

theorem isWorded (e : Error) : IsWorded e e.category e.message := by
  cases e <;> constructor

theorem report_eq (e : Error) :
    report e = ⟨.program, .error, e.category ++ ": " ++ e.message, []⟩ := rfl

theorem reports_of_perform (failed : (perform h c).result = .error (.failed e)) :
    Reports h c e := by
  refine ⟨failed, ?_, e.category, e.message, isWorded e, ?_⟩
  · simp only [run, failed]
  · simp only [run, failed, List.getLast?_append, List.getLast?_singleton, Option.some_or,
      report_eq]

theorem isCutOff_of_perform (full : (perform h c).result = .error .overflow) : IsCutOff h c := by
  refine ⟨full, ?_, ?_⟩ <;> simp only [run, full]

theorem endsBy_of_perform (ended : (perform h c).result = .error halt) : EndsBy h c halt := by
  cases halt with
  | failed e => exact reports_of_perform ended
  | overflow => exact isCutOff_of_perform ended

theorem endsBy_of_prepare (ended : (prepare h c).result = .error halt) : EndsBy h c halt :=
  endsBy_of_perform (result_perform_of_prepare_error ended)

theorem configuration?_of_not_faulty (h : Host) (c : CommandLine)
    (fine : ∀ fault, ¬Faulty h c .configuration fault) :
    configuration? h c = .ok (settings h c) := by
  cases loaded : configuration? h c with
  | error fault => exact absurd (.configuration loaded) (fine _)
  | ok config => rw [settings_of_ok loaded]

theorem template?_of_not_faulty (format : c.format = .grammar)
    (fine : ∀ fault, ¬Faulty h c .template fault) :
    ∃ template, template? h c (settings h c) = .ok template := by
  cases chosen : template? h c (settings h c) with
  | error fault => exact absurd (.template format chosen) (fine _)
  | ok template => exact ⟨template, rfl⟩

theorem gathered_of_not_faulty (fine : ∀ fault, ¬Faulty h c .gathering fault) :
    ∃ v, gathered h c (settings h c) = .ok v := by
  cases answered : gathered h c (settings h c) with
  | error e => exact absurd (.gathering answered) (fine _)
  | ok v => exact ⟨v, rfl⟩

theorem exists_style
    (template : c.format = .grammar → ∃ template, template? h c config = .ok template) :
    ∃ s, (style h c config).result = .ok s := by
  cases format : c.format with
  | json => exact ⟨_, result_style_of_json format⟩
  | grammar =>
    obtain ⟨_, chosen⟩ := template format
    exact ⟨_, result_style_of_ok format chosen⟩

theorem makes_of_not_faulty (fine : ∀ stage < Stage.delivery, ∀ fault, ¬Faulty h c stage fault) :
    ∃ document, Makes h c (settings h c) document := by
  have loaded := configuration?_of_not_faulty h c (fine .configuration (by decide))
  obtain ⟨v, answered⟩ := gathered_of_not_faulty (fine .gathering (by decide))
  cases format : c.format with
  | json => exact ⟨_, .json loaded format answered⟩
  | grammar =>
    obtain ⟨template, chosen⟩ := template?_of_not_faulty format (fine .template (by decide))
    have renders := fine .rendering (by decide)
    cases rendered : (Grammar.render h.stack template v).result with
    | ok document => exact ⟨_, .grammar loaded format chosen answered rendered⟩
    | error halt =>
      cases halt with
      | failed failure =>
        exact absurd (.rendering format chosen answered rendered) (renders _)
      | overflow => exact absurd (.overflowing format chosen answered rendered) (renders _)

theorem endsBy_of_faulty {stage : Stage} (faulty : Faulty h c stage halt)
    (first : ∀ earlier < stage, ∀ other, ¬Faulty h c earlier other) : EndsBy h c halt := by
  cases faulty with
  | configuration refused => exact endsBy_of_prepare (result_prepare_of_error refused)
  | template format refused =>
    have loaded := configuration?_of_not_faulty h c (first .configuration (by decide))
    exact endsBy_of_prepare
      (result_prepare_of_unstyled loaded (result_style_of_error format refused))
  | gathering failed =>
    have loaded := configuration?_of_not_faulty h c (first .configuration (by decide))
    obtain ⟨s, styled⟩ := exists_style fun format =>
      template?_of_not_faulty format (first .template (by decide))
    exact endsBy_of_prepare (result_prepare_of_unanswered loaded styled failed)
  | rendering format chosen answered failed =>
    have loaded := configuration?_of_not_faulty h c (first .configuration (by decide))
    apply endsBy_of_prepare
    rw [result_prepare_of_gathered loaded (result_style_of_ok format chosen) answered,
      result_document, failed]
    rfl
  | overflowing format chosen answered full =>
    have loaded := configuration?_of_not_faulty h c (first .configuration (by decide))
    exact endsBy_of_prepare
      (result_prepare_of_overflows (.rendering loaded format chosen answered full))
  | printing stdout noRoom =>
    obtain ⟨document, makes⟩ := makes_of_not_faulty first
    exact endsBy_of_perform (result_perform_of_noRoom makes stdout noRoom)
  | saving stdout only refused =>
    obtain ⟨document, makes⟩ := makes_of_not_faulty first
    rw [← only document makes] at refused
    exact endsBy_of_perform (result_perform_of_refused makes stdout refused)

theorem exitCode_of_faultless (fine : ∀ stage fault, ¬Faulty h c stage fault) :
    (run h c).exitCode = some 0 := by
  obtain ⟨document, makes⟩ := makes_of_not_faulty fun stage _ => fine stage
  refine (delivers_of_makes makes fun fails => ?_).exitCode
  cases fails with
  | breaks breaks => exact makes.not_breaks breaks
  | printing _ stdout noRoom => exact fine _ _ (.printing stdout noRoom)
  | saving makes' stdout refused =>
    obtain ⟨rfl, rfl⟩ := makes.unique makes'
    exact fine _ _ (.saving stdout (fun made isMade => (makes.unique isMade).2) refused)

theorem endsByEarliest (h : Host) (c : CommandLine) : EndsByEarliest h c :=
  ⟨fun _ _ => endsBy_of_faulty, exitCode_of_faultless⟩

structure IsReady (h : Host) (c : CommandLine) (config : Config) : Prop where
  configured : configuration? h c = .ok config
  template : c.format = .grammar → ∃ template, template? h c config = .ok template

section
variable {α β ε : Type} {x : Recorded Event ε α}

theorem queries_bind_of_quiet {a : α} (quiet : x.queries = []) (ok : x.result = .ok a)
    (f : α → Recorded Event ε β) : (x >>= f).queries = (f a).queries := by
  rw [Gather.queries_bind_of_ok ok, quiet, List.nil_append]

theorem queries_bind_of_quiet_rest {f : α → Recorded Event ε β} (quiet : ∀ a, (f a).queries = []) :
    (x >>= f).queries = x.queries := by
  cases result : x.result with
  | ok a => rw [Gather.queries_bind_of_ok result, quiet, List.append_nil]
  | error e => exact Gather.queries_bind_of_error result f

theorem halting_of_ok {a : α} (ok : x.result = .ok a) : x.halting.result = .ok a := by
  rw [Recorded.halting, Recorded.mapError, ok]
  rfl

theorem halting_of_error {e : ε} (failed : x.result = .error e) :
    x.halting.result = .error (.failed e) := by
  rw [Recorded.halting, Recorded.mapError, failed]
  rfl

end

theorem queries_configuration : (configuration h c).halting.queries = [] := rfl

theorem queries_style : (style h c config).halting.queries = [] := by
  show (style h c config).queries = []
  unfold style
  split
  · rfl
  · show (grammar h (config.templateFor c.template) >>= fun template =>
      pure (Style.grammar template)).queries = []
    rw [queries_bind_of_quiet_rest fun _ => rfl]
    cases config.templateFor c.template <;> rfl

theorem queries_vocabulary : (vocabulary h c config).halting.queries =
    (Gather.vocabulary (client h c config) config.extraction).queries := by
  show (vocabulary h c config).queries = _
  rw [vocabulary, queries_bind_of_quiet_rest]
  intro v
  rw [queries_bind_of_quiet_rest fun _ => rfl, Gather.queries_sayAll]

theorem queries_document (stack : Nat) (s : Style) (v : Vocabulary) :
    (document stack s v).queries = [] := by
  cases s with
  | json => rfl
  | grammar template =>
    show ((Grammar.render stack template v).events.map Event.log).filterMap Event.query? = []
    rw [List.filterMap_map]
    exact List.filterMap_eq_nil_iff.mpr fun _ _ => rfl

theorem queries_deliver (text : String) : (deliver h c config text).halting.queries = [] := by
  show (deliver h c config text).queries = []
  unfold deliver print save
  split
  · split <;> rfl
  · split <;> rfl

theorem queries_run : (run h c).queries = (prepare h c).queries := by
  have reported (events : List Event) (entry : LogEntry) :
      (events ++ [Event.log entry]).filterMap Event.query? = events.filterMap Event.query? := by
    rw [List.filterMap_append]
    exact List.append_nil _
  have performed : (perform h c).queries = (prepare h c).queries :=
    queries_bind_of_quiet_rest fun _ => queries_deliver _
  rw [← performed, run, Outcome.queries]
  cases (perform h c).result with
  | ok delivery => rfl
  | error halt =>
    cases halt with
    | failed e => exact reported _ _
    | overflow => rfl

theorem queries_of_ready (ready : IsReady h c config) : (run h c).queries =
    (Gather.vocabulary (client h c config) config.extraction).queries := by
  obtain ⟨s, styled⟩ := exists_style ready.template
  have configured : (configuration h c).result = .ok config := by
    show (configuration? h c).mapError _ = _
    rw [ready.configured]
    rfl
  rw [queries_run, prepare, queries_bind_of_quiet queries_configuration (halting_of_ok configured),
    queries_bind_of_quiet queries_style (halting_of_ok styled), queries_bind_of_quiet_rest,
    queries_vocabulary]
  intro v
  rw [queries_bind_of_quiet_rest fun _ => rfl, queries_document]

theorem exists_ready (asks : (run h c).queries ≠ []) : ∃ config, IsReady h c config := by
  have configured : (configuration h c).result =
      (configuration? h c).mapError fun fault => .config fault.message := rfl
  rw [queries_run, prepare] at asks
  cases loaded : configuration? h c with
  | error fault =>
    rw [loaded] at configured
    rw [Gather.queries_bind_of_error (halting_of_error configured)] at asks
    exact absurd queries_configuration asks
  | ok config =>
    refine ⟨config, loaded, fun format => ?_⟩
    rw [loaded] at configured
    rw [queries_bind_of_quiet queries_configuration (halting_of_ok configured)] at asks
    cases chosen : template? h c config with
    | ok template => exact ⟨template, rfl⟩
    | error fault =>
      have refused := halting_of_error (result_style_of_error format chosen)
      rw [Gather.queries_bind_of_error refused] at asks
      exact absurd queries_style asks

end CMakeGrammar.Program
