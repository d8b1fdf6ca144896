import CMakeGrammar.Program
import CMakeGrammar.Proofs.FileSystem.Writing
import CMakeGrammar.Proofs.Template.Room
/-! A run does all or nothing. Either a stage fails, or the stack is full, and nothing is printed or
written, or one document is made and delivered whole to the one place that was asked for. -/
namespace CMakeGrammar.Program

def configuration? (h : Host) (c : CommandLine) : Except Config.Fault Config :=
  Config.load h.files (c.configPath h.environment)

def template? (h : Host) (c : CommandLine) (config : Config) : Except Grammar.Fault Template :=
  match config.templateFor c.template with
  | none => Grammar.builtIn
  | some path => Grammar.load h.files path

def gathered (h : Host) (c : CommandLine) (config : Config) : Except Error Vocabulary :=
  (Gather.vocabulary (client h c config) config.extraction).result

/-- That a run comes to a document, with what it was configured by. -/
inductive Makes (h : Host) (c : CommandLine) (config : Config) : String → Prop
  | json {v : Vocabulary} : configuration? h c = .ok config → c.format = .json →
    gathered h c config = .ok v → Makes h c config v.dump
  | grammar {template : Template} {v : Vocabulary} {document : String} :
    configuration? h c = .ok config → c.format = .grammar → template? h c config = .ok template →
    gathered h c config = .ok v → (Grammar.render h.stack template v).result = .ok document →
    Makes h c config document

inductive Breaks (h : Host) (c : CommandLine) : Prop
  | configuration {fault : Config.Fault} : configuration? h c = .error fault → Breaks h c
  | template {config : Config} {fault : Grammar.Fault} : configuration? h c = .ok config →
    c.format = .grammar → template? h c config = .error fault → Breaks h c
  | gathering {config : Config} {e : Error} : configuration? h c = .ok config →
    gathered h c config = .error e → Breaks h c
  | rendering {config : Config} {template : Template} {v : Vocabulary}
    {failure : Template.Failure} : configuration? h c = .ok config → c.format = .grammar →
    template? h c config = .ok template → gathered h c config = .ok v →
    (Grammar.render h.stack template v).result = .error (.failed failure) → Breaks h c

/-- That rendering includes templates in each other deeper than there is room on the stack. -/
inductive Overflows (h : Host) (c : CommandLine) : Prop
  | rendering {config : Config} {template : Template} {v : Vocabulary} :
    configuration? h c = .ok config → c.format = .grammar → template? h c config = .ok template →
    gathered h c config = .ok v → (Grammar.render h.stack template v).result = .error .overflow →
    Overflows h c

inductive Fails (h : Host) (c : CommandLine) : Prop
  | breaks : Breaks h c → Fails h c
  | printing {config : Config} {document : String} : Makes h c config document →
    c.stdout = true → h.stdoutHasRoom = false → Fails h c
  | saving {config : Config} {document : String} {refusal : Refusal} : Makes h c config document →
    c.stdout = false →
    h.files.write (config.outputFor c.output) (Text.Utf8.encode document) = .error refusal →
    Fails h c

/-- That nothing is printed, and no file is made or changed. -/
structure LeavesNothing (h : Host) (outcome : Outcome) : Prop where
  printed : outcome.printed = ""
  files : outcome.files = h.files

/-- That a document was delivered to one place and no other. -/
structure Delivers (h : Host) (c : CommandLine) (config : Config) (document : String)
    (outcome : Outcome) : Prop where
  exitCode : outcome.exitCode = some 0
  printed : c.stdout = true → outcome.printed = document ++ "\n" ∧ outcome.files = h.files
  saved : c.stdout = false → outcome.printed = "" ∧
    h.files.IsWritten (config.outputFor c.output) document outcome.files

variable {h : Host} {c : CommandLine} {config : Config} {document : String}

theorem leavesNothing_iff {outcome : Outcome} :
    LeavesNothing h outcome ↔ outcome.printed = "" ∧ outcome.files = h.files :=
  ⟨fun nothing => ⟨nothing.printed, nothing.files⟩, fun ⟨printed, files⟩ => ⟨printed, files⟩⟩

theorem result_style_of_json (format : c.format = .json) :
    (style h c config).result = .ok .json := by
  rw [style, format]
  rfl

theorem result_style_of_grammar (format : c.format = .grammar) :
    (style h c config).result =
      ((template? h c config).mapError Grammar.Fault.error).map .grammar := by
  rw [style, format, template?]
  cases config.templateFor c.template with
  | none =>
    simp only [Program.grammar]
    cases Grammar.builtIn <;> rfl
  | some path =>
    simp only [Program.grammar]
    cases Grammar.load h.files path <;> rfl

theorem result_style_of_ok {template : Template} (format : c.format = .grammar)
    (chosen : template? h c config = .ok template) :
    (style h c config).result = .ok (.grammar template) := by
  rw [result_style_of_grammar format, chosen]
  rfl

theorem result_style_of_error {fault : Grammar.Fault} (format : c.format = .grammar)
    (refused : template? h c config = .error fault) :
    (style h c config).result = .error fault.error := by
  rw [result_style_of_grammar format, refused]
  rfl

theorem result_vocabulary : (vocabulary h c config).result = gathered h c config := by
  rw [vocabulary, Recorded.result_bind, gathered]
  cases (Gather.vocabulary (client h c config) config.extraction).result <;> rfl

theorem result_document {template : Template} {v : Vocabulary} (stack : Nat) :
    (Program.document stack (.grammar template) v).result =
      (Grammar.render stack template v).result.mapError (.map fun failure =>
        .template (failure.message Grammar.templateName)) := rfl

theorem result_prepare : (prepare h c).result =
    ((configuration? h c).mapError fun fault => .failed (.config fault.message)) >>= fun config =>
      ((style h c config).result.mapError .failed) >>= fun style =>
        ((gathered h c config).mapError .failed) >>= fun v =>
          (Program.document h.stack style v).result >>= fun document => .ok (config, document) := by
  have configured : ((configuration h c).halting : Running Config).result =
      (configuration? h c).mapError fun fault => .failed (.config fault.message) := by
    show ((configuration? h c).mapError _).mapError _ = _
    cases configuration? h c <;> rfl
  have answered (config : Config) : ((vocabulary h c config).halting : Running Vocabulary).result =
      (gathered h c config).mapError .failed := by
    rw [← result_vocabulary]
    rfl
  simp only [prepare, Recorded.result_bind, configured, answered, Recorded.result_pure]
  rfl

theorem result_prepare_of_error {fault : Config.Fault}
    (refused : configuration? h c = .error fault) :
    (prepare h c).result = .error (.failed (.config fault.message)) := by
  rw [result_prepare, refused]
  rfl

theorem result_prepare_of_unstyled {e : Error} (loaded : configuration? h c = .ok config)
    (failed : (style h c config).result = .error e) :
    (prepare h c).result = .error (.failed e) := by
  rw [result_prepare, loaded]
  show ((style h c config).result.mapError _ >>= _) = _
  rw [failed]
  rfl

theorem result_prepare_of_unanswered {s : Style} {e : Error}
    (loaded : configuration? h c = .ok config) (styled : (style h c config).result = .ok s)
    (failed : gathered h c config = .error e) : (prepare h c).result = .error (.failed e) := by
  rw [result_prepare, loaded]
  show ((style h c config).result.mapError _ >>= _) = _
  rw [styled, failed]
  rfl

theorem result_prepare_of_gathered {s : Style} {v : Vocabulary}
    (loaded : configuration? h c = .ok config) (styled : (style h c config).result = .ok s)
    (answered : gathered h c config = .ok v) : (prepare h c).result =
      (Program.document h.stack s v).result >>= fun document => .ok (config, document) := by
  rw [result_prepare, loaded]
  show ((style h c config).result.mapError _ >>= _) = _
  rw [styled, answered]
  rfl

inductive Prepared (h : Host) (c : CommandLine) : Except (Halt Error) (Config × String) → Prop
  | made {config : Config} {document : String} : Makes h c config document →
    Prepared h c (.ok (config, document))
  | broken {e : Error} : Breaks h c → Prepared h c (.error (.failed e))
  | overflown : Overflows h c → Prepared h c (.error .overflow)

theorem prepared (h : Host) (c : CommandLine) : Prepared h c (prepare h c).result := by
  cases loaded : configuration? h c with
  | error fault =>
    rw [result_prepare_of_error loaded]
    exact .broken (.configuration loaded)
  | ok config =>
    cases format : c.format with
    | json =>
      have styled : (style h c config).result = .ok .json := result_style_of_json format
      cases answered : gathered h c config with
      | error e =>
        rw [result_prepare_of_unanswered loaded styled answered]
        exact .broken (.gathering loaded answered)
      | ok v =>
        rw [result_prepare_of_gathered loaded styled answered]
        exact .made (.json loaded format answered)
    | grammar =>
      cases chosen : template? h c config with
      | error fault =>
        rw [result_prepare_of_unstyled loaded (result_style_of_error format chosen)]
        exact .broken (.template loaded format chosen)
      | ok template =>
        have styled := result_style_of_ok format chosen
        cases answered : gathered h c config with
        | error e =>
          rw [result_prepare_of_unanswered loaded styled answered]
          exact .broken (.gathering loaded answered)
        | ok v =>
          rw [result_prepare_of_gathered loaded styled answered, result_document]
          cases rendered : (Grammar.render h.stack template v).result with
          | ok document => exact .made (.grammar loaded format chosen answered rendered)
          | error halt =>
            cases halt with
            | failed failure => exact .broken (.rendering loaded format chosen answered rendered)
            | overflow => exact .overflown (.rendering loaded format chosen answered rendered)

theorem Makes.unique {config' : Config} {document' : String} (makes : Makes h c config document)
    (makes' : Makes h c config' document') : config' = config ∧ document' = document := by
  cases makes <;> cases makes' <;> simp_all

theorem Makes.not_breaks (makes : Makes h c config document) : ¬Breaks h c := by
  intro breaks
  cases makes <;> cases breaks <;> simp_all

theorem Makes.not_overflows (makes : Makes h c config document) : ¬Overflows h c := by
  intro overflows
  cases makes <;> cases overflows <;> simp_all

theorem Breaks.not_overflows (breaks : Breaks h c) : ¬Overflows h c := by
  intro overflows
  cases breaks <;> cases overflows <;> simp_all

theorem Makes.elsewhere (makes : Makes h c config document) (stdout : Bool)
    (output : Option String) :
    Makes h { c with stdout := stdout, output := output } config document := by
  cases makes with
  | json loaded format answered => exact .json loaded format answered
  | grammar loaded format chosen answered rendered =>
    exact .grammar loaded format chosen answered rendered

theorem result_prepare_of_makes (makes : Makes h c config document) :
    (prepare h c).result = .ok (config, document) := by
  have ends := prepared h c
  generalize (prepare h c).result = r at ends
  cases ends with
  | made makes' =>
    obtain ⟨rfl, rfl⟩ := makes.unique makes'
    rfl
  | broken breaks => exact absurd breaks makes.not_breaks
  | overflown overflows => exact absurd overflows makes.not_overflows

theorem result_prepare_of_overflows (overflows : Overflows h c) :
    (prepare h c).result = .error .overflow := by
  have ends := prepared h c
  generalize (prepare h c).result = r at ends
  cases ends with
  | made makes => exact absurd overflows makes.not_overflows
  | broken breaks => exact absurd overflows breaks.not_overflows
  | overflown _ => rfl

theorem result_perform_of_makes (makes : Makes h c config document) :
    (perform h c).result = (deliver h c config document).halting.result := by
  rw [perform, Recorded.result_bind, result_prepare_of_makes makes]
  rfl

theorem result_perform_of_prepare_error {halt : Halt Error}
    (ended : (prepare h c).result = .error halt) : (perform h c).result = .error halt := by
  rw [perform, Recorded.result_bind, ended]
  rfl

theorem result_perform_of_noRoom (makes : Makes h c config document) (stdout : c.stdout = true)
    (noRoom : h.stdoutHasRoom = false) : (perform h c).result =
      .error (.failed (.io s!"Failed to write to stdout: {Refusal.noSpace.message}")) := by
  rw [result_perform_of_makes makes, deliver, stdout, if_pos rfl, print, noRoom, if_neg (by simp)]
  rfl

theorem result_perform_of_refused {refusal : Refusal} (makes : Makes h c config document)
    (stdout : c.stdout = false)
    (refused : h.files.write (config.outputFor c.output) (Text.Utf8.encode document) =
      .error refusal) : (perform h c).result =
        .error (.failed
          (.io s!"Failed to write {config.outputFor c.output}: {refusal.message}")) := by
  rw [result_perform_of_makes makes, deliver, stdout, if_neg (by simp), save, refused]
  rfl

theorem run_of_error {e : Error} (failed : (perform h c).result = .error (.failed e)) :
    (run h c).exitCode = some 1 ∧ LeavesNothing h (run h c) := by
  simp only [run, failed, leavesNothing_iff, and_self]

theorem run_of_ok {delivery : Delivery} (done : (perform h c).result = .ok delivery) :
    (run h c).exitCode = some 0 ∧ (run h c).printed = delivery.printed ∧
      (run h c).files = delivery.files := by
  simp only [run, done, and_self]

theorem delivers_of_makes (makes : Makes h c config document) (succeeds : ¬Fails h c) :
    Delivers h c config document (run h c) := by
  have performed := result_perform_of_makes makes
  rw [deliver] at performed
  cases stdout : c.stdout with
  | true =>
    cases room : h.stdoutHasRoom with
    | false => exact absurd (.printing makes stdout room) succeeds
    | true =>
      rw [stdout, if_pos rfl, print, room, if_pos rfl] at performed
      obtain ⟨code, printed, files⟩ := run_of_ok performed
      exact ⟨code, fun _ => ⟨printed, files⟩, fun no => by simp [stdout] at no⟩
  | false =>
    cases written : h.files.write (config.outputFor c.output) (Text.Utf8.encode document) with
    | error refusal => exact absurd (.saving makes stdout written) succeeds
    | ok files =>
      rw [stdout, if_neg (by simp), save, written] at performed
      obtain ⟨code, printed, left⟩ := run_of_ok performed
      refine ⟨code, fun yes => by simp [stdout] at yes, fun _ => ⟨printed, ?_⟩⟩
      rw [left]
      exact FileSystem.isWritten_of_write written

end CMakeGrammar.Program
