import CMakeGrammar.Proofs.Config.Template
import CMakeGrammar.Proofs.FileSystem.Resemblance
import CMakeGrammar.Proofs.Gather.Clients
import CMakeGrammar.Proofs.Program.Stages
/-! Runs that make no grammar have no use for a template. Whether one is asked for, on the command
line or in the configuration, and whether its file is there and what it holds, such runs put the
same queries, print the same and write the same. -/
namespace CMakeGrammar

namespace Config
variable {fs other : FileSystem} {path : String}

theorem load_congr (same : fs.find path = other.find path) : load fs path = load other path := by
  have isThere : fs.exists? path = other.exists? path := by
    rw [FileSystem.exists?, FileSystem.exists?, same]
  have text : fs.readText path = other.readText path := by
    rw [FileSystem.readText, FileSystem.readText, FileSystem.read, FileSystem.read, same]
  rw [load, load, isThere, text]

theorem load_of_error {refusal : Refusal} (nowhere : fs.place path = .error refusal) :
    load fs path = .ok standard := by
  have absent : fs.find path = .error refusal := by
    rw [FileSystem.find, nowhere]
    rfl
  rw [load, FileSystem.exists?, absent]
  rfl

theorem load_of_content {place : List String} {text : String} (leads : fs.place path = .ok place)
    (holds : (fs.content? place).bind Text.Utf8.decode? = some text) :
    load fs path = ofText path text := by
  obtain ⟨bytes, isContent, isText⟩ := Option.bind_eq_some_iff.mp holds
  obtain ⟨entry, found, content⟩ : ∃ entry, fs.find path = .ok entry ∧
      (entry = .file bytes ∨ ∃ run, entry = .program bytes run) := by
    rw [FileSystem.find, leads]
    rw [FileSystem.content?] at isContent
    simp only [bind, Except.bind]
    split at isContent
    · rename_i here
      cases isContent
      exact ⟨_, by rw [here]; rfl, .inl rfl⟩
    · rename_i run here
      cases isContent
      exact ⟨_, by rw [here]; rfl, .inr ⟨run, rfl⟩⟩
    · cases isContent
  have readBytes : fs.read path = .ok bytes := by
    rw [FileSystem.read, found]
    rcases content with rfl | ⟨run, rfl⟩ <;> rfl
  rw [load, FileSystem.exists?, found, if_pos rfl, FileSystem.readText, readBytes]
  simp only [isText]

end Config

namespace Program
open Text.Utf8 (decode?)

/-- Runs that may be asked for other templates, with other files, but with the same configuration
and the same executable. -/
structure DifferInTemplate (h h' : Host) (c c' : CommandLine) : Prop where
  environment : h.environment = h'.environment
  room : h.stdoutHasRoom = h'.stdoutHasRoom
  commandLine : c' = { c with template := c'.template }
  files : h.files.Resembles h'.files
  configuration : ∀ place, h.files.place (c.configPath h.environment) = .ok place →
    h.files.entry? place = h'.files.entry? place ∨
      ∃ text other, (h.files.content? place).bind decode? = some text ∧
        (h'.files.content? place).bind decode? = some other ∧
          Config.SameTextButTemplate text other
  executable : ∀ config, configuration? h c = .ok config →
    ∀ path ∈ FileSystem.executablePaths h.environment.path (config.executableFor c.cmake),
      h.files.RunsAlike h'.files path

/-- What is to be seen of two runs from the outside. -/
structure SameEffects (h h' : Host) (o o' : Outcome) : Prop where
  exitCode : o.exitCode = o'.exitCode
  printed : o.printed = o'.printed
  queries : o.queries = o'.queries
  files : h.files.ChangeAlike o.files h'.files o'.files

variable {h h' : Host} {c c' : CommandLine} {config : Config} {e e' : Error}

theorem DifferInTemplate.configPath (differ : DifferInTemplate h h' c c') :
    c'.configPath h'.environment = c.configPath h.environment := by
  rw [differ.commandLine, differ.environment]
  rfl

theorem DifferInTemplate.configured (differ : DifferInTemplate h h' c c') :
    (configuration? h c).toOption.map Config.apart =
      (configuration? h' c').toOption.map Config.apart := by
  rw [configuration?, configuration?, differ.configPath]
  have leads := FileSystem.place_alike differ.files (c.configPath h.environment)
  generalize here : h.files.place (c.configPath h.environment) = x at leads
  generalize there : h'.files.place (c.configPath h.environment) = y at leads
  cases leads with
  | refused _ _ => rw [Config.load_of_error here, Config.load_of_error there]
  | same r =>
    cases x with
    | error _ => rw [Config.load_of_error here, Config.load_of_error there]
    | ok place =>
      rcases differ.configuration place here with same | ⟨text, other, holds, holds', same⟩
      · have found : h.files.find (c.configPath h.environment) =
            h'.files.find (c.configPath h.environment) := by
          rw [FileSystem.find, FileSystem.find, here, there]
          simp only [bind, Except.bind, same]
        rw [Config.load_congr found]
      · rw [Config.load_of_content here holds, Config.load_of_content there holds']
        exact Config.ofText_sameTextButTemplate same _

theorem sameEffects_of_errors (queries : (run h c).queries = (run h' c').queries)
    (failed : (perform h c).result = .error (.failed e))
    (failed' : (perform h' c').result = .error (.failed e')) :
    SameEffects h h' (run h c) (run h' c') := by
  obtain ⟨code, nothing⟩ := run_of_error failed
  obtain ⟨code', nothing'⟩ := run_of_error failed'
  refine ⟨by rw [code, code'], by rw [nothing.printed, nothing'.printed], queries, ?_⟩
  rw [nothing.files, nothing'.files]
  exact FileSystem.changeAlike_refl _ _

theorem sameEffects_of_ok (queries : (run h c).queries = (run h' c').queries)
    {delivery delivery' : Delivery} (done : (perform h c).result = .ok delivery)
    (done' : (perform h' c').result = .ok delivery')
    (printed : delivery.printed = delivery'.printed)
    (files : h.files.ChangeAlike delivery.files h'.files delivery'.files) :
    SameEffects h h' (run h c) (run h' c') := by
  obtain ⟨code, isPrinted, isLeft⟩ := run_of_ok done
  obtain ⟨code', isPrinted', isLeft'⟩ := run_of_ok done'
  refine ⟨by rw [code, code'], by rw [isPrinted, isPrinted', printed], queries, ?_⟩
  rw [isLeft, isLeft']
  exact files

theorem DifferInTemplate.delivered (differ : DifferInTemplate h h' c c') {config' : Config}
    {document : String} (same : config'.output = config.output)
    (queries : (run h c).queries = (run h' c').queries) (makes : Makes h c config document)
    (makes' : Makes h' c' config' document) : SameEffects h h' (run h c) (run h' c') := by
  have performed := result_perform_of_makes makes
  have performed' := result_perform_of_makes makes'
  have stdout : c'.stdout = c.stdout := by rw [differ.commandLine]
  have output : config'.outputFor c'.output = config.outputFor c.output := by
    rw [Config.outputFor, Config.outputFor, same, differ.commandLine]
  rw [deliver] at performed performed'
  rw [stdout] at performed'
  cases goes : c.stdout with
  | true =>
    rw [goes, if_pos rfl, print] at performed performed'
    rw [← differ.room] at performed'
    cases room : h.stdoutHasRoom with
    | true =>
      rw [room, if_pos rfl] at performed performed'
      exact sameEffects_of_ok queries performed performed' rfl (FileSystem.changeAlike_refl _ _)
    | false =>
      rw [room, if_neg (by simp)] at performed performed'
      exact sameEffects_of_errors queries performed performed'
  | false =>
    rw [goes, if_neg (by simp), save] at performed performed'
    rw [output] at performed'
    have written := FileSystem.write_alike differ.files (config.outputFor c.output)
      (Text.Utf8.encode document)
    rcases written with ⟨a, b, refused, refused'⟩ | ⟨after, after', taken, taken', alike⟩
    · rw [refused] at performed
      rw [refused'] at performed'
      exact sameEffects_of_errors queries performed performed'
    · rw [taken] at performed
      rw [taken'] at performed'
      exact sameEffects_of_ok queries performed performed' rfl alike

theorem queries_of_unconfigured {fault : Config.Fault}
    (refused : configuration? h c = .error fault) : (run h c).queries = [] := by
  cases asked : (run h c).queries with
  | nil => rfl
  | cons first others =>
    obtain ⟨config, ready⟩ := exists_ready (h := h) (c := c) (by simp [asked])
    have configured := ready.configured
    rw [refused] at configured
    cases configured

theorem DifferInTemplate.answers (differ : DifferInTemplate h h' c c') {config' : Config}
    (loaded : configuration? h c = .ok config) (same : config'.executable = config.executable)
    (q : Query) : Gather.AnswersAlike (client h c config) (client h' c' config') q := by
  have executable : config'.executableFor c'.cmake = config.executableFor c.cmake := by
    rw [Config.executableFor, Config.executableFor, same, differ.commandLine]
  rw [client, client, executable, ← differ.environment]
  refine Gather.answersAlike_ofExecutable _ ?_
  exact FileSystem.run_alike differ.files (differ.executable config loaded) _

theorem perform_of_gathering_error (loaded : configuration? h c = .ok config)
    (format : c.format = .json) (failed : gathered h c config = .error e) :
    (perform h c).result = .error (.failed e) :=
  result_perform_of_prepare_error
    (result_prepare_of_unanswered loaded (result_style_of_json format) failed)

theorem sameEffects_of_differ (format : c.format = .json) (differ : DifferInTemplate h h' c c') :
    SameEffects h h' (run h c) (run h' c') := by
  have format' : c'.format = .json := by rw [differ.commandLine, format]
  have configured := differ.configured
  cases loaded : configuration? h c with
  | error fault =>
    cases loaded' : configuration? h' c' with
    | ok config' =>
      rw [loaded, loaded'] at configured
      cases configured
    | error fault' =>
      have queries : (run h c).queries = (run h' c').queries := by
        rw [queries_of_unconfigured loaded, queries_of_unconfigured loaded']
      exact sameEffects_of_errors queries
        (result_perform_of_prepare_error (result_prepare_of_error loaded))
        (result_perform_of_prepare_error (result_prepare_of_error loaded'))
  | ok config =>
    cases loaded' : configuration? h' c' with
    | error fault' =>
      rw [loaded, loaded'] at configured
      cases configured
    | ok config' =>
      rw [loaded, loaded'] at configured
      have same : config'.apart = config.apart := (Option.some.inj configured).symm
      simp only [Config.apart, Config.mk.injEq, and_true] at same
      obtain ⟨sameExecutable, sameExtraction, sameOutput⟩ := same
      -- only queries lie between the configuration and the delivery
      have alike := Gather.runAlike_of_asked (e := config.extraction) fun q _ =>
        differ.answers loaded sameExecutable q
      have ready : IsReady h c config := ⟨loaded, fun grammar => by simp [format] at grammar⟩
      have ready' : IsReady h' c' config' := ⟨loaded', fun grammar => by simp [format'] at grammar⟩
      have queries : (run h c).queries = (run h' c').queries := by
        rw [queries_of_ready ready, queries_of_ready ready', sameExtraction, alike.queries]
      have ends := alike.results
      generalize answered :
        (Gather.vocabulary (client h c config) config.extraction).result = x at ends
      generalize answered' :
        (Gather.vocabulary (client h' c' config') config.extraction).result = y at ends
      rw [← sameExtraction] at answered'
      cases ends with
      | gathered v =>
        exact differ.delivered sameOutput queries (.json loaded format answered)
          (.json loaded' format' answered')
      | unanswered _ _ _ =>
        exact sameEffects_of_errors queries (perform_of_gathering_error loaded format answered)
          (perform_of_gathering_error loaded' format' answered')
      | rejected _ _ _ _ =>
        exact sameEffects_of_errors queries (perform_of_gathering_error loaded format answered)
          (perform_of_gathering_error loaded' format' answered')

/-- Of all that is wrong with a run the earliest ends it and is reported; no query is put before
there is a configuration, and a template where a grammar is asked for; and where none is asked for,
no template has a part in what the run does. -/
theorem run_inOrder :
    (∀ h c, EndsByEarliest h c) ∧
    (∀ h c, (run h c).queries ≠ [] → ∃ config, IsReady h c config) ∧
    ∀ h h' c c', c.format = .json → DifferInTemplate h h' c c' →
      SameEffects h h' (run h c) (run h' c') :=
  ⟨endsByEarliest, fun _ _ => exists_ready, fun _ _ _ _ => sameEffects_of_differ⟩

section
open Gather (smallHelp)

/-- A host with the executable of `smallHelp` and a configuration file. -/
def smallHost (configuration : String) (others : List (List String × Entry)) : Host where
  environment := ⟨none, none, none, none, ""⟩
  files := ⟨(["cmake"], .program [] (Reply.behaviour (smallHelp.map Reply.printing))) ::
    (["config.toml"], .file (Text.Utf8.encode configuration)) :: others, []⟩
  stdoutHasRoom := false
  stack := 0

def smallCommand (format : Format) (template : Option String) : CommandLine where
  cmake := some "/cmake"
  output := none
  stdout := true
  config := some "/config.toml"
  template := template
  format := format
  verbose := false

def templateOnly : String := "[output]\ntemplate = \"grammar.hbs\"\n"

def templateDocument : Toml.Value :=
  .table .header none [(⟨"output", ⟨⟨1, 2⟩, 1, 7⟩⟩, .table .header (some ⟨⟨1, 1⟩, 0, 33⟩)
    [(⟨"template", ⟨⟨2, 1⟩, 9, 17⟩⟩, .scalar ⟨⟨2, 12⟩, 20, 33⟩ (.text "grammar.hbs"))])]

theorem parse?_templateOnly : Toml.parse? templateOnly = some templateDocument := by rfl

theorem sameTextButTemplate_templateOnly : Config.SameTextButTemplate "" templateOnly := by
  have empty : Toml.parse? "" = some .empty := by rfl
  have same : Config.SameButTemplate .empty templateDocument := ⟨by rfl, by rfl, by rfl⟩
  rw [Config.SameTextButTemplate, empty, parse?_templateOnly]
  exact .some same

theorem differInTemplate_small : DifferInTemplate (smallHost "" [])
    (smallHost templateOnly [(["grammar.hbs"], .file [])]) (smallCommand .json none)
    (smallCommand .json (some "grammar.hbs")) where
  environment := rfl
  room := rfl
  commandLine := rfl
  files := by
    refine ⟨rfl, fun place => ?_⟩
    by_cases atRoot : place = []
    · rw [atRoot]
      exact .inl rfl
    by_cases atProgram : place = ["cmake"]
    · rw [atProgram]
      exact .inl rfl
    by_cases atConfig : place = ["config.toml"]
    · rw [atConfig]
      exact .inr ⟨trivial, trivial⟩
    by_cases atTemplate : place = ["grammar.hbs"]
    · rw [atTemplate]
      exact .inr ⟨trivial, trivial⟩
    · left
      simp [FileSystem.entry?, smallHost, List.lookup_cons, beq_eq_false_iff_ne.mpr atProgram,
        beq_eq_false_iff_ne.mpr atConfig, beq_eq_false_iff_ne.mpr atTemplate]
  configuration := by
    intro place leads
    have here : (smallHost "" []).files.place "/config.toml" = .ok ["config.toml"] := rfl
    obtain rfl : ["config.toml"] = place := Except.ok.inj (here.symm.trans leads)
    refine .inr ⟨"", templateOnly, ?_, ?_, sameTextButTemplate_templateOnly⟩
    · exact Text.Utf8.decode?_encode ""
    · exact Text.Utf8.decode?_encode templateOnly
  executable := by
    intro config _ path mem
    have only : FileSystem.executablePaths "" "/cmake" = ["/cmake"] := rfl
    obtain rfl : path = "/cmake" := List.mem_singleton.mp (only ▸ mem)
    intro place leads
    have here : (smallHost "" []).files.place "/cmake" = .ok ["cmake"] := rfl
    obtain rfl : ["cmake"] = place := Except.ok.inj (here.symm.trans leads)
    rfl

theorem configuration?_small (format : Format) (template : Option String) :
    configuration? (smallHost "" []) (smallCommand format template) = .ok .standard := by
  have leads : (smallHost "" []).files.place "/config.toml" = .ok ["config.toml"] := by rfl
  exact Config.load_of_content leads (Text.Utf8.decode?_encode "")

theorem faulty_small :
    Faulty (smallHost "" []) (smallCommand .grammar (some "grammar.hbs")) .template
      (.failed (Grammar.Fault.unreadable "grammar.hbs" Refusal.notFound.message).error) ∧
    Faulty (smallHost "" []) (smallCommand .grammar (some "grammar.hbs")) .delivery
      (.failed (.io s!"Failed to write to stdout: {Refusal.noSpace.message}")) ∧
    ∀ earlier < Stage.template, ∀ other,
      ¬Faulty (smallHost "" []) (smallCommand .grammar (some "grammar.hbs")) earlier other := by
  refine ⟨.template rfl (by rfl), .printing rfl rfl, ?_⟩
  rintro earlier less other faulty
  cases faulty with
  | configuration refused =>
    rw [configuration?_small] at refused
    cases refused
  | _ => exact absurd less (by decide)

theorem queries_small_ne_nil (template : Option String) :
    (run (smallHost "" []) (smallCommand .json template)).queries ≠ [] := by
  have ready : IsReady (smallHost "" []) (smallCommand .json template) .standard :=
    ⟨configuration?_small .json template, nofun⟩
  rw [queries_of_ready ready]
  exact Gather.queries_ne_nil _ _

theorem run_inOrder_small :
    Faulty (smallHost "" []) (smallCommand .grammar (some "grammar.hbs")) .template
      (.failed (Grammar.Fault.unreadable "grammar.hbs" Refusal.notFound.message).error) ∧
    Faulty (smallHost "" []) (smallCommand .grammar (some "grammar.hbs")) .delivery
      (.failed (.io s!"Failed to write to stdout: {Refusal.noSpace.message}")) ∧
    Reports (smallHost "" []) (smallCommand .grammar (some "grammar.hbs"))
      (Grammar.Fault.unreadable "grammar.hbs" Refusal.notFound.message).error ∧
    (run (smallHost "" []) (smallCommand .json none)).queries ≠ [] ∧
    (∃ config, IsReady (smallHost "" []) (smallCommand .json none) config) ∧
    DifferInTemplate (smallHost "" []) (smallHost templateOnly [(["grammar.hbs"], .file [])])
      (smallCommand .json none) (smallCommand .json (some "grammar.hbs")) ∧
    SameEffects (smallHost "" []) (smallHost templateOnly [(["grammar.hbs"], .file [])])
      (run (smallHost "" []) (smallCommand .json none))
      (run (smallHost templateOnly [(["grammar.hbs"], .file [])])
        (smallCommand .json (some "grammar.hbs"))) := by
  obtain ⟨template, delivery, first⟩ := faulty_small
  obtain ⟨earliest, ready, independent⟩ := run_inOrder
  have asks := queries_small_ne_nil none
  exact ⟨template, delivery, (earliest _ _).faulty _ _ template first, asks, ready _ _ asks,
    differInTemplate_small, independent _ _ _ _ rfl differInTemplate_small⟩

end

end Program
end CMakeGrammar
