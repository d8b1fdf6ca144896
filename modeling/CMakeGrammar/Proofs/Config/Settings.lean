import CMakeGrammar.Proofs.Config.Template
/-! The settings of a configuration. Each has a key of its own in one of three tables, and what a
document gives for one says nothing about the others: a configuration is a content for each setting
(`toOption_decode_eq_some_iff`), and it can be used if each content can (`fault?_eq_none_iff`). -/
namespace CMakeGrammar

namespace Toml.Value

def text? : Value → Option String
  | scalar _ (.text s) => some s
  | _ => none

def items? : Value → Option (List Value)
  | array _ items => some items
  | tables elements => some elements
  | _ => none

def texts? (v : Value) : Option (List String) := v.items? >>= List.mapM text?

end Toml.Value

namespace Toml
variable {α β γ σ : Type}

theorem mapM_bind (f : α → Option β) (g : β → Option γ) (items : List α) :
    (items.mapM fun a => f a >>= g) = items.mapM f >>= List.mapM g := by
  induction items with
  | nil => rfl
  | cons a items ih =>
    simp only [List.mapM_cons, ih]
    cases f a with
    | none => rfl
    | some b =>
      cases items.mapM f with
      | none => cases step : g b <;> simp [step]
      | some bs => simp

theorem mapM_eq_none_of_mem {f : α → Option β} {a : α} {items : List α} (mem : a ∈ items)
    (unread : f a = none) : items.mapM f = none := by
  induction items with
  | nil => cases mem
  | cons first items ih =>
    rw [List.mapM_cons]
    rcases List.mem_cons.mp mem with rfl | mem
    · rw [unread]
      rfl
    · rw [ih mem]
      cases f first <;> rfl

namespace Decoder

theorem toOption_text (expected : String) (v : Value) : (text expected v).toOption = v.text? := by
  cases v with
  | scalar span content => cases content <;> rfl
  | _ => rfl

theorem toOption_list (item : Decoder α) (v : Value) :
    (list item v).toOption = v.items? >>= List.mapM fun element => (item element).toOption := by
  cases v with
  | array span items =>
    simp only [list, toOption_placed, toOption_mapM]
    rfl
  | tables elements =>
    simp only [list, toOption_placed, toOption_mapM]
    rfl
  | _ => rfl

theorem commute_field {name other : String} {decode : Decoder α} {decode' : Decoder β}
    {put : σ → α → σ} {put' : σ → β → σ} (comm : ∀ s a b, put' (put s a) b = put (put' s b) a) :
    (field name decode put).Commute (field other decode' put') :=
  Field.commute_of_puts (fun _ _ => toOption_map _ _) (fun _ _ => toOption_map _ _) comm

theorem commute_of_pairwise {fields : List (Field σ)} (pairwise : fields.Pairwise Field.Commute) :
    ∀ f ∈ fields, ∀ g ∈ fields, f.name ≠ g.name → f.Commute g := by
  induction pairwise with
  | nil => exact List.forall_mem_nil _
  | cons first others ih =>
    simp only [List.forall_mem_cons]
    exact ⟨⟨fun ne => absurd rfl ne, fun g mem _ => first g mem⟩,
      fun f mem => ⟨fun _ => (first f mem).symm, ih f mem⟩⟩

end Decoder
end Toml

namespace Config
open Toml (Decoder Key Value find? IsUnambiguous)
open Toml.Decoder (field record)

def entriesIn (table : String) (document : Value) : List (Key × Value) :=
  entries ((value? table document).getD .empty)

def at? (table key : String) (document : Value) : Option Value :=
  find? key (entriesIn table document)

inductive Setting
  | executable | placeholder | languages | stoplist | excludedCommands | modules | manual
  | output | template
  deriving DecidableEq

namespace Setting

def table : Setting → String
  | executable => "cmake"
  | output | template => "output"
  | _ => "extraction"

def key : Setting → String
  | executable => "executable"
  | placeholder => "placeholder"
  | languages => "languages"
  | stoplist => "stoplist"
  | excludedCommands => "excluded_commands"
  | modules => "modules"
  | manual => "generator_expression_manual"
  | output => "path"
  | template => "template"

abbrev Content : Setting → Type
  | executable | output | template => Option String
  | placeholder | manual => String
  | languages => List Language
  | stoplist | excludedCommands => NameSet
  | modules => List String

def get : (s : Setting) → Config → s.Content
  | executable, c => c.executable
  | placeholder, c => c.extraction.placeholder
  | languages, c => c.extraction.languages
  | stoplist, c => c.extraction.stoplist
  | excludedCommands, c => c.extraction.excludedCommands
  | modules, c => c.extraction.modules
  | manual, c => c.extraction.manual
  | output, c => c.output
  | template, c => c.template

/-- Whether a value has the type of a setting: that of a list of texts, or that of a text. -/
def HasType : Setting → Value → Prop
  | languages, v | stoplist, v | excludedCommands, v | modules, v => v.texts?.isSome
  | _, v => v.text?.isSome

def read? : (s : Setting) → Value → Option s.Content
  | executable, v => v.text?.map some
  | placeholder, v => v.text?
  | languages, v => v.texts? >>= List.mapM Language.ofName?
  | stoplist, v => v.texts?.map NameSet.ofList
  | excludedCommands, v => v.texts?.map NameSet.ofList
  | modules, v => v.texts?
  | manual, v => v.text?
  | output, v => v.text?.map some
  | template, v => v.text?.map some

/-- What is asked of a setting before a configuration is used. -/
def IsUsable : (s : Setting) → s.Content → Prop
  | placeholder, p => Extraction.isSegment p
  | languages, ls => ls ≠ []
  | manual, m => Text.trim m ≠ ""
  | _, _ => True

def written? (s : Setting) (document : Value) : Option Value := at? s.table s.key document

/-- What a document gives for a setting: what is written there, or the standard content where
nothing is. -/
def given? (s : Setting) (document : Value) : Option s.Content :=
  match s.written? document with
  | none => some (s.get standard)
  | some v => s.read? v

def assemble (content : (s : Setting) → s.Content) : Config where
  executable := content executable
  extraction := {
    placeholder := content placeholder
    languages := content languages
    stoplist := content stoplist
    excludedCommands := content excludedCommands
    modules := content modules
    manual := content manual }
  output := content output
  template := content template

@[simp] theorem get_assemble (content : (s : Setting) → s.Content) (s : Setting) :
    s.get (assemble content) = content s := by
  cases s <;> rfl

end Setting

theorem fault?_eq_none_iff {c : Config} :
    c.extraction.fault? = none ↔ ∀ s : Setting, s.IsUsable (s.get c) := by
  have three : (∀ s : Setting, s.IsUsable (s.get c)) ↔
      Extraction.isSegment c.extraction.placeholder = true ∧ c.extraction.languages ≠ [] ∧
        Text.trim c.extraction.manual ≠ "" := by
    refine ⟨fun h => ⟨h .placeholder, h .languages, h .manual⟩, ?_⟩
    rintro ⟨placeholder, languages, manual⟩ s
    cases s with
    | placeholder => exact placeholder
    | languages => exact languages
    | manual => exact manual
    | _ => exact trivial
  rw [three, Extraction.fault?]
  by_cases segment : Extraction.isSegment c.extraction.placeholder = true
  · by_cases noLanguage : c.extraction.languages = []
    · simp [segment, noLanguage]
    · simp [segment, noLanguage]
  · simp [segment]

theorem toOption_strings (v : Value) : (strings v).toOption = v.texts? := by
  rw [strings, Decoder.toOption_list, Value.texts?]
  simp only [string, Decoder.toOption_text]

theorem toOption_languages (v : Value) :
    (languages v).toOption = v.texts? >>= List.mapM Language.ofName? := by
  have word (item : Value) :
      (Decoder.word "a string" Language.ofName? Language.unknownMessage item).toOption =
        item.text? >>= Language.ofName? := by
    rw [Decoder.word, Toml.toOption_bind, Decoder.toOption_text]
    congr 1
    funext name
    cases Language.ofName? name <;> rfl
  rw [languages, Decoder.toOption_list, Value.texts?, bind_assoc]
  simp only [word]
  exact congrArg _ (funext fun items => Toml.mapM_bind _ _ items)

theorem foldlM_field {σ α : Type} (s : Setting) {decode : Decoder α} {put : σ → α → σ}
    {content : α → s.Content} {fields : List (Decoder.Field σ)} (set : σ → s.Content → σ)
    (reads : ∀ v, s.read? v = (decode v).toOption.map content)
    (sets : ∀ t a, put t a = set t (content a)) {t : σ} (fresh : set t (s.get standard) = t)
    {document : Value} {next : s.Content → Option σ}
    (others : ∀ a,
      fields.foldlM (Decoder.Field.take (entriesIn s.table document)) (set t a) = next a) :
    (field s.key decode put :: fields).foldlM (Decoder.Field.take (entriesIn s.table document)) t =
      s.given? document >>= next := by
  have isKey : (field s.key decode put).name = s.key := rfl
  rw [List.foldlM_cons, Decoder.Field.take, isKey, Setting.given?, Setting.written?, at?]
  cases find? s.key (entriesIn s.table document) with
  | none =>
    show fields.foldlM _ t = next (s.get standard)
    rw [← others, fresh]
  | some v =>
    simp only [field, Toml.toOption_map, reads]
    cases (decode v).toOption with
    | none => rfl
    | some a =>
      show fields.foldlM _ (put t a) = next (content a)
      rw [← others, sets]

theorem pairwise_extractionFields : extractionFields.Pairwise Decoder.Field.Commute := by
  simp only [extractionFields, List.pairwise_cons, List.forall_mem_cons, List.not_mem_nil,
    false_implies, implies_true, List.Pairwise.nil, and_true]
  and_intros <;> exact Decoder.commute_field fun _ _ _ => rfl

theorem pairwise_outputFields : outputFields.Pairwise Decoder.Field.Commute := by
  simp only [outputFields, List.pairwise_cons, List.forall_mem_cons, List.not_mem_nil,
    false_implies, implies_true, List.Pairwise.nil, and_true]
  exact Decoder.commute_field fun _ _ _ => rfl

def HasTables (document : Value) : Prop :=
  ∀ s : Setting, ∀ v, value? s.table document = some v → v.IsTable

theorem isUnambiguous_of_value? {document v : Value} (h : IsUnambiguous document) {name : String}
    (found : value? name document = some v) : IsUnambiguous v := by
  cases document with
  | table origin span entries => exact h.of_find? found
  | _ => cases found

section
variable {σ : Type} {fields : List (Decoder.Field σ)} {rest : σ} {document : Value}

theorem toOption_record_section (distinctFields : (fields.map Decoder.Field.name).Nodup)
    (commute : fields.Pairwise Decoder.Field.Commute) (h : IsUnambiguous document) {name : String}
    (isTable : ∀ v, value? name document = some v → v.IsTable) (recordName : String)
    (complete : Bool) :
    (match value? name document with
      | none => some rest
      | some v => (record recordName complete fields rest v).toOption) =
        fields.foldlM (Decoder.Field.take (entriesIn name document)) rest := by
  rw [entriesIn]
  cases found : value? name document with
  | none => exact (Decoder.foldlM_take_nil rest).symm
  | some v =>
    have isTable : v.IsTable := isTable v found
    cases isUnambiguous_of_value? h found with
    | table distinct =>
      exact Decoder.toOption_record_table _ _ distinct distinctFields
        (Decoder.commute_of_pairwise commute)
    | _ => exact isTable.elim

theorem foldlM_extractionFields (document : Value) :
    extractionFields.foldlM (Decoder.Field.take (entriesIn "extraction" document)) .standard = do
      let placeholder ← Setting.placeholder.given? document
      let languages ← Setting.languages.given? document
      let stoplist ← Setting.stoplist.given? document
      let excludedCommands ← Setting.excludedCommands.given? document
      let modules ← Setting.modules.given? document
      let manual ← Setting.manual.given? document
      return ⟨placeholder, languages, stoplist, excludedCommands, modules, manual⟩ := by
  have text (v : Value) : v.text? = (string v).toOption.map id := by
    rw [string, Decoder.toOption_text, Option.map_id, id]
  have tags (v : Value) :
      v.texts? >>= List.mapM Language.ofName? = (Config.languages v).toOption.map id := by
    rw [toOption_languages, Option.map_id, id]
  have names (v : Value) :
      v.texts?.map NameSet.ofList = (strings v).toOption.map NameSet.ofList := by
    rw [toOption_strings]
  have texts (v : Value) : v.texts? = (strings v).toOption.map id := by
    rw [toOption_strings, Option.map_id, id]
  refine foldlM_field .placeholder (fun (e : Extraction) placeholder => { e with placeholder }) text
    (fun _ _ => rfl) rfl fun placeholder => ?_
  refine foldlM_field .languages (fun (e : Extraction) languages => { e with languages }) tags
    (fun _ _ => rfl) rfl fun languages => ?_
  refine foldlM_field .stoplist (fun (e : Extraction) stoplist => { e with stoplist }) names
    (fun _ _ => rfl) rfl fun stoplist => ?_
  refine foldlM_field .excludedCommands
    (fun (e : Extraction) excludedCommands => { e with excludedCommands }) names
    (fun _ _ => rfl) rfl fun excludedCommands => ?_
  refine foldlM_field .modules (fun (e : Extraction) modules => { e with modules }) texts
    (fun _ _ => rfl) rfl fun modules => ?_
  exact foldlM_field .manual (fun (e : Extraction) manual => { e with manual }) text
    (fun _ _ => rfl) rfl fun manual => rfl

theorem some_text (expected : String) (v : Value) :
    v.text?.map some = (Decoder.text expected v).toOption.map some :=
  congrArg (Option.map some) (Decoder.toOption_text expected v).symm

theorem foldlM_cmakeFields (document : Value) :
    cmakeFields.foldlM (Decoder.Field.take (entriesIn "cmake" document)) standard = do
      let executable ← Setting.executable.given? document
      return { standard with executable } :=
  foldlM_field .executable (fun (c : Config) executable => { c with executable }) (some_text _)
    (fun _ _ => rfl) rfl fun _ => rfl

theorem foldlM_outputFields {c : Config} (output : c.output = none) (template : c.template = none)
    (document : Value) :
    outputFields.foldlM (Decoder.Field.take (entriesIn "output" document)) c = do
      let output ← Setting.output.given? document
      let template ← Setting.template.given? document
      return { c with output, template } := by
  -- with the paths replaced by `none`, the standard contents put there change nothing
  obtain ⟨executable, extraction, _, _⟩ := c
  cases output
  cases template
  refine foldlM_field .output (fun (c : Config) output => { c with output }) (some_text _)
    (fun _ _ => rfl) rfl fun output => ?_
  exact foldlM_field .template (fun (c : Config) template => { c with template }) (some_text _)
    (fun _ _ => rfl) rfl fun template => rfl

theorem take_cmakeField (h : IsUnambiguous document) (tables : HasTables document) :
    cmakeField.take (entries document) standard = do
      let executable ← Setting.executable.given? document
      return { standard with executable } := by
  rw [← foldlM_cmakeFields]
  exact toOption_record_section (by decide) (List.pairwise_singleton _ _) h (tables .executable) _ _

theorem take_extractionField (h : IsUnambiguous document) (tables : HasTables document) {c : Config}
    (fresh : c.extraction = .standard) : extractionField.take (entries document) c = do
      let extraction ←
        extractionFields.foldlM (Decoder.Field.take (entriesIn "extraction" document)) .standard
      return { c with extraction } := by
  have isTable : ∀ v, value? "extraction" document = some v → v.IsTable := tables .placeholder
  rw [← toOption_record_section (by decide) pairwise_extractionFields h isTable
    "ExtractionConfig" false, Decoder.Field.take]
  cases found : value? "extraction" document with
  | none =>
    have absent : find? extractionField.name (entries document) = none := found
    rw [absent, ← fresh]
    rfl
  | some v =>
    have here : find? extractionField.name (entries document) = some v := found
    rw [here]
    simp only [toOption_extractionField]
    cases (record "ExtractionConfig" false extractionFields .standard v).toOption <;> rfl

theorem take_outputField_of_hasTables (h : IsUnambiguous document) (tables : HasTables document)
    {c : Config} (output : c.output = none) (template : c.template = none) :
    outputField.take (entries document) c = do
      let output ← Setting.output.given? document
      let template ← Setting.template.given? document
      return { c with output, template } := by
  rw [← foldlM_outputFields output template]
  exact toOption_record_section (by decide) pairwise_outputFields h (tables .output) _ _

/-- The settings of a document are read one by one, each from what the document gives for it. -/
theorem toOption_decode_bySetting (isTable : document.IsTable) (h : IsUnambiguous document)
    (tables : HasTables document) : (decode document).toOption = do
      let executable ← Setting.executable.given? document
      let placeholder ← Setting.placeholder.given? document
      let languages ← Setting.languages.given? document
      let stoplist ← Setting.stoplist.given? document
      let excludedCommands ← Setting.excludedCommands.given? document
      let modules ← Setting.modules.given? document
      let manual ← Setting.manual.given? document
      let output ← Setting.output.given? document
      let template ← Setting.template.given? document
      return ⟨executable, ⟨placeholder, languages, stoplist, excludedCommands, modules, manual⟩,
        output, template⟩ := by
  rw [toOption_decode (h.isKeyed isTable), fields_eq, List.foldlM_cons, take_cmakeField h tables,
    bind_assoc]
  refine congrArg _ (funext fun executable => ?_)
  -- the output is still unset when its table comes, so what is taken there starts from nothing
  rw [pure_bind, List.foldlM_cons, take_extractionField h tables rfl, foldlM_extractionFields]
  simp only [bind_assoc, pure_bind, List.foldlM_cons, List.foldlM_nil, bind_pure]
  iterate 6 refine congrArg _ (funext fun _ => ?_)
  exact take_outputField_of_hasTables h tables rfl rfl

theorem toOption_decode_eq_some_iff (isTable : document.IsTable) (h : IsUnambiguous document)
    (tables : HasTables document) {c : Config} :
    (decode document).toOption = some c ↔ ∀ s : Setting, s.given? document = some (s.get c) := by
  rw [toOption_decode_bySetting isTable h tables]
  constructor
  · intro read
    simp only [Option.bind_eq_bind, Option.bind_eq_some_iff] at read
    obtain ⟨_, executable, _, placeholder, _, languages, _, stoplist, _, excludedCommands,
      _, modules, _, manual, _, output, _, template, same⟩ := read
    cases same
    intro s
    cases s <;> assumption
  · intro given
    rw [given .executable, given .placeholder, given .languages, given .stoplist,
      given .excludedCommands, given .modules, given .manual, given .output, given .template]
    rfl

end

end Config
end CMakeGrammar
