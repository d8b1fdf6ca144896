import CMakeGrammar.Config
import CMakeGrammar.Proofs.Toml.Decoding
import CMakeGrammar.Proofs.Toml.Keys
/-! Configurations apart from their template. Each table of a document sets fields of its own, so
they can be taken one after another; a template that is given as a text can be exchanged, added or
left out, and everything else is configured as before. -/
namespace CMakeGrammar.Config
open Toml (Key Value find? IsKeyed)
open Toml.Decoder (IsBlind field record setEntry setItems)

def apart (c : Config) : Config := { c with template := none }

def isTemplate (entry : Key × Value) : Bool :=
  match entry.2 with
  | .scalar _ (.text _) => entry.1.name = "template"
  | _ => false

/-- The output settings without a template that is given as a text. In an array the template comes
second and can be another text, but not be left out. -/
def withoutTemplate : Value → Value
  | .table origin span entries => .table origin span (entries.filter (!isTemplate ·))
  | .array span [path, .scalar place (.text _)] => .array span [path, .scalar place (.text "")]
  | v => v

def entries : Value → List (Key × Value)
  | .table _ _ entries => entries
  | _ => []

def value? (name : String) (document : Value) : Option Value := find? name (entries document)

/-- Documents that set the same, wherever it is written, but for a template that is given as a text.
To have no output settings is to have empty ones. -/
structure SameButTemplate (document other : Value) : Prop where
  executable : (value? "cmake" document).map Value.unplaced =
    (value? "cmake" other).map Value.unplaced
  extraction : (value? "extraction" document).map Value.unplaced =
    (value? "extraction" other).map Value.unplaced
  output : (withoutTemplate ((value? "output" document).getD .empty)).unplaced =
    (withoutTemplate ((value? "output" other).getD .empty)).unplaced

def SameTextButTemplate (text other : String) : Prop :=
  Option.Rel SameButTemplate (Toml.parse? text) (Toml.parse? other)

theorem isBlind_path : IsBlind path := Toml.Decoder.isBlind_text _

theorem isBlind_string : IsBlind string := Toml.Decoder.isBlind_text _

theorem isBlind_strings : IsBlind strings := Toml.Decoder.isBlind_list isBlind_string

theorem isBlind_languages : IsBlind languages :=
  Toml.Decoder.isBlind_list (Toml.Decoder.isBlind_word _ _ _)

theorem isBlind_cmakeFields : ∀ f ∈ cmakeFields, ∀ c, IsBlind (f.set c) := by
  rw [cmakeFields, List.forall_mem_singleton]
  exact Toml.Decoder.isBlind_field isBlind_path

theorem isBlind_outputFields : ∀ f ∈ outputFields, ∀ c, IsBlind (f.set c) := by
  rw [outputFields, List.forall_mem_cons, List.forall_mem_singleton]
  exact ⟨Toml.Decoder.isBlind_field isBlind_path, Toml.Decoder.isBlind_field isBlind_path⟩

theorem isBlind_extractionFields : ∀ f ∈ extractionFields, ∀ e, IsBlind (f.set e) := by
  simp only [extractionFields, List.forall_mem_cons]
  exact ⟨Toml.Decoder.isBlind_field isBlind_string, Toml.Decoder.isBlind_field isBlind_languages,
    Toml.Decoder.isBlind_field isBlind_strings, Toml.Decoder.isBlind_field isBlind_strings,
    Toml.Decoder.isBlind_field isBlind_strings, Toml.Decoder.isBlind_field isBlind_string,
    List.forall_mem_nil _⟩

def cmakeField : Toml.Decoder.Field Config := ⟨"cmake", record "CMakeConfig" true cmakeFields⟩

def extractionField : Toml.Decoder.Field Config :=
  field "extraction" (record "ExtractionConfig" false extractionFields .standard)
    fun c e => { c with extraction := e }

def outputField : Toml.Decoder.Field Config := ⟨"output", record "OutputConfig" true outputFields⟩

theorem fields_eq : fields = [cmakeField, extractionField, outputField] := rfl

theorem isBlind_cmakeField (c : Config) : IsBlind (cmakeField.set c) :=
  Toml.Decoder.isBlind_record isBlind_cmakeFields

theorem isBlind_extractionField (c : Config) : IsBlind (extractionField.set c) :=
  Toml.Decoder.isBlind_field (Toml.Decoder.isBlind_record isBlind_extractionFields) c

theorem isBlind_outputField (c : Config) : IsBlind (outputField.set c) :=
  Toml.Decoder.isBlind_record isBlind_outputFields

def withExecutable (c d : Config) : Config := { c with executable := d.executable.or c.executable }

def withOutput (c d : Config) : Config :=
  { c with output := d.output.or c.output, template := d.template.or c.template }

theorem toOption_cmakeField (c : Config) (v : Value) : (cmakeField.set c v).toOption =
    (cmakeField.set standard v).toOption.map (withExecutable c) := by
  have follows : ∀ f ∈ cmakeFields, ∀ d v, (f.set (withExecutable c d) v).toOption =
      (f.set d v).toOption.map (withExecutable c) := by
    rw [cmakeFields, List.forall_mem_singleton]
    exact Toml.Decoder.toOption_field_graft fun _ _ => rfl
  have grafted : (cmakeField.set (withExecutable c standard) v).toOption = _ :=
    Toml.Decoder.toOption_record_graft follows v
  exact grafted

theorem toOption_outputField (c : Config) (v : Value) : (outputField.set c v).toOption =
    (outputField.set standard v).toOption.map (withOutput c) := by
  have follows : ∀ f ∈ outputFields, ∀ d v, (f.set (withOutput c d) v).toOption =
      (f.set d v).toOption.map (withOutput c) := by
    rw [outputFields, List.forall_mem_cons, List.forall_mem_singleton]
    exact ⟨Toml.Decoder.toOption_field_graft fun _ _ => rfl,
      Toml.Decoder.toOption_field_graft fun _ _ => rfl⟩
  have grafted : (outputField.set (withOutput c standard) v).toOption = _ :=
    Toml.Decoder.toOption_record_graft follows v
  exact grafted

theorem toOption_extractionField (c : Config) (v : Value) : (extractionField.set c v).toOption =
    (record "ExtractionConfig" false extractionFields .standard v).toOption.map
      fun e => { c with extraction := e } := by
  simp only [extractionField, field, Toml.toOption_map]

theorem commute_fields : ∀ f ∈ fields, ∀ g ∈ fields, f.name ≠ g.name → f.Commute g := by
  have first : cmakeField.Commute extractionField :=
    Toml.Decoder.Field.commute_of_puts toOption_cmakeField toOption_extractionField fun _ _ _ => rfl
  have second : cmakeField.Commute outputField :=
    Toml.Decoder.Field.commute_of_puts toOption_cmakeField toOption_outputField fun _ _ _ => rfl
  have third : extractionField.Commute outputField :=
    Toml.Decoder.Field.commute_of_puts toOption_extractionField toOption_outputField
      fun _ _ _ => rfl
  simp only [fields_eq, List.forall_mem_cons, List.not_mem_nil, false_implies, implies_true,
    and_true, ne_eq, not_true_eq_false, first, first.symm, second, second.symm, third, third.symm,
    and_self]

theorem toOption_decode {document : Value} (keyed : IsKeyed document) :
    (decode document).toOption =
      fields.foldlM (Toml.Decoder.Field.take (entries document)) standard := by
  obtain ⟨distinct⟩ := keyed
  exact Toml.Decoder.toOption_record_table _ _ distinct (by decide) commute_fields

theorem unplaced_cases {found other : Option Value}
    (same : found.map Value.unplaced = other.map Value.unplaced) :
    (found = none ∧ other = none) ∨
      ∃ v w, found = some v ∧ other = some w ∧ v.unplaced = w.unplaced := by
  cases found with
  | none => exact .inl ⟨rfl, Option.map_eq_none_iff.mp same.symm⟩
  | some v =>
    obtain ⟨w, there, unplaced⟩ := Option.map_eq_some_iff.mp same.symm
    exact .inr ⟨v, w, rfl, there, unplaced.symm⟩

theorem take_congr {f : Toml.Decoder.Field Config} (blind : ∀ c, IsBlind (f.set c))
    {document other : Value}
    (same : (value? f.name document).map Value.unplaced = (value? f.name other).map Value.unplaced)
    (c : Config) : f.take (entries document) c = f.take (entries other) c := by
  rw [Toml.Decoder.Field.take, Toml.Decoder.Field.take]
  rcases unplaced_cases same with ⟨here, there⟩ | ⟨v, w, here, there, unplaced⟩
  · rw [value?] at here there
    rw [here, there]
  · rw [value?] at here there
    rw [here, there]
    simp only
    rw [blind c v, blind c w, unplaced]

theorem toOption_setEntry_output (c : Config) (entry : Key × Value) :
    (setEntry outputFields c entry).toOption =
      if entry.1.name = "path" then
        (path entry.2).toOption.map fun s => { c with output := some s }
      else if entry.1.name = "template" then
        (path entry.2).toOption.map fun s => { c with template := some s }
      else some c := by
  rw [Toml.Decoder.toOption_setEntry]
  by_cases isPath : entry.1.name = "path"
  · simp [outputFields, field, isPath, Toml.toOption_map]
  · by_cases isTemplate : entry.1.name = "template"
    · simp [outputFields, field, isTemplate, Toml.toOption_map]
    · have unknown : (outputFields.find? fun f => f.name = entry.1.name) = none := by
        rw [List.find?_eq_none, outputFields, List.forall_mem_cons, List.forall_mem_singleton]
        exact ⟨by simp [field, Ne.symm isPath], by simp [field, Ne.symm isTemplate]⟩
      rw [unknown, if_neg isPath, if_neg isTemplate]

theorem setEntry_of_isTemplate {entry : Key × Value} (h : isTemplate entry = true) (c : Config) :
    ∃ path, (setEntry outputFields c entry).toOption = some { c with template := some path } := by
  obtain ⟨key, v⟩ := entry
  rw [isTemplate] at h
  split at h
  · rename_i span text isText
    have isTemplate : key.name = "template" := by simpa using h
    obtain rfl : v = .scalar span (.text text) := isText
    refine ⟨text, ?_⟩
    rw [toOption_setEntry_output, if_neg (by simp [isTemplate]), if_pos isTemplate]
    rfl
  · cases h

theorem setEntry_apart {entry : Key × Value} (h : isTemplate entry = false) {c d : Config}
    (same : apart c = apart d) : (setEntry outputFields c entry).toOption.map apart =
      (setEntry outputFields d entry).toOption.map apart := by
  rw [toOption_setEntry_output, toOption_setEntry_output]
  split
  · rw [Option.map_map, Option.map_map]
    congr 1
    funext path
    simp_all [apart]
  · split
    · rename_i isTemplate
      have none : (path entry.2).toOption = none := by
        rw [Config.isTemplate] at h
        split at h
        · simp [isTemplate] at h
        · rename_i notText
          unfold path Toml.Decoder.text
          split
          · rename_i span text isText
            exact absurd isText (notText span text)
          · rfl
      rw [none]
      rfl
    · exact congrArg some same

theorem foldlM_withoutTemplate (es : List (Key × Value)) {c d : Config} (same : apart c = apart d) :
    (es.foldlM (fun c e => (setEntry outputFields c e).toOption) c).map apart =
      ((es.filter (!isTemplate ·)).foldlM (fun c e => (setEntry outputFields c e).toOption) d).map
        apart := by
  induction es generalizing c d with
  | nil => exact congrArg some same
  | cons entry es ih =>
    rw [List.foldlM_cons]
    cases h : isTemplate entry with
    | true =>
      obtain ⟨path, taken⟩ := setEntry_of_isTemplate h c
      rw [List.filter_cons_of_neg (by simp [h]), taken]
      exact ih same
    | false =>
      have alike := setEntry_apart h same
      rw [List.filter_cons_of_pos (by simp [h]), List.foldlM_cons]
      cases here : (setEntry outputFields c entry).toOption with
      | none =>
        rw [here, Option.map_none, eq_comm, Option.map_eq_none_iff] at alike
        rw [alike]
        rfl
      | some next =>
        rw [here, Option.map_some, eq_comm, Option.map_eq_some_iff] at alike
        obtain ⟨other, there, alike⟩ := alike
        rw [there]
        exact ih alike.symm

theorem outputField_withoutTemplate (c : Config) (v : Value) :
    (outputField.set c v).toOption.map apart =
      (outputField.set c (withoutTemplate v)).toOption.map apart := by
  unfold withoutTemplate
  split
  · rename_i origin span es
    simp only [outputField, record, Toml.Decoder.toOption_placed, Toml.toOption_foldlM]
    exact foldlM_withoutTemplate es rfl
  · rename_i span first place text
    have both (text : String) : setItems outputFields [first, .scalar place (.text text)] c =
        (path first).map fun s => { c with output := some s, template := some text } := by
      have second : path (.scalar place (.text text)) = .ok text := rfl
      cases taken : path first <;> simp [setItems, outputFields, field, taken, second, Except.map]
    simp only [outputField, Toml.Decoder.toOption_record_array, both]
    cases path first <;> rfl
  · rfl

theorem take_outputField (document : Value) (c : Config) :
    (outputField.take (entries document) c).map apart =
      (outputField.set c (withoutTemplate
        ((value? "output" document).getD .empty)).unplaced).toOption.map apart := by
  rw [← isBlind_outputField c, ← outputField_withoutTemplate]
  cases found : value? "output" document with
  | none =>
    have absent : find? outputField.name (entries document) = none := found
    rw [Toml.Decoder.Field.take, absent]
    rfl
  | some v =>
    have here : find? outputField.name (entries document) = some v := found
    rw [Toml.Decoder.Field.take, here]
    rfl

/-- Documents that set the same but for their template give the same configuration but for the
template, or none. -/
theorem decode_sameButTemplate {document other : Value} (keyed : IsKeyed document)
    (keyed' : IsKeyed other) (same : SameButTemplate document other) :
    (decode document).toOption.map apart = (decode other).toOption.map apart := by
  have output (c : Config) : (outputField.take (entries document) c).map apart =
      (outputField.take (entries other) c).map apart := by
    rw [take_outputField, take_outputField, same.output]
  rw [toOption_decode keyed, toOption_decode keyed', fields_eq]
  simp only [List.foldlM_cons, List.foldlM_nil, take_congr isBlind_cmakeField same.executable,
    take_congr isBlind_extractionField same.extraction, bind_pure]
  cases cmakeField.take (entries other) standard with
  | none => rfl
  | some c =>
    simp only [Option.bind_eq_bind, Option.bind_some]
    cases extractionField.take (entries other) c with
    | none => rfl
    | some d => exact output d

theorem checked_apart (c : Config) : c.checked.toOption.map apart = (apart c).checked.toOption := by
  rw [checked, checked]
  have same : (apart c).extraction = c.extraction := rfl
  rw [same]
  split <;> rfl

theorem ofText_sameTextButTemplate {text other : String} (same : SameTextButTemplate text other)
    (file : String) :
    (ofText file text).toOption.map apart = (ofText file other).toOption.map apart := by
  have settings {text : String} {document : Value} (read : Toml.parse? text = some document) :
      (ofText file text).toOption.map apart =
        (decode document).toOption.map apart >>= fun c => c.checked.toOption := by
    simp only [ofText, read]
    cases decode document with
    | error fault => rfl
    | ok c => exact checked_apart c
  rw [SameTextButTemplate] at same
  generalize here : Toml.parse? text = document at same
  generalize there : Toml.parse? other = document' at same
  cases same with
  | none => simp only [ofText, here, there]
  | some same =>
    have alike := decode_sameButTemplate (Toml.isKeyed_of_parse? here)
      (Toml.isKeyed_of_parse? there) same
    rw [settings here, settings there, alike]

end CMakeGrammar.Config
