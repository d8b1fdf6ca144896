import Mathlib.Logic.Function.Basic
import CMakeGrammar.Proofs.Config.Settings
import CMakeGrammar.Proofs.Text.Utf8
import CMakeGrammar.Program
/-! Loading a configuration, setting by setting. A file is accepted if each setting can be read and
used, and each setting of what is loaded comes from its own key alone. Where one setting cannot be
read or used, there is no configuration but a fault. -/
namespace CMakeGrammar.Config
open Toml (Value find? IsUnambiguous)

/-- That a file has a document in which the settings stand in tables. -/
structure Holds (fs : FileSystem) (path : String) (document : Value) : Prop where
  isRead : ∃ text, fs.readText path = .ok text ∧ Toml.parse? text = some document
  tables : HasTables document

/-- That documents have the same under a key of a table, wherever it is written, or both nothing. -/
def SameAt (table key : String) (document other : Value) : Prop :=
  (at? table key document).map Value.unplaced = (at? table key other).map Value.unplaced

def Setting.SameIn (s : Setting) (document other : Value) : Prop :=
  SameAt s.table s.key document other

/-- That documents differ in nothing but one unknown key: it is in one and not in the other, or has
another value. The key is one of the documents themselves, or of one of their tables. -/
inductive DifferInUnknown (document other : Value) : Prop
  | outer (name : String) (unknown : ∀ s : Setting, s.table ≠ name)
    (others : ∀ table, table ≠ name →
      (value? table document).map Value.unplaced = (value? table other).map Value.unplaced)
  | inner (table key : String) (unknown : ∀ s : Setting, s.table = table → s.key ≠ key)
    (others : ∀ name, name ≠ table →
      (value? name document).map Value.unplaced = (value? name other).map Value.unplaced)
    (beside : ∀ name, name ≠ key → SameAt table name document other)

/-- That what is written for a setting has another type, or lists a language that does not go by any
of the names. -/
inductive Setting.Misfits (document : Value) : Setting → Prop
  | type {s : Setting} {v : Value} : s.written? document = some v → ¬s.HasType v →
    Misfits document s
  | language {v : Value} {names : List String} {name : String} :
    Setting.languages.written? document = some v → v.texts? = some names → name ∈ names →
    (∀ l : Language, l.name ≠ name) → Misfits document .languages

/-- That a file is loaded setting by setting, or not at all. -/
structure LoadsBySetting (fs : FileSystem) (path : String) (document : Value) : Prop where
  accepted : ∀ c, load fs path = .ok c ↔
    ∀ s : Setting, s.given? document = some (s.get c) ∧ s.IsUsable (s.get c)
  valid : ∀ c, load fs path = .ok c → c.extraction.fault? = none
  misfit : ∀ s : Setting, s.Misfits document →
    ∃ report, load fs path = .error (.unfit path report)
  unusable : ∀ c, (∀ s : Setting, s.given? document = some (s.get c)) →
    ∀ fault, c.extraction.fault? = some fault → load fs path = .error (.unusable fault)
  reported : ∀ h : Host, ∀ c : CommandLine, h.files = fs → c.configPath h.environment = path →
    ∀ fault, load fs path = .error fault →
      (Program.configuration h c).result = .error (.config fault.message)

/-- That of two files each setting counts for itself: by its own key only, whatever is under unknown
keys, and so that it can be set for itself. -/
structure LoadApart (fs : FileSystem) (path : String) (document : Value) (fs' : FileSystem)
    (path' : String) (other : Value) : Prop where
  own : ∀ s : Setting, s.SameIn document other → ∀ c d, load fs path = .ok c →
    load fs' path' = .ok d → s.get c = s.get d
  known : (∀ s : Setting, s.SameIn document other) →
    (load fs path).toOption = (load fs' path').toOption
  unknown : DifferInUnknown document other → (load fs path).toOption = (load fs' path').toOption
  set : ∀ s : Setting, (∀ t, t ≠ s → t.SameIn document other) → ∀ c, load fs path = .ok c →
    ∀ content, s.given? other = some content → s.IsUsable content →
    ∃ d, load fs' path' = .ok d ∧ s.get d = content ∧ ∀ t, t ≠ s → t.get d = t.get c

theorem at?_unplaced (table key : String) (document : Value) :
    (at? table key document).map Value.unplaced =
      find? key (entries (((value? table document).map Value.unplaced).getD .empty)) := by
  have below (v : Value) :
      (find? key (entries v)).map Value.unplaced = find? key (entries v.unplaced) := by
    cases v with
    | table origin span es =>
      rw [Value.unplaced, entries, entries, Value.unplacedEntries_eq_map, find?, find?,
        List.find?_map, Option.map_map, Option.map_map]
      rfl
    | _ => rfl
  rw [at?, entriesIn]
  cases value? table document with
  | none => rfl
  | some v => exact below v

theorem DifferInUnknown.sameIn {document other : Value} (h : DifferInUnknown document other)
    (s : Setting) : s.SameIn document other := by
  have inSame {table : String}
      (same : (value? table document).map Value.unplaced = (value? table other).map Value.unplaced)
      (key : String) : SameAt table key document other := by
    rw [SameAt, at?_unplaced, at?_unplaced, same]
  cases h with
  | outer name unknown others => exact inSame (others _ (unknown s)) _
  | inner table key unknown others beside =>
    by_cases here : s.table = table
    · rw [Setting.SameIn, here]
      exact beside _ (unknown s here)
    · exact inSame (others _ here) _

theorem text?_unplaced (v : Value) : v.unplaced.text? = v.text? := by
  rw [← Toml.Decoder.toOption_text "", ← Toml.Decoder.toOption_text "", ← Toml.Decoder.isBlind_text]

theorem texts?_unplaced (v : Value) : v.unplaced.texts? = v.texts? := by
  rw [← toOption_strings, ← toOption_strings, ← isBlind_strings]

namespace Setting

theorem read?_unplaced (s : Setting) (v : Value) : s.read? v.unplaced = s.read? v := by
  cases s <;> simp only [read?, text?_unplaced, texts?_unplaced]

theorem given?_congr {s : Setting} {document other : Value} (same : s.SameIn document other) :
    s.given? document = s.given? other := by
  rw [given?, given?, written?, written?]
  rcases unplaced_cases same with ⟨here, there⟩ | ⟨v, w, here, there, unplaced⟩
  · rw [here, there]
  · rw [here, there]
    show s.read? v = s.read? w
    rw [← read?_unplaced s v, ← read?_unplaced s w, unplaced]

theorem Misfits.given?_eq_none {s : Setting} {document : Value} (misfit : s.Misfits document) :
    s.given? document = none := by
  cases misfit with
  | @type _ v written wrong =>
    rw [given?, written]
    show s.read? v = none
    cases s <;> simp_all [HasType, read?]
  | @language v names name written texts mem unknown =>
    have unread : Language.ofName? name = none := by
      rw [Language.ofName?, List.find?_eq_none]
      exact fun l _ same => unknown l (by simpa using same)
    rw [given?, written]
    show (v.texts? >>= List.mapM Language.ofName?) = none
    rw [texts]
    exact Toml.mapM_eq_none_of_mem mem unread

end Setting

section
variable {fs : FileSystem} {path : String} {document : Value}

theorem exists?_of_readText {text : String} (isRead : fs.readText path = .ok text) :
    fs.exists? path = true := by
  rw [FileSystem.readText, FileSystem.read] at isRead
  rw [FileSystem.exists?]
  cases found : fs.find path with
  | ok entry => rfl
  | error refusal =>
    rw [found] at isRead
    cases isRead

theorem Holds.load_cases (h : Holds fs path document) :
    (∃ c, (decode document).toOption = some c ∧ load fs path = c.checked) ∨
      (decode document).toOption = none ∧ ∃ report, load fs path = .error (.unfit path report) := by
  obtain ⟨text, isRead, isDocument⟩ := h.isRead
  rw [load, if_pos (exists?_of_readText isRead), isRead]
  simp only [ofText, isDocument]
  cases decode document with
  | ok c => exact .inl ⟨c, rfl, rfl⟩
  | error fault => exact .inr ⟨rfl, fault.report text, rfl⟩

theorem Holds.decode_iff (h : Holds fs path document) {c : Config} :
    (decode document).toOption = some c ↔ ∀ s : Setting, s.given? document = some (s.get c) := by
  obtain ⟨text, -, isDocument⟩ := h.isRead
  obtain ⟨isTable, unambiguous⟩ := Toml.isUnambiguous_of_parse? isDocument
  exact toOption_decode_eq_some_iff isTable unambiguous h.tables

theorem Holds.load_of_given (h : Holds fs path document) {c : Config}
    (given : ∀ s : Setting, s.given? document = some (s.get c)) : load fs path = c.checked := by
  have decoded := h.decode_iff.mpr given
  rcases h.load_cases with ⟨d, taken, loaded⟩ | ⟨nothing, -⟩
  · rw [decoded] at taken
    cases taken
    exact loaded
  · rw [decoded] at nothing
    cases nothing

theorem checked_eq_ok_iff {c d : Config} :
    c.checked = .ok d ↔ c = d ∧ c.extraction.fault? = none := by
  rw [checked]
  cases c.extraction.fault? <;> simp

theorem Holds.load_eq_ok_iff (h : Holds fs path document) {c : Config} : load fs path = .ok c ↔
    ∀ s : Setting, s.given? document = some (s.get c) ∧ s.IsUsable (s.get c) := by
  rw [forall_and, ← fault?_eq_none_iff, ← h.decode_iff]
  constructor
  · intro loaded
    rcases h.load_cases with ⟨d, taken, isChecked⟩ | ⟨-, report, refused⟩
    · rw [isChecked, checked_eq_ok_iff] at loaded
      obtain ⟨rfl, fine⟩ := loaded
      exact ⟨taken, fine⟩
    · rw [refused] at loaded
      cases loaded
  · rintro ⟨decoded, fine⟩
    rw [h.load_of_given (h.decode_iff.mp decoded), checked_eq_ok_iff]
    exact ⟨rfl, fine⟩

theorem Holds.unfit_of_misfits (h : Holds fs path document) {s : Setting}
    (misfit : s.Misfits document) : ∃ report, load fs path = .error (.unfit path report) := by
  rcases h.load_cases with ⟨c, taken, -⟩ | ⟨-, unfit⟩
  · have given := h.decode_iff.mp taken s
    rw [misfit.given?_eq_none] at given
    cases given
  · exact unfit

theorem Holds.loadsBySetting (h : Holds fs path document) : LoadsBySetting fs path document where
  accepted _ := h.load_eq_ok_iff
  valid c loaded := fault?_eq_none_iff.mpr fun s => (h.load_eq_ok_iff.mp loaded s).2
  misfit _ := h.unfit_of_misfits
  unusable c given fault unusable := by
    rw [h.load_of_given given, checked, unusable]
  reported host command files path fault refused := by
    subst files path
    rw [Program.configuration]
    simp only [refused]
    rfl

variable {fs' : FileSystem} {path' : String} {other : Value}

theorem Holds.load_congr (h : Holds fs path document) (h' : Holds fs' path' other)
    (same : ∀ s : Setting, s.SameIn document other) :
    (load fs path).toOption = (load fs' path').toOption := by
  have toOption_eq_some_iff (r : Except Fault Config) (c : Config) :
      r.toOption = some c ↔ r = .ok c := by
    cases r <;> simp [Except.toOption]
  refine Option.ext fun c => ?_
  rw [toOption_eq_some_iff, toOption_eq_some_iff, h.load_eq_ok_iff, h'.load_eq_ok_iff]
  simp only [fun s => Setting.given?_congr (same s)]

theorem Holds.load_set (h : Holds fs path document) (h' : Holds fs' path' other) {s : Setting}
    (same : ∀ t, t ≠ s → t.SameIn document other) {c : Config} (loaded : load fs path = .ok c)
    {content : s.Content} (given : s.given? other = some content) (usable : s.IsUsable content) :
    ∃ d, load fs' path' = .ok d ∧ s.get d = content ∧ ∀ t, t ≠ s → t.get d = t.get c := by
  rw [h.load_eq_ok_iff] at loaded
  -- the candidate has the new content for the one setting, and that of `c` for all others
  let d := Setting.assemble (Function.update (fun t : Setting => t.get c) s content)
  have here : s.get d = content := by simp [d]
  have there : ∀ t, t ≠ s → t.get d = t.get c := fun t ne => by simp [d, ne]
  refine ⟨d, h'.load_eq_ok_iff.mpr fun t => ?_, here, there⟩
  by_cases isSet : t = s
  · subst isSet
    rw [here]
    exact ⟨given, usable⟩
  · rw [there t isSet, ← Setting.given?_congr (same t isSet)]
    exact loaded t

theorem Holds.loadApart (h : Holds fs path document) (h' : Holds fs' path' other) :
    LoadApart fs path document fs' path' other where
  own s same c d loaded loaded' := by
    have here := (h.load_eq_ok_iff.mp loaded s).1
    have there := (h'.load_eq_ok_iff.mp loaded' s).1
    rw [Setting.given?_congr same, there] at here
    exact (Option.some.inj here).symm
  known := h.load_congr h'
  unknown differ := h.load_congr h' differ.sameIn
  set _ same _ loaded _ := h.load_set h' same loaded

end

/-- Each file with a document is loaded setting by setting or not at all, and in any two such files
each setting counts for itself. -/
theorem load_bySetting :
    (∀ fs path document, Holds fs path document → LoadsBySetting fs path document) ∧
    ∀ fs path document fs' path' other, Holds fs path document → Holds fs' path' other →
      LoadApart fs path document fs' path' other :=
  ⟨fun _ _ _ => Holds.loadsBySetting, fun _ _ _ _ _ _ => Holds.loadApart⟩

section
open Toml (Key)

def smallFiles (text : String) : FileSystem :=
  ⟨[(["config.toml"], .file (Text.Utf8.encode text))], []⟩

def smallText (language : String) : String := "[extraction]\nlanguages = [\"" ++ language ++ "\"]\n"

def smallDocument (language : String) (others : List (Key × Value)) : Value :=
  .table .header none ((⟨"extraction", ⟨⟨1, 2⟩, 1, 11⟩⟩, .table .header (some ⟨⟨1, 1⟩, 0, 32⟩)
    [(⟨"languages", ⟨⟨2, 1⟩, 13, 22⟩⟩,
      .array ⟨⟨2, 13⟩, 25, 32⟩ [.scalar ⟨⟨2, 14⟩, 26, 31⟩ (.text language)])]) :: others)

def smallUnknown : Key × Value :=
  (⟨"colour", ⟨⟨3, 2⟩, 34, 40⟩⟩, .table .header (some ⟨⟨3, 1⟩, 33, 41⟩) [])

theorem holds_small {text : String} {document : Value}
    (isDocument : Toml.parse? text = some document) (tables : HasTables document) :
    Holds (smallFiles text) "/config.toml" document where
  isRead := by
    refine ⟨text, ?_, isDocument⟩
    have found : (smallFiles text).read "/config.toml" = .ok (Text.Utf8.encode text) := by rfl
    rw [FileSystem.readText, found]
    simp only [Text.Utf8.decode?_encode]
  tables := tables

theorem hasTables_small (language : String) {others : List (Key × Value)}
    (unknown : ∀ s : Setting, find? s.table others = none) :
    HasTables (smallDocument language others) := by
  intro s v found
  rw [value?, smallDocument, entries, Toml.Decoder.find?_cons] at found
  split at found
  · cases found
    exact trivial
  · rw [unknown s] at found
    cases found

def smallConfig : Config :=
  { standard with extraction := { Extraction.standard with languages := [.cxx] } }

/-- A table that is not known changes nothing, another language changes the languages alone, and
with a name that is no language's there is no configuration. -/
theorem load_bySetting_small :
    load (smallFiles (smallText "CXX")) "/config.toml" = .ok smallConfig ∧
    load (smallFiles (smallText "CXX" ++ "[colour]\n")) "/config.toml" = .ok smallConfig ∧
    (∃ d, load (smallFiles (smallText "HIP")) "/config.toml" = .ok d ∧
      d.extraction.languages = [.hip] ∧
      ∀ s : Setting, s ≠ .languages → s.get d = s.get smallConfig) ∧
    ∃ report, load (smallFiles (smallText "Ada")) "/config.toml" =
      .error (.unfit "/config.toml" report) := by
  have nothing (s : Setting) : find? s.table [] = none := rfl
  have colour (s : Setting) : find? s.table [smallUnknown] = none := by cases s <;> rfl
  have cxx : Holds (smallFiles (smallText "CXX")) "/config.toml" (smallDocument "CXX" []) :=
    holds_small (by rfl) (hasTables_small _ nothing)
  have withColour : Holds (smallFiles (smallText "CXX" ++ "[colour]\n")) "/config.toml"
      (smallDocument "CXX" [smallUnknown]) :=
    holds_small (by rfl) (hasTables_small _ colour)
  have hip : Holds (smallFiles (smallText "HIP")) "/config.toml" (smallDocument "HIP" []) :=
    holds_small (by rfl) (hasTables_small _ nothing)
  have ada : Holds (smallFiles (smallText "Ada")) "/config.toml" (smallDocument "Ada" []) :=
    holds_small (by rfl) (hasTables_small _ nothing)
  obtain ⟨bySetting, apart⟩ := load_bySetting
  have usable := fault?_eq_none_iff.mp (show smallConfig.extraction.fault? = none by decide +kernel)
  have loaded : load (smallFiles (smallText "CXX")) "/config.toml" = .ok smallConfig :=
    ((bySetting _ _ _ cxx).accepted smallConfig).mpr fun s => ⟨by cases s <;> rfl, usable s⟩
  have differ : DifferInUnknown (smallDocument "CXX" []) (smallDocument "CXX" [smallUnknown]) := by
    refine .outer "colour" (fun s => by cases s <;> decide) fun table ne => ?_
    simp [value?, smallDocument, entries, Toml.Decoder.find?_cons, smallUnknown, Ne.symm ne]
  have same := (apart _ _ _ _ _ _ cxx withColour).unknown differ
  have listed : Setting.languages.IsUsable [.hip] := List.cons_ne_nil _ _
  refine ⟨loaded, ?_, ?_, ?_⟩
  · rw [loaded] at same
    cases there : load (smallFiles (smallText "CXX" ++ "[colour]\n")) "/config.toml" with
    | ok c =>
      rw [there] at same
      exact congrArg Except.ok (Option.some.inj same).symm
    | error fault =>
      rw [there] at same
      cases same
  · refine (apart _ _ _ _ _ _ cxx hip).set .languages (fun s ne => ?_) _ loaded [.hip] rfl listed
    cases s with
    | languages => exact absurd rfl ne
    | _ => rfl
  · have unknown : ∀ l : Language, l.name ≠ "Ada" := fun l => by cases l <;> decide
    exact (bySetting _ _ _ ada).misfit .languages
      (.language rfl rfl (List.mem_singleton_self _) unknown)

end

end CMakeGrammar.Config
