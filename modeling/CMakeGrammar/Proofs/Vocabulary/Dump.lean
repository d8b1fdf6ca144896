import CMakeGrammar.Grammar
import CMakeGrammar.Proofs.Json.Pretty
/-! A vocabulary out of its dump. The reader takes an object of exactly the vocabulary's parts, sets
of names only as strictly ascending arrays and maps only with strictly ascending keys, so that each
vocabulary is read from one document and from no other. -/
namespace CMakeGrammar

def NameSet.ofAscending? (names : List String) : Option NameSet :=
  if h : names.Pairwise (· < ·) then some ⟨names, h⟩ else none

def NameMap.ofAscending? {α : Type} (entries : List (String × α)) : Option (NameMap α) :=
  if h : (entries.map Prod.fst).Pairwise (· < ·) then some ⟨entries, h⟩ else none

namespace Json

def text? : Json → Option String
  | string s => some s
  | _ => none

def names? : Json → Option NameSet
  | array items => (items.mapM text?).bind NameSet.ofAscending?
  | _ => none

def entries? {α : Type} (read? : Json → Option α) : Json → Option (NameMap α)
  | object members =>
    (members.mapM fun m => (read? m.2).map (Prod.mk m.1)).bind NameMap.ofAscending?
  | _ => none

end Json

namespace Vocabulary

def moduleOfJson? : Json → Option ModuleEntry
  | .object [("name", name), ("functions", functions), ("keywords", keywords)] => do
    return ⟨← name.text?, ← functions.names?, ← keywords.names?⟩
  | _ => none

def ofJson? : Json → Option Vocabulary
  | .object [("version", version), ("variables", variableNames), ("commands", commands),
      ("generator_expressions", generatorExpressions), ("properties", properties),
      ("modules", modules)] => do
    return ⟨← version.text?, ← variableNames.names?, ← commands.entries? Json.names?,
      ← generatorExpressions.names?, ← properties.names?, ← modules.entries? moduleOfJson?⟩
  | _ => none

end Vocabulary

theorem NameSet.ofAscending?_eq_some_iff {names : List String} {s : NameSet} :
    ofAscending? names = some s ↔ names = s.toList := by
  unfold ofAscending?
  constructor
  · intro h
    split at h
    · cases h
      rfl
    · cases h
  · rintro rfl
    rw [dif_pos s.ascending]

theorem NameMap.ofAscending?_eq_some_iff {α : Type} {entries : List (String × α)}
    {m : NameMap α} : ofAscending? entries = some m ↔ entries = m.entries := by
  unfold ofAscending?
  constructor
  · intro h
    split at h
    · cases h
      rfl
    · cases h
  · rintro rfl
    rw [dif_pos m.ascending]

namespace Json

theorem mapM_eq_some_iff {α β : Type} {read? : α → Option β} {write : β → α}
    (h : ∀ a b, read? a = some b ↔ a = write b) (as : List α) (bs : List β) :
    as.mapM read? = some bs ↔ as = bs.map write := by
  induction as generalizing bs with
  | nil => cases bs <;> simp
  | cons a as ih =>
    cases bs with
    | nil => simp [List.mapM_cons, Option.bind_eq_some_iff]
    | cons b bs => simp [List.mapM_cons, Option.bind_eq_some_iff, h, ih]

theorem text?_eq_some_iff (v : Json) (s : String) : v.text? = some s ↔ v = .string s := by
  cases v <;> simp [text?]

theorem names?_eq_some_iff (v : Json) (s : NameSet) :
    v.names? = some s ↔ v = .ofNames s.toList := by
  cases v <;> simp [names?, ofNames, Option.bind_eq_some_iff, mapM_eq_some_iff text?_eq_some_iff,
    NameSet.ofAscending?_eq_some_iff]

theorem entries?_eq_some_iff {α : Type} {read? : Json → Option α} {write : α → Json}
    (h : ∀ v a, read? v = some a ↔ v = write a) (v : Json) (m : NameMap α) :
    v.entries? read? = some m ↔ v = .object (m.entries.map fun e => (e.1, write e.2)) := by
  have member (x : String × Json) (e : String × α) :
      (read? x.2).map (Prod.mk x.1) = some e ↔ x = (e.1, write e.2) := by
    rw [Option.map_eq_some_iff]
    constructor
    · rintro ⟨a, read, rfl⟩
      rw [← (h _ _).mp read]
    · rintro rfl
      exact ⟨e.2, (h _ _).mpr rfl, rfl⟩
  cases v <;> simp [entries?, Option.bind_eq_some_iff, mapM_eq_some_iff member,
    NameMap.ofAscending?_eq_some_iff]

end Json

namespace Vocabulary
open Json (names?_eq_some_iff text?_eq_some_iff entries?_eq_some_iff)

theorem moduleOfJson?_eq_some_iff (document : Json) (m : ModuleEntry) :
    moduleOfJson? document = some m ↔ document = moduleJson m := by
  constructor
  · intro h
    unfold moduleOfJson? at h
    split at h
    · simp only [Option.bind_eq_bind, Option.bind_eq_some_iff, text?_eq_some_iff,
        names?_eq_some_iff] at h
      obtain ⟨name, rfl, functions, rfl, keywords, rfl, made⟩ := h
      cases made
      rfl
    · cases h
  · rintro rfl
    have name := (text?_eq_some_iff _ m.name).mpr rfl
    have functions := (names?_eq_some_iff _ m.functions).mpr rfl
    have keywords := (names?_eq_some_iff _ m.keywords).mpr rfl
    simp [moduleJson, moduleOfJson?, name, functions, keywords]

/-- A vocabulary is read from the document that is made of it and from no other. -/
theorem ofJson?_eq_some_iff (document : Json) (v : Vocabulary) :
    ofJson? document = some v ↔ document = v.toJson := by
  constructor
  · intro h
    unfold ofJson? at h
    split at h
    · simp only [Option.bind_eq_bind, Option.bind_eq_some_iff, text?_eq_some_iff,
        names?_eq_some_iff, entries?_eq_some_iff names?_eq_some_iff,
        entries?_eq_some_iff moduleOfJson?_eq_some_iff] at h
      obtain ⟨version, rfl, variableNames, rfl, commands, rfl, generatorExpressions, rfl,
        properties, rfl, modules, rfl, made⟩ := h
      cases made
      rfl
    · cases h
  · rintro rfl
    have version := (text?_eq_some_iff _ v.version).mpr rfl
    have variableNames := (names?_eq_some_iff _ v.variableNames).mpr rfl
    have commands := (entries?_eq_some_iff names?_eq_some_iff _ v.commands).mpr rfl
    have expressions := (names?_eq_some_iff _ v.generatorExpressions).mpr rfl
    have properties := (names?_eq_some_iff _ v.properties).mpr rfl
    have modules := (entries?_eq_some_iff moduleOfJson?_eq_some_iff _ v.modules).mpr rfl
    simp [toJson, commandMembers, ofJson?, version, variableNames, commands, expressions,
      properties, modules]

theorem isTextual_ofNames (names : List String) : Json.isTextual (.ofNames names) = true := by
  rw [Json.ofNames, Json.isTextual, Json.areTextual_eq_all, List.all_map]
  exact List.all_eq_true.mpr fun _ _ => rfl

theorem isTextual_moduleJson (m : ModuleEntry) : Json.isTextual (moduleJson m) = true := by
  simp [moduleJson, Json.isTextual, Json.haveTextual, isTextual_ofNames]

theorem isTextual_toJson (v : Vocabulary) : Json.isTextual v.toJson = true := by
  have commands : Json.haveTextual v.commandMembers = true := by
    rw [commandMembers, Json.haveTextual_eq_all, List.all_map]
    exact List.all_eq_true.mpr fun entry _ => isTextual_ofNames entry.2.toList
  have modules :
      Json.haveTextual (v.modules.entries.map fun e => (e.1, moduleJson e.2)) = true := by
    rw [Json.haveTextual_eq_all, List.all_map]
    exact List.all_eq_true.mpr fun entry _ => isTextual_moduleJson entry.2
  simp [toJson, Json.isTextual, Json.haveTextual, isTextual_ofNames, commands, modules]

theorem parse?_dump (v : Vocabulary) : Json.parse? v.dump = some v.toJson :=
  Json.parse?_pretty (isTextual_toJson v)

/-- What is dumped is an object of the six parts, and of all documents it is the one from which the
vocabulary is read. Different vocabularies are dumped differently. -/
theorem dump_readable :
    (∀ v : Vocabulary, ∃ members, Json.parse? v.dump = some (.object members) ∧
      members.map Prod.fst =
        ["version", "variables", "commands", "generator_expressions", "properties", "modules"] ∧
      ∀ document, ofJson? document = some v ↔ document = .object members) ∧
    Function.Injective dump := by
  refine ⟨fun v => ⟨_, parse?_dump v, rfl, fun document => ofJson?_eq_some_iff document v⟩, ?_⟩
  intro v w same
  have document : v.toJson = w.toJson := by
    apply Option.some.inj
    rw [← parse?_dump v, ← parse?_dump w, same]
  have read : ofJson? v.toJson = some w := (ofJson?_eq_some_iff _ _).mpr document
  rw [(ofJson?_eq_some_iff _ v).mpr rfl] at read
  exact Option.some.inj read

end Vocabulary
end CMakeGrammar
