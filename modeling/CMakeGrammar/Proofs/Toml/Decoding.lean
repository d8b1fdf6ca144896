import CMakeGrammar.Toml.Decode
/-! What decoders make of a value, the wording of faults apart. The places of a value in its text
have no part in it (`IsBlind`), and of a table with distinct keys each field of a record takes the
value under its own name, in whatever order they are written (`toOption_record_table`). -/
namespace CMakeGrammar.Toml

section
variable {ε α β : Type}

theorem toOption_bind (x : Except ε α) (f : α → Except ε β) :
    (x >>= f).toOption = x.toOption >>= fun a => (f a).toOption := by
  cases x <;> rfl

theorem toOption_map (x : Except ε α) (f : α → β) : (x.map f).toOption = x.toOption.map f := by
  cases x <;> rfl

theorem toOption_mapM (f : α → Except ε β) (items : List α) :
    (items.mapM f).toOption = items.mapM fun item => (f item).toOption := by
  induction items with
  | nil => rfl
  | cons item items ih =>
    rw [List.mapM_cons, List.mapM_cons, toOption_bind]
    simp only [toOption_bind, ih]
    rfl

theorem toOption_foldlM (f : β → α → Except ε β) (items : List α) (b : β) :
    (items.foldlM f b).toOption = items.foldlM (fun b item => (f b item).toOption) b := by
  induction items generalizing b with
  | nil => rfl
  | cons item items ih =>
    rw [List.foldlM_cons, List.foldlM_cons, toOption_bind]
    simp only [ih]

theorem foldlM_bind_comm {σ : Type} {take : σ → α → Option σ} {step : σ → Option σ} {items : List α}
    (comm : ∀ item ∈ items, ∀ s, (take s item >>= step) = step s >>= (take · item)) (s : σ) :
    (items.foldlM take s >>= step) = step s >>= items.foldlM take := by
  induction items generalizing s with
  | nil => simp
  | cons item items ih =>
    obtain ⟨first, others⟩ := List.forall_mem_cons.mp comm
    have rest (t : σ) : (items.foldlM take t >>= step) = step t >>= items.foldlM take := ih others t
    rw [List.foldlM_cons]
    calc (take s item >>= items.foldlM take) >>= step
        = take s item >>= fun t => step t >>= items.foldlM take := by
          rw [bind_assoc]
          exact congrArg (take s item >>= ·) (funext rest)
      _ = (step s >>= (take · item)) >>= items.foldlM take := by rw [← bind_assoc, first]
      _ = step s >>= (item :: items).foldlM take := by
          rw [bind_assoc]
          simp only [List.foldlM_cons]

end

namespace Value

mutual

def unplaced : Value → Value
  | scalar _ content => scalar default content
  | array _ items => array default (unplacedItems items)
  | table _ _ entries => table .header none (unplacedEntries entries)
  | tables elements => array default (unplacedItems elements)

def unplacedItems : List Value → List Value
  | [] => []
  | item :: items => item.unplaced :: unplacedItems items

def unplacedEntries : List (Key × Value) → List (Key × Value)
  | [] => []
  | (key, v) :: entries => (⟨key.name, default⟩, v.unplaced) :: unplacedEntries entries

end

theorem unplacedItems_eq_map (items : List Value) : unplacedItems items = items.map unplaced := by
  induction items with
  | nil => rfl
  | cons item items ih => rw [unplacedItems, ih, List.map_cons]

theorem unplacedEntries_eq_map (entries : List (Key × Value)) :
    unplacedEntries entries = entries.map fun e => (⟨e.1.name, default⟩, e.2.unplaced) := by
  induction entries with
  | nil => rfl
  | cons e entries ih => rw [unplacedEntries, ih, List.map_cons]

end Value

namespace Decoder
variable {α β σ : Type}

/-- That the places of a value have no part in what is taken out of it. -/
def IsBlind (decode : Decoder α) : Prop :=
  ∀ v, (decode v).toOption = (decode v.unplaced).toOption

theorem toOption_placed (span : Option Span) (r : Except Fault α) :
    (placed span r).toOption = r.toOption := by
  cases r <;> rfl

theorem isBlind_text (expected : String) : IsBlind (text expected) := by
  intro v
  cases v with
  | scalar span content => cases content <;> rfl
  | _ => rfl

theorem isBlind_word (expected : String) (read? : String → Option α) (unknown : String → String) :
    IsBlind (word expected read? unknown) := by
  intro v
  simp only [word, toOption_bind, isBlind_text expected v]

theorem isBlind_list {item : Decoder α} (blind : IsBlind item) : IsBlind (list item) := by
  have items (vs : List Value) :
      (vs.mapM item).toOption = ((vs.map Value.unplaced).mapM item).toOption := by
    rw [toOption_mapM, toOption_mapM, List.mapM_map]
    exact congrArg (List.mapM · vs) (funext blind)
  intro v
  cases v with
  | scalar => rfl
  | table => rfl
  | array span vs =>
    rw [Value.unplaced, list, list, toOption_placed, toOption_placed, Value.unplacedItems_eq_map,
      items]
  | tables elements =>
    rw [Value.unplaced, list, list, toOption_placed, toOption_placed, Value.unplacedItems_eq_map,
      items]

theorem isBlind_field {name : String} {decode : Decoder β} {put : σ → β → σ}
    (blind : IsBlind decode) (s : σ) : IsBlind ((field name decode put).set s) := by
  intro v
  simp only [field, toOption_map, blind v]

variable {name : String} {complete : Bool} {fields : List (Field σ)} {initial : σ}

theorem toOption_setEntry (fields : List (Field σ)) (s : σ) (entry : Key × Value) :
    (setEntry fields s entry).toOption =
      match fields.find? fun f => f.name = entry.1.name with
      | some f => (f.set s entry.2).toOption
      | none => some s := by
  cases found : fields.find? fun f => f.name = entry.1.name with
  | some f => simp only [setEntry, found, toOption_placed]
  | none => simp only [setEntry, found, Except.toOption]

theorem toOption_record_array (span : Span) (items : List Value) :
    (record name complete fields initial (.array span items)).toOption =
      (setItems fields items initial).toOption >>= fun s =>
        if complete && items.length < fields.length then none else some s := by
  show (placed _ _).toOption = _
  rw [toOption_placed, toOption_bind]
  congr 1
  funext s
  dsimp only
  split <;> rfl

theorem toOption_record_tables (elements : List Value) :
    (record name complete fields initial (.tables elements)).toOption =
      (setItems fields elements initial).toOption >>= fun s =>
        if complete && elements.length < fields.length then none else some s := by
  show (placed _ _).toOption = _
  rw [toOption_placed, toOption_bind]
  congr 1
  funext s
  dsimp only
  split <;> rfl

theorem toOption_setItems_cons (f : Field σ) (fields : List (Field σ)) (v : Value)
    (items : List Value) (s : σ) : (setItems (f :: fields) (v :: items) s).toOption =
      (f.set s v).toOption >>= fun t => (setItems fields items t).toOption := by
  rw [setItems]
  cases f.set s v <;> rfl

theorem setItems_unplaced (blind : ∀ f ∈ fields, ∀ s, IsBlind (f.set s)) (items : List Value)
    (s : σ) :
    (setItems fields items s).toOption =
      (setItems fields (items.map Value.unplaced) s).toOption := by
  induction fields generalizing items s with
  | nil => rfl
  | cons f fields ih =>
    obtain ⟨first, others⟩ := List.forall_mem_cons.mp blind
    cases items with
    | nil => rfl
    | cons v items =>
      rw [List.map_cons, toOption_setItems_cons, toOption_setItems_cons, first s v]
      exact congrArg _ (funext (ih others items))

theorem isBlind_record (blind : ∀ f ∈ fields, ∀ s, IsBlind (f.set s)) :
    IsBlind (record name complete fields initial) := by
  intro v
  cases v with
  | scalar span content => cases content <;> rfl
  | array span items =>
    rw [Value.unplaced, toOption_record_array, toOption_record_array,
      Value.unplacedItems_eq_map, List.length_map, setItems_unplaced blind]
  | tables elements =>
    rw [Value.unplaced, toOption_record_tables, toOption_record_array,
      Value.unplacedItems_eq_map, List.length_map, setItems_unplaced blind]
  | table origin span entries =>
    rw [Value.unplaced, record, record, toOption_placed, toOption_placed, toOption_foldlM,
      toOption_foldlM, Value.unplacedEntries_eq_map, List.foldlM_map]
    congr 1
    funext s entry
    rw [toOption_setEntry, toOption_setEntry]
    cases found : fields.find? fun f => f.name = entry.1.name with
    | some f => exact blind f (List.mem_of_find?_eq_some found) s entry.2
    | none => rfl

/-- What a field makes of a table: nothing where the table has not its name. -/
def Field.take (entries : List (Key × Value)) (s : σ) (f : Field σ) : Option σ :=
  match find? f.name entries with
  | none => some s
  | some v => (f.set s v).toOption

/-- That it is all the same which of two fields is set first. -/
def Field.Commute (f g : Field σ) : Prop :=
  ∀ s v w, ((f.set s v).toOption >>= fun t => (g.set t w).toOption) =
    (g.set s w).toOption >>= fun t => (f.set t v).toOption

theorem Field.Commute.symm {f g : Field σ} (h : f.Commute g) : g.Commute f :=
  fun s v w => (h s w v).symm

theorem Field.commute_of_puts {f g : Field σ} {taken : Value → Option α} {taken' : Value → Option β}
    {put : σ → α → σ} {put' : σ → β → σ} (first : ∀ s v,
    (f.set s v).toOption = (taken v).map (put s))
    (second : ∀ s v, (g.set s v).toOption = (taken' v).map (put' s))
    (comm : ∀ s a b, put' (put s a) b = put (put' s b) a) : f.Commute g := by
  intro s v w
  simp only [first, second]
  cases taken v with
  | none => cases taken' w <;> rfl
  | some a =>
    cases taken' w with
    | none => rfl
    | some b => exact congrArg some (comm s a b)

theorem find?_cons (name : String) (entry : Key × Value) (entries : List (Key × Value)) :
    find? name (entry :: entries) =
      if entry.1.name = name then some entry.2 else find? name entries := by
  rw [find?, List.find?_cons]
  by_cases same : entry.1.name = name
  · simp [same]
  · simp [same, find?]

theorem find?_eq_none_of_not_mem {name : String} {entries : List (Key × Value)}
    (absent : name ∉ entries.map fun e => e.1.name) : find? name entries = none := by
  rw [find?, Option.map_eq_none_iff, List.find?_eq_none]
  intro e mem same
  exact absent (List.mem_map.mpr ⟨e, mem, by simpa using same⟩)

theorem Field.take_cons_of_ne {entry : Key × Value} {entries : List (Key × Value)} {f : Field σ}
    (other : entry.1.name ≠ f.name) (s : σ) : f.take (entry :: entries) s = f.take entries s := by
  rw [take, take, find?_cons, if_neg other]

theorem foldlM_take_congr {entries others : List (Key × Value)}
    (same : ∀ f ∈ fields, ∀ s, Field.take entries s f = f.take others s) (s : σ) :
    fields.foldlM (Field.take entries) s = fields.foldlM (Field.take others) s := by
  induction fields generalizing s with
  | nil => rfl
  | cons f fields ih =>
    obtain ⟨first, rest⟩ := List.forall_mem_cons.mp same
    rw [List.foldlM_cons, List.foldlM_cons, first]
    exact congrArg _ (funext (ih rest))

theorem foldlM_take_nil (s : σ) : fields.foldlM (Field.take []) s = some s := by
  induction fields with
  | nil => rfl
  | cons f fields ih => exact ih

theorem Field.Commute.take {f g : Field σ} (h : g.Commute f) (entries : List (Key × Value))
    (v : Value) (s : σ) : (g.take entries s >>= fun t => (f.set t v).toOption) =
      (f.set s v).toOption >>= g.take entries := by
  cases found : find? g.name entries with
  | none =>
    have nothing (t : σ) : g.take entries t = some t := by rw [Field.take, found]
    simp only [nothing]
    exact (bind_pure _).symm
  | some w =>
    have taken (t : σ) : g.take entries t = (g.set t w).toOption := by rw [Field.take, found]
    simp only [taken]
    exact h s w v

/-- The field that the first entry belongs to can be set first. -/
theorem foldlM_take_cons {before behind : List (Field σ)} {f : Field σ} {entry : Key × Value}
    {entries : List (Key × Value)} (isField : f.name = entry.1.name)
    (fresh : entry.1.name ∉ entries.map fun e => e.1.name)
    (apart : ∀ g ∈ before ++ behind, g.name ≠ f.name)
    (commute : ∀ g ∈ before, g.Commute f) (s : σ) :
    (before ++ f :: behind).foldlM (Field.take (entry :: entries)) s =
      (f.set s entry.2).toOption >>= (before ++ f :: behind).foldlM (Field.take entries) := by
  have here (s : σ) : f.take (entry :: entries) s = (f.set s entry.2).toOption := by
    rw [Field.take, find?_cons, if_pos isField.symm]
  have gone (s : σ) : f.take entries s = some s := by
    rw [Field.take, isField, find?_eq_none_of_not_mem fresh]
  -- the other fields do not see the entry, so its value can be set ahead of what `before` takes
  have others : ∀ g ∈ before ++ behind, ∀ s, g.take (entry :: entries) s = g.take entries s :=
    fun g mem s => Field.take_cons_of_ne (fun same => apart g mem (isField.trans same).symm) s
  have later (s : σ) :
      (before.foldlM (Field.take entries) s >>= fun t => (f.set t entry.2).toOption) =
        (f.set s entry.2).toOption >>= before.foldlM (Field.take entries) :=
    foldlM_bind_comm (fun g mem => (commute g mem).take entries entry.2) s
  have rest (t : σ) : behind.foldlM (Field.take (entry :: entries)) t =
      behind.foldlM (Field.take entries) t :=
    foldlM_take_congr (fun g mem => others g (List.mem_append_right before mem)) t
  calc (before ++ f :: behind).foldlM (Field.take (entry :: entries)) s
      = (before.foldlM (Field.take entries) s >>= fun t => (f.set t entry.2).toOption) >>=
          behind.foldlM (Field.take entries) := by
        rw [List.foldlM_append, bind_assoc,
          foldlM_take_congr fun g mem => others g (List.mem_append_left behind mem)]
        simp only [List.foldlM_cons, here, rest]
    _ = (f.set s entry.2).toOption >>= (before ++ f :: behind).foldlM (Field.take entries) := by
        rw [later, bind_assoc]
        simp only [List.foldlM_append, List.foldlM_cons, gone]
        rfl

theorem toOption_record_table {entries : List (Key × Value)} (origin : Origin) (span : Option Span)
    (distinct : (entries.map fun e => e.1.name).Nodup)
    (distinctFields : (fields.map Field.name).Nodup)
    (commute : ∀ f ∈ fields, ∀ g ∈ fields, f.name ≠ g.name → f.Commute g) :
    (record name complete fields initial (.table origin span entries)).toOption =
      fields.foldlM (Field.take entries) initial := by
  rw [record, toOption_placed, toOption_foldlM]
  -- on the entries, with all fields throughout: what the first entry sets comes first
  induction entries generalizing initial with
  | nil => exact (foldlM_take_nil initial).symm
  | cons entry entries ih =>
    obtain ⟨fresh, distinct⟩ := List.nodup_cons.mp distinct
    rw [List.foldlM_cons, toOption_setEntry]
    cases found : fields.find? fun f => f.name = entry.1.name with
    | none =>
      have others : ∀ f ∈ fields, ∀ s, f.take (entry :: entries) s = f.take entries s := by
        intro f mem s
        have ne : ¬f.name = entry.1.name := by
          simpa using List.find?_eq_none.mp found f mem
        exact Field.take_cons_of_ne (Ne.symm ne) s
      rw [foldlM_take_congr others]
      exact ih distinct
    | some f =>
      have isField : f.name = entry.1.name := by simpa using List.find?_some found
      obtain ⟨before, behind, rfl⟩ := List.append_of_mem (List.mem_of_find?_eq_some found)
      have apart : ∀ g ∈ before ++ behind, g.name ≠ f.name := by
        have middle := (List.perm_middle.map Field.name).nodup_iff.mp distinctFields
        intro g mem same
        exact (List.nodup_cons.mp middle).1 (List.mem_map.mpr ⟨g, mem, same⟩)
      have commutes : ∀ g ∈ before, g.Commute f := fun g mem =>
        commute g (by simp [mem]) f (by simp) (apart g (List.mem_append_left behind mem))
      rw [foldlM_take_cons isField fresh apart commutes]
      exact congrArg _ (funext fun s => ih distinct)

theorem toOption_field_graft {put : σ → β → σ} {graft : σ → σ} {decode : Decoder β}
    (keeps : ∀ s a, put (graft s) a = graft (put s a)) (s : σ) (v : Value) :
    ((field name decode put).set (graft s) v).toOption =
      ((field name decode put).set s v).toOption.map graft := by
  simp only [field, toOption_map, Option.map_map]
  exact congrArg (Option.map · _) (funext (keeps s))

section
variable {graft : σ → σ} (follows : ∀ f ∈ fields, ∀ s v,
  (f.set (graft s) v).toOption = (f.set s v).toOption.map graft)
include follows

theorem setItems_graft (items : List Value) (s : σ) :
    (setItems fields items (graft s)).toOption = (setItems fields items s).toOption.map graft := by
  induction fields generalizing items s with
  | nil => rfl
  | cons f fields ih =>
    obtain ⟨first, others⟩ := List.forall_mem_cons.mp follows
    cases items with
    | nil => rfl
    | cons v items =>
      rw [toOption_setItems_cons, toOption_setItems_cons, first s v]
      cases (f.set s v).toOption with
      | none => rfl
      | some t => exact ih others items t

theorem completeItems_graft (vs : List Value) (s : σ) :
    ((setItems fields vs (graft s)).toOption >>= fun t =>
      if complete && vs.length < fields.length then none else some t) =
        ((setItems fields vs s).toOption >>= fun t =>
          if complete && vs.length < fields.length then none else some t).map graft := by
  rw [setItems_graft follows]
  cases (setItems fields vs s).toOption with
  | none => rfl
  | some t =>
    simp only [Option.map_some, Option.bind_eq_bind, Option.bind_some]
    split <;> rfl

theorem toOption_record_graft (v : Value) :
    (record name complete fields (graft initial) v).toOption =
      (record name complete fields initial v).toOption.map graft := by
  cases v with
  | scalar span content => cases content <;> rfl
  | array span vs =>
    rw [toOption_record_array, toOption_record_array, completeItems_graft follows]
  | tables elements =>
    rw [toOption_record_tables, toOption_record_tables, completeItems_graft follows]
  | table origin span entries =>
    rw [record, record, toOption_placed, toOption_placed, toOption_foldlM, toOption_foldlM]
    induction entries generalizing initial with
    | nil => rfl
    | cons entry entries ih =>
      have first : (setEntry fields (graft initial) entry).toOption =
          (setEntry fields initial entry).toOption.map graft := by
        rw [toOption_setEntry, toOption_setEntry]
        cases found : fields.find? fun f => f.name = entry.1.name with
        | some f => exact follows f (List.mem_of_find?_eq_some found) initial entry.2
        | none => rfl
      rw [List.foldlM_cons, List.foldlM_cons, first]
      cases (setEntry fields initial entry).toOption with
      | none => rfl
      | some s => exact ih

end

end Decoder
end CMakeGrammar.Toml
