import CMakeGrammar.NameMap
/-! Maps told by their look-ups: two maps that hold the same under every name are the same map
(`ext_get?`). What is found in a map that is made from another follows from what is found there. -/
namespace CMakeGrammar.NameMap
variable {α β : Type}

theorem lookup_cons (k : String) (v : α) (entries : List (String × α)) (z : String) :
    ((k, v) :: entries).lookup z = if z = k then some v else entries.lookup z := by
  by_cases same : z = k
  · rw [same, List.lookup_cons_self, if_pos rfl]
  · rw [List.lookup_cons, beq_eq_false_iff_ne.mpr same, if_neg same]

theorem lookup_of_mem {entries : List (String × α)} (distinct : (entries.map Prod.fst).Nodup)
    {entry : String × α} (mem : entry ∈ entries) : entries.lookup entry.1 = some entry.2 := by
  induction entries with
  | nil => cases mem
  | cons first others ih =>
    rw [List.map_cons, List.nodup_cons] at distinct
    rcases List.mem_cons.mp mem with rfl | mem
    · exact List.lookup_cons_self
    · have other : entry.1 ≠ first.1 := by
        intro same
        exact distinct.1 (List.mem_map.mpr ⟨entry, mem, same⟩)
      rw [lookup_cons, if_neg other]
      exact ih distinct.2 mem

theorem nodup_keys (m : NameMap α) : m.keys.Nodup := m.ascending.imp String.ne_of_lt

theorem get?_eq_some_iff {m : NameMap α} {k : String} {v : α} :
    m.get? k = some v ↔ (k, v) ∈ m.entries :=
  ⟨mem_entries_of_get?, lookup_of_mem m.nodup_keys⟩

theorem mem_keys_iff {m : NameMap α} {k : String} : k ∈ m.keys ↔ ∃ v, m.get? k = some v := by
  simp only [get?_eq_some_iff, keys, List.mem_map, Prod.exists, exists_and_right, exists_eq_right]

theorem ext_get? {m n : NameMap α} (h : ∀ k v, m.get? k = some v ↔ n.get? k = some v) : m = n := by
  have distinct (m : NameMap α) : m.entries.Nodup :=
    List.Pairwise.of_map Prod.fst (fun _ _ ne eq => ne (congrArg Prod.fst eq)) m.nodup_keys
  have members (entry : String × α) : entry ∈ m.entries ↔ entry ∈ n.entries := by
    simpa only [get?_eq_some_iff] using h entry.1 entry.2
  apply eq_of_entries_eq
  refine List.Perm.eq_of_pairwise ?_ (List.pairwise_map.mp m.ascending)
    (List.pairwise_map.mp n.ascending)
    ((List.perm_ext_iff_of_nodup (distinct m) (distinct n)).mpr members)
  intro a b _ _ less greater
  exact absurd greater (String.lt_asymm less)

theorem get?_insert (k : String) (v : α) (m : NameMap α) (z : String) :
    (m.insert k v).get? z = if z = k then some v else m.get? z := by
  show (insertSorted k v m.entries).lookup z = if z = k then some v else m.entries.lookup z
  induction m.entries with
  | nil => exact lookup_cons k v [] z
  | cons first others ih =>
    obtain ⟨k', v'⟩ := first
    rw [insertSorted]
    split
    · exact lookup_cons k v _ z
    · split
      · rename_i less
        rw [lookup_cons, lookup_cons, ih]
        by_cases same : z = k
        · rw [if_pos same, if_pos same, if_neg (same ▸ (String.ne_of_lt less).symm)]
        · rw [if_neg same, if_neg same]
      · rename_i notLess notGreater
        obtain rfl : k = k' := String.le_antisymm (String.not_lt.mp notGreater)
          (String.not_lt.mp notLess)
        rw [lookup_cons, lookup_cons]
        split <;> rfl

/-- Where each name of a list goes with one value only, these values are found. -/
theorem get?_ofList_eq_some_iff {entries : List (String × α)} (given : String → α → Prop)
    (unique : ∀ k v w, given k v → given k w → v = w) (all : ∀ e ∈ entries, given e.1 e.2)
    {k : String} {v : α} :
    (ofList entries).get? k = some v ↔ k ∈ entries.map Prod.fst ∧ given k v := by
  constructor
  · intro found
    have mem := mem_of_mem_ofList (mem_entries_of_get? found)
    exact ⟨List.mem_map_of_mem mem, all _ mem⟩
  · rintro ⟨isKey, isGiven⟩
    obtain ⟨w, found⟩ := mem_keys_iff.mp (mem_keys_ofList.mpr isKey)
    have mem := mem_of_mem_ofList (mem_entries_of_get? found)
    rw [found, unique k w v (all _ mem) isGiven]

def map (f : α → β) (m : NameMap α) : NameMap β where
  entries := m.entries.map fun e => (e.1, f e.2)
  ascending := by simpa [Function.comp_def] using m.ascending

@[simp] theorem keys_map (f : α → β) (m : NameMap α) : (m.map f).keys = m.keys := by
  simp [map, keys]

theorem get?_map_eq_some_iff {f : α → β} {m : NameMap α} {k : String} {w : β} :
    (m.map f).get? k = some w ↔ ∃ v, m.get? k = some v ∧ f v = w := by
  simp only [get?_eq_some_iff, map, List.mem_map, Prod.exists, Prod.mk.injEq]
  constructor
  · rintro ⟨_, v, mem, rfl, made⟩
    exact ⟨v, mem, made⟩
  · rintro ⟨v, mem, made⟩
    exact ⟨k, v, mem, rfl, made⟩

def restrict (p : String → Bool) (m : NameMap α) : NameMap α where
  entries := m.entries.filter fun e => p e.1
  ascending := m.ascending.sublist (List.filter_sublist.map Prod.fst)

theorem get?_restrict_eq_some_iff {p : String → Bool} {m : NameMap α} {k : String} {v : α} :
    (m.restrict p).get? k = some v ↔ m.get? k = some v ∧ p k = true := by
  simp [get?_eq_some_iff, restrict]

end CMakeGrammar.NameMap
