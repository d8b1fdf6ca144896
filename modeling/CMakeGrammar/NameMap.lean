/-! Finite maps from names to values, kept in ascending order of the names, each name once. -/
namespace CMakeGrammar

structure NameMap (α : Type) where
  entries : List (String × α)
  ascending : (entries.map Prod.fst).Pairwise (· < ·)

namespace NameMap
variable {α β : Type}

instance [DecidableEq α] : DecidableEq (NameMap α) := fun a b =>
  if h : a.entries = b.entries then
    isTrue (by cases a; cases b; cases h; rfl)
  else isFalse fun eq => h (congrArg entries eq)

def empty : NameMap α := ⟨[], .nil⟩

instance : EmptyCollection (NameMap α) := ⟨empty⟩
instance : Inhabited (NameMap α) := ⟨empty⟩

def keys (m : NameMap α) : List String := m.entries.map Prod.fst
def values (m : NameMap α) : List α := m.entries.map Prod.snd
def size (m : NameMap α) : Nat := m.entries.length

def get? (m : NameMap α) (k : String) : Option α :=
  m.entries.lookup k

def insertSorted (k : String) (v : α) : List (String × α) → List (String × α)
  | [] => [(k, v)]
  | (k', v') :: rest =>
    if k < k' then (k, v) :: (k', v') :: rest
    else if k' < k then (k', v') :: insertSorted k v rest
    else (k, v) :: rest

theorem mem_keys_insertSorted {k z : String} {v : α} {m : List (String × α)} :
    z ∈ (insertSorted k v m).map Prod.fst ↔ z = k ∨ z ∈ m.map Prod.fst := by
  induction m with
  | nil => simp [insertSorted]
  | cons e m ih =>
    obtain ⟨k', v'⟩ := e
    by_cases h : k < k'
    · simp [insertSorted, h]
    · by_cases h' : k' < k
      · simp only [insertSorted, h, h', if_true, if_false, List.map_cons, List.mem_cons, ih]
        exact or_left_comm
      · have : k = k' := String.le_antisymm (String.not_lt.1 h') (String.not_lt.1 h)
        subst this
        simp [insertSorted]

theorem pairwise_insertSorted {k : String} {v : α} {m : List (String × α)}
    (h : (m.map Prod.fst).Pairwise (· < ·)) :
    ((insertSorted k v m).map Prod.fst).Pairwise (· < ·) := by
  induction m with
  | nil => simp [insertSorted]
  | cons e m ih =>
    obtain ⟨k', v'⟩ := e
    rw [List.map_cons, List.pairwise_cons] at h
    by_cases hk : k < k'
    · simp only [insertSorted, hk, if_true, List.map_cons, List.pairwise_cons]
      exact ⟨List.forall_mem_cons.2 ⟨hk, fun z hz => String.lt_trans hk (h.1 z hz)⟩, h⟩
    · by_cases hk' : k' < k
      · simp only [insertSorted, hk, hk', if_true, if_false, List.map_cons, List.pairwise_cons]
        refine ⟨fun z hz => ?_, ih h.2⟩
        rcases mem_keys_insertSorted.1 hz with rfl | hz
        · exact hk'
        · exact h.1 z hz
      · have : k = k' := String.le_antisymm (String.not_lt.1 hk') (String.not_lt.1 hk)
        subst this
        simpa [insertSorted, hk] using h

def insert (k : String) (v : α) (m : NameMap α) : NameMap α :=
  ⟨insertSorted k v m.entries, pairwise_insertSorted m.ascending⟩

def ofList (entries : List (String × α)) : NameMap α :=
  entries.foldl (fun m e => m.insert e.1 e.2) ∅

@[simp] theorem entries_empty : (∅ : NameMap α).entries = [] := rfl
@[simp] theorem keys_empty : (∅ : NameMap α).keys = [] := rfl

@[simp] theorem mem_keys_insert {k z : String} {v : α} {m : NameMap α} :
    z ∈ (m.insert k v).keys ↔ z = k ∨ z ∈ m.keys :=
  mem_keys_insertSorted

theorem mem_insertSorted {k : String} {v : α} {e : String × α} {m : List (String × α)}
    (h : e ∈ insertSorted k v m) : e = (k, v) ∨ e ∈ m := by
  induction m with
  | nil => exact .inl (List.mem_singleton.mp h)
  | cons first m ih =>
    rw [insertSorted] at h
    split at h
    · exact List.mem_cons.mp h
    · split at h
      · rcases List.mem_cons.mp h with here | later
        · exact .inr (List.mem_cons.mpr (.inl here))
        · exact (ih later).imp_right (List.mem_cons_of_mem _)
      · exact (List.mem_cons.mp h).imp_right (List.mem_cons_of_mem _)

theorem mem_keys_foldl_insert (entries : List (String × α)) (m : NameMap α) (z : String) :
    z ∈ (entries.foldl (fun m e => m.insert e.1 e.2) m).keys ↔
      z ∈ m.keys ∨ z ∈ entries.map Prod.fst := by
  induction entries generalizing m with
  | nil => simp
  | cons e entries ih => simp [ih, or_assoc, or_left_comm]

theorem mem_foldl_insert {entries : List (String × α)} {m : NameMap α} {e : String × α}
    (h : e ∈ (entries.foldl (fun m e => m.insert e.1 e.2) m).entries) :
    e ∈ m.entries ∨ e ∈ entries := by
  induction entries generalizing m with
  | nil => exact .inl h
  | cons first entries ih =>
    rcases ih h with inserted | later
    · rcases mem_insertSorted inserted with rfl | before
      · exact .inr List.mem_cons_self
      · exact .inl before
    · exact .inr (List.mem_cons_of_mem _ later)

theorem mem_keys_ofList {entries : List (String × α)} {z : String} :
    z ∈ (ofList entries).keys ↔ z ∈ entries.map Prod.fst := by
  simp [ofList, mem_keys_foldl_insert]

theorem mem_of_mem_ofList {entries : List (String × α)} {e : String × α}
    (h : e ∈ (ofList entries).entries) : e ∈ entries := by
  simpa using mem_foldl_insert h

theorem mem_entries_of_get? {m : NameMap α} {k : String} {v : α} (h : m.get? k = some v) :
    (k, v) ∈ m.entries := by
  obtain ⟨before, after, whole, -⟩ := List.lookup_eq_some_iff.mp h
  rw [whole]
  exact List.mem_append_right _ List.mem_cons_self

theorem eq_of_entries_eq {m n : NameMap α} (h : m.entries = n.entries) : m = n := by
  cases m; cases n; cases h; rfl

end NameMap
end CMakeGrammar
