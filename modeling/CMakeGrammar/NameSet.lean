/-! Sets of names, kept in ascending order without repetition. Two sets with the same members are
the same set (`NameSet.ext`), whatever order the members arrived in. -/
namespace CMakeGrammar

structure NameSet where
  toList : List String
  ascending : toList.Pairwise (· < ·)

namespace NameSet

instance : DecidableEq NameSet := fun a b =>
  if h : a.toList = b.toList then
    isTrue (by cases a; cases b; cases h; rfl)
  else isFalse fun eq => h (congrArg toList eq)

instance : Membership String NameSet := ⟨fun s x => x ∈ s.toList⟩

theorem mem_def {x : String} {s : NameSet} : x ∈ s ↔ x ∈ s.toList := Iff.rfl

instance (x : String) (s : NameSet) : Decidable (x ∈ s) :=
  inferInstanceAs (Decidable (x ∈ s.toList))

theorem ascending_nil : List.Pairwise (· < ·) ([] : List String) := .nil

def empty : NameSet := ⟨[], ascending_nil⟩

instance : EmptyCollection NameSet := ⟨empty⟩
instance : Inhabited NameSet := ⟨empty⟩

def insertSorted (x : String) : List String → List String
  | [] => [x]
  | y :: ys => if x < y then x :: y :: ys else if y < x then y :: insertSorted x ys else y :: ys

theorem eq_of_not_lt {x y : String} (h : ¬x < y) (h' : ¬y < x) : x = y :=
  String.le_antisymm (String.not_lt.1 h') (String.not_lt.1 h)

theorem mem_insertSorted {x z : String} {ys : List String} :
    z ∈ insertSorted x ys ↔ z = x ∨ z ∈ ys := by
  induction ys with
  | nil => simp [insertSorted]
  | cons y ys ih =>
    by_cases h : x < y
    · simp [insertSorted, h]
    · by_cases h' : y < x
      · simp [insertSorted, h, h', ih, or_left_comm]
      · obtain rfl := eq_of_not_lt h h'
        simp [insertSorted]

theorem pairwise_insertSorted {x : String} {ys : List String} (h : ys.Pairwise (· < ·)) :
    (insertSorted x ys).Pairwise (· < ·) := by
  induction ys with
  | nil => simp [insertSorted]
  | cons y ys ih =>
    rw [List.pairwise_cons] at h
    by_cases hxy : x < y
    · simp only [insertSorted, hxy, if_true, List.pairwise_cons]
      exact ⟨List.forall_mem_cons.2 ⟨hxy, fun z hz => String.lt_trans hxy (h.1 z hz)⟩, h⟩
    · by_cases hyx : y < x
      · simp only [insertSorted, hxy, hyx, if_true, if_false, List.pairwise_cons]
        refine ⟨fun z hz => ?_, ih h.2⟩
        rcases mem_insertSorted.1 hz with rfl | hz
        · exact hyx
        · exact h.1 z hz
      · simpa [insertSorted, hxy, hyx] using h

def insert (x : String) (s : NameSet) : NameSet :=
  ⟨insertSorted x s.toList, pairwise_insertSorted s.ascending⟩

def ofList (xs : List String) : NameSet :=
  xs.foldr insert ∅

def contains (s : NameSet) (x : String) : Bool := s.toList.contains x
def size (s : NameSet) : Nat := s.toList.length
def isEmpty (s : NameSet) : Bool := s.toList.isEmpty

def union (s t : NameSet) : NameSet :=
  s.toList.foldr insert t

instance : Union NameSet := ⟨union⟩

def filter (p : String → Bool) (s : NameSet) : NameSet :=
  ⟨s.toList.filter p, s.ascending.filter p⟩

instance : SDiff NameSet := ⟨fun s t => s.filter fun x => !t.contains x⟩

@[simp] theorem toList_empty : (∅ : NameSet).toList = [] := rfl

@[simp] theorem not_mem_empty (x : String) : x ∉ (∅ : NameSet) := by simp [mem_def]

@[simp] theorem mem_insert {x z : String} {s : NameSet} : z ∈ insert x s ↔ z = x ∨ z ∈ s :=
  mem_insertSorted

theorem mem_foldr_insert {z : String} {xs : List String} {s : NameSet} :
    z ∈ xs.foldr insert s ↔ z ∈ xs ∨ z ∈ s := by
  induction xs with
  | nil => simp
  | cons x xs ih => simp [ih, or_assoc]

@[simp] theorem mem_ofList {z : String} {xs : List String} : z ∈ ofList xs ↔ z ∈ xs := by
  simp [ofList, mem_foldr_insert]

@[simp] theorem mem_union {z : String} {s t : NameSet} : z ∈ s ∪ t ↔ z ∈ s ∨ z ∈ t :=
  mem_foldr_insert

@[simp] theorem contains_iff {x : String} {s : NameSet} : s.contains x = true ↔ x ∈ s := by
  simp [contains, mem_def]

theorem toList_ne_nil {s : NameSet} (any : s.isEmpty = false) : s.toList ≠ [] := by
  simpa [isEmpty] using any

@[simp] theorem mem_filter {z : String} {p : String → Bool} {s : NameSet} :
    z ∈ s.filter p ↔ z ∈ s ∧ p z = true := by
  simp [mem_def, filter]

@[simp] theorem mem_sdiff {z : String} {s t : NameSet} : z ∈ s \ t ↔ z ∈ s ∧ z ∉ t := by
  have split : z ∈ s \ t ↔ z ∈ s ∧ (!t.contains z) = true := mem_filter
  rw [split, Bool.not_eq_true', ← Bool.not_eq_true, contains_iff]

theorem eq_of_toList_eq {s t : NameSet} (h : s.toList = t.toList) : s = t := by
  cases s; cases t; cases h; rfl

theorem eq_of_forall_mem {xs ys : List String} (hx : xs.Pairwise (· < ·)) (hy : ys.Pairwise (· < ·))
    (h : ∀ z, z ∈ xs ↔ z ∈ ys) : xs = ys := by
  induction xs generalizing ys with
  | nil =>
    cases ys with
    | nil => rfl
    | cons y ys => exact absurd ((h y).2 (by simp)) (by simp)
  | cons x xs ih =>
    cases ys with
    | nil => exact absurd ((h x).1 (by simp)) (by simp)
    | cons y ys =>
      rw [List.pairwise_cons] at hx hy
      have hxy : x = y := by
        apply eq_of_not_lt
        · intro lt
          rcases List.mem_cons.1 ((h x).1 (by simp)) with eq | mem
          · exact String.lt_irrefl _ (eq ▸ lt)
          · exact String.lt_asymm lt (hy.1 x mem)
        · intro lt
          rcases List.mem_cons.1 ((h y).2 (by simp)) with eq | mem
          · exact String.lt_irrefl _ (eq ▸ lt)
          · exact String.lt_asymm lt (hx.1 y mem)
      subst hxy
      rw [ih hx.2 hy.2]
      intro z
      constructor
      · intro hz
        rcases List.mem_cons.1 ((h z).1 (List.mem_cons_of_mem _ hz)) with rfl | hz'
        · exact absurd (hx.1 _ hz) (String.lt_irrefl _)
        · exact hz'
      · intro hz
        rcases List.mem_cons.1 ((h z).2 (List.mem_cons_of_mem _ hz)) with rfl | hz'
        · exact absurd (hy.1 _ hz) (String.lt_irrefl _)
        · exact hz'

theorem ext {s t : NameSet} (h : ∀ x, x ∈ s ↔ x ∈ t) : s = t :=
  eq_of_toList_eq (eq_of_forall_mem s.ascending t.ascending h)

theorem ofList_toList (s : NameSet) : ofList s.toList = s :=
  ext fun x => by rw [mem_ofList, mem_def]

end NameSet
end CMakeGrammar
