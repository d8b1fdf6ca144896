import CMakeGrammar.Toml.Reader
/-! The keys of a document. Whatever is read, set, opened or added to while a text is read, the
document stays a table, and no two entries of one of its tables have one key, however deep the table
stands. -/
namespace CMakeGrammar.Toml
open Text (Cursor)

inductive IsKeyed : Value → Prop
  | table {origin : Origin} {span : Option Span} {entries : List (Key × Value)} :
    (entries.map fun e => e.1.name).Nodup → IsKeyed (.table origin span entries)

/-- That in every table of a value the entries have keys of their own. -/
inductive IsUnambiguous : Value → Prop
  | scalar {span : Span} {content : Scalar} : IsUnambiguous (.scalar span content)
  | array {span : Span} {items : List Value} : (∀ item ∈ items, IsUnambiguous item) →
    IsUnambiguous (.array span items)
  | table {origin : Origin} {span : Option Span} {entries : List (Key × Value)} :
    (entries.map fun e => e.1.name).Nodup → (∀ e ∈ entries, IsUnambiguous e.2) →
    IsUnambiguous (.table origin span entries)
  | tables {elements : List Value} : (∀ element ∈ elements, IsUnambiguous element) →
    IsUnambiguous (.tables elements)

def Value.IsTable : Value → Prop
  | table .. => True
  | _ => False

theorem IsUnambiguous.isKeyed {v : Value} (h : IsUnambiguous v) (isTable : v.IsTable) :
    IsKeyed v := by
  cases h with
  | table distinct => exact .table distinct
  | _ => exact isTable.elim

theorem isUnambiguous_empty {origin : Origin} {span : Option Span} :
    IsUnambiguous (.table origin span []) :=
  .table .nil (List.forall_mem_nil _)

theorem mem_of_find? {name : String} {entries : List (Key × Value)} {v : Value}
    (found : find? name entries = some v) : ∃ key : Key, key.name = name ∧ (key, v) ∈ entries := by
  obtain ⟨⟨key, _⟩, isEntry, rfl⟩ := Option.map_eq_some_iff.mp found
  exact ⟨key, by simpa using List.find?_some isEntry, List.mem_of_find?_eq_some isEntry⟩

theorem names_replace (key : Key) (v : Value) (entries : List (Key × Value)) :
    (replace key v entries).map (fun e => e.1.name) = entries.map fun e => e.1.name := by
  induction entries with
  | nil => rfl
  | cons e entries ih =>
    rw [replace]
    split
    · rfl
    · rw [List.map_cons, List.map_cons, ih]

theorem forall_mem_replace {p : Value → Prop} {key : Key} {v : Value} {entries : List (Key × Value)}
    (new : p v) (old : ∀ e ∈ entries, p e.2) : ∀ e ∈ replace key v entries, p e.2 := by
  induction entries with
  | nil => exact old
  | cons e entries ih =>
    obtain ⟨first, others⟩ := List.forall_mem_cons.mp old
    rw [replace]
    split
    · exact List.forall_mem_cons.mpr ⟨new, others⟩
    · exact List.forall_mem_cons.mpr ⟨first, ih others⟩

theorem nodup_append_of_find? {entries : List (Key × Value)} {key : Key}
    (distinct : (entries.map fun e => e.1.name).Nodup) (absent : find? key.name entries = none)
    (v : Value) : ((entries ++ [(key, v)]).map fun e => e.1.name).Nodup := by
  rw [List.map_append, List.nodup_append]
  refine ⟨distinct, List.pairwise_singleton _ _, ?_⟩
  rintro name mem other isKey rfl
  obtain ⟨e, isEntry, same⟩ := List.mem_map.mp mem
  rw [find?, Option.map_eq_none_iff, List.find?_eq_none] at absent
  exact absent e isEntry (by simpa [same] using isKey)

section
variable {origin : Origin} {span : Option Span} {entries : List (Key × Value)} {key : Key}
  {v : Value}

theorem IsUnambiguous.of_find? (h : IsUnambiguous (.table origin span entries)) {name : String}
    (found : find? name entries = some v) : IsUnambiguous v := by
  obtain ⟨key, -, mem⟩ := mem_of_find? found
  cases h with
  | table _ below => exact below _ mem

theorem IsUnambiguous.append (h : IsUnambiguous (.table origin span entries))
    (absent : find? key.name entries = none) (new : IsUnambiguous v) :
    IsUnambiguous (.table origin span (entries ++ [(key, v)])) := by
  cases h with
  | table distinct below =>
    refine .table (nodup_append_of_find? distinct absent v) ?_
    exact List.forall_mem_append.mpr ⟨below, List.forall_mem_singleton.mpr new⟩

theorem IsUnambiguous.replace (h : IsUnambiguous (.table origin span entries))
    (new : IsUnambiguous v) : IsUnambiguous (.table origin span (Toml.replace key v entries)) := by
  cases h with
  | table distinct below => exact .table (by rwa [names_replace]) (forall_mem_replace new below)

theorem IsUnambiguous.filter (h : IsUnambiguous (.table origin span entries))
    (p : Key × Value → Bool) : IsUnambiguous (.table origin span (entries.filter p)) := by
  cases h with
  | table distinct below =>
    exact .table (distinct.sublist (List.filter_sublist.map _))
      fun e mem => below e (List.mem_filter.mp mem).1

end

def KeepsKeys (f : Value → Option Value) : Prop :=
  ∀ v w, IsUnambiguous v → f v = some w → w.IsTable ∧ IsUnambiguous w

namespace Value

theorem isUnambiguous_inLast? {f : Value → Option Value} (keeps : KeepsKeys f) {v w : Value}
    (h : IsUnambiguous v) (done : v.inLast? f = some w) : IsUnambiguous w := by
  cases h with
  | tables below =>
    simp only [inLast?] at done
    split at done
    · rename_i last isLast
      obtain ⟨new, made, rfl⟩ := Option.map_eq_some_iff.mp done
      have element := (keeps last new (below _ (List.mem_of_getLast? isLast)) made).2
      refine .tables (List.forall_mem_append.mpr ⟨?_, List.forall_mem_singleton.mpr element⟩)
      exact fun e mem => below e (List.dropLast_subset _ mem)
    · cases done
  | scalar => exact (keeps _ w .scalar done).2
  | array below => exact (keeps _ w (.array below) done).2
  | table distinct below => exact (keeps _ w (.table distinct below) done).2

theorem keepsKeys_within? (dotted : Bool) {f : Value → Option Value} (keeps : KeepsKeys f)
    (path : List Key) : KeepsKeys (within? dotted f path) := by
  induction path with
  | nil =>
    intro v w h done
    rw [within?] at done
    exact keeps v w h done
  | cons key path ih =>
    intro v w h done
    cases v with
    | table origin span entries =>
      rw [within?] at done
      split at done
      · rename_i absent
        obtain ⟨inner, made, rfl⟩ := Option.map_eq_some_iff.mp done
        exact ⟨trivial, h.append absent (ih _ inner isUnambiguous_empty made).2⟩
      · rename_i below found
        split at done
        · obtain ⟨inner, made, rfl⟩ := Option.map_eq_some_iff.mp done
          exact ⟨trivial, h.replace (isUnambiguous_inLast? ih (h.of_find? found) made)⟩
        · cases done
    | _ => simp [within?] at done

theorem keepsKeys_insert? (key : Key) {v : Value} (new : IsUnambiguous v) :
    KeepsKeys fun t => t.insert? key v := by
  intro t w h done
  cases t with
  | table =>
    simp only [insert?] at done
    split at done
    · cases done
    · rename_i absent
      cases done
      exact ⟨trivial, h.append absent new⟩
  | _ => simp [insert?] at done

theorem keepsKeys_set? (path : List Key) (key : Key) {v : Value} (new : IsUnambiguous v) :
    KeepsKeys fun t => t.set? path key v := by
  refine keepsKeys_within? true ?_ path
  intro t w h done
  simp only at done
  split at done
  · cases done
  · exact keepsKeys_insert? key new t w h done

theorem isUnambiguous_reachTo {t : Value} (h : IsUnambiguous t) (v : Value) :
    IsUnambiguous (t.reachTo v) := by
  unfold reachTo
  split
  · cases h with
    | table distinct below => exact .table distinct below
  · exact h

theorem keepsKeys_setIn? (current path : List Key) (key : Key) {v : Value} (new : IsUnambiguous v) :
    KeepsKeys fun t => t.setIn? current path key v := by
  refine keepsKeys_within? false ?_ current
  intro t w h done
  exact keepsKeys_set? path key new (t.reachTo v) w (isUnambiguous_reachTo h v) done

theorem keepsKeys_openTable? (path : List Key) (key : Key) (span : Span) :
    KeepsKeys fun t => t.openTable? path key span := by
  refine keepsKeys_within? false ?_ path
  intro t w h done
  simp only at done
  split at done
  · split at done
    · rename_i absent
      cases done
      exact ⟨trivial, h.append absent isUnambiguous_empty⟩
    · rename_i found
      cases done
      have inner := h.of_find? found
      -- the table moves behind the entries that have other keys
      refine ⟨trivial, (h.filter _).append ?_ ?_⟩
      · rw [find?, Option.map_eq_none_iff, List.find?_eq_none]
        intro e mem same
        have other := (List.mem_filter.mp mem).2
        simp_all
      · cases inner with
        | table distinct below => exact .table distinct below
    · cases done
  · cases done

theorem keepsKeys_openElement? (path : List Key) (key : Key) (span : Span) :
    KeepsKeys fun t => t.openElement? path key span := by
  refine keepsKeys_within? false ?_ path
  have element : IsUnambiguous (.table .header (some span) []) := isUnambiguous_empty
  intro t w h done
  simp only at done
  split at done
  · split at done
    · rename_i absent
      cases done
      exact ⟨trivial, h.append absent (.tables (List.forall_mem_singleton.mpr element))⟩
    · rename_i found
      cases done
      cases h.of_find? found with
      | tables below =>
        exact ⟨trivial, h.replace
          (.tables (List.forall_mem_append.mpr ⟨below, List.forall_mem_singleton.mpr element⟩))⟩
    · cases done
  · cases done

theorem isUnambiguous_placed {v : Value} (h : IsUnambiguous v) (span : Span) :
    IsUnambiguous (v.placed span) := by
  cases h with
  | table distinct below => exact .table distinct below
  | scalar => exact .scalar
  | array below => exact .array below
  | tables below => exact .tables below

end Value

def ReadsKeys (value? : ValueReader) : Prop :=
  ∀ c v after, value? c = some (v, after) → IsUnambiguous v

section
variable {value? : ValueReader} {c after : Cursor}

theorem isUnambiguous_items? (reads : ReadsKeys value?) {budget : List Char} {items : List Value}
    (done : items? value? budget c = some (items, after)) : ∀ item ∈ items, IsUnambiguous item := by
  induction budget generalizing c items after with
  | nil => cases done
  | cons _ budget ih =>
    rw [items?] at done
    split at done
    · cases done
      exact List.forall_mem_nil _
    · obtain ⟨⟨item, behind⟩, read, done⟩ := Option.bind_eq_some_iff.mp done
      have first := reads _ _ _ read
      simp only at done
      split at done
      · obtain ⟨⟨others, _⟩, readOthers, done⟩ := Option.bind_eq_some_iff.mp done
        cases done
        exact List.forall_mem_cons.mpr ⟨first, ih readOthers⟩
      · obtain ⟨_, -, done⟩ := Option.bind_eq_some_iff.mp done
        cases done
        exact List.forall_mem_singleton.mpr first

theorem isUnambiguous_pair? (reads : ReadsKeys value?) {path : List Key} {key : Key} {v : Value}
    (done : pair? value? c = some (path, key, v, after)) : IsUnambiguous v := by
  simp only [pair?, Option.bind_eq_bind, Option.bind_eq_some_iff] at done
  obtain ⟨_, -, _, -, ⟨_, _⟩, read, same⟩ := done
  cases same
  exact reads _ _ _ read

theorem isUnambiguous_pairs? (reads : ReadsKeys value?) {budget : List Char} {table v : Value}
    (h : IsUnambiguous table) (done : pairs? value? budget table c = some (v, after)) :
    IsUnambiguous v := by
  induction budget generalizing c table with
  | nil => cases done
  | cons _ budget ih =>
    rw [pairs?] at done
    obtain ⟨⟨path, key, value, _⟩, read, done⟩ := Option.bind_eq_some_iff.mp done
    obtain ⟨longer, set, done⟩ := Option.bind_eq_some_iff.mp done
    have kept : IsUnambiguous longer :=
      (Value.keepsKeys_set? path key (isUnambiguous_pair? reads read) table longer h set).2
    simp only at done
    split at done
    · exact ih kept done
    · obtain ⟨_, -, done⟩ := Option.bind_eq_some_iff.mp done
      cases done
      exact kept

end

theorem readsKeys_value? (depth : Nat) : ReadsKeys (value? depth) := by
  induction depth with
  | zero =>
    intro c v after done
    unfold value? at done
    split at done
    · rename_i below
      cases below
    · rename_i below
      cases below
    · obtain ⟨_, -, same⟩ := Option.bind_eq_some_iff.mp done
      cases same
      exact .scalar
    · cases done
  | succ depth ih =>
    intro c v after done
    unfold value? at done
    split at done
    · rename_i below
      cases below
      obtain ⟨_, read, same⟩ := Option.bind_eq_some_iff.mp done
      cases same
      exact .array (isUnambiguous_items? ih read)
    · rename_i below
      cases below
      simp only at done
      split at done
      · cases done
        exact Value.isUnambiguous_placed isUnambiguous_empty _
      · obtain ⟨_, read, same⟩ := Option.bind_eq_some_iff.mp done
        cases same
        exact Value.isUnambiguous_placed (isUnambiguous_pairs? ih isUnambiguous_empty read) _
    · obtain ⟨_, -, same⟩ := Option.bind_eq_some_iff.mp done
      cases same
      exact .scalar
    · cases done

namespace Draft
variable {d next : Draft} {c after : Cursor}

theorem isUnambiguous_header? {opening closing : List Char}
    {open? : List Key → Key → Span → Value → Option Value}
    (keeps : ∀ path key span, KeepsKeys (open? path key span)) (h : IsUnambiguous d.root)
    (done : d.header? opening closing open? c = some (next, after)) :
    next.root.IsTable ∧ IsUnambiguous next.root := by
  simp only [header?, Option.bind_eq_bind, Option.bind_eq_some_iff] at done
  obtain ⟨_, -, ⟨path, key, _⟩, -, _, -, root, isRoot, _, -, same⟩ := done
  cases same
  exact keeps path key _ d.root root h isRoot

theorem isUnambiguous_pair? (h : IsUnambiguous d.root) (done : d.pair? c = some (next, after)) :
    next.root.IsTable ∧ IsUnambiguous next.root := by
  simp only [pair?, Option.bind_eq_bind, Option.bind_eq_some_iff] at done
  obtain ⟨⟨path, key, value, _⟩, read, root, isRoot, _, -, same⟩ := done
  cases same
  have new := Toml.isUnambiguous_pair? (readsKeys_value? depthLimit) read
  exact Value.keepsKeys_setIn? d.current path key new d.root root h isRoot

theorem isUnambiguous_line? (isTable : d.root.IsTable) (h : IsUnambiguous d.root)
    (done : d.line? c = some (next, after)) : next.root.IsTable ∧ IsUnambiguous next.root := by
  simp only [line?] at done
  split at done
  · cases done
    exact ⟨isTable, h⟩
  · split at done
    · exact isUnambiguous_header? Value.keepsKeys_openElement? h done
    · split at done
      · exact isUnambiguous_header? Value.keepsKeys_openTable? h done
      · exact isUnambiguous_pair? h done

theorem isUnambiguous_lines? (budget : List Char) (isTable : d.root.IsTable)
    (h : IsUnambiguous d.root) (done : lines? budget d c = some next) :
    next.root.IsTable ∧ IsUnambiguous next.root := by
  induction budget generalizing d c with
  | nil =>
    rw [lines?] at done
    split at done
    · cases done
      exact ⟨isTable, h⟩
    · cases done
  | cons _ budget ih =>
    rw [lines?] at done
    split at done
    · cases done
      exact ⟨isTable, h⟩
    · split at done
      · rename_i line
        obtain ⟨isTable, h⟩ := isUnambiguous_line? isTable h line
        exact ih isTable h done
      · cases done

end Draft

/-- A document is a table, and in all of its tables each key is set once. -/
theorem isUnambiguous_of_parse? {text : String} {document : Value}
    (h : parse? text = some document) : document.IsTable ∧ IsUnambiguous document := by
  obtain ⟨d, read, rfl⟩ := Option.map_eq_some_iff.mp h
  have start : Draft.start.root.IsTable ∧ IsUnambiguous Draft.start.root :=
    ⟨trivial, isUnambiguous_empty⟩
  exact Draft.isUnambiguous_lines? _ start.1 start.2 read

theorem isKeyed_of_parse? {text : String} {document : Value} (h : parse? text = some document) :
    IsKeyed document := by
  obtain ⟨isTable, unambiguous⟩ := isUnambiguous_of_parse? h
  exact unambiguous.isKeyed isTable

end CMakeGrammar.Toml
