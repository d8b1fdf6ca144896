import CMakeGrammar.FileSystem
import CMakeGrammar.Proofs.Text.Utf8
/-! What writing a file does: it can be read again where it was written, and everywhere else there
stands what stood there before. -/
namespace CMakeGrammar

theorem exists_of_bind_ok {ε α β : Type} {x : Except ε α} {f : α → Except ε β} {b : β}
    (h : (x >>= f) = .ok b) : ∃ a, x = .ok a ∧ f a = .ok b := by
  cases x with
  | error e => cases h
  | ok a => exact ⟨a, rfl, h⟩

namespace FileSystem

variable {fs after : FileSystem} {path : String} {content : List UInt8}

theorem lookup_filter_ne {entries : List (List String × Entry)} {place other : List String}
    (ne : other ≠ place) :
    (entries.filter fun e => e.1 ≠ place).lookup other = entries.lookup other := by
  induction entries with
  | nil => rfl
  | cons first others ih =>
    obtain ⟨here, entry⟩ := first
    by_cases same : here = place
    · have elsewhere : (other == here) = false := by simpa [same] using ne
      rw [List.filter_cons_of_neg (by simpa using same), ih, List.lookup_cons, elsewhere]
    · rw [List.filter_cons_of_pos (by simpa using same), List.lookup_cons, List.lookup_cons, ih]

theorem entry?_put_self {place : List String} (some : place ≠ []) (entry : Entry) :
    entry? (fs.put place entry) place = .some entry := by
  rw [ entry?, if_neg (by simpa using some), put, List.lookup_cons, beq_self_eq_true]

theorem entry?_put_of_ne {place other : List String} (ne : other ≠ place) (entry : Entry) :
    entry? (fs.put place entry) other = fs.entry? other := by
  have elsewhere : (other == place) = false := by simpa using ne
  rw [ entry?, entry?, put, List.lookup_cons, elsewhere, lookup_filter_ne ne]

/-- Whatever is put where no directory is, paths lead where they led before. -/
theorem step_put {target : List String} (noDirectory : fs.entry? target ≠ some .directory)
    (entry : Entry) {place next : List String} {part : String}
    (taken : fs.step place part = .ok next) : (fs.put target entry).step place part = .ok next := by
  have ne : place ≠ target := by
    rintro rfl
    rw [step] at taken
    split at taken
    · cases taken
    · rename_i here
      exact noDirectory here
    · cases taken
  rw [step, entry?_put_of_ne ne]
  exact taken

theorem foldlM_step_put {target : List String} (noDirectory : fs.entry? target ≠ some .directory)
    (entry : Entry) {parts : List String} {start place : List String}
    (taken : parts.foldlM fs.step start = .ok place) :
    parts.foldlM (fs.put target entry).step start = .ok place := by
  induction parts generalizing start with
  | nil => exact taken
  | cons part others ih =>
    rw [List.foldlM_cons] at taken ⊢
    obtain ⟨next, first, rest⟩ := exists_of_bind_ok taken
    rw [step_put noDirectory entry first]
    exact ih rest

theorem place_put {target place : List String} (noDirectory : fs.entry? target ≠ some .directory)
    (entry : Entry) (leads : fs.place path = .ok place) :
    (fs.put target entry).place path = .ok place := by
  rw [FileSystem.place] at leads ⊢
  obtain ⟨checked, check, taken⟩ := exists_of_bind_ok leads
  rw [check]
  exact foldlM_step_put noDirectory entry taken

theorem place_of_targetPlace {place : List String} (target : fs.targetPlace path = .ok place) :
    fs.place path = .ok place := by
  rw [targetPlace] at target
  obtain ⟨checked, check, target⟩ := exists_of_bind_ok target
  split at target
  · exact target
  · obtain ⟨outer, -, target⟩ := exists_of_bind_ok target
    obtain ⟨inner, -, target⟩ := exists_of_bind_ok target
    cases target

theorem entry?_nil : fs.entry? [] = some .directory := rfl

theorem read_fill {place : List String} (leads : fs.place path = .ok place)
    (noDirectory : fs.entry? place ≠ some .directory) :
    (fs.fill place content).read path = .ok content := by
  have some : place ≠ [] := by
    rintro rfl
    exact noDirectory entry?_nil
  obtain ⟨entry, same, holds⟩ : ∃ entry, fs.fill place content = fs.put place entry ∧
      (entry = .file content ∨ ∃ run, entry = .program content run) := by
    unfold fill
    split
    · exact ⟨_, rfl, .inr ⟨_, rfl⟩⟩
    · exact ⟨_, rfl, .inl rfl⟩
  have found : (fs.fill place content).find path = .ok entry := by
    rw [same, find, place_put noDirectory entry leads]
    simp only [bind, Except.bind, entry?_put_self some]
    rfl
  rw [read, found]
  rcases holds with rfl | ⟨run, rfl⟩
  · rfl
  · rfl

theorem readText_fill {place : List String} {text : String} (leads : fs.place path = .ok place)
    (noDirectory : fs.entry? place ≠ some .directory) :
    (fs.fill place (Text.Utf8.encode text)).readText path = .ok text := by
  rw [readText, read_fill leads noDirectory]
  simp only [Text.Utf8.decode?_encode]

/-- That a text was written and nothing else changed. A device takes in what is written and stays as
it is. -/
inductive IsWritten (fs : FileSystem) (path text : String) : FileSystem → Prop
  | taken {place : List String} {hasRoom : Bool} : fs.place path = .ok place →
    fs.entry? place = some (.device hasRoom) → IsWritten fs path text fs
  | filled {place : List String} {after : FileSystem} : fs.place path = .ok place →
    after.readText path = .ok text → after.current = fs.current →
    (∀ other, other ≠ place → after.entry? other = fs.entry? other) → IsWritten fs path text after

theorem isWritten_fill {place : List String} {text : String} (leads : fs.place path = .ok place)
    (noDirectory : fs.entry? place ≠ some .directory) :
    IsWritten fs path text (fs.fill place (Text.Utf8.encode text)) :=
  .filled leads (readText_fill leads noDirectory) rfl fun _ ne => entry?_put_of_ne ne _

theorem isWritten_of_write {text : String}
    (written : fs.write path (Text.Utf8.encode text) = .ok after) :
    IsWritten fs path text after := by
  rw [write] at written
  obtain ⟨place, target, written⟩ := exists_of_bind_ok written
  have leads := place_of_targetPlace target
  cases here : fs.entry? place with
  | none =>
    rw [here] at written
    cases written
    exact isWritten_fill leads (by simp [here])
  | some entry =>
    rw [here] at written
    cases entry with
    | directory => cases written
    | file old =>
      cases written
      exact isWritten_fill leads (by simp [here])
    | program old run =>
      cases written
      exact isWritten_fill leads (by simp [here])
    | device hasRoom =>
      simp only at written
      split at written
      · cases written
        exact .taken leads here
      · cases written

end FileSystem
end CMakeGrammar
