import CMakeGrammar.Proofs.FileSystem.Writing
/-! File systems that differ in their files only. Paths are taken from directories, so they lead to
the same places in both; the same programs are found if what can be run is the same where they are
looked for; and what is written in both is written to the same place. Refusals may differ in their
reason. -/
namespace CMakeGrammar.FileSystem

def IsFileOrNothing : Option Entry → Prop
  | none => True
  | some (.file _) => True
  | some (.program ..) => True
  | some _ => False

structure Resembles (fs other : FileSystem) : Prop where
  current : fs.current = other.current
  entries : ∀ place, fs.entry? place = other.entry? place ∨
    (IsFileOrNothing (fs.entry? place) ∧ IsFileOrNothing (other.entry? place))

def behaviour? (fs : FileSystem) (place : List String) : Option Behaviour :=
  match fs.entry? place with
  | some (.program _ run) => some run
  | _ => none

def executablePaths (searchPath name : String) : List String :=
  if name.toList.contains '/' then [name]
  else (directories searchPath).map fun directory =>
    if directory.isEmpty then name else directory ++ "/" ++ name

def RunsAlike (fs other : FileSystem) (path : String) : Prop :=
  ∀ place, fs.place path = .ok place → fs.behaviour? place = other.behaviour? place

/-- What has changed in two file systems: nothing in both at a place, or it holds the same now. -/
def ChangeAlike (fs after other otherAfter : FileSystem) : Prop :=
  ∀ place, (after.entry? place = fs.entry? place ∧ otherAfter.entry? place = other.entry? place) ∨
    ∃ content, after.content? place = some content ∧ otherAfter.content? place = some content

/-- The same outcome, or refusals of which neither has to do with the length of a name. -/
inductive Alike {α : Type} : Except Refusal α → Except Refusal α → Prop
  | same (r : Except Refusal α) : Alike r r
  | refused {a b : Refusal} : a ≠ .nameTooLong → b ≠ .nameTooLong → Alike (.error a) (.error b)

section
variable {α β : Type} {x y : Except Refusal α}

theorem Alike.bind (h : Alike x y) {f g : α → Except Refusal β}
    (next : ∀ a, x = .ok a → Alike (f a) (g a)) : Alike (x >>= f) (y >>= g) := by
  cases h with
  | same r =>
    cases x with
    | error a => exact .same _
    | ok a => exact next a rfl
  | refused first second => exact .refused first second

theorem foldlM_alike {f g : β → α → Except Refusal β} (h : ∀ b a, Alike (f b a) (g b a))
    (items : List α) (b : β) : Alike (items.foldlM f b) (items.foldlM g b) := by
  induction items generalizing b with
  | nil => exact .same _
  | cons item items ih =>
    rw [List.foldlM_cons, List.foldlM_cons]
    exact (h b item).bind fun next _ => ih next

end

variable {fs other : FileSystem} {path searchPath name : String} {place : List String}

theorem step_of_isFileOrNothing (h : IsFileOrNothing (fs.entry? place)) (part : String) :
    ∃ refusal, refusal ≠ Refusal.nameTooLong ∧ fs.step place part = .error refusal := by
  rw [step]
  cases here : fs.entry? place with
  | none => exact ⟨.notFound, by decide, rfl⟩
  | some entry =>
    rw [here] at h
    cases entry with
    | directory => exact h.elim
    | device _ => exact h.elim
    | file _ => exact ⟨.notADirectory, by decide, rfl⟩
    | program _ _ => exact ⟨.notADirectory, by decide, rfl⟩

theorem step_alike (h : Resembles fs other) (place : List String) (part : String) :
    Alike (fs.step place part) (other.step place part) := by
  rcases h.entries place with same | ⟨here, there⟩
  · rw [step, step, same]
    exact .same _
  · obtain ⟨a, first, refused⟩ := step_of_isFileOrNothing here part
    obtain ⟨b, second, refused'⟩ := step_of_isFileOrNothing there part
    rw [refused, refused']
    exact .refused first second

theorem place_alike (h : Resembles fs other) (path : String) :
    Alike (fs.place path) (other.place path) := by
  have base : fs.base path = other.base path := by rw [FileSystem.base, FileSystem.base, h.current]
  rw [FileSystem.place, FileSystem.place, base]
  exact (Alike.same (checkPath path)).bind fun _ _ => foldlM_alike (step_alike h) _ _

theorem targetPlace_alike (h : Resembles fs other) (path : String) :
    Alike (fs.targetPlace path) (other.targetPlace path) := by
  have base : fs.base path = other.base path := by rw [FileSystem.base, FileSystem.base, h.current]
  rw [targetPlace, targetPlace, base]
  refine (Alike.same (checkPath path)).bind fun _ _ => ?_
  split
  · exact place_alike h path
  · refine (foldlM_alike (step_alike h) _ _).bind fun outer _ => ?_
    exact (step_alike h outer "").bind fun _ _ => .same _

theorem programAt_eq (fs : FileSystem) (path : String) : fs.programAt path =
    fs.place path >>= fun place =>
      match fs.behaviour? place with
      | some run => .ok run
      | none => .error (if (fs.entry? place).isSome then .noPermission else .notFound) := by
  rw [programAt, find]
  cases fs.place path with
  | error refusal => rfl
  | ok place =>
    simp only [bind, Except.bind, behaviour?]
    cases fs.entry? place with
    | none => rfl
    | some entry => cases entry <;> rfl

theorem programAt_alike (h : Resembles fs other) (runs : RunsAlike fs other path) :
    Alike (fs.programAt path) (other.programAt path) := by
  rw [programAt_eq, programAt_eq]
  refine (place_alike h path).bind fun place leads => ?_
  rw [runs place leads]
  split
  · exact .same _
  · exact .refused (by split <;> nofun) (by split <;> nofun)

theorem search_cons_of_error {directory : String} {others : List String} {first refusal : Refusal}
    (found : fs.programAt (if directory.isEmpty then name else directory ++ "/" ++ name) =
      .error refusal) (notLong : refusal ≠ .nameTooLong) :
    fs.search name first (directory :: others) =
      fs.search name (if first = .noPermission then first else refusal) others := by
  rw [search, found]
  cases refusal <;> first | rfl | exact absurd rfl notLong

theorem search_alike (h : Resembles fs other) {searched : List String}
    (runs : ∀ directory ∈ searched,
      RunsAlike fs other (if directory.isEmpty then name else directory ++ "/" ++ name))
    {a b : Refusal} (first : a ≠ .nameTooLong) (second : b ≠ .nameTooLong) :
    Alike (fs.search name a searched) (other.search name b searched) := by
  induction searched generalizing a b with
  | nil => exact .refused first second
  | cons directory searched ih =>
    obtain ⟨here, others⟩ := List.forall_mem_cons.mp runs
    have goesOn {c d : Refusal} (left : c ≠ .nameTooLong) (right : d ≠ .nameTooLong)
        (found : fs.programAt (if directory.isEmpty then name else directory ++ "/" ++ name) =
          .error c)
        (found' : other.programAt (if directory.isEmpty then name else directory ++ "/" ++ name) =
          .error d) :
        Alike (fs.search name a (directory :: searched))
          (other.search name b (directory :: searched)) := by
      rw [search_cons_of_error found left, search_cons_of_error found' right]
      exact ih others (by split <;> assumption) (by split <;> assumption)
    have found := programAt_alike h here
    generalize isHere : fs.programAt _ = x at found
    generalize isThere : other.programAt _ = y at found
    cases found with
    | refused left right => exact goesOn left right isHere isThere
    | same r =>
      cases x with
      | ok run =>
        rw [search, search, isHere, isThere]
        exact .same _
      | error refusal =>
        by_cases long : refusal = .nameTooLong
        · rw [search, search, isHere, isThere, long]
          exact .same _
        · exact goesOn long long isHere isThere

theorem program_alike (h : Resembles fs other)
    (runs : ∀ path ∈ executablePaths searchPath name, RunsAlike fs other path) :
    Alike (fs.program searchPath name) (other.program searchPath name) := by
  unfold executablePaths at runs
  unfold program
  split
  · rename_i slashes
    rw [if_pos slashes] at runs
    exact programAt_alike h (runs name (List.mem_singleton_self name))
  · rename_i plain
    rw [if_neg plain] at runs
    split
    · exact .same _
    · split
      · exact .same _
      · exact search_alike h (List.forall_mem_map.mp runs) nofun nofun

/-- An executable leaves the same in both, or is run in neither. -/
theorem run_alike (h : Resembles fs other)
    (runs : ∀ path ∈ executablePaths searchPath name, RunsAlike fs other path)
    (arguments : List String) :
    (fs.run searchPath name arguments).toOption =
    (other.run searchPath name arguments).toOption := by
  rw [FileSystem.run, FileSystem.run]
  split
  · rfl
  · have found := program_alike h runs
    generalize fs.program searchPath name = x at found
    generalize other.program searchPath name = y at found
    cases found <;> rfl

theorem changeAlike_refl (fs other : FileSystem) : ChangeAlike fs fs other other :=
  fun _ => .inl ⟨rfl, rfl⟩

theorem content?_fill (some : place ≠ []) (content : List UInt8) :
    (fs.fill place content).content? place = .some content := by
  unfold fill
  split
  · rw [content?, entry?_put_self some]
  · rw [content?, entry?_put_self some]

theorem changeAlike_fill (some : place ≠ []) (content : List UInt8) :
    ChangeAlike fs (fs.fill place content) other (other.fill place content) := by
  intro target
  by_cases here : target = place
  · rw [here]
    exact .inr ⟨content, content?_fill some content, content?_fill some content⟩
  · exact .inl ⟨entry?_put_of_ne here _, entry?_put_of_ne here _⟩

theorem ne_nil_of_isFileOrNothing (h : IsFileOrNothing (fs.entry? place)) : place ≠ [] := by
  rintro rfl
  exact h.elim

section
variable {content : List UInt8}

theorem write_of_error {refusal : Refusal} (target : fs.targetPlace path = .error refusal) :
    fs.write path content = .error refusal := by
  rw [write, target]
  rfl

theorem write_of_isFileOrNothing (target : fs.targetPlace path = .ok place)
    (h : IsFileOrNothing (fs.entry? place)) :
    fs.write path content = .ok (fs.fill place content) := by
  rw [write, target]
  simp only [bind, Except.bind]
  cases here : fs.entry? place with
  | none => rfl
  | some entry =>
    rw [here] at h
    cases entry with
    | directory => exact h.elim
    | device _ => exact h.elim
    | file _ => rfl
    | program _ _ => rfl

theorem write_of_directory (target : fs.targetPlace path = .ok place)
    (here : fs.entry? place = some .directory) :
    fs.write path content = .error .isADirectory := by
  rw [write, target]
  simp only [bind, Except.bind, here]
  rfl

theorem write_of_device {hasRoom : Bool} (target : fs.targetPlace path = .ok place)
    (here : fs.entry? place = some (.device hasRoom)) :
    fs.write path content = if hasRoom || content.isEmpty then .ok fs else .error .noSpace := by
  rw [write, target]
  simp only [bind, Except.bind, here]
  rfl

end

theorem write_alike (h : Resembles fs other) (path : String) (content : List UInt8) :
    (∃ a b, fs.write path content = .error a ∧ other.write path content = .error b) ∨
      ∃ after otherAfter, fs.write path content = .ok after ∧
        other.write path content = .ok otherAfter ∧ ChangeAlike fs after other otherAfter := by
  have target := targetPlace_alike h path
  generalize leads : fs.targetPlace path = x at target
  generalize leads' : other.targetPlace path = y at target
  cases target with
  | refused _ _ => exact .inl ⟨_, _, write_of_error leads, write_of_error leads'⟩
  | same r =>
    cases x with
    | error refusal => exact .inl ⟨_, _, write_of_error leads, write_of_error leads'⟩
    | ok place =>
      -- whatever stands at a place that can be filled, it is filled in both
      have filled (here : IsFileOrNothing (fs.entry? place))
          (there : IsFileOrNothing (other.entry? place)) : ∃ after otherAfter,
          fs.write path content = .ok after ∧ other.write path content = .ok otherAfter ∧
            ChangeAlike fs after other otherAfter :=
        ⟨_, _, write_of_isFileOrNothing leads here, write_of_isFileOrNothing leads' there,
          changeAlike_fill (ne_nil_of_isFileOrNothing here) content⟩
      rcases h.entries place with same | ⟨here, there⟩
      · cases here : fs.entry? place with
        | none =>
          rw [here] at same
          exact .inr (filled (by simp [here, IsFileOrNothing]) (by simp [← same, IsFileOrNothing]))
        | some entry =>
          have there := same.symm.trans here
          cases entry with
          | file _ =>
            exact .inr (filled (by simp [here, IsFileOrNothing]) (by simp [there, IsFileOrNothing]))
          | program _ _ =>
            exact .inr (filled (by simp [here, IsFileOrNothing]) (by simp [there, IsFileOrNothing]))
          | directory =>
            exact .inl ⟨_, _, write_of_directory leads here, write_of_directory leads' there⟩
          | device hasRoom =>
            rw [write_of_device leads here, write_of_device leads' there]
            split
            · exact .inr ⟨fs, other, rfl, rfl, changeAlike_refl fs other⟩
            · exact .inl ⟨_, _, rfl, rfl⟩
      · exact .inr (filled here there)

end CMakeGrammar.FileSystem
