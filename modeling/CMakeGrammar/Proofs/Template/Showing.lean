import CMakeGrammar.Template.Render
/-! What parts of a template show. A part is looked at in some frames, in every scope that has them
and indents nothing; it must leave the scope so. Each way to put parts together has a lemma. -/
namespace CMakeGrammar.Template

def Reaches (frames : List Frame) (p : Path) (v : Json) : Prop :=
  ∀ s : Scope, s.frames = frames →
    ∃ found, s.lookup p = .ok found ∧ found.value = v ∧ found.isMissing = false

theorem Located.isMissing_below (parent : Located) (step : String) (v : Json) :
    (parent.below step v).isMissing = false := by
  unfold Located.below
  split <;> rfl

theorem Located.value_below (parent : Located) (step : String) (v : Json) :
    (parent.below step v).value = v := by
  unfold Located.below
  split <;> rfl

/-- The scope has these frames, and no lines are indented. -/
structure Scope.IsPlain (s : Scope) (frames : List Frame) : Prop where
  frames : s.frames = frames
  blanks : s.pen.blanks = none

/-- A part shows a text. -/
def Shows (frames : List Frame) (body : Body) (text : List Char) : Prop :=
  ∀ s : Scope, s.IsPlain frames →
    ∃ after : Scope, (body.run s).result = .ok (text, after) ∧ after.IsPlain frames

section
variable {frames : List Frame} {inside : Option String → List Node → Body}

theorem reaches_member {f : Frame} {name : String} (written : String) {v : Json}
    {members : List (String × Json)} (value : f.value.value = .object members)
    (present : f.value.isMissing = false) (unbound : ∀ g ∈ f :: frames, g.bound = [])
    (isMember : members.lookup name = some v) :
    Reaches (f :: frames) (.relative [.name name] written) v := by
  intro s areFrames
  have free : s.bound? name = none := by
    rw [Scope.bound?, areFrames, List.findSome?_eq_none_iff]
    intro g hg
    rw [unbound g hg]
    rfl
  have here : s.outward 0 = f.value := by
    rw [Scope.outward, areFrames]
    rfl
  have stepped : Scope.step f.value name = .ok (f.value.below name v) := by
    unfold Scope.step
    cases located : f.value with
    | missing => simp [located, Located.isMissing] at present
    | _ =>
      rw [located] at value
      simp only [Located.value] at value
      simp [Located.value, value, isMember]
  refine ⟨f.value.below name v, ?_, Located.value_below _ _ _, Located.isMissing_below _ _ _⟩
  simp only [Scope.lookup, Path.leadingUps, free, here, Scope.names, List.filterMap_cons,
    List.filterMap_nil, Scope.walk, stepped]

theorem reaches_this {f : Frame} (written : String) (present : f.value.isMissing = false) :
    Reaches (f :: frames) (.relative [] written) f.value.value := by
  intro s areFrames
  refine ⟨f.value, ?_, rfl, present⟩
  simp [Scope.lookup, Path.leadingUps, Scope.names, Scope.walk, Scope.outward, areFrames]

theorem reaches_data {f : Frame} {name : String} (written : String) {v : Json}
    (isData : f.data.lookup name = some v) :
    Reaches (f :: frames) (.loopData 0 name written) v := by
  intro s areFrames
  refine ⟨.derived v, ?_, rfl, rfl⟩
  simp [Scope.lookup, Scope.dataOf, areFrames, isData]

theorem result_run_bind {α β : Type} {x : StateT Scope (Rendering Failure) α} {s after : Scope}
    {a : α} (h : (x.run s).result = .ok (a, after))
    (f : α → StateT Scope (Rendering Failure) β) :
    ((x >>= f).run s).result = ((f a).run after).result := by
  rw [StateT.run_bind, Recorded.result_bind, h]
  rfl

theorem result_run_get {β : Type} (s : Scope) (f : Scope → StateT Scope (Rendering Failure) β) :
    ((get >>= f).run s).result = ((f s).run s).result :=
  result_run_bind rfl f

theorem result_run_lift {α β : Type} {x : Rendering Failure α} {a : α} (h : x.result = .ok a)
    (s : Scope) (f : α → StateT Scope (Rendering Failure) β) :
    (((liftM x : StateT Scope (Rendering Failure) α) >>= f).run s).result =
      ((f a).run s).result := by
  refine result_run_bind ?_ f
  show (x >>= fun a => pure (a, s)).result = .ok (a, s)
  rw [Recorded.result_bind, h]
  rfl

theorem shows_pure (text : List Char) : Shows frames (pure text) text :=
  fun s plain => ⟨s, rfl, plain⟩

theorem Shows.of_eq {body : Body} {a b : List Char} (h : Shows frames body a) (eq : a = b) :
    Shows frames body b :=
  eq ▸ h

theorem Shows.append {first second : Body} {a b : List Char} (h : Shows frames first a)
    (h' : Shows frames second b) :
    Shows frames (do let text ← first; return text ++ (← second)) (a ++ b) := by
  intro s plain
  obtain ⟨middle, ran, plain⟩ := h s plain
  obtain ⟨after, ran', plain⟩ := h' middle plain
  refine ⟨after, ?_, plain⟩
  rw [result_run_bind ran, result_run_bind ran']
  rfl

theorem shows_write (text : List Char) : Shows frames (Invocation.write text) text := by
  intro s plain
  have shown := s.pen.write_of_no_blanks plain.blanks text
  refine ⟨{ s with pen := (s.pen.write text).2 }, ?_, plain.frames, ?_⟩
  · have run : ((Invocation.write text).run s).result =
        .ok ((s.pen.write text).1, { s with pen := (s.pen.write text).2 }) := rfl
    rw [run, shown]
  · unfold Pen.write
    split
    · exact plain.blanks
    · exact plain.blanks

theorem Shows.locate {body : Body} {text : List Char} (h : Shows frames body text)
    (position : Option Text.Position) : Shows frames (locate position body) text := by
  intro s plain
  obtain ⟨after, ran, plain⟩ := h s plain
  refine ⟨after, ?_, plain⟩
  have run : ((Template.locate position body).run s).result =
      ((body.run s).result).mapError (.map (·.within position)) := rfl
  rw [run, ran]
  rfl

theorem Shows.paced {body : Body} {text : List Char} (h : Shows frames body text) (isDue : Bool) :
    Shows frames (paced isDue body) text := by
  intro s plain
  have begun : ({ s with pen := s.pen.begin isDue } : Scope).IsPlain frames :=
    ⟨plain.frames, plain.blanks⟩
  obtain ⟨after, ran, plain'⟩ := h _ begun
  refine ⟨{ after with pen := s.pen.resume after.pen }, ?_, plain'.frames, ?_⟩
  · have run : ((Template.paced isDue body).run s).result =
        (((body >>= fun text => do
          modify fun s' => { s' with pen := s.pen.resume s'.pen }
          return text).run { s with pen := s.pen.begin isDue }).result) := rfl
    rw [run, result_run_bind ran]
    rfl
  · unfold Pen.resume
    split
    · exact plain.blanks
    · exact plain.blanks

def callOf (p : Path) (v : Located) (bindings : Bindings) (body otherwise : Option Body) :
    Invocation :=
  ⟨[⟨some p.written, v⟩], [], bindings, body, otherwise⟩

theorem Shows.invoke {name : String} {h : TextHelper} {i : Invocation} {text : List Char}
    (known : Helper.ofName? name = some (.text h)) (raw standsAlone : Bool)
    (shown : Shows frames (Invocation.call h i) text) :
    Shows frames (invoke raw standsAlone name i) text := by
  intro s plain
  obtain ⟨after, ran, plain'⟩ :=
    shown.paced (s.pen.isDue || standsAlone && s.pen.endsLine) s plain
  refine ⟨after, ?_, plain'⟩
  simp only [Template.invoke, known]
  exact ran

theorem shows_call {name : String} {h : TextHelper} {p : Path} {v : Json} {text : List Char}
    {bindings : Bindings} {body otherwise : Option Body}
    (known : Helper.ofName? name = some (.text h)) (reaches : Reaches frames p v)
    (raw standsAlone : Bool)
    (shown : ∀ found : Located, found.value = v →
      Shows frames (Invocation.call h (callOf p found bindings body otherwise)) text) :
    Shows frames (invokeCall raw standsAlone (.mk name [.path p] []) bindings body otherwise)
      text := by
  intro s plain
  obtain ⟨found, looked, value, -⟩ := reaches s plain.frames
  obtain ⟨after, ran, plain'⟩ := (shown found value).invoke known raw standsAlone s plain
  refine ⟨after, ?_, plain'⟩
  have args : (Param.evalAll s [.path p]).result = .ok [⟨some p.written, found⟩] := by
    simp only [Param.evalAll, Param.eval, looked]
    rfl
  have named : (Param.evalNamed s []).result = .ok [] := rfl
  rw [invokeCall, result_run_get, Call.params, Call.named, result_run_lift args,
    result_run_lift named]
  exact ran

theorem shows_value {p : Path} {v : Json} (reaches : Reaches frames p v)
    (unknown : Helper.ofName? p.written = none) :
    Shows frames (renderValue false (.path p)) (Json.escapeChars (Value.print v)) := by
  intro s plain
  obtain ⟨found, looked, rfl, present⟩ := reaches s plain.frames
  obtain ⟨after, ran, plain'⟩ := shows_write (Json.escapeChars (Value.print found.value)) s plain
  refine ⟨after, ?_, plain'⟩
  have named : (nameOf s (.path p)).result = .ok p.written := rfl
  have evaluated : (Param.eval s (.path p)).result = .ok ⟨some p.written, found⟩ := by
    simp only [Param.eval, looked]
    rfl
  have said (text : String) : (Invocation.say .rendering .debug text).result = .ok () := rfl
  rw [renderValue, result_run_get, result_run_lift named, unknown, if_neg (by simp),
    result_run_lift (said _), result_run_lift evaluated, if_neg (by simp [present])]
  exact ran

theorem names?_ofNames (names : List String) :
    Invocation.names? (.ofNames names) = some names := by
  rw [Json.ofNames, Invocation.names?, Json.strings_map_string]

theorem shows_alternation {p : Path} {v : Json} {names : List String} (reaches : Reaches frames p v)
    (areNames : Invocation.names? v = some names) (raw standsAlone : Bool) :
    Shows frames
      (invokeCall raw standsAlone (.mk "regex_alternation" [.path p] []) ⟨none, none⟩ none none)
      (Json.escapeChars (Alternation.ofNames names).toList) := by
  refine shows_call (h := .alternation) (by decide) reaches raw standsAlone ?_
  intro found value s plain
  refine ⟨s, ?_, plain⟩
  simp only [Invocation.call, callOf, Invocation.alternation, value, areNames]
  rfl

theorem shows_nil : Shows frames (renderAll inside []) [] := by
  rw [renderAll]
  exact shows_pure []

theorem shows_cons {n : Node} {ns : List Node} {a b : List Char}
    (h : Shows frames (renderNode inside n) a) (h' : Shows frames (renderAll inside ns) b) :
    Shows frames (renderAll inside (n :: ns)) (a ++ b) := by
  rw [renderAll]
  exact h.append h'

theorem shows_text (text : List Char) : Shows frames (renderNode inside (.text text)) text := by
  rw [renderNode]
  exact shows_write text

theorem shows_part {nodes : List Node} {text : List Char}
    (h : Shows frames (renderAll inside nodes) text) :
    Shows frames (renderPart inside nodes) text := by
  intro s plain
  obtain ⟨after, ran, plain'⟩ := h { s with ownName := none } ⟨plain.frames, plain.blanks⟩
  refine ⟨after, ?_, plain'⟩
  rw [renderPart]
  exact ran

theorem renderNode_block (position : Option Text.Position) (standsAlone : Bool) (c : Call)
    (bindings : Bindings) (body : List Node) (otherwise : Option (List Node)) :
    renderNode inside (.block position standsAlone c bindings body otherwise) =
      locate position (invokeCall false standsAlone c bindings (some (renderPart inside body))
        (otherwise.map (renderPart inside))) := by
  cases otherwise with
  | none => rw [renderNode, Option.map_none]
  | some nodes => rw [renderNode, Option.map_some]

theorem shows_choice {name : String} {h : TextHelper} {wanted : Bool}
    (known : Helper.ofName? name = some (.text h))
    (chooses : ∀ i a, i.args = [a] → Invocation.call h i = i.choose wanted a)
    {p : Path} {v : Json} (reaches : Reaches frames p v) {position : Option Text.Position}
    {standsAlone : Bool} {body : List Node} {otherwise : Option (List Node)} {text : List Char}
    (chosen : Shows frames
      (renderAll inside (if Value.isTrue false v = wanted then body else otherwise.getD [])) text) :
    Shows frames
      (renderNode inside
        (.block position standsAlone (.mk name [.path p] []) ⟨none, none⟩ body otherwise))
          text := by
  rw [renderNode_block]
  refine Shows.locate (shows_call known reaches false standsAlone ?_) position
  intro found value
  rw [chooses _ ⟨some p.written, found⟩ rfl, Invocation.choose]
  have named : Invocation.namedBool (callOf p found ⟨none, none⟩ (some (renderPart inside body))
      (otherwise.map (renderPart inside))) "includeZero" = false := rfl
  rw [named, value]
  by_cases holds : Value.isTrue false v = wanted
  · rw [if_pos holds] at chosen ⊢
    exact shows_part chosen
  · rw [if_neg holds] at chosen ⊢
    cases otherwise with
    | none =>
      rw [Option.getD_none, renderAll] at chosen
      exact chosen
    | some nodes => exact shows_part chosen

theorem shows_if {p : Path} {v : Json} (reaches : Reaches frames p v)
    {position : Option Text.Position} {standsAlone : Bool} {body : List Node}
    {otherwise : Option (List Node)} {text : List Char}
    (chosen : Shows frames
      (renderAll inside (if Value.isTrue false v = true then body else otherwise.getD [])) text) :
    Shows frames
      (renderNode inside
        (.block position standsAlone (.mk "if" [.path p] []) ⟨none, none⟩ body otherwise))
          text := by
  refine shows_choice (h := .ifTrue) (by decide) ?_ reaches chosen
  intro i a args
  simp only [Invocation.call, args]

theorem shows_unless {p : Path} {v : Json} (reaches : Reaches frames p v)
    {position : Option Text.Position} {standsAlone : Bool} {body : List Node}
    {otherwise : Option (List Node)} {text : List Char}
    (chosen : Shows frames
      (renderAll inside (if Value.isTrue false v = false then body else otherwise.getD [])) text) :
    Shows frames
      (renderNode inside
        (.block position standsAlone (.mk "unless" [.path p] []) ⟨none, none⟩ body otherwise))
      text := by
  refine shows_choice (h := .ifFalse) (by decide) ?_ reaches chosen
  intro i a args
  simp only [Invocation.call, args]

structure IsRound (f : Frame) (member : String × Json) (isLast : Bool) : Prop where
  value : f.value.value = member.2
  present : f.value.isMissing = false
  key : f.data.lookup "key" = some (.string member.1)
  last : f.data.lookup "last" = some (.bool isLast)
  bound : f.bound = []
  templates : f.templates = []

def AreRounds : List Frame → List (String × Json) → Prop
  | [], [] => True
  | f :: fs, m :: ms => IsRound f m ms.isEmpty ∧ AreRounds fs ms
  | _, _ => False

/-- The texts of some members in turn. Each knows whether it is the last. -/
def inTurn {α β : Type} (text : Bool → α → List β) : List α → List β
  | [] => []
  | a :: as => text as.isEmpty a ++ inTurn text as

theorem areRounds_memberFrames {i : Invocation} (bindings : i.bindings = ⟨none, none⟩)
    (container : Located) (members : List (String × Json)) :
    AreRounds (members.mapIdx (i.memberFrame container (members.length - 1))) members := by
  have offset (ms : List (String × Json)) (n last : Nat) (h : n + ms.length = last + 1) :
      AreRounds (ms.mapIdx fun k => i.memberFrame container last (k + n)) ms := by
    induction ms generalizing n with
    | nil => trivial
    | cons m ms ih =>
      rw [List.mapIdx_cons]
      refine ⟨?_, ?_⟩
      · have isLast : Decidable.decide (0 + n = last) = ms.isEmpty := by
          rw [List.length_cons] at h
          rw [Bool.eq_iff_iff, decide_eq_true_iff, List.isEmpty_iff_length_eq_zero]
          omega
        exact {
          value := Located.value_below container m.1 m.2
          present := Located.isMissing_below container m.1 m.2
          key := rfl
          last := by rw [← isLast]; rfl
          bound := by simp [Invocation.memberFrame, Invocation.bound, bindings]
          templates := rfl }
      · have next := ih (n + 1) (by simp at h; omega)
        simpa [Nat.add_assoc, Nat.add_comm 1 n] using next
  cases members with
  | nil => trivial
  | cons m ms => simpa using offset (m :: ms) 0 ms.length (by simp)

section
variable {α : Type} {entries : List α} {member : α → String × Json} {text : Bool → α → List Char}

/-- Rounds show the texts of their members in turn, and only the innermost frame changes. -/
theorem shows_rounds {body : Body} {rounds : List Frame}
    (areRounds : AreRounds rounds (entries.map member))
    (shown : ∀ f a isLast, a ∈ entries → IsRound f (member a) isLast →
      Shows (f :: frames) body (text isLast a))
    {first : Frame} (unnamed : first.templates = []) {s : Scope}
    (plain : s.IsPlain (first :: frames)) :
    ∃ last after, ((Invocation.rounds body rounds).run s).result =
      .ok (inTurn text entries, after) ∧ after.IsPlain (last :: frames) := by
  induction rounds generalizing entries first s with
  | nil =>
    cases entries with
    | nil => exact ⟨first, s, rfl, plain⟩
    | cons a as => exact areRounds.elim
  | cons f rounds ih =>
    cases entries with
    | nil => exact areRounds.elim
    | cons a as =>
      obtain ⟨isRound, areRounds⟩ := areRounds
      rw [List.isEmpty_map] at isRound
      have turned : (s.turn f).IsPlain (f :: frames) := by
        refine ⟨?_, ?_⟩
        · simp only [Scope.turn, plain.frames, unnamed, ← isRound.templates]
        · simp only [Scope.turn, plain.frames]
          exact plain.blanks
      obtain ⟨middle, ran, plain⟩ := shown f a as.isEmpty (by simp) isRound _ turned
      have others : ∀ f b isLast, b ∈ as → IsRound f (member b) isLast →
          Shows (f :: frames) body (text isLast b) :=
        fun f b isLast mem => shown f b isLast (by simp [mem])
      obtain ⟨last, after, ran', plain⟩ := ih areRounds others isRound.templates plain
      refine ⟨last, after, ?_, plain⟩
      have run : ((Invocation.rounds body (f :: rounds)).run s).result =
          ((do let text ← body; return text ++ (← Invocation.rounds body rounds) : Body).run
            (s.turn f)).result := rfl
      rw [run, result_run_bind ran, result_run_bind ran']
      rfl

theorem Shows.each {i : Invocation} {a : Argument} {body : Body}
    (bindings : i.bindings = ⟨none, none⟩) (isBody : i.body = some body)
    (noOther : i.otherwise = none) (value : a.value.value = .object (entries.map member))
    (shown : ∀ f a isLast, a ∈ entries → IsRound f (member a) isLast →
      Shows (f :: frames) body (text isLast a)) :
    Shows frames (i.each a) (inTurn text entries) := by
  intro s plain
  have rounds := areRounds_memberFrames bindings a.value (entries.map member)
  have entered : (s.enter ⟨a.value, [], [], []⟩).IsPlain (⟨a.value, [], [], []⟩ :: frames) :=
    ⟨by rw [Scope.enter, plain.frames], plain.blanks⟩
  obtain ⟨last, after, ran, plain'⟩ := shows_rounds rounds shown rfl entered
  refine ⟨{ after with frames := s.frames }, ?_, plain.frames, plain'.blanks⟩
  have run : ((i.each a).run s).result =
      ((Invocation.entering ⟨a.value, [], [], []⟩ (Invocation.rounds body
        ((entries.map member).mapIdx
          (i.memberFrame a.value ((entries.map member).length - 1))))).run s).result := by
    simp only [Invocation.each, Invocation.frames?, isBody, noOther, value, Option.isSome_none,
      Bool.and_false, Bool.false_eq_true, if_false]
  have within (body : Body) : ((Invocation.entering ⟨a.value, [], [], []⟩ body).run s).result =
      ((body >>= fun text => do
        modify fun s' => { s' with frames := s.frames }
        return text).run (s.enter ⟨a.value, [], [], []⟩)).result := rfl
  rw [run, within, result_run_bind ran]
  rfl

theorem shows_each {p : Path} (reaches : Reaches frames p (.object (entries.map member)))
    {position : Option Text.Position} {standsAlone : Bool} {body : List Node}
    (shown : ∀ f a isLast, a ∈ entries → IsRound f (member a) isLast →
      Shows (f :: frames) (renderAll inside body) (text isLast a)) :
    Shows frames
      (renderNode inside
        (.block position standsAlone (.mk "each" [.path p] []) ⟨none, none⟩ body none))
      (inTurn text entries) := by
  rw [renderNode_block, Option.map_none]
  refine Shows.locate (shows_call (h := .each) (by decide) reaches false standsAlone ?_) position
  intro found value
  refine Shows.each rfl rfl rfl value ?_
  intro f a isLast mem isRound
  exact shows_part (shown f a isLast mem isRound)

end

end

end CMakeGrammar.Template
