import CMakeGrammar.Grammar
/-! Room on the stack. How much there is decides only whether a rendering comes to its end: with
more room it does the same, unless the stack has been full (`Grammar.widened_render`). -/
namespace CMakeGrammar

namespace Recorded
variable {σ τ ε δ α β : Type}

/-- That a second computation is the first one with more room: it does the same, unless the first
one has filled the stack. -/
def Widened (x y : Recorded σ (Halt ε) α) : Prop := x.result = .error .overflow ∨ y = x

namespace Widened

theorem refl (x : Recorded σ (Halt ε) α) : x.Widened x := .inr rfl

theorem bind {x y : Recorded σ (Halt ε) α} {f g : α → Recorded σ (Halt ε) β} (h : x.Widened y)
    (h' : ∀ a, (f a).Widened (g a)) : (x >>= f).Widened (y >>= g) := by
  rcases h with full | rfl
  · left
    rw [bind_of_error full]
  · cases result : y.result with
    | error halt =>
      right
      rw [bind_of_error result, bind_of_error result]
    | ok a =>
      rw [bind_of_ok result, bind_of_ok result]
      rcases h' a with full | same
      · exact .inl full
      · right
        rw [same]

theorem mapError {x y : Recorded σ (Halt ε) α} (h : x.Widened y) (f : ε → δ) :
    (x.mapError (.map f)).Widened (y.mapError (.map f)) := by
  rcases h with full | rfl
  · left
    rw [Recorded.mapError, full]
    rfl
  · exact .refl _

theorem mapEvents {x y : Recorded σ (Halt ε) α} (h : x.Widened y) (f : σ → τ) :
    (x.mapEvents f).Widened (y.mapEvents f) := by
  rcases h with full | rfl
  · exact .inl full
  · exact .refl _

end Widened
end Recorded

namespace Template
variable {α β : Type}

def Widened (x y : StateT Scope (Rendering Failure) α) : Prop := ∀ s, (x.run s).Widened (y.run s)

namespace Widened

theorem refl (x : StateT Scope (Rendering Failure) α) : Widened x x := fun _ => .refl _

theorem bind {x y : StateT Scope (Rendering Failure) α}
    {f g : α → StateT Scope (Rendering Failure) β} (h : Widened x y)
    (h' : ∀ a, Widened (f a) (g a)) : Widened (x >>= f) (y >>= g) :=
  fun s => (h s).bind fun r => h' r.1 r.2

theorem map {x y : StateT Scope (Rendering Failure) α} (h : Widened x y) (f : α → β) :
    Widened (f <$> x) (f <$> y) :=
  fun s => (h s).bind fun _ => .refl _

theorem locate {x y : Body} (h : Widened x y) (position : Option Text.Position) :
    Widened (locate position x) (locate position y) :=
  fun s => (h s).mapError (·.within position)

theorem paced {x y : Body} (h : Widened x y) (isDue : Bool) :
    Widened (paced isDue x) (paced isDue y) :=
  (refl _).bind fun _ => (refl _).bind fun _ => h.bind fun _ => refl _

theorem entering {x y : Body} (h : Widened x y) (frame : Frame) :
    Widened (Invocation.entering frame x) (Invocation.entering frame y) :=
  (refl _).bind fun _ => (refl _).bind fun _ => h.bind fun _ => refl _

theorem including {x y : Body} (h : Widened x y) (frame : Frame) :
    Widened (including frame x) (including frame y) :=
  (refl _).bind fun _ => (h.entering frame).bind fun _ => refl _

theorem part {body body' : Option Body} (h : Option.Rel Widened body body') :
    Widened (Invocation.part body) (Invocation.part body') := by
  cases h with
  | some h => exact h
  | none => exact refl _

theorem rounds {x y : Body} (h : Widened x y) (frames : List Frame) :
    Widened (Invocation.rounds x frames) (Invocation.rounds y frames) := by
  induction frames with
  | nil => exact refl _
  | cons frame frames ih =>
    exact (refl _).bind fun _ => h.bind fun _ => ih.bind fun _ => refl _

end Widened

/-- That two calls differ only in what is rendered inside, where the other one has more room. -/
inductive Invocation.Roomier : Invocation → Invocation → Prop
  | intro {args : List Argument} {named : List (String × Argument)} {bindings : Bindings}
    {body body' otherwise otherwise' : Option Body} :
    Option.Rel Widened body body' → Option.Rel Widened otherwise otherwise' →
    Roomier ⟨args, named, bindings, body, otherwise⟩ ⟨args, named, bindings, body', otherwise'⟩

namespace Invocation.Roomier
variable {i j : Invocation}

theorem choose (h : i.Roomier j) (wanted : Bool) (a : Argument) :
    Widened (i.choose wanted a) (j.choose wanted a) := by
  have asked : j.namedBool "includeZero" = i.namedBool "includeZero" := by cases h; rfl
  unfold Invocation.choose
  rw [asked]
  cases h with
  | intro body otherwise =>
    split
    · exact Widened.part body
    · exact Widened.part otherwise

theorem each (h : i.Roomier j) (a : Argument) : Widened (i.each a) (j.each a) := by
  have frames : j.frames? a = i.frames? a := by
    cases h with
    | intro _ otherwise => cases otherwise <;> rfl
  unfold Invocation.each
  rw [frames]
  generalize i.frames? a = frames?
  cases h with
  | intro body otherwise =>
    cases body with
    | none => exact .refl _
    | some body =>
      cases frames? with
      | some frames => exact (body.rounds frames).entering _
      | none =>
        cases otherwise with
        | none => exact .refl _
        | some otherwise => exact otherwise

theorem withValue (h : i.Roomier j) (a : Argument) : Widened (i.withValue a) (j.withValue a) := by
  unfold Invocation.withValue
  cases h with
  | intro body otherwise =>
    split
    · exact (Widened.refl _).bind fun _ => (Widened.part body).entering _
    · cases otherwise with
      | none => exact .refl _
      | some otherwise => exact otherwise

theorem call (h : i.Roomier j) (helper : TextHelper) :
    Widened (Invocation.call helper i) (Invocation.call helper j) := by
  have args : j.args = i.args := by cases h; rfl
  have body : Option.Rel Widened i.body j.body := by cases h; assumption
  have logged : j.log = i.log := by cases h; rfl
  unfold Invocation.call
  rw [args, logged]
  split
  · exact Widened.part body
  · exact .refl _
  · exact .refl _
  · exact .refl _
  · exact h.choose true _
  · exact h.choose false _
  · exact h.each _
  · exact h.withValue _

theorem decide (h : i.Roomier j) (raw holds : Bool) :
    Widened (Template.decide raw i holds) (Template.decide raw j holds) := by
  cases h with
  | intro body otherwise =>
    unfold Template.decide
    cases body with
    | some body => cases holds with
      | true => exact body
      | false => exact Widened.part otherwise
    | none => cases otherwise with
      | some otherwise => cases holds with
        | true => exact .refl _
        | false => exact otherwise
      | none => exact .refl _

theorem shownBy (h : i.Roomier j) (raw : Bool) (helper : Helper) :
    Widened (Template.shownBy raw helper i) (Template.shownBy raw helper j) := by
  have args : j.args = i.args := by cases h; rfl
  unfold Template.shownBy
  rw [args]
  split
  · exact .refl _
  · split
    · exact h.decide raw _
    · exact .refl _
  · exact h.call _

theorem invoke (h : i.Roomier j) (raw standsAlone : Bool) (name : String) :
    Widened (Template.invoke raw standsAlone name i) (Template.invoke raw standsAlone name j) := by
  have args : j.args = i.args := by cases h; rfl
  have named : j.named = i.named := by cases h; rfl
  unfold Template.invoke
  rw [args, named]
  refine (Widened.refl _).bind fun _ => ?_
  split
  · exact .refl _
  · exact (Widened.refl _).bind fun _ => (h.shownBy raw _).paced _

end Invocation.Roomier

theorem widened_invokeCall {body body' otherwise otherwise' : Option Body}
    (hasBody : Option.Rel Widened body body') (hasOther : Option.Rel Widened otherwise otherwise')
    (raw standsAlone : Bool) (c : Call) (bindings : Bindings) :
    Widened (Template.invokeCall raw standsAlone c bindings body otherwise)
      (Template.invokeCall raw standsAlone c bindings body' otherwise') :=
  (Widened.refl _).bind fun _ => (Widened.refl _).bind fun _ => (Widened.refl _).bind fun _ =>
    (Invocation.Roomier.intro hasBody hasOther).invoke raw standsAlone c.name

section
variable {inside inside' : Option String → List Node → Body}

theorem widened_inclusion (h : ∀ name nodes, Widened (inside name nodes) (inside' name nodes))
    (i : Inclusion) (body : Option (List Node)) :
    Widened (renderInclusion inside i body) (renderInclusion inside' i body) := by
  unfold renderInclusion
  refine (Widened.refl _).bind fun s => (Widened.refl _).bind fun name => ?_
  refine (Widened.refl _).bind fun args => (Widened.refl _).bind fun named => ?_
  split
  · exact .refl _
  · split
    · exact .refl _
    · refine Widened.paced (.including (.bind ?_ fun shown => ?_) _) _
      · cases body with
        | none => exact .refl _
        | some nodes => exact (h none nodes).map some
      · exact (Widened.refl _).bind fun _ => h _ _
    · exact .refl _

mutual

theorem widened_node (h : ∀ name nodes, Widened (inside name nodes) (inside' name nodes)) :
    ∀ n, Widened (renderNode inside n) (renderNode inside' n)
  | .text _ => by
    rw [renderNode, renderNode]
    exact .refl _
  | .place _ _ _ => by
    rw [renderNode, renderNode]
    exact .refl _
  | .inclusion position i body => by
    rw [renderNode, renderNode]
    exact (widened_inclusion h i body).locate _
  | .decoration _ _ _ => by
    rw [renderNode, renderNode]
    exact .refl _
  | .block position standsAlone c bindings body none => by
    rw [renderNode, renderNode]
    exact (widened_invokeCall (.some (widened_part h body)) .none _ _ _ _).locate _
  | .block position standsAlone c bindings body (some otherwise) => by
    rw [renderNode, renderNode]
    exact (widened_invokeCall (.some (widened_part h body)) (.some (widened_part h otherwise))
      _ _ _ _).locate _

theorem widened_part (h : ∀ name nodes, Widened (inside name nodes) (inside' name nodes)) :
    ∀ nodes, Widened (renderPart inside nodes) (renderPart inside' nodes)
  | nodes => by
    rw [renderPart, renderPart]
    exact (Widened.refl _).bind fun _ => widened_nodes h nodes

theorem widened_nodes (h : ∀ name nodes, Widened (inside name nodes) (inside' name nodes)) :
    ∀ nodes, Widened (renderAll inside nodes) (renderAll inside' nodes)
  | [] => by
    rw [renderAll, renderAll]
    exact .refl _
  | n :: ns => by
    rw [renderAll, renderAll]
    exact (widened_node h n).bind fun _ => (widened_nodes h ns).bind fun _ => .refl _

end

end

end Template

end CMakeGrammar
