import CMakeGrammar.Proofs.Template.Room
/-! Templates that fill the stack. One that includes itself cannot do so under the name that it is
rendered by, but it can under a name that it is given inside of another one; then each inclusion
comes to the next one, however much room there is (`render_endless`). -/
namespace CMakeGrammar.Template

def inclusionOf (position : Text.Position) (name : String) : Node :=
  .inclusion position ⟨.written name, [], [], none, false⟩ none

def definitionOf (position : Text.Position) (name : String) (nodes : List Node) : Node :=
  .decoration position (.mk "inline" [.literal (.string name)] []) (some nodes)

/-- That some work in a scope ends because the stack is full. -/
def Fills {α : Type} (x : StateT Scope (Rendering Failure) α) (s : Scope) : Prop :=
  (x.run s).result = .error .overflow

namespace Fills
variable {α β : Type} {x : StateT Scope (Rendering Failure) α} {s : Scope}

theorem bind (h : Fills x s) (f : α → StateT Scope (Rendering Failure) β) : Fills (x >>= f) s := by
  rw [Fills, StateT.run_bind, Recorded.bind_of_error h]

theorem locate {x : Body} (h : Fills x s) (position : Option Text.Position) :
    Fills (locate position x) s := by
  show ((x.run s).mapError _).result = _
  rw [Recorded.mapError, h]
  rfl

theorem of_run {f : α → StateT Scope (Rendering Failure) β} {a : α} {s' : Scope}
    (run : x.run s = pure (a, s')) (h : Fills (f a) s') : Fills (x >>= f) s := by
  rw [Fills, StateT.run_bind, run, pure_bind]
  exact h

theorem get {f : Scope → StateT Scope (Rendering Failure) α} (h : Fills (f s) s) :
    Fills (get >>= f) s := h

theorem modify {g : Scope → Scope} {f : Unit → StateT Scope (Rendering Failure) α}
    (h : Fills (f ()) (g s)) : Fills (modify g >>= f) s := h

theorem paced {x : Body} {isDue : Bool} (h : Fills x { s with pen := s.pen.begin isDue }) :
    Fills (paced isDue x) s :=
  get (modify (bind h _))

theorem including {x : Body} {frame : Frame} (h : Fills x (s.enter frame)) :
    Fills (including frame x) s :=
  get (bind (get (modify (bind h _))) _)

end Fills

variable {inside : Option String → List Node → Body} {s : Scope} {name : String} {nodes : List Node}

/-- That a name stands for a template inside of the one that is rendered. -/
structure Scope.Defines (s : Scope) (name : String) (nodes : List Node) : Prop where
  lookup : (s.frames.findSome? fun f => f.templates.lookup name) = some nodes
  notBody : name ≠ Scope.bodyName

theorem Scope.Defines.template? (h : s.Defines name nodes) :
    s.template? name none = some (none, nodes) := by
  simp [Scope.template?, h.lookup, h.notBody]

theorem fills_inclusion (defines : s.Defines name nodes) (other : s.ownName ≠ some name)
    (h : ∀ s : Scope, s.Defines name nodes → Fills (inside none nodes) s)
    (position : Text.Position) : Fills (renderNode inside (inclusionOf position name)) s := by
  rw [inclusionOf, renderNode]
  refine Fills.locate ?_ _
  have run : (renderInclusion inside ⟨.written name, [], [], none, false⟩ none).run s =
      (paced false <| including (inclusionFrame s [] []) do
        modify fun s => { s with
          body := none
          pen := { s.pen with blanks := joinBlanks s.pen.blanks none } }
        inside none nodes).run s := by
    simp [renderInclusion, includedName, Param.evalAll, Param.evalNamed, other, defines.template?,
      defines.notBody]
  rw [Fills, run]
  exact Fills.paced (.including (.modify (h _ ⟨defines.lookup, defines.notBody⟩)))

theorem fills_within (position : Text.Position) (others : List Node) (room : Nat)
    (defines : s.Defines name (inclusionOf position name :: others)) :
    Fills (renderWithin room none (inclusionOf position name :: others)) s := by
  -- whatever scope the inclusion is come to in, the name stands for the same template there
  induction room generalizing s with
  | zero => rfl
  | succ room ih =>
    rw [renderWithin, renderTemplate, renderAll]
    refine Fills.modify (.bind ?_ _)
    apply fills_inclusion
    · exact ⟨defines.lookup, defines.notBody⟩
    · simp
    · exact fun _ => ih

theorem run_definition (position : Text.Position) (name : String) (nodes : List Node) (s : Scope) :
    (renderNode inside (definitionOf position name nodes)).run s =
      pure ([], s.define name nodes) := by
  rw [definitionOf, renderNode]
  rfl

theorem Scope.defines_define (notBody : name ≠ bodyName) {f : Frame} {outer : List Frame}
    (frames : s.frames = f :: outer) : (s.define name nodes).Defines name nodes :=
  ⟨by simp [define, frames], notBody⟩

theorem fills_endless (notBody : name ≠ Scope.bodyName) {own : String} (other : own ≠ name)
    {f : Frame} {outer : List Frame} (frames : s.frames = f :: outer)
    (defined within first : Text.Position) (others after : List Node) (room : Nat) :
    Fills (renderTemplate (renderWithin room) (some own)
      (definitionOf defined name (inclusionOf within name :: others) ::
        inclusionOf first name :: after)) s := by
  rw [renderTemplate, renderAll]
  refine Fills.modify (.of_run (run_definition defined name _ _) ?_)
  rw [renderAll]
  refine .bind (.bind (fills_inclusion ?_ ?_ (fun _ => fills_within within others room) _) _) _
  · exact Scope.defines_define notBody frames
  · simpa [Scope.define, frames] using other

/-- A template that includes itself under a name that it is given inside of another one fills every
stack. -/
theorem render_endless (stack : Nat) (document : Json) {own name : String} (other : own ≠ name)
    (notBody : name ≠ Scope.bodyName) (defined within first : Text.Position)
    (others after : List Node) :
    (render stack own document
      (definitionOf defined name (inclusionOf within name :: others) ::
        inclusionOf first name :: after)).result = .error .overflow := by
  rw [render, StateT.run', map_eq_pure_bind, Recorded.bind_of_error]
  exact fills_endless notBody other rfl defined within first others after stack

example : parse? ("\x7b\x7b#*inline \"a\"\x7d\x7d\x7b\x7b> a\x7d\x7d\x7b\x7b/inline\x7d\x7d" ++
    "\x7b\x7b> a\x7d\x7d") =
    some [definitionOf ⟨1, 1⟩ "a" [inclusionOf ⟨1, 17⟩ "a"], inclusionOf ⟨1, 35⟩ "a"] := by
  cbv

end CMakeGrammar.Template
