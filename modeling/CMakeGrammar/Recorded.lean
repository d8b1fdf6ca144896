/-! Computations that leave a record: a result or a failure, together with the events on the way to
it in order. What was recorded before a failure stays recorded. -/
namespace CMakeGrammar

structure Recorded (σ ε α : Type) where
  events : List σ
  result : Except ε α

/-- How a computation comes to no result: it fails, or the stack is full and the system ends it. -/
inductive Halt (ε : Type)
  | failed (e : ε)
  | overflow
  deriving DecidableEq, Repr

namespace Halt

def map {ε δ : Type} (f : ε → δ) : Halt ε → Halt δ
  | failed e => failed (f e)
  | overflow => overflow

end Halt

namespace Recorded
variable {σ ε α β : Type}

def pure (a : α) : Recorded σ ε α := ⟨[], .ok a⟩

def fail (e : ε) : Recorded σ ε α := ⟨[], .error e⟩

def record (event : σ) : Recorded σ ε Unit := ⟨[event], .ok ()⟩

def ofExcept (result : Except ε α) : Recorded σ ε α := ⟨[], result⟩

def bind (x : Recorded σ ε α) (f : α → Recorded σ ε β) : Recorded σ ε β :=
  match x.result with
  | .ok a => ⟨x.events ++ (f a).events, (f a).result⟩
  | .error e => ⟨x.events, .error e⟩

instance : Monad (Recorded σ ε) where
  pure := pure
  bind := bind

def mapError {δ : Type} (f : ε → δ) (x : Recorded σ ε α) : Recorded σ δ α :=
  ⟨x.events, x.result.mapError f⟩

def halting (x : Recorded σ ε α) : Recorded σ (Halt ε) α := x.mapError .failed

def mapEvents {τ : Type} (f : σ → τ) (x : Recorded σ ε α) : Recorded τ ε α :=
  ⟨x.events.map f, x.result⟩

theorem eq_of_parts {x y : Recorded σ ε α} (events : x.events = y.events)
    (result : x.result = y.result) : x = y := by
  cases x; cases y; cases events; cases result; rfl

@[simp] theorem events_pure (a : α) : (Pure.pure a : Recorded σ ε α).events = [] := rfl
@[simp] theorem result_pure (a : α) : (Pure.pure a : Recorded σ ε α).result = .ok a := rfl
@[simp] theorem events_fail (e : ε) : (fail e : Recorded σ ε α).events = [] := rfl
@[simp] theorem result_fail (e : ε) : (fail e : Recorded σ ε α).result = .error e := rfl
@[simp] theorem events_record (event : σ) : (record event : Recorded σ ε Unit).events = [event] :=
  rfl
@[simp] theorem result_record (event : σ) : (record event : Recorded σ ε Unit).result = .ok () :=
  rfl

@[simp] theorem events_ofExcept (r : Except ε α) : (ofExcept r : Recorded σ ε α).events = [] := rfl
@[simp] theorem result_ofExcept (r : Except ε α) : (ofExcept r : Recorded σ ε α).result = r := rfl

theorem bind_of_ok {x : Recorded σ ε α} {a : α} (h : x.result = .ok a) (f : α → Recorded σ ε β) :
    x >>= f = ⟨x.events ++ (f a).events, (f a).result⟩ := by
  show Recorded.bind x f = _
  simp [Recorded.bind, h]

theorem bind_of_error {x : Recorded σ ε α} {e : ε} (h : x.result = .error e)
    (f : α → Recorded σ ε β) : x >>= f = ⟨x.events, .error e⟩ := by
  show Recorded.bind x f = _
  simp [Recorded.bind, h]

theorem result_bind (x : Recorded σ ε α) (f : α → Recorded σ ε β) :
    (x >>= f).result = x.result >>= fun a => (f a).result := by
  cases h : x.result with
  | ok a => rw [bind_of_ok h]; rfl
  | error e => rw [bind_of_error h]; rfl

theorem pure_bind (a : α) (f : α → Recorded σ ε β) : Pure.pure a >>= f = f a := rfl

theorem bind_pure (x : Recorded σ ε α) : x >>= Pure.pure = x := by
  cases h : x.result with
  | ok a => exact (bind_of_ok h _).trans (eq_of_parts (by simp) h.symm)
  | error e => exact (bind_of_error h _).trans (eq_of_parts rfl h.symm)

theorem bind_assoc {γ : Type} (x : Recorded σ ε α) (f : α → Recorded σ ε β)
    (g : β → Recorded σ ε γ) : x >>= f >>= g = x >>= fun a => f a >>= g := by
  cases h : x.result with
  | error e => rw [bind_of_error h, bind_of_error h, bind_of_error rfl]
  | ok a =>
    rw [bind_of_ok h, bind_of_ok h]
    cases h' : (f a).result with
    | error e => rw [bind_of_error h', bind_of_error rfl]
    | ok b => rw [bind_of_ok h', bind_of_ok rfl, List.append_assoc]

instance : LawfulMonad (Recorded σ ε) :=
  LawfulMonad.mk' _ bind_pure pure_bind bind_assoc

end Recorded
end CMakeGrammar
