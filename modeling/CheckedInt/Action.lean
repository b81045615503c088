import CheckedInt.Handling

/-!
# Actions — computations that may raise faults

An `Action σ α` works on a state of type `σ` and ends with an answer of type `α`, unless a fault
interrupts it. Its `Ending` keeps the state as it was left and the events in the order in which they
were logged, also when the action was interrupted.

`Action.raise` is the one source of events and of interruptions.
-/

namespace CheckedInt

/-- Why a computation ended without its answer. -/
inductive Interruption where
  | unwound (d : Diagnostic)
  | aborted
deriving DecidableEq

/-- What a computation leaves. -/
structure Ending (σ α : Type) where
  answer : Except Interruption α
  state : σ
  events : List Event

/-- A computation on a state. -/
def Action (σ α : Type) : Type := σ → Ending σ α

namespace Action

variable {σ τ α β : Type}

/-- The ending of an action that starts in a state. -/
def run (m : Action σ α) (s : σ) : Ending σ α := m s

/-- Answers without touching the state. -/
protected def pure (a : α) : Action σ α := fun s => ⟨.ok a, s, []⟩

/-- What follows an interrupted action is not run. -/
protected def bind (m : Action σ α) (f : α → Action σ β) : Action σ β := fun s =>
  let first := m.run s
  match first.answer with
  | .ok a =>
    let second := (f a).run first.state
    ⟨second.answer, second.state, first.events ++ second.events⟩
  | .error i => ⟨.error i, first.state, first.events⟩

instance : Monad (Action σ) where
  pure := Action.pure
  bind := Action.bind

/-- Answers with the state. -/
def read : Action σ σ := fun s => ⟨.ok s, s, []⟩

/-- Leaves another state. -/
def write (s : σ) : Action σ Unit := fun _ => ⟨.ok (), s, []⟩

/-- Logs a diagnostic, and then interrupts the action unless the handling lets it go on. -/
def raise (h : Handling) (d : Diagnostic) : Action σ Unit := fun s =>
  match h with
  | .unwind => ⟨.error (.unwound d), s, [h.event d]⟩
  | .abort => ⟨.error .aborted, s, [h.event d]⟩
  | .logAndContinue => ⟨.ok (), s, [h.event d]⟩

/-! ### What a composed action leaves -/

@[simp] theorem run_pure (a : α) (s : σ) : (pure a : Action σ α).run s = ⟨.ok a, s, []⟩ := rfl

/-- The second action starts where the first has left the state, and its events come after those of
the first. An interruption of the first ends both. -/
theorem run_bind (m : Action σ α) (f : α → Action σ β) (s : σ) :
    (m >>= f).run s =
      match m.run s with
      | ⟨.ok a, s', es⟩ =>
        ⟨((f a).run s').answer, ((f a).run s').state, es ++ ((f a).run s').events⟩
      | ⟨.error i, s', es⟩ => ⟨.error i, s', es⟩ := by
  show Action.bind m f s = _
  rcases h : m.run s with ⟨answer, s', es⟩
  cases answer <;> simp [Action.bind, h]

@[simp] theorem run_read (s : σ) : (read : Action σ σ).run s = ⟨.ok s, s, []⟩ := rfl

protected theorem id_map {γ : Type} (m : Action σ γ) : id <$> m = m := by
  funext s
  show Action.run (m >>= fun a => pure a) s = m.run s
  rw [run_bind]
  rcases m.run s with ⟨answer | answer, s', es⟩ <;> simp

protected theorem pure_bind (a : α) (f : α → Action σ β) : pure a >>= f = f a := by
  funext s
  show Action.run (pure a >>= f) s = (f a).run s
  simp [run_bind]

protected theorem bind_assoc {γ : Type} (m : Action σ α) (f : α → Action σ β)
    (g : β → Action σ γ) : m >>= f >>= g = m >>= fun a => f a >>= g := by
  funext s
  show Action.run (m >>= f >>= g) s = Action.run (m >>= fun a => f a >>= g) s
  simp only [run_bind]
  rcases m.run s with ⟨answer | a, s', es⟩
  · rfl
  · simp only
    rcases (f a).run s' with ⟨answer | b, s'', es'⟩ <;> simp

instance : LawfulMonad (Action σ) :=
  LawfulMonad.mk' _ Action.id_map Action.pure_bind Action.bind_assoc

end Action

end CheckedInt
