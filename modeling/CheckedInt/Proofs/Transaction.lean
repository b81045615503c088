import CheckedInt.Machine.Run
import CheckedInt.Proofs.Admission

/-!
# Transactions — all or nothing

A transaction tries to change the state.  What it gets is stored and answered; otherwise it raises a
fault, leaves the state as it was, and where the fault is passed over it answers with a stand-in
(`Action.transact`, `run_transact_of_ok`, `run_transact_of_error`).

**Every operation is a transaction** (`SafeInt.create_eq` to `SafeInt.withValue_complement_eq`), and
a chain of assignments is several of them.  A compound operator validates its result a second time,
and a step that gives the old value does not; that comes to the same, because a result that is not
refused is in the domain (`SafeInt.assign_of_tryApply`).
-/

namespace CheckedInt

/-! ### Raised faults -/

namespace Handling

variable {α : Type} {h : Handling} {d : Diagnostic}

/-- What a raised diagnostic interrupts a computation with, unless it is passed over. -/
def interruption? (h : Handling) (d : Diagnostic) : Option Interruption :=
  match h with
  | unwind => some (.unwound d)
  | abort => some .aborted
  | logAndContinue => none

/-- The answer of a computation that raises a diagnostic and goes on to answer `a`. -/
def verdict (h : Handling) (d : Diagnostic) (a : α) : Except Interruption α :=
  match h.interruption? d with
  | some i => .error i
  | none => .ok a

/-- Only the handling that passes faults over lets an action go on. -/
theorem interruption?_eq_none_iff : h.interruption? d = none ↔ h = .logAndContinue := by
  cases h <;> simp [interruption?]

/-- A raised fault is followed by an answer only if it is passed over. -/
theorem verdict_eq_ok_iff {a b : α} : h.verdict d a = .ok b ↔ h = .logAndContinue ∧ a = b := by
  cases h <;> simp [verdict, interruption?]

theorem verdict_map {β : Type} (g : α → β) (a : α) : (h.verdict d a).map g = h.verdict d (g a) := by
  cases h <;> rfl

end Handling

namespace Action

variable {σ α : Type}

theorem ext {m m' : Action σ α} (h : ∀ s, m.run s = m'.run s) : m = m' := funext h

theorem run_read_bind (k : σ → Action σ α) (s : σ) : (read >>= k).run s = (k s).run s := by
  rw [run_bind, run_read]
  rfl

/-- What follows a raised diagnostic is run only if that is passed over. -/
theorem run_raise_bind (h : Handling) (d : Diagnostic) (k : Action σ α) (s : σ) :
    (raise h d >>= fun _ => k).run s =
      match h.interruption? d with
      | some i => ⟨.error i, s, [h.event d]⟩
      | none => ⟨(k.run s).answer, (k.run s).state, h.event d :: (k.run s).events⟩ := by
  rw [run_bind]
  cases h <;> rfl

theorem run_raise_pure (h : Handling) (d : Diagnostic) (a : α) (s : σ) :
    (raise h d >>= fun _ => pure a).run s = ⟨h.verdict d a, s, [h.event d]⟩ := by
  rw [run_raise_bind, Handling.verdict]
  cases h.interruption? d <;> rfl

/-- A raised fault is logged once and leaves the state alone. -/
theorem run_raise_eq (h : Handling) (d : Diagnostic) (s : σ) :
    (raise h d : Action σ Unit).run s = ⟨h.verdict d (), s, [h.event d]⟩ := by
  cases h <;> rfl

/-! ### Transactions -/

/-- Stores and answers a result.  A fault is raised instead, and the stand-in is answered if it is
passed over. -/
def conclude (h : Handling) (standIn : α) : Except Fault (σ × α) → Action σ α
  | .ok (s, a) => do
    write s
    return a
  | .error f => do
    raise h f.diagnostic
    return standIn

/-- Concludes what is tried on the state. -/
def transact (h : Handling) (attempt : σ → Except Fault (σ × α)) (standIn : σ → α) :
    Action σ α := do
  let s ← read
  conclude h (standIn s) (attempt s)

section

variable {h : Handling} {attempt : σ → Except Fault (σ × α)} {standIn : σ → α} {s s' : σ} {a : α}
  {f : Fault}

theorem run_transact (s : σ) :
    (transact h attempt standIn).run s = (conclude h (standIn s) (attempt s)).run s :=
  run_read_bind _ s

/-- An attempt that succeeds leaves its state and logs nothing. -/
theorem run_transact_of_ok (ok : attempt s = .ok (s', a)) :
    (transact h attempt standIn).run s = ⟨.ok a, s', []⟩ := by
  rw [run_transact, ok]
  rfl

/-- An attempt that fails leaves the state as it was and logs its fault once. -/
theorem run_transact_of_error (error : attempt s = .error f) :
    (transact h attempt standIn).run s =
      ⟨h.verdict f.diagnostic (standIn s), s, [h.event f.diagnostic]⟩ := by
  rw [run_transact, error]
  exact run_raise_pure h f.diagnostic (standIn s) s

/-- An attempt that hangs on one condition. -/
theorem run_transact_of_ite {c : Prop} [Decidable c]
    (tried : attempt s = if c then .ok (s', a) else .error f) :
    (transact h attempt standIn).run s =
      if c then ⟨.ok a, s', []⟩
      else ⟨h.verdict f.diagnostic (standIn s), s, [h.event f.diagnostic]⟩ := by
  by_cases hc : c
  · rw [if_pos hc] at tried ⊢
    exact run_transact_of_ok tried
  · rw [if_neg hc] at tried ⊢
    exact run_transact_of_error tried

end

end Action

/-! ### The operations on a safe integer -/

namespace SafeInt

open CheckedInt.Action

variable {t s : IntType} {p : Policies} {σ : Type}

/-- A construction leaves the state alone, and the low bits stand in for a refused word. -/
theorem create_eq (raw : Word s) :
    (create p t raw : Action σ (SafeInt t p)) =
      transact p.handling (fun z => (tryCreate p t raw).map fun x => (z, x))
        fun _ => ⟨Word.truncate t raw.widen⟩ := by
  refine Action.ext fun z => ?_
  rw [create, run_transact]
  cases tryCreate p t raw <;> rfl

theorem create_bind_of_ok {α : Type} {raw : Word s} {x : SafeInt t p}
    (h : tryCreate p t raw = .ok x) (k : SafeInt t p → Action σ α) :
    (create p t raw >>= k) = k x := by
  rw [create, h, pure_bind]

/-- What follows a refused construction works with the low bits, once the fault is raised. -/
theorem create_bind_of_error {α : Type} {raw : Word s} {f : Fault}
    (h : tryCreate p t raw = .error f) (k : SafeInt t p → Action σ α) :
    (create p t raw >>= k) = raise p f >>= fun _ => k ⟨Word.truncate t raw.widen⟩ := by
  rw [create, h]
  simp only [bind_assoc, pure_bind]

/-- An assignment stores the word that is let in. -/
theorem assign_eq (raw : Word s) :
    (assign raw : Action (SafeInt t p) Unit) =
      transact p.handling
        (fun _ => (validated p.domain t .invalidAssignment raw).map fun v => (⟨v⟩, ()))
        fun _ => () := by
  refine Action.ext fun x => ?_
  rw [assign]
  cases h : validated p.domain t .invalidAssignment raw with
  | ok v => rfl
  | error f => exact (run_raise_eq _ _ x).trans (run_raise_pure _ _ () x).symm

theorem modify_eq (edit : Word t → Word t) :
    (modify edit : Action (SafeInt t p) Unit) =
      transact p.handling
        (fun x => (validated p.domain t .invalidAssignment (edit x.value)).map fun v => (⟨v⟩, ()))
        fun _ => () := by
  refine Action.ext fun x => ?_
  rw [modify, run_read_bind, assign_eq, run_transact, run_transact]

/-- A result that is not refused is not refused as an assigned value either. -/
theorem assign_of_tryApply {x y : SafeInt t p} {op : Operator} {r : Word s}
    (h : x.tryApply op r = .ok y) :
    (assign y.value : Action (SafeInt t p) Unit) = Action.write y := by
  have validated_self : validated p.domain t .invalidAssignment y.value = .ok y.value :=
    validated_eq_ok_iff.mpr ⟨rfl, tryApply_accepts h⟩
  rw [assign, validated_self]

/-- The second check of the domain never fails, and so an operator in place is one attempt. -/
theorem applyAssign_eq (op : Operator) (r : Word s) :
    (applyAssign op r : Action (SafeInt t p) Unit) =
      transact p.handling (fun x => (x.tryApply op r).map fun y => (y, ())) fun _ => () := by
  refine Action.ext fun x => ?_
  rw [applyAssign, run_read_bind, run_transact]
  cases h : x.tryApply op r with
  | ok y => exact congrArg (fun m => m.run x) (assign_of_tryApply h)
  | error f => exact (run_raise_eq _ _ x).trans (run_raise_pure _ _ () x).symm

/-- A step that returns the new value stores and answers the neighbour. -/
theorem preStep_eq (d : Direction) :
    (preStep d : Action (SafeInt t p) (SafeInt t p)) =
      transact p.handling
        (fun x => (x.tryApply d.operator (Word.ofInt .u8 1)).map fun y => (y, y)) fun x => x := by
  refine Action.ext fun x => ?_
  rw [preStep, applyAssign_eq, run_bind, run_transact, run_transact]
  cases x.tryApply d.operator (Word.ofInt .u8 1) with
  | ok y => rfl
  | error f =>
      -- what is read after a fault that is passed over is the old value
      cases p.handling <;> rfl

/-- A step that returns the old value stores the neighbour, and has its own fault in place of the
operator's. -/
theorem postStep_eq (d : Direction) :
    (postStep d : Action (SafeInt t p) (SafeInt t p)) =
      transact p.handling
        (fun x => ((x.tryApply d.operator (Word.ofInt .u8 1)).mapError fun _ => d.fault).map
          fun y => (y, x))
        fun x => x := by
  refine Action.ext fun x => ?_
  rw [postStep, run_read_bind, run_transact]
  cases x.tryApply d.operator (Word.ofInt .u8 1) <;> rfl

theorem resultOr_eq (x : SafeInt t p) (result : Except Fault (SafeInt t p)) :
    (x.resultOr result : Action σ (SafeInt t p)) =
      transact p.handling (fun z => result.map fun y => (z, y)) fun _ => x := by
  refine Action.ext fun z => ?_
  rw [run_transact]
  cases result <;> rfl

/-- What unary minus tries. -/
def tryNegate (x : SafeInt t p) : Except Fault (SafeInt t p) := do
  let exact ← evaluate p.promotion .sub (Word.ofInt t 0) x.value
  (settled p.domain t (.overflow .sub) exact).map SafeInt.mk

/-- What the complement tries. -/
def tryComplement (x : SafeInt t p) : Except Fault (SafeInt t p) :=
  if p.domain.accepts t x.value.complement then
    .ok ⟨x.value.complement⟩
  else
    .error .complement

/-- An operator reads its left operand and leaves it alone. -/
theorem withValue_resultOr_eq (result : SafeInt t p → Except Fault (SafeInt t p)) :
    (Machine.withValue fun x => x.resultOr (result x)) =
      transact p.handling (fun x => (result x).map fun y => (x, y)) fun x => x := by
  refine Action.ext fun x => ?_
  rw [Machine.withValue, run_read_bind, resultOr_eq, run_transact, run_transact]

theorem withValue_apply_eq (op : Operator) (r : Word s) :
    (Machine.withValue fun x : SafeInt t p => x.apply op r) =
      transact p.handling (fun x => (x.tryApply op r).map fun y => (x, y)) fun x => x :=
  withValue_resultOr_eq fun x => x.tryApply op r

theorem withValue_negate_eq :
    (Machine.withValue fun x : SafeInt t p => x.negate) =
      transact p.handling (fun x => x.tryNegate.map fun y => (x, y)) fun x => x :=
  withValue_resultOr_eq tryNegate

theorem withValue_complement_eq :
    (Machine.withValue fun x : SafeInt t p => x.complement) =
      transact p.handling (fun x => x.tryComplement.map fun y => (x, y)) fun x => x :=
  withValue_resultOr_eq tryComplement

end SafeInt

end CheckedInt
