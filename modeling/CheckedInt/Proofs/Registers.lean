import CheckedInt.Proofs.Transaction

/-!
# Registers — an action on one value among many

An action on a register runs on its value, and what it leaves goes back into the register, also if
it is interrupted (`run_onRegister_done`).  A transaction that fails, and an action that only reads,
leave all registers as they were (`run_onRegister_of_error`, `run_onRegister_read`).
-/

namespace CheckedInt.Machine

open CheckedInt.Action CheckedInt.SafeInt

variable {t : IntType} {p : Policies} {α : Type}

theorem set_getElem?_self {β : Type} {xs : List β} {i : Nat} {x : β} (h : xs[i]? = some x) :
    xs.set i x = xs := by
  obtain ⟨hi, rfl⟩ := List.getElem?_eq_some_iff.mp h
  exact List.set_getElem_self hi

/-- A step on a register that is not there does nothing. -/
theorem run_onRegister_of_none {m : Action (SafeInt t p) α}
    {next : α → Action (Registers t p) (Answer t)} {r : Nat} {regs : Registers t p}
    (h : regs[r]? = none) : (onRegister r m next).run regs = ⟨.ok .noRegister, regs, []⟩ := by
  rw [onRegister, run_read_bind, h]
  rfl

/-- A step on a register that is there runs on its value. -/
theorem run_onRegister_of_some {m : Action (SafeInt t p) α}
    {next : α → Action (Registers t p) (Answer t)} {r : Nat} {regs : Registers t p}
    {x : SafeInt t p} (h : regs[r]? = some x) :
    (onRegister r m next).run regs = (focus r x m >>= next).run regs := by
  rw [onRegister, run_read_bind, h]

/-- The registers get back what an action leaves of its value. -/
theorem run_focus {m : Action (SafeInt t p) α} {r : Nat} {x y : SafeInt t p}
    {a : Except Interruption α} {es : List Event} (h : m.run x = ⟨a, y, es⟩)
    (regs : Registers t p) : (focus r x m).run regs = ⟨a, regs.set r y, es⟩ := by
  show Ending.mk (m.run x).answer (regs.set r (m.run x).state) (m.run x).events = _
  rw [h]

/-- An update of a register ends as it does on the value alone. -/
theorem run_onRegister_done {m : Action (SafeInt t p) α} {r : Nat} {regs : Registers t p}
    {x : SafeInt t p} (h : regs[r]? = some x) :
    (onRegister r m fun _ => return .done).run regs =
      ⟨(m.run x).answer.map fun _ => .done, regs.set r (m.run x).state, (m.run x).events⟩ := by
  rcases ran : m.run x with ⟨answer, y, es⟩
  rw [run_onRegister_of_some h, run_bind, run_focus ran]
  cases answer with
  | ok a => exact congrArg (Ending.mk _ _) (List.append_nil es)
  | error i => rfl

/-- What is read is written back as it was. -/
theorem run_onRegister_read {next : SafeInt t p → Action (Registers t p) (Answer t)} {r : Nat}
    {regs : Registers t p} {x : SafeInt t p} (h : regs[r]? = some x) :
    (onRegister r Action.read next).run regs = (next x).run regs := by
  rw [run_onRegister_of_some h, run_bind, run_focus (run_read x), set_getElem?_self h]
  rfl

/-- The fault of a transaction on a register is raised while the registers are as they were. -/
theorem run_onRegister_of_error {h : Handling}
    {attempt : SafeInt t p → Except Fault (SafeInt t p × α)} {standIn : SafeInt t p → α}
    {next : α → Action (Registers t p) (Answer t)} {r : Nat} {regs : Registers t p}
    {x : SafeInt t p} {f : Fault} (hx : regs[r]? = some x) (hf : attempt x = .error f) :
    (onRegister r (transact h attempt standIn) next).run regs =
      (Action.raise h f.diagnostic >>= fun _ => next (standIn x)).run regs := by
  have focused : (focus r x (transact h attempt standIn)).run regs =
      ⟨h.verdict f.diagnostic (standIn x), regs, [h.event f.diagnostic]⟩ := by
    rw [run_focus (run_transact_of_error hf), set_getElem?_self hx]
  rw [run_onRegister_of_some hx, run_bind, focused, run_raise_bind, Handling.verdict]
  cases h.interruption? f.diagnostic <;> rfl

end CheckedInt.Machine
