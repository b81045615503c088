import CheckedInt.Proofs.Outcome
import CheckedInt.Proofs.Transaction

/-!
# Entry points — four ways to a binary operation

A binary operation can be evaluated into the stored type, tried on a safe integer, applied to one,
or applied to one in place.

* `SafeInt.tryApply_eq`: trying is evaluating into the stored type and then asking the domain.
* `SafeInt.run_apply_of_ok`, `SafeInt.run_applyAssign_of_ok`: what is tried is answered, or stored.
* `SafeInt.run_apply_of_error`, `SafeInt.run_applyAssign_of_error`: a fault is raised once, before
  anything is changed.
* `SafeInt.category_of_tryApply`: no fault of an operation is one of range.

**Agreement** (`SafeInt.entry_points_agree`).  So the four ways give one result where they give any,
and refuse the operands for one reason where they do not.  The second validation of the form in
place refuses nothing.
-/

namespace CheckedInt

open CheckedInt.Action

variable {t s : IntType} {p : Policies}

/-! ### Faults of operations -/

/-- Operands without a result and results that do not fit are both told as overflows. -/
theorem Operator.category_of_outcome {op : Operator} {promoted : Representation} {width : Nat}
    {l r : Int} {f : Fault} (h : op.outcome promoted width l r = .error f) :
    f.category = .overflow := by
  cases hu : op.undefined? width l r with
  | some g =>
      rw [outcome_of_undefined hu] at h
      cases h
      cases op <;> grind [undefined?, Fault.category]
  | none =>
      rw [outcome_of_defined hu] at h
      split at h
      · cases h
      · cases h
        rfl

/-- Whatever refuses a result is an overflow. -/
theorem category_of_evaluate {promotion : Promotion} {op : Operator} {l : Word t} {r : Word s}
    {f : Fault} (h : evaluate promotion op l r = .error f) : f.category = .overflow :=
  Operator.category_of_outcome (evaluate_eq_error_iff.mp h)

/-- An exact result is narrowed. -/
theorem evaluateInto_of_ok {promotion : Promotion} {op : Operator} {l : Word t} {r : Word s}
    {w : Wide} (h : evaluate promotion op l r = .ok w) (d : IntType) :
    evaluateInto promotion d op l r =
      match Word.narrow? d w with
      | some v => .ok v
      | none => .error (.overflow op) := by
  rw [evaluateInto, h]
  rfl

theorem evaluateInto_of_error {promotion : Promotion} {op : Operator} {l : Word t} {r : Word s}
    {f : Fault} (h : evaluate promotion op l r = .error f) (d : IntType) :
    evaluateInto promotion d op l r = .error f := by
  rw [evaluateInto, h]
  rfl

namespace SafeInt

variable {x y : SafeInt t p} {op : Operator} {r : Word s} {f : Fault} {σ : Type}

/-! ### Trying -/

/-- An exact result is narrowed first, and held against the domain as a word of the stored type. -/
theorem settled_eq (d : Domain) (t : IntType) (f : Fault) (exact : Wide) :
    settled d t f exact =
      match Word.narrow? t exact with
      | some v => if d.accepts t v then .ok v else .error f
      | none => .error f := by
  rw [settled]
  cases Word.narrow? t exact with
  | none => rfl
  | some v => cases h : d.accepts t v <;> simp [Option.filter, h]

/-- Trying an operation is evaluating it into the stored type and then asking the domain. -/
theorem tryApply_eq (x : SafeInt t p) (op : Operator) (r : Word s) :
    x.tryApply op r =
      match evaluateInto p.promotion t op x.value r with
      | .ok v => if p.domain.accepts t v then .ok ⟨v⟩ else .error (.overflow op)
      | .error f => .error f := by
  cases h : evaluate p.promotion op x.value r with
  | error f =>
      rw [evaluateInto_of_error h, tryApply, h]
      rfl
  | ok exact =>
      rw [evaluateInto_of_ok h, tryApply, h]
      show (settled p.domain t (.overflow op) exact).map SafeInt.mk = _
      rw [settled_eq]
      cases Word.narrow? t exact with
      | none => rfl
      | some v => exact apply_ite (Except.map SafeInt.mk) _ _ _

/-- An operation succeeds exactly if evaluation into the stored type does and the domain accepts the
word. -/
theorem tryApply_eq_ok_iff :
    x.tryApply op r = .ok y ↔
      evaluateInto p.promotion t op x.value r = .ok y.value ∧
        p.domain.accepts t y.value = true := by
  rw [tryApply_eq]
  cases evaluateInto p.promotion t op x.value r with
  | error f => simp
  | ok v =>
      obtain ⟨w⟩ := y
      cases h : p.domain.accepts t v <;> grind

/-- A fault of the evaluation is that of the operation. -/
theorem tryApply_of_error (h : evaluateInto p.promotion t op x.value r = .error f) :
    x.tryApply op r = .error f := by
  rw [tryApply_eq, h]

/-- A result that the type holds and the domain rejects is an overflow of the operator. -/
theorem tryApply_of_rejected {v : Word t} (h : evaluateInto p.promotion t op x.value r = .ok v)
    (rejected : p.domain.accepts t v = false) : x.tryApply op r = .error (.overflow op) := by
  rw [tryApply_eq, h]
  exact if_neg (rejected ▸ Bool.false_ne_true)

/-- An operation is refused as an overflow, whether the evaluation or the domain refuses it. -/
theorem category_of_tryApply (h : x.tryApply op r = .error f) : f.category = .overflow := by
  rw [tryApply] at h
  cases he : evaluate p.promotion op x.value r with
  | error g =>
      rw [he] at h
      cases h
      exact category_of_evaluate he
  | ok exact =>
      rw [he] at h
      change (settled p.domain t (.overflow op) exact).map SafeInt.mk = .error f at h
      rw [settled_eq] at h
      split at h
      · split at h <;> cases h
        rfl
      · cases h
        rfl

/-! ### Applying -/

theorem run_apply_of_ok (h : x.tryApply op r = .ok y) (z : σ) :
    (x.apply op r : Action σ (SafeInt t p)).run z = ⟨.ok y, z, []⟩ := by
  rw [apply, resultOr_eq]
  exact run_transact_of_ok (congrArg (Except.map _) h)

/-- The left operand stands in for a result that is refused. -/
theorem run_apply_of_error (h : x.tryApply op r = .error f) (z : σ) :
    (x.apply op r : Action σ (SafeInt t p)).run z =
      ⟨p.handling.verdict f.diagnostic x, z, [p.handling.event f.diagnostic]⟩ := by
  rw [apply, resultOr_eq]
  exact run_transact_of_error (congrArg (Except.map _) h)

/-- The second check of the domain accepts what the first one has. -/
theorem run_applyAssign_of_ok (h : x.tryApply op r = .ok y) :
    (applyAssign op r : Action (SafeInt t p) Unit).run x = ⟨.ok (), y, []⟩ := by
  rw [applyAssign_eq]
  exact run_transact_of_ok (congrArg (Except.map _) h)

/-- A refused result is logged once, and the value stays. -/
theorem run_applyAssign_of_error (h : x.tryApply op r = .error f) :
    (applyAssign op r : Action (SafeInt t p) Unit).run x =
      ⟨p.handling.verdict f.diagnostic (), x, [p.handling.event f.diagnostic]⟩ := by
  rw [applyAssign_eq]
  exact run_transact_of_error (congrArg (Except.map _) h)

/-! ### Agreement -/

/-- **The ways to an operation agree.**  Trying gives what evaluating into the stored type gives, if
the domain accepts it.  Applying answers what is tried, and otherwise raises the fault once, with
the operand as the answer where that is passed over.  Applying in place stores what applying answers
and raises the same, and its second validation refuses nothing.  An operand inside a safe integer of
any policies counts as its word. -/
theorem entry_points_agree (x : SafeInt t p) (op : Operator) (r : Word s) (z : σ) :
    let into := evaluateInto p.promotion t op x.value r
    let tried := x.tryApply op r
    let applied := (x.apply op r : Action σ (SafeInt t p)).run z
    let assigned := (applyAssign op r : Action (SafeInt t p) Unit).run x
    ((∀ y, tried = .ok y ↔ into = .ok y.value ∧ p.domain.accepts t y.value = true) ∧
      (∀ f, into = .error f → tried = .error f) ∧
      ∀ v, into = .ok v → p.domain.accepts t v = false →
        tried.mapError Fault.diagnostic = .error ⟨.overflow, "Overflow on " ++ op.activity⟩) ∧
    ((∀ y, tried = .ok y → applied = ⟨.ok y, z, []⟩) ∧
      ∀ f, tried = .error f →
        applied = ⟨p.handling.verdict f.diagnostic x, z, [p.handling.event f.diagnostic]⟩) ∧
    ((∀ y, applied.answer = .ok y → assigned.state = y) ∧
      (∀ i, applied.answer = .error i → assigned.state = x) ∧
      assigned.answer = applied.answer.map (fun _ => ()) ∧
      assigned.events = applied.events ∧ assigned.events.length ≤ 1 ∧
      (∀ e ∈ assigned.events, e.diagnostic.category = .overflow) ∧
      ∀ y, tried = .ok y → validated p.domain t .invalidAssignment y.value = .ok y.value) ∧
    ∀ {q : Policies} (y : SafeInt s q), y.value = r → ∀ (i : Nat) (target : Machine.Target),
      (Machine.Step.apply i op (.safe y) target : Machine.Step t).perform (p := p) =
        (Machine.Step.apply i op (.literal ⟨s, r⟩) target : Machine.Step t).perform ∧
      (Machine.Step.applyAssign i op (.safe y) : Machine.Step t).perform (p := p) =
        (Machine.Step.applyAssign i op (.literal ⟨s, r⟩) : Machine.Step t).perform := by
  intro into tried applied assigned
  refine ⟨⟨fun y => tryApply_eq_ok_iff, fun f => tryApply_of_error, fun v given rejected => ?_⟩,
    ⟨fun y h => run_apply_of_ok h z, fun f h => run_apply_of_error h z⟩, ?_, ?_⟩
  · exact congrArg (Except.mapError Fault.diagnostic) (tryApply_of_rejected given rejected)
  · cases h : x.tryApply op r with
    | ok y =>
        -- the result has been held against the domain, so the assignment cannot refuse it
        have ha : applied = ⟨.ok y, z, []⟩ := run_apply_of_ok h z
        have hs : assigned = ⟨.ok (), y, []⟩ := run_applyAssign_of_ok h
        rw [ha, hs]
        refine ⟨fun w hw => Except.ok.inj hw, fun i hi => ?_, rfl, rfl, Nat.zero_le 1, ?_, ?_⟩
        · cases hi
        · exact fun e he => absurd he List.not_mem_nil
        · exact fun w hw => validated_eq_ok_iff.mpr ⟨rfl, tryApply_accepts hw⟩
    | error f =>
        have ha : applied = ⟨p.handling.verdict f.diagnostic x, z,
            [p.handling.event f.diagnostic]⟩ := run_apply_of_error h z
        have hs : assigned = ⟨p.handling.verdict f.diagnostic (), x,
            [p.handling.event f.diagnostic]⟩ := run_applyAssign_of_error h
        rw [ha, hs]
        refine ⟨fun w hw => (Handling.verdict_eq_ok_iff.mp hw).2, fun i _ => rfl,
          (Handling.verdict_map (fun _ => ()) x).symm, rfl, le_rfl, fun e he => ?_, fun w hw => ?_⟩
        · cases List.mem_singleton.mp he
          exact category_of_tryApply h
        · cases h.symm.trans hw
  · -- a safe integer on the right stands for its word, whatever it is bound to
    rintro q ⟨_⟩ rfl i target
    exact ⟨rfl, rfl⟩

/-- In a domain from 0 to 100 a sum of 101 fits the stored type, and only the domain refuses it.
With the fault passed over both forms leave 60. -/
theorem entry_points_agree_on_101 :
    let p : Policies := ⟨.ranged (Word.ofInt .i128 0) (Word.ofInt .i128 100), .native,
      .logAndContinue⟩
    let x : SafeInt .u8 p := ⟨Word.ofInt .u8 60⟩
    let r := Word.ofInt .i8 41
    evaluateInto p.promotion .u8 .add x.value r = .ok (Word.ofInt .u8 101) ∧
      p.domain.accepts .u8 (Word.ofInt .u8 101) = false ∧
      (x.tryApply .add r).mapError Fault.diagnostic =
        .error ⟨.overflow, "Overflow on " ++ Operator.activity .add⟩ ∧
      (x.apply .add r : Action Unit (SafeInt .u8 p)).run () =
        ⟨.ok x, (), [Handling.logAndContinue.event (Fault.overflow .add).diagnostic]⟩ ∧
      ((applyAssign .add r : Action (SafeInt .u8 p) Unit).run x).state = x := by
  intro p x r
  have into : evaluateInto p.promotion .u8 .add x.value r = .ok (Word.ofInt .u8 101) := by decide
  have rejected : p.domain.accepts .u8 (Word.ofInt .u8 101) = false := by decide
  have refused : x.tryApply .add r = .error (.overflow .add) := by decide
  obtain ⟨⟨-, -, told⟩, ⟨-, raised⟩, ⟨stored, -⟩, -⟩ := entry_points_agree x .add r ()
  have applied := raised _ refused
  exact ⟨into, rejected, told _ into rejected, applied, stored x (congrArg Ending.answer applied)⟩

end SafeInt

end CheckedInt
