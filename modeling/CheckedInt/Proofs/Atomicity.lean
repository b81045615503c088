import CheckedInt.Proofs.Chains

/-!
# Atomicity — failed steps touch nothing

* `Step.fallback`: what a step gives where the fault it raises is passed over.  A step that is not a
  chain of assignments answers without an event, or is interrupted while the registers are as they
  were, or ends as its fallback does (`Step.run_perform`).
* `assignAll_interrupted`: a chain of assignments that is interrupted has made all of them up to the
  rejected one.
* `Footprint`: what a step may do to the registers.  It changes the one it works on and the one it
  names as its target, and appends at most one (`Step.within_perform`).

**Atomicity** (`failed_steps_touch_nothing`).  A step that is interrupted, or answers with a fault,
leaves the registers as they were, chains of assignments apart.  A fault that is passed over leaves
the register of the step as it was, and its value is what the step gives.
-/

namespace CheckedInt.Machine

open CheckedInt.Action CheckedInt.SafeInt

variable {t : IntType} {p : Policies} {α : Type}

/-! ### Steps and their registers -/

namespace Step

/-- The register that a step works on. -/
def register? : Step t → Option Nat
  | create _ _ | tryCreate _ _ | sort | countDistinct => none
  | assign r _ | modify r _ | apply r _ _ _ | applyAssign r _ _ | tryApply r _ _ _
  | preStep r _ _ | postStep r _ _ | negate r _ | complement r _ | copy r _ | compare r _
  | read r => some r

/-- Where a step puts what it gives. -/
def target : Step t → Target
  | create _ target | tryCreate _ target
  | apply _ _ _ target | tryApply _ _ _ target | preStep _ _ target | postStep _ _ target
  | negate _ target | complement _ target | copy _ target => target
  | assign _ _ | modify _ _ | applyAssign _ _ _ | compare _ _ | read _ | sort | countDistinct =>
    .drop

/-- The step changes its register in place, all at once. -/
def isUpdate : Step t → Bool
  | modify _ _ | applyAssign _ _ _ | preStep _ _ _ | postStep _ _ _ => true
  | _ => false

/-- The step gives a result of its register, and raises a fault if there is none. -/
def isOperation : Step t → Bool
  | apply _ _ _ _ | preStep _ _ _ | postStep _ _ _ | negate _ _ | complement _ _ => true
  | _ => false

/-- The step answers with its fault. -/
def isTrial : Step t → Bool
  | tryCreate _ _ | tryApply _ _ _ _ => true
  | _ => false

/-- The step makes several assignments. -/
def isChain : Step t → Bool
  | assign _ _ => true
  | _ => false

/-- What a step gives where the fault it raises is passed over: a construction the low bits, an
operation the value of its register. -/
def fallback (regs : Registers t p) : Step t → Action (Registers t p) (Answer t)
  | create v target => deliver target ⟨Word.truncate t v.word.widen⟩
  | apply r _ _ target | preStep r _ target | postStep r _ target | negate r target
  | complement r target =>
    match regs[r]? with
    | some x => deliver target x
    | none => return .noRegister
  | _ => return .done

end Step

/-! ### Faults of steps -/

/-- The action logs nothing and answers. -/
def Quiet {σ : Type} (m : Action σ α) : Prop := ∀ s, ∃ a s', m.run s = ⟨.ok a, s', []⟩

namespace Quiet

variable {σ β : Type}

theorem pure {a : α} : Quiet (Pure.pure a : Action σ α) := fun s => ⟨a, s, rfl⟩

theorem bind {m : Action σ α} {k : α → Action σ β} (hm : Quiet m) (hk : ∀ a, Quiet (k a)) :
    Quiet (m >>= k) := by
  intro s
  obtain ⟨a, s', run_m⟩ := hm s
  obtain ⟨b, s'', run_k⟩ := hk a s'
  refine ⟨b, s'', ?_⟩
  rw [run_bind, run_m]
  simp only [run_k]
  rfl

theorem read : Quiet (Action.read : Action σ σ) := fun s => ⟨s, s, rfl⟩

theorem write {s' : σ} : Quiet (Action.write s') := fun _ => ⟨(), s', rfl⟩

theorem deliver (target : Target) (x : SafeInt t p) : Quiet (deliver target x) :=
  read.bind fun _ => write.bind fun _ => pure

theorem deliverOrRefuse (target : Target) (result : Except Fault (SafeInt t p)) :
    Quiet (deliverOrRefuse target result) := by
  cases result with
  | ok x => exact deliver target x
  | error f => exact pure

theorem onRegister {m : Action (SafeInt t p) α} {next : α → Action (Registers t p) (Answer t)}
    (hm : Quiet m) (hnext : ∀ a, Quiet (next a)) (r : Nat) : Quiet (onRegister r m next) := by
  refine read.bind fun regs => ?_
  cases regs[r]? with
  | none => exact pure
  | some x =>
      refine bind (fun regs' => ?_) hnext
      obtain ⟨a, y, run_m⟩ := hm x
      exact ⟨a, regs'.set r y, run_focus run_m regs'⟩

theorem withOperand {next : Literal → Action (Registers t p) (Answer t)}
    (hnext : ∀ v, Quiet (next v)) (rhs : Operand) : Quiet (withOperand rhs next) := by
  refine read.bind fun regs => ?_
  cases rhs.literal? regs with
  | none => exact pure
  | some v => exact hnext v

end Quiet

/-- From any registers the action logs nothing and answers; or it raises a fault while they are as
they were, with a register at `r?`, and goes on with `k`. -/
def QuietOrRaises (r? : Option Nat) (k : Registers t p → Action (Registers t p) (Answer t))
    (m : Action (Registers t p) (Answer t)) : Prop :=
  ∀ regs, (∃ a regs', m.run regs = ⟨.ok a, regs', []⟩) ∨
    ∃ f : Fault, (∀ r, r? = some r → ∃ x, regs[r]? = some x) ∧
      m.run regs = (SafeInt.raise p f >>= fun _ => k regs).run regs

namespace QuietOrRaises

variable {r? : Option Nat} {k : Registers t p → Action (Registers t p) (Answer t)}

theorem of_quiet {m : Action (Registers t p) (Answer t)} (h : Quiet m) : QuietOrRaises r? k m :=
  fun regs => .inl (h regs)

/-- An operation on a register raises its fault before the register or the target is touched.  What
follows then works with what stands in for the answer. -/
theorem onRegister_transact {attempt : SafeInt t p → Except Fault (SafeInt t p × α)}
    {standIn : SafeInt t p → α} {next : α → Action (Registers t p) (Answer t)} {r : Nat}
    (hnext : ∀ a, Quiet (next a))
    (hk : ∀ regs x, regs[r]? = some x → k regs = next (standIn x)) :
    QuietOrRaises (some r) k (onRegister r (transact p.handling attempt standIn) next) := by
  intro regs
  cases hx : regs[r]? with
  | none => exact .inl ⟨_, _, run_onRegister_of_none hx⟩
  | some x =>
      cases hf : attempt x with
      | error f =>
          refine .inr ⟨f, fun _ hr => ⟨x, Option.some.inj hr ▸ hx⟩, ?_⟩
          rw [hk regs x hx]
          exact run_onRegister_of_error hx hf
      | ok result =>
          obtain ⟨y, a⟩ := result
          obtain ⟨b, regs', run_next⟩ := hnext a (regs.set r y)
          refine .inl ⟨b, regs', ?_⟩
          rw [run_onRegister_of_some hx, run_bind, run_focus (run_transact_of_ok hf)]
          simp only [run_next]
          rfl

theorem withOperand {next : Literal → Action (Registers t p) (Answer t)}
    (hnext : ∀ v, QuietOrRaises r? k (next v)) (rhs : Operand) :
    QuietOrRaises r? k (withOperand rhs next) := by
  intro regs
  rw [Machine.withOperand, run_read_bind]
  cases rhs.literal? regs with
  | none => exact .inl ⟨_, _, rfl⟩
  | some v => exact hnext v regs

end QuietOrRaises

/-- A step that is not a chain raises at most one fault, before it has changed anything. -/
theorem Step.quietOrRaises (step : Step t) (unchained : step.isChain = false) :
    QuietOrRaises step.register? step.fallback (step.perform (p := p)) := by
  have fallback_of_some {r : Nat} {target : Target} (regs : Registers t p) (x : SafeInt t p)
      (hx : regs[r]? = some x) : (match regs[r]? with
        | some x => deliver target x
        | none => return .noRegister) = deliver target x := by rw [hx]
  cases step with
  | create v target =>
      intro regs
      rw [perform]
      cases tried : SafeInt.tryCreate p t v.word with
      | ok x =>
          rw [create_bind_of_ok tried]
          exact .inl (Quiet.deliver target x regs)
      | error f =>
          -- a construction works on no register, and its low bits go where the value would have
          rw [create_bind_of_error tried]
          exact .inr ⟨f, fun r hr => absurd hr (Option.some_ne_none r).symm, rfl⟩
  | tryCreate v target => exact .of_quiet (Quiet.deliverOrRefuse target _)
  | assign r vs => cases unchained
  | modify r edit =>
      rw [perform, modify_eq]
      exact .onRegister_transact (fun _ => Quiet.pure) fun _ _ _ => rfl
  | apply r op rhs target =>
      refine .withOperand (fun v => ?_) rhs
      rw [withValue_apply_eq]
      exact .onRegister_transact (Quiet.deliver target) fallback_of_some
  | applyAssign r op rhs =>
      refine .withOperand (fun v => ?_) rhs
      rw [applyAssign_eq]
      exact .onRegister_transact (fun _ => Quiet.pure) fun _ _ _ => rfl
  | tryApply r op rhs target =>
      exact .of_quiet (Quiet.onRegister Quiet.read (fun x => Quiet.deliverOrRefuse _ _) r)
  | preStep r d target =>
      rw [perform, preStep_eq]
      exact .onRegister_transact (Quiet.deliver target) fallback_of_some
  | postStep r d target =>
      rw [perform, postStep_eq]
      exact .onRegister_transact (Quiet.deliver target) fallback_of_some
  | negate r target =>
      rw [perform, withValue_negate_eq]
      split
      · exact .onRegister_transact (Quiet.deliver target) fallback_of_some
      · exact .of_quiet Quiet.pure
  | complement r target =>
      rw [perform, withValue_complement_eq]
      split
      · exact .onRegister_transact (Quiet.deliver target) fallback_of_some
      · exact .of_quiet Quiet.pure
  | copy r target => exact .of_quiet (Quiet.onRegister Quiet.read (Quiet.deliver target) r)
  | compare r rhs =>
      refine .of_quiet (Quiet.withOperand (fun v => Quiet.onRegister Quiet.read ?_ r) rhs)
      exact fun x => Quiet.read.bind fun _ => Quiet.pure
  | read r => exact .of_quiet (Quiet.onRegister Quiet.read (fun _ => Quiet.pure) r)
  | sort => exact .of_quiet (Quiet.read.bind fun _ => Quiet.write.bind fun _ => Quiet.pure)
  | countDistinct => exact .of_quiet (Quiet.read.bind fun _ => Quiet.pure)

/-- What stands in for a result raises no fault of its own. -/
theorem Step.quiet_fallback (step : Step t) (regs : Registers t p) :
    Quiet (step.fallback regs) := by
  cases step
  case create v target => exact Quiet.deliver _ _
  case apply | preStep | postStep | negate | complement =>
    rw [fallback]
    split
    · exact Quiet.deliver _ _
    · exact Quiet.pure
  all_goals exact Quiet.pure

/-- The endings of a step that is not a chain.  It answers without an event; or it is interrupted by
the one event it logs and leaves the registers as they were; or it passes over that and ends as its
fallback does. -/
theorem Step.run_perform (step : Step t) (unchained : step.isChain = false)
    (regs : Registers t p) :
    (∃ a regs', step.perform.run regs = ⟨.ok a, regs', []⟩) ∨
    (∃ (f : Fault) (i : Interruption), p.handling.interruption? f.diagnostic = some i ∧
      step.perform.run regs = ⟨.error i, regs, [p.handling.event f.diagnostic]⟩) ∨
    ∃ (f : Fault) (a : Answer t) (regs' : Registers t p), p.handling = .logAndContinue ∧
      (∀ r, step.register? = some r → ∃ x, regs[r]? = some x) ∧
      (step.fallback regs).run regs = ⟨.ok a, regs', []⟩ ∧
      step.perform.run regs = ⟨.ok a, regs', [p.handling.event f.diagnostic]⟩ := by
  rcases step.quietOrRaises unchained regs with quiet | ⟨f, present, raised⟩
  · exact .inl quiet
  rw [SafeInt.raise, run_raise_bind] at raised
  cases interrupted : p.handling.interruption? f.diagnostic with
  | some i =>
      rw [interrupted] at raised
      exact .inr (.inl ⟨f, i, interrupted, raised⟩)
  | none =>
      rw [interrupted] at raised
      obtain ⟨a, regs', run_fallback⟩ := step.quiet_fallback regs regs
      rw [run_fallback] at raised
      exact .inr (.inr ⟨f, a, regs', Handling.interruption?_eq_none_iff.mp interrupted, present,
        run_fallback, raised⟩)

/-- A refused result is stored nowhere. -/
theorem state_of_refused {target : Target} {result : Except Fault (SafeInt t p)}
    {regs : Registers t p} {f : Fault}
    (h : ((deliverOrRefuse target result).run regs).answer = .ok (.refused f)) :
    ((deliverOrRefuse target result).run regs).state = regs := by
  cases result with
  | ok x => cases h
  | error g => rfl

/-- A step that answers with its fault leaves the registers as they were. -/
theorem Step.state_of_refused (step : Step t) (trial : step.isTrial = true) {regs : Registers t p}
    {f : Fault} (h : (step.perform.run regs).answer = .ok (.refused f)) :
    (step.perform.run regs).state = regs := by
  cases step with
  | tryCreate v target => exact Machine.state_of_refused h
  | tryApply r op rhs target =>
      rw [perform] at h ⊢
      cases hx : regs[r]? with
      | none => rw [run_onRegister_of_none hx]
      | some x =>
          rw [run_onRegister_read hx] at h ⊢
          exact Machine.state_of_refused h
  | _ => cases trial

/-! ### Chains of assignments -/

/-- A chain that is interrupted has made every assignment before the rejected one. -/
theorem assignAll_interrupted {vs : List Literal} {x : SafeInt t p} {i : Interruption}
    (h : ((assignAll vs).run x).answer = .error i) :
    ∃ before v after, vs = before ++ v :: after ∧
      (∀ u ∈ before, p.domain.accepts t u.word = true) ∧ p.domain.accepts t v.word = false ∧
      ((assignAll vs).run x).state.value.toInt =
        (before.getLast?.map fun u => u.word.toInt).getD x.value.toInt := by
  rcases forall_or_exists_first (fun v : Literal => p.domain.accepts t v.word) vs with
    accepted | ⟨before, v, after, rfl, accepted, rejected⟩
  · rw [run_assignAll_of_accepted accepted] at h
    cases h
  by_cases passed : p.handling = .logAndContinue
  · rw [run_assignAll_of_passed passed] at h
    cases h
  · rw [run_assignAll_of_rejected passed accepted rejected]
    exact ⟨before, v, after, rfl, accepted, rejected, toInt_overwrittenBy accepted x⟩

/-! ### Footprints -/

/-- From `regs` to `regs'` only the register at `r?` and the one that `target` names may change, and
at most one register is appended. -/
structure Footprint (r? : Option Nat) (target : Target) (regs regs' : Registers t p) : Prop where
  kept : ∀ i, i < regs.length → r? ≠ some i → target ≠ .replace i → regs'[i]? = regs[i]?
  length_le : regs.length ≤ regs'.length
  length_le_succ : regs'.length ≤ regs.length + 1

namespace Footprint

variable {r? : Option Nat} {target : Target} {regs regs' : Registers t p}

theorem refl : Footprint r? target regs regs :=
  ⟨fun _ _ _ _ => rfl, le_rfl, Nat.le_succ _⟩

theorem store (x : SafeInt t p) : Footprint r? target regs (target.store x regs) := by
  cases target with
  | drop => exact refl
  | replace i =>
      have length : (regs.set i x).length = regs.length := List.length_set
      exact ⟨fun j _ _ other => List.getElem?_set_ne fun same => other (congrArg _ same),
        length.ge, length.le.trans (Nat.le_succ _)⟩
  | append =>
      have length : (regs ++ [x]).length = regs.length + 1 := List.length_append
      exact ⟨fun j inside _ _ => List.getElem?_append_left inside,
        length.symm ▸ Nat.le_succ _, length.le⟩

/-- The footprint of what follows a change to one register. -/
theorem of_set {r : Nat} {y : SafeInt t p} (h : Footprint none target (regs.set r y) regs') :
    Footprint (some r) target regs regs' where
  kept := fun i inside other spared => by
    rw [h.kept i (by rwa [List.length_set]) nofun spared]
    exact List.getElem?_set_ne fun same => other (congrArg some same)
  length_le := List.length_set.symm.trans_le h.length_le
  length_le_succ := h.length_le_succ.trans_eq (congrArg Nat.succ List.length_set)

end Footprint

/-- Every run of the action has the footprint. -/
def Within (r? : Option Nat) (target : Target) (m : Action (Registers t p) (Answer t)) : Prop :=
  ∀ regs, Footprint r? target regs (m.run regs).state

namespace Within

variable {r? : Option Nat} {target : Target}

theorem pure {a : Answer t} : Within r? target (Pure.pure a : Action (Registers t p) (Answer t)) :=
  fun _ => .refl

theorem deliver (x : SafeInt t p) : Within r? target (deliver target x) := fun _ => .store x

theorem deliverOrRefuse (result : Except Fault (SafeInt t p)) :
    Within r? target (deliverOrRefuse target result) := by
  cases result with
  | ok x => exact deliver x
  | error f => exact pure

theorem read_bind {k : Registers t p → Action (Registers t p) (Answer t)}
    (hk : ∀ regs, Within r? target (k regs)) : Within r? target (Action.read >>= k) := by
  intro regs
  rw [run_read_bind]
  exact hk regs regs

/-- A raised fault leaves the registers alone, also if it ends the action. -/
theorem raise_bind {k : Action (Registers t p) (Answer t)} (hk : Within r? target k) (f : Fault) :
    Within r? target (SafeInt.raise p f >>= fun _ => k) := by
  intro regs
  rw [SafeInt.raise, run_raise_bind]
  split
  · exact .refl
  · exact hk regs

theorem onRegister {m : Action (SafeInt t p) α} {next : α → Action (Registers t p) (Answer t)}
    (hnext : ∀ a, Within none target (next a)) (r : Nat) :
    Within (some r) target (onRegister r m next) := by
  intro regs
  cases hx : regs[r]? with
  | none =>
      rw [run_onRegister_of_none hx]
      exact .refl
  | some x =>
      rw [run_onRegister_of_some hx]
      have focused : (focus r x m).run regs =
        ⟨(m.run x).answer, regs.set r (m.run x).state, (m.run x).events⟩ := rfl
      rw [run_bind, focused]
      cases (m.run x).answer with
      | ok a => exact (hnext a _).of_set
      | error i => exact Footprint.refl.of_set

theorem withOperand {next : Literal → Action (Registers t p) (Answer t)}
    (hnext : ∀ v, Within r? target (next v)) (rhs : Operand) :
    Within r? target (withOperand rhs next) := by
  refine read_bind fun regs => ?_
  split
  · exact hnext _
  · exact pure

end Within

/-- A step other than sorting keeps within the register it works on and its target. -/
theorem Step.within_perform (step : Step t) (unsorted : step ≠ .sort) :
    Within step.register? step.target (step.perform (p := p)) := by
  cases step with
  | create v target =>
      rw [perform]
      cases tried : SafeInt.tryCreate p t v.word with
      | ok x =>
          rw [create_bind_of_ok tried]
          exact .deliver x
      | error f =>
          rw [create_bind_of_error tried]
          exact .raise_bind (.deliver _) f
  | tryCreate v target => exact .deliverOrRefuse _
  | assign r vs => exact .onRegister (fun _ => .pure) r
  | modify r edit => exact .onRegister (fun _ => .pure) r
  | apply r op rhs target => exact .withOperand (fun v => .onRegister .deliver r) rhs
  | applyAssign r op rhs => exact .withOperand (fun v => .onRegister (fun _ => .pure) r) rhs
  | tryApply r op rhs target => exact .onRegister (fun x => .deliverOrRefuse _) r
  | preStep r d target => exact .onRegister .deliver r
  | postStep r d target => exact .onRegister .deliver r
  | negate r target =>
      rw [perform]
      split
      · exact .onRegister .deliver r
      · exact .pure
  | complement r target =>
      rw [perform]
      split
      · exact .onRegister .deliver r
      · exact .pure
  | copy r target => exact .onRegister .deliver r
  | compare r rhs =>
      exact .withOperand (fun v => .onRegister (fun x => .read_bind fun _ => .pure) r) rhs
  | read r => exact .onRegister (fun x => .pure) r
  | sort => exact absurd rfl unsorted
  | countDistinct => exact .read_bind fun _ => .pure

/-! ### Atomicity -/

/-- To store the value of a register once more leaves that register as it is. -/
theorem Target.getElem?_store {target : Target} {regs : Registers t p} {r : Nat} {x : SafeInt t p}
    (h : regs[r]? = some x) : (target.store x regs)[r]? = some x := by
  have inside : r < regs.length := (List.getElem?_eq_some_iff.mp h).1
  cases target with
  | drop => exact h
  | replace i =>
      rw [store, List.getElem?_set]
      split
      · rw [if_pos (by simp_all)]
      · exact h
  | append => exact (List.getElem?_append_left inside).trans h

/-- The fallback of an operation gives the value of the register. -/
theorem Step.fallback_of_operation {step : Step t} (operation : step.isOperation = true) {r : Nat}
    {regs : Registers t p} {x : SafeInt t p} (hr : step.register? = some r)
    (hx : regs[r]? = some x) : step.fallback regs = deliver step.target x := by
  cases step with
  | apply | preStep | postStep | negate | complement =>
      cases hr
      simp only [fallback, hx]
      rfl
  | _ => cases operation

/-- The fallback of an update that is not an operation does nothing. -/
theorem Step.fallback_of_update {step : Step t} (update : step.isUpdate = true)
    (plain : step.isOperation = false) (regs : Registers t p) :
    step.fallback regs = Pure.pure .done := by
  cases step with
  | modify | applyAssign => rfl
  | preStep | postStep => cases plain
  | _ => cases update

/-- Updates and operations work on one register, in one go. -/
theorem Step.unchained_of_register {step : Step t}
    (h : step.isUpdate = true ∨ step.isOperation = true) :
    step.isChain = false ∧ ∃ r, step.register? = some r := by
  cases step with
  | modify | apply | applyAssign | preStep | postStep | negate | complement =>
      exact ⟨rfl, _, rfl⟩
  | _ => rcases h with h | h <;> cases h

/-- A step that is interrupted leaves the registers as they were. -/
theorem Step.state_of_interrupted (step : Step t) (unchained : step.isChain = false)
    {regs : Registers t p} {i : Interruption}
    (h : (step.perform.run regs).answer = .error i) : (step.perform.run regs).state = regs := by
  rcases step.run_perform unchained regs with ⟨a, regs', quiet⟩ | ⟨f, j, -, raised⟩ |
    ⟨f, a, regs', -, -, -, goesOn⟩
  · rw [quiet] at h
    cases h
  · rw [raised]
  · rw [goesOn] at h
    cases h

/-- Where a fault is passed over, the step does what its fallback does. -/
theorem Step.state_of_passed (step : Step t) (unchained : step.isChain = false)
    {regs : Registers t p} (passed : p.handling = .logAndContinue)
    (h : (step.perform.run regs).events ≠ []) :
    (∀ r, step.register? = some r → ∃ x, regs[r]? = some x) ∧
      (step.perform.run regs).answer = ((step.fallback regs).run regs).answer ∧
      (step.perform.run regs).state = ((step.fallback regs).run regs).state := by
  rcases step.run_perform unchained regs with ⟨a, regs', quiet⟩ | ⟨f, j, interrupted, -⟩ |
    ⟨f, a, regs', -, present, run_fallback, goesOn⟩
  · rw [quiet] at h
    exact absurd rfl h
  · rw [Handling.interruption?_eq_none_iff.mpr passed] at interrupted
    cases interrupted
  · rw [run_fallback, goesOn]
    exact ⟨present, rfl, rfl⟩

/-- The fallback of an operation gives the value of its register to its target. -/
theorem Step.run_of_operation {step : Step t} (operation : step.isOperation = true)
    {regs : Registers t p} (passed : p.handling = .logAndContinue)
    (h : (step.perform.run regs).events ≠ []) : ∃ r x, step.register? = some r ∧
      regs[r]? = some x ∧ (step.perform.run regs).answer = .ok (.value x.value) ∧
      (step.perform.run regs).state = step.target.store x regs := by
  obtain ⟨unchained, r, hr⟩ := unchained_of_register (.inr operation)
  obtain ⟨present, answered, left⟩ := step.state_of_passed unchained passed h
  obtain ⟨x, hx⟩ := present r hr
  rw [fallback_of_operation operation hr hx] at answered left
  exact ⟨r, x, hr, hx, answered, left⟩

/-- The fallback of an update leaves its register alone. -/
theorem Step.getElem?_of_update {step : Step t} (update : step.isUpdate = true)
    {regs : Registers t p} (passed : p.handling = .logAndContinue)
    (h : (step.perform.run regs).events ≠ []) :
    ∃ r, step.register? = some r ∧ (step.perform.run regs).state[r]? = regs[r]? := by
  cases operation : step.isOperation with
  | true =>
      obtain ⟨r, x, hr, hx, -, left⟩ := run_of_operation operation passed h
      exact ⟨r, hr, by rw [left, Target.getElem?_store hx, hx]⟩
  | false =>
      obtain ⟨unchained, r, hr⟩ := unchained_of_register (.inl update)
      obtain ⟨-, -, left⟩ := step.state_of_passed unchained passed h
      rw [fallback_of_update update operation] at left
      exact ⟨r, hr, congrArg (fun regs' => regs'[r]?) left⟩

/-- An interrupted chain leaves in its register what it accepted last. -/
theorem Step.chain_of_interrupted {r : Nat} {vs : List Literal} {regs : Registers t p}
    {i : Interruption} (h : ((Step.assign r vs).perform.run regs).answer = .error i) :
    ∃ before v after x y, vs = before ++ v :: after ∧
      (∀ u ∈ before, p.domain.accepts t u.word = true) ∧ p.domain.accepts t v.word = false ∧
      regs[r]? = some x ∧
      y.value.toInt = (before.getLast?.map fun u => u.word.toInt).getD x.value.toInt ∧
      ((Step.assign r vs).perform.run regs).state = regs.set r y := by
  rw [perform] at h ⊢
  cases hx : regs[r]? with
  | none =>
      rw [run_onRegister_of_none hx] at h
      cases h
  | some x =>
      rw [run_onRegister_done hx] at h ⊢
      cases stopped : ((assignAll vs).run x).answer with
      | ok u =>
          rw [stopped] at h
          cases h
      | error j =>
          obtain ⟨before, v, after, split, accepted, rejected, left⟩ :=
            assignAll_interrupted stopped
          exact ⟨before, v, after, x, _, split, accepted, rejected, rfl, left, rfl⟩

/-- **Failed steps touch nothing.**  A step that is interrupted leaves all registers as they were,
unless it is a chain of assignments, which has made those before the rejected one.  So does a step
that answers with its fault.  Where a fault is passed over, an update leaves its register as it was,
and an operation gives the value of its register.  Apart from sorting, a step changes only the
register it works on and the one it names as its target, and appends at most one. -/
theorem failed_steps_touch_nothing (step : Step t) (regs : Registers t p) :
    let e := step.perform.run regs
    ((∀ i, e.answer = .error i → step.isChain = false → e.state = regs) ∧
      (∀ f, e.answer = .ok (.refused f) → step.isTrial = true → e.state = regs) ∧
      ∀ i r vs, e.answer = .error i → step = .assign r vs → ∃ before v after x y,
        vs = before ++ v :: after ∧ (∀ u ∈ before, p.domain.accepts t u.word = true) ∧
        p.domain.accepts t v.word = false ∧ regs[r]? = some x ∧
        y.value.toInt = (before.getLast?.map fun u => u.word.toInt).getD x.value.toInt ∧
        e.state = regs.set r y) ∧
    (p.handling = .logAndContinue → e.events ≠ [] →
      (step.isUpdate = true → ∃ r, step.register? = some r ∧ e.state[r]? = regs[r]?) ∧
      (step.isOperation = true → ∃ r x, step.register? = some r ∧ regs[r]? = some x ∧
        e.answer = .ok (.value x.value) ∧ e.state = step.target.store x regs)) ∧
    (step ≠ .sort → Footprint step.register? step.target regs e.state) := by
  intro e
  refine ⟨⟨fun i interrupted unchained => step.state_of_interrupted unchained interrupted,
    fun f refused trial => step.state_of_refused trial refused, ?_⟩,
    fun passed logged => ⟨fun update => Step.getElem?_of_update update passed logged,
      fun operation => Step.run_of_operation operation passed logged⟩,
    fun unsorted => step.within_perform unsorted regs⟩
  rintro i r vs interrupted rfl
  exact Step.chain_of_interrupted interrupted

/-- In a domain from 0 to 100 the neighbour of 100 is refused: unwinding leaves the register alone,
and what is passed over gives 100 twice.  A chain that goes on to 300 leaves what it had before. -/
theorem failed_steps_touch_nothing_at_100 :
    let unwinding : Policies := ⟨.ranged (Word.ofInt .i128 0) (Word.ofInt .i128 100), .native,
      .unwind⟩
    let passing : Policies := { unwinding with handling := .logAndContinue }
    let move : Step .u8 := .postStep 0 .up .append
    let chain : Step .u8 := .assign 0 [⟨.i8, Word.ofInt .i8 7⟩, ⟨.i32, Word.ofInt .i32 300⟩]
    let full : Word .u8 := Word.ofInt .u8 100
    (move.perform.run [(⟨full⟩ : SafeInt .u8 unwinding)]).state = [⟨full⟩] ∧
      (∃ y, (chain.perform.run [(⟨full⟩ : SafeInt .u8 unwinding)]).state = [y]) ∧
      (∃ x, (move.perform.run [(⟨full⟩ : SafeInt .u8 passing)]).answer = .ok (.value x.value) ∧
        (move.perform.run [(⟨full⟩ : SafeInt .u8 passing)]).state = [⟨full⟩, x]) ∧
      Footprint (some 0) .append [⟨full⟩]
        (move.perform.run [(⟨full⟩ : SafeInt .u8 passing)]).state := by
  intro unwinding passing move chain full
  obtain ⟨⟨untouched, -, -⟩, -, -⟩ :=
    failed_steps_touch_nothing move [(⟨full⟩ : SafeInt .u8 unwinding)]
  obtain ⟨⟨-, -, chained⟩, -, -⟩ :=
    failed_steps_touch_nothing chain [(⟨full⟩ : SafeInt .u8 unwinding)]
  obtain ⟨-, goesOn, footprint⟩ := failed_steps_touch_nothing move [(⟨full⟩ : SafeInt .u8 passing)]
  refine ⟨untouched (.unwound Fault.increment.diagnostic) (by decide) rfl, ?_, ?_, footprint nofun⟩
  · obtain ⟨-, -, -, -, y, -, -, -, -, -, left⟩ :=
      chained (.unwound Fault.invalidAssignment.diagnostic) _ _ rfl rfl
    exact ⟨y, left⟩
  · obtain ⟨r, x, hr, hx, answered, left⟩ := (goesOn rfl (by decide)).2 rfl
    exact ⟨x, answered, left⟩

end CheckedInt.Machine
