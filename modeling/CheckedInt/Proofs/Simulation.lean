import CheckedInt.Proofs.Automatic
import CheckedInt.Proofs.Recast
import CheckedInt.Proofs.Transaction

/-!
# Simulation — one step under two sets of policies

`Permits strict t p q` compares two sets of policies over one stored type: `q` accepts and promotes
at least what `p` does.  If the comparison is strict, it accepts and promotes just that, and it
passes no fault over.

* `Extends`: what is computed under `p` is computed under `q`, and in a strict comparison the faults
  are the same as well (`SafeInt.extends_evaluate` to `SafeInt.extends_tryComplement`).
* `Follows`: an action under `q` does what one under `p` does if that logs nothing.  In a strict
  comparison it is interrupted where that logs something, by the first diagnostic it logs.
  Transactions follow each other if what they try does (`Follows.transact`), and actions that are
  made of others in one way follow each other if those do.

**Simulation** (`Machine.Step.follows_perform`).  So every step under `q` follows itself under `p`,
from registers that hold the same words.
-/

namespace CheckedInt

open CheckedInt.Action CheckedInt.SafeInt

variable {strict : Prop} {t s : IntType} {p q : Policies} {σ τ α β γ δ : Type}

/-! ### Two sets of policies -/

/-- `q` accepts what `p` accepts, and promotes as `p` does or automatically.  In a strict comparison
neither of the two accepts or promotes more, and `q` passes no fault over. -/
structure Permits (strict : Prop) (t : IntType) (p q : Policies) : Prop where
  accepts : ∀ w : Word t, p.domain.accepts t w = true → q.domain.accepts t w = true
  promotion : p.promotion = q.promotion ∨ p.promotion = .native ∧ q.promotion = .automatic
  same : strict → p.domain = q.domain ∧ p.promotion = q.promotion
  ends : strict → q.handling ≠ .logAndContinue

/-! ### Results -/

/-- A result that `x` gives `y` gives too, up to `g`.  In a strict comparison so with a fault. -/
structure Extends (strict : Prop) (g : α → β) (x : Except Fault α) (y : Except Fault β) :
    Prop where
  ok : ∀ a, x = .ok a → y = .ok (g a)
  error : strict → ∀ f, x = .error f → y = .error f

namespace Extends

theorem refl (x : Except Fault α) : Extends strict id x x := ⟨fun _ h => h, fun _ _ h => h⟩

theorem bind {g : α → γ} {g' : β → δ} {x : Except Fault α} {y : Except Fault γ}
    {k : α → Except Fault β} {k' : γ → Except Fault δ} (hx : Extends strict g x y)
    (hk : ∀ a, Extends strict g' (k a) (k' (g a))) : Extends strict g' (x >>= k) (y >>= k') := by
  cases x with
  | ok a =>
      cases hx.ok a rfl
      exact hk a
  | error f =>
      refine ⟨nofun, fun strictly f' h => ?_⟩
      cases hx.error strictly f rfl
      cases Except.error.inj h
      rfl

theorem map {g : α → γ} {g' : β → δ} {x : Except Fault α} {y : Except Fault γ} {k : α → β}
    {k' : γ → δ} (hx : Extends strict g x y) (hk : ∀ a, g' (k a) = k' (g a)) :
    Extends strict g' (x.map k) (y.map k') := by
  cases x with
  | ok a =>
      cases hx.ok a rfl
      refine ⟨fun b h => ?_, nofun⟩
      cases h
      exact congrArg _ (hk a).symm
  | error f =>
      refine ⟨nofun, fun strictly f' h => ?_⟩
      cases hx.error strictly f rfl
      cases Except.error.inj h
      rfl

theorem mapError {g : α → β} {x : Except Fault α} {y : Except Fault β} (hx : Extends strict g x y)
    (e : Fault → Fault) : Extends strict g (x.mapError e) (y.mapError e) := by
  cases x with
  | ok a =>
      cases hx.ok a rfl
      refine ⟨fun b h => ?_, nofun⟩
      cases h
      rfl
  | error f =>
      refine ⟨nofun, fun strictly f' h => ?_⟩
      cases hx.error strictly f rfl
      cases Except.error.inj h
      rfl

end Extends

/-- What fits the native range fits the automatic one. -/
theorem evaluate_automatic_of_native {op : Operator} {l : Word t} {r : Word s} {w : Wide}
    (h : evaluate .native op l r = .ok w) : evaluate .automatic op l r = .ok w := by
  rw [evaluate_eq_ok_iff] at h ⊢
  cases hu : op.undefined? t.bits l.toInt r.toInt with
  | some f =>
      rw [Operator.outcome_of_undefined hu] at h
      cases h
  | none =>
      rw [Operator.outcome_of_defined hu] at h ⊢
      split at h
      next fits => exact (if_pos (automaticRange_fits hu fits.2.widest)).trans h
      next => cases h

namespace SafeInt

variable (permits : Permits strict t p q)
include permits

/-- What is evaluated under `p` is evaluated to the same under `q`. -/
theorem extends_evaluate (op : Operator) (l : Word t) (r : Word s) :
    Extends strict id (evaluate p.promotion op l r) (evaluate q.promotion op l r) := by
  rcases permits.promotion with same | ⟨native, automatic⟩
  · rw [same]
    exact .refl _
  · refine ⟨fun w h => ?_, fun strictly f h => ?_⟩
    · rw [native] at h
      rw [automatic]
      exact evaluate_automatic_of_native h
    · rw [← (permits.same strictly).2]
      exact h

/-- What is let in under `p` is let in under `q`. -/
theorem extends_validated (f : Fault) (raw : Word s) :
    Extends strict id (validated p.domain t f raw) (validated q.domain t f raw) := by
  refine ⟨fun v h => ?_, fun strictly f h => ?_⟩
  · obtain ⟨hv, accepted⟩ := validated_eq_ok_iff.mp h
    exact validated_eq_ok_iff.mpr ⟨hv, permits.accepts v accepted⟩
  · rw [← (permits.same strictly).1]
    exact h

/-- What is settled under `p` is settled under `q`. -/
theorem extends_settled (f : Fault) (exact : Wide) :
    Extends strict id (settled p.domain t f exact) (settled q.domain t f exact) := by
  refine ⟨fun v h => ?_, fun strictly f h => ?_⟩
  · obtain ⟨hv, accepted⟩ := settled_eq_ok_iff.mp h
    exact settled_eq_ok_iff.mpr ⟨hv, permits.accepts v accepted⟩
  · rw [← (permits.same strictly).1]
    exact h

theorem extends_tryCreate (raw : Word s) :
    Extends strict (recast q) (tryCreate p t raw) (tryCreate q t raw) :=
  (extends_validated permits _ raw).map fun _ => rfl

theorem extends_tryApply (x : SafeInt t p) (op : Operator) (r : Word s) :
    Extends strict (recast q) (x.tryApply op r) ((x.recast q).tryApply op r) :=
  (extends_evaluate permits op x.value r).bind fun exact =>
    (extends_settled permits _ exact).map fun _ => rfl

theorem extends_tryNegate (x : SafeInt t p) :
    Extends strict (recast q) x.tryNegate (x.recast q).tryNegate :=
  (extends_evaluate permits .sub (Word.ofInt t 0) x.value).bind fun exact =>
    (extends_settled permits _ exact).map fun _ => rfl

theorem extends_tryComplement (x : SafeInt t p) :
    Extends strict (recast q) x.tryComplement (x.recast q).tryComplement := by
  refine ⟨fun y h => ?_, fun strictly f h => ?_⟩
  · rw [tryComplement] at h
    split at h
    · cases h
      next accepted => exact if_pos (permits.accepts _ accepted)
    · cases h
  · rw [tryComplement] at h ⊢
    rw [← (permits.same strictly).1]
    split at h
    · cases h
    next rejected =>
      cases h
      exact if_neg rejected

end SafeInt

/-! ### Actions -/

/-- Compares an ending `e` under one set of policies with `e'` under another, which handles faults
by `h`.  Where `e` logs nothing it answers, and `e'` is the same up to `lift` and `g`, if the answer
satisfies `Q`.  In a strict comparison the first diagnostic that `e` logs interrupts `e'`, which
logs nothing else. -/
structure Ending.Follows (strict : Prop) (h : Handling) (lift : σ → τ) (g : α → β) (Q : α → Prop)
    (e : Ending σ α) (e' : Ending τ β) : Prop where
  quiet : e.events = [] → ∃ a, e.answer = .ok a ∧ (Q a → e' = ⟨.ok (g a), lift e.state, []⟩)
  fault : strict → ∀ event later, e.events = event :: later →
    ∃ i, h.interruption? event.diagnostic = some i ∧ e'.answer = .error i ∧
      e'.events = [h.event event.diagnostic]

/-- The endings of `m'` compare with those of `m` from all states. -/
def Follows (strict : Prop) (h : Handling) (lift : σ → τ) (g : α → β) (Q : α → Prop)
    (m : Action σ α) (m' : Action τ β) : Prop :=
  ∀ s, (m.run s).Follows strict h lift g Q (m'.run (lift s))

namespace Follows

variable {h : Handling} {lift : σ → τ} {g : α → γ} {Q : α → Prop}

theorem pure (a : α) : Follows strict h lift g Q (Pure.pure a) (Pure.pure (g a)) :=
  fun _ => ⟨fun _ => ⟨a, rfl, fun _ => rfl⟩, nofun⟩

theorem read {Q : σ → Prop} : Follows strict h lift lift Q Action.read Action.read :=
  fun s => ⟨fun _ => ⟨s, rfl, fun _ => rfl⟩, nofun⟩

theorem write (s : σ) {Q : Unit → Prop} :
    Follows strict h lift id Q (Action.write s) (Action.write (lift s)) :=
  fun _ => ⟨fun _ => ⟨(), rfl, fun _ => rfl⟩, nofun⟩

theorem bind {g' : β → δ} {Q : β → Prop} {m : Action σ α} {m' : Action τ γ}
    {k : α → Action σ β} {k' : γ → Action τ δ} (hm : Follows strict h lift g (fun _ => True) m m')
    (hk : ∀ a, Follows strict h lift g' Q (k a) (k' (g a))) :
    Follows strict h lift g' Q (m >>= k) (m' >>= k') := by
  intro s
  obtain ⟨quiet, fault⟩ := hm s
  rw [run_bind, run_bind]
  rcases run_m : m.run s with ⟨answer, s', events⟩
  rw [run_m] at quiet fault
  cases events with
  | nil =>
      -- the first parts agree, so the second ones are run from related states
      obtain ⟨a, rfl, followed⟩ := quiet rfl
      rw [followed trivial]
      exact hk a s'
  | cons event later =>
      -- the first event of the whole is that of the first part, and interrupts the other side there
      refine ⟨fun silent => ?_, fun strictly event' later' events => ?_⟩
      · cases answer <;> cases silent
      · obtain ⟨i, interrupted, answered, logged⟩ := fault strictly event later rfl
        have first : event' = event := by
          cases answer <;> exact (List.cons.inj events).1.symm
        rcases run_m' : m'.run (lift s) with ⟨answer', s'', events'⟩
        rw [run_m'] at answered logged
        cases answered
        cases logged
        rw [first]
        exact ⟨i, interrupted, rfl, rfl⟩

/-- What stands in for a refused result plays no part: a strict comparison goes no further than the
fault, and the other one says nothing of it. -/
theorem transact {attempt : σ → Except Fault (σ × α)} {attempt' : τ → Except Fault (τ × γ)}
    {h₀ : Handling} {standIn : σ → α} {standIn' : τ → γ}
    (ends : strict → h ≠ .logAndContinue)
    (extended : ∀ s, Extends strict (fun r : σ × α => (lift r.1, g r.2)) (attempt s)
      (attempt' (lift s))) :
    Follows strict h lift g Q (transact h₀ attempt standIn) (transact h attempt' standIn') := by
  intro s
  cases tried : attempt s with
  | ok result =>
      obtain ⟨s', a⟩ := result
      rw [run_transact_of_ok tried, run_transact_of_ok ((extended s).ok _ tried)]
      exact ⟨fun _ => ⟨a, rfl, fun _ => rfl⟩, nofun⟩
  | error f =>
      rw [run_transact_of_error tried]
      -- only a strict comparison says anything of a fault, and there the other side raises it too
      refine ⟨nofun, fun strictly event later events => ?_⟩
      cases events
      rw [run_transact_of_error ((extended s).error strictly f tried)]
      cases interrupted : h.interruption? f.diagnostic with
      | none => exact absurd (Handling.interruption?_eq_none_iff.mp interrupted) (ends strictly)
      | some i => exact ⟨i, interrupted, by rw [Handling.verdict, interrupted], rfl⟩

end Follows

/-! ### Registers -/

namespace Machine

variable {Q : Answer t → Prop} (permits : Permits strict t p q)

theorem follows_deliver (target : Target) (x : SafeInt t p) :
    Follows strict q.handling (List.map (recast q)) id Q (deliver target x)
      (deliver target (x.recast q)) := by
  refine Follows.read.bind fun regs => ?_
  rw [Target.store_recast]
  exact (Follows.write _).bind fun _ => .pure _

/-- The answer is no fault, unless the comparison is strict. -/
def Unrefused (strict : Prop) (a : Answer t) : Prop := strict ∨ ∀ f, a ≠ .refused f

/-- A result that is delivered under `p` is delivered under `q`.  A refused one answers with its
fault, where that has to be the same. -/
theorem follows_deliverOrRefuse {result : Except Fault (SafeInt t p)}
    {result' : Except Fault (SafeInt t q)} (extended : Extends strict (recast q) result result')
    (target : Target) :
    Follows strict q.handling (List.map (recast q)) id (Unrefused strict)
      (deliverOrRefuse target result) (deliverOrRefuse target result') := by
  cases result with
  | ok x =>
      cases extended.ok x rfl
      exact follows_deliver target x
  | error f =>
      refine fun regs => ⟨fun _ => ⟨.refused f, rfl, fun unrefused => ?_⟩, nofun⟩
      rcases unrefused with strictly | unrefused
      · cases extended.error strictly f rfl
        rfl
      · exact absurd rfl (unrefused f)

theorem follows_focus {g : α → β} {Q : α → Prop} {m : Action (SafeInt t p) α}
    {m' : Action (SafeInt t q) β} (hm : Follows strict q.handling (recast q) g Q m m') (r : Nat)
    (x : SafeInt t p) :
    Follows strict q.handling (List.map (recast q)) g Q (focus r x m)
      (focus r (x.recast q) m') := by
  intro regs
  obtain ⟨quiet, fault⟩ := hm x
  refine ⟨fun silent => ?_, fault⟩
  obtain ⟨a, answered, followed⟩ := quiet silent
  refine ⟨a, answered, fun accepted => ?_⟩
  show Ending.mk (m'.run (x.recast q)).answer _ (m'.run (x.recast q)).events = _
  rw [followed accepted]
  exact congrArg (Ending.mk _ · []) List.map_set.symm

/-- Actions on the value of a register that follow each other do so on the registers. -/
theorem follows_onRegister {g : α → β} {m : Action (SafeInt t p) α} {m' : Action (SafeInt t q) β}
    {next : α → Action (Registers t p) (Answer t)} {next' : β → Action (Registers t q) (Answer t)}
    (hm : Follows strict q.handling (recast q) g (fun _ => True) m m')
    (hnext : ∀ a, Follows strict q.handling (List.map (recast q)) id Q (next a) (next' (g a)))
    (r : Nat) :
    Follows strict q.handling (List.map (recast q)) id Q (onRegister r m next)
      (onRegister r m' next') := by
  refine Follows.read.bind fun regs => ?_
  rw [List.getElem?_map]
  cases regs[r]? with
  | none => exact .pure _
  | some x => exact (follows_focus hm r x).bind hnext

theorem follows_withOperand {next : Literal → Action (Registers t p) (Answer t)}
    {next' : Literal → Action (Registers t q) (Answer t)}
    (hnext : ∀ v, Follows strict q.handling (List.map (recast q)) id Q (next v) (next' v))
    (rhs : Operand) :
    Follows strict q.handling (List.map (recast q)) id Q (withOperand rhs next)
      (withOperand rhs next') := by
  refine Follows.read.bind fun regs => ?_
  rw [Operand.literal?_recast]
  cases rhs.literal? regs with
  | none => exact .pure _
  | some v => exact hnext v

/-! ### Steps -/

section

include permits

theorem follows_create (raw : Word s) :
    Follows strict q.handling (List.map (recast q)) (recast q) (fun _ => True)
      (SafeInt.create p t raw : Action (Registers t p) (SafeInt t p))
      (SafeInt.create q t raw : Action (Registers t q) (SafeInt t q)) := by
  rw [create_eq, create_eq]
  exact .transact permits.ends fun _ => (extends_tryCreate permits raw).map fun _ => rfl

theorem follows_assign (raw : Word s) :
    Follows strict q.handling (recast q) id (fun _ => True)
      (assign raw : Action (SafeInt t p) Unit) (assign raw : Action (SafeInt t q) Unit) := by
  rw [assign_eq, assign_eq]
  exact .transact permits.ends fun _ => (extends_validated permits _ raw).map fun _ => rfl

theorem follows_assignAll (vs : List Literal) :
    Follows strict q.handling (recast q) id (fun _ => True)
      (assignAll vs : Action (SafeInt t p) Unit) (assignAll vs : Action (SafeInt t q) Unit) := by
  induction vs with
  | nil => exact .pure ()
  | cons v vs ih => exact (follows_assign permits v.word).bind fun _ => ih

theorem follows_modify (edit : Word t → Word t) :
    Follows strict q.handling (recast q) id (fun _ => True)
      (modify edit : Action (SafeInt t p) Unit) (modify edit : Action (SafeInt t q) Unit) := by
  rw [modify_eq, modify_eq]
  exact .transact permits.ends fun x =>
    (extends_validated permits _ (edit x.value)).map fun _ => rfl

theorem follows_apply (op : Operator) (raw : Word s) :
    Follows strict q.handling (recast q) (recast q) (fun _ => True)
      (withValue fun x : SafeInt t p => x.apply op raw)
      (withValue fun x : SafeInt t q => x.apply op raw) := by
  rw [withValue_apply_eq, withValue_apply_eq]
  exact .transact permits.ends fun x => (extends_tryApply permits x op raw).map fun _ => rfl

theorem follows_applyAssign (op : Operator) (raw : Word s) :
    Follows strict q.handling (recast q) id (fun _ => True)
      (applyAssign op raw : Action (SafeInt t p) Unit)
      (applyAssign op raw : Action (SafeInt t q) Unit) := by
  rw [applyAssign_eq, applyAssign_eq]
  exact .transact permits.ends fun x => (extends_tryApply permits x op raw).map fun _ => rfl

theorem follows_preStep (d : Direction) :
    Follows strict q.handling (recast q) (recast q) (fun _ => True)
      (preStep d : Action (SafeInt t p) (SafeInt t p))
      (preStep d : Action (SafeInt t q) (SafeInt t q)) := by
  rw [preStep_eq, preStep_eq]
  exact .transact permits.ends fun x =>
    (extends_tryApply permits x d.operator (Word.ofInt .u8 1)).map fun _ => rfl

theorem follows_postStep (d : Direction) :
    Follows strict q.handling (recast q) (recast q) (fun _ => True)
      (postStep d : Action (SafeInt t p) (SafeInt t p))
      (postStep d : Action (SafeInt t q) (SafeInt t q)) := by
  rw [postStep_eq, postStep_eq]
  exact .transact permits.ends fun x =>
    ((extends_tryApply permits x d.operator (Word.ofInt .u8 1)).mapError _).map fun _ => rfl

theorem follows_negate :
    Follows strict q.handling (recast q) (recast q) (fun _ => True)
      (withValue fun x : SafeInt t p => x.negate) (withValue fun x : SafeInt t q => x.negate) := by
  rw [withValue_negate_eq, withValue_negate_eq]
  exact .transact permits.ends fun x => (extends_tryNegate permits x).map fun _ => rfl

theorem follows_complement :
    Follows strict q.handling (recast q) (recast q) (fun _ => True)
      (withValue fun x : SafeInt t p => x.complement)
      (withValue fun x : SafeInt t q => x.complement) := by
  rw [withValue_complement_eq, withValue_complement_eq]
  exact .transact permits.ends fun x => (extends_tryComplement permits x).map fun _ => rfl

/-- A step under `q` does what it does under `p`, as long as it raises no fault there. -/
theorem Step.follows_perform (step : Step t) :
    Follows strict q.handling (List.map (recast q)) id (Unrefused strict)
      (step.perform (p := p)) (step.perform (p := q)) := by
  cases step with
  | create v target =>
      exact (follows_create permits v.word).bind fun x => follows_deliver target x
  | tryCreate v target =>
      exact follows_deliverOrRefuse (extends_tryCreate permits v.word) target
  | assign r vs => exact follows_onRegister (follows_assignAll permits vs) (fun _ => .pure _) r
  | modify r edit => exact follows_onRegister (follows_modify permits edit) (fun _ => .pure _) r
  | apply r op rhs target =>
      refine follows_withOperand (fun v => ?_) rhs
      exact follows_onRegister (follows_apply permits op v.word) (follows_deliver target) r
  | applyAssign r op rhs =>
      refine follows_withOperand (fun v => ?_) rhs
      exact follows_onRegister (follows_applyAssign permits op v.word) (fun _ => .pure _) r
  | tryApply r op rhs target =>
      refine follows_onRegister .read (fun x => ?_) r
      exact follows_deliverOrRefuse (extends_tryApply permits x op rhs.word) target
  | preStep r d target =>
      exact follows_onRegister (follows_preStep permits d) (follows_deliver target) r
  | postStep r d target =>
      exact follows_onRegister (follows_postStep permits d) (follows_deliver target) r
  | negate r target =>
      by_cases signed : t.signed = true
      · rw [perform, perform, if_pos signed, if_pos signed]
        exact follows_onRegister (follows_negate permits) (follows_deliver target) r
      · rw [perform, perform, if_neg signed, if_neg signed]
        exact .pure _
  | complement r target =>
      by_cases signed : t.signed = true
      · rw [perform, perform, if_pos signed, if_pos signed]
        exact follows_onRegister (follows_complement permits) (follows_deliver target) r
      · rw [perform, perform, if_neg signed, if_neg signed]
        exact .pure _
  | copy r target => exact follows_onRegister .read (follows_deliver target) r
  | compare r rhs =>
      refine follows_withOperand (fun v => follows_onRegister .read (fun x => ?_) r) rhs
      refine Follows.read.bind fun regs => ?_
      have rankings : ((rhs.register? (regs.map (recast q))).map (ranking (x.recast q))) =
          (rhs.register? regs).map (ranking x) := by
        rw [Operand.register?_recast, Option.map_map]
        exact congrArg (Option.map · _) (funext fun y => ranking_recast x y)
      rw [rankings]
      exact .pure _
  | read r => exact follows_onRegister .read (fun x => .pure _) r
  | sort =>
      refine Follows.read.bind fun regs => ?_
      rw [recast_mergeSort]
      exact (Follows.write _).bind fun _ => .pure _
  | countDistinct =>
      refine Follows.read.bind fun regs => ?_
      rw [size_ofList_recast]
      exact .pure _

end

/-! ### Runs -/

/-- A step that answers is followed by the rest of the run. -/
theorem runFrom_cons_of_ok {step : Step t} {regs regs' : Registers t p} {a : Answer t}
    {events : List Event} (h : step.perform.run regs = ⟨.ok a, regs', events⟩)
    (rest : List (Step t)) :
    runFrom regs (step :: rest) = ⟨.ok a, regs'.map (·.value), events⟩ :: runFrom regs' rest := by
  rw [runFrom, h]

include permits in
/-- Where a step logs nothing, both runs show one frame and go on with the same words. -/
theorem runFrom_cons_of_quiet {step : Step t} {regs : Registers t p}
    (quiet : (step.perform.run regs).events = [])
    (unrefused : ∀ a, (step.perform.run regs).answer = .ok a → Unrefused strict a)
    (rest : List (Step t)) :
    let e := step.perform.run regs
    let frame : Frame t := ⟨e.answer, e.state.map (·.value), e.events⟩
    runFrom regs (step :: rest) = frame :: runFrom e.state rest ∧
      runFrom (regs.map (recast q)) (step :: rest) =
        frame :: runFrom (e.state.map (recast q)) rest := by
  intro e frame
  obtain ⟨a, answered, followed⟩ := (step.follows_perform permits regs).quiet quiet
  have run_p : step.perform.run regs = ⟨.ok a, e.state, e.events⟩ := by rw [← answered]
  have run_q := followed (unrefused a answered)
  have frame_eq : frame = ⟨.ok a, e.state.map (·.value), []⟩ := by rw [← answered, ← quiet]
  refine ⟨?_, ?_⟩
  · rw [runFrom_cons_of_ok run_p, ← answered]
  · rw [runFrom_cons_of_ok run_q, map_value_recast, frame_eq]
    rfl

end Machine

end CheckedInt
