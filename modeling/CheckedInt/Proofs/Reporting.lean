import CheckedInt.Proofs.Acceptance
import CheckedInt.Proofs.Atomicity
import CheckedInt.Proofs.Simulation

/-!
# Reporting — every violation once

Where faults are passed over, the log is all that tells of them.

* `Step.faults`: the faults that a step commits on given registers, read off what is tried or off
  the integers that the domain contains, and never off a log.
* `Reports faults m`: from every state the action answers, and logs one warning for each of the
  faults, in order.  The rules for this notion follow the ways in which actions are composed;
  `Reports.transact` is the one place where a fault becomes an event.
* `Step.reports_perform`, `events_runFrom`: so does every step, and every run step by step.

**Reporting is exact** (`violations_reported_exactly`).  A step logs its faults, each of them once
and in order, and nothing else.  What is refused on its way in is a range error, what is refused as
a result is an overflow.
-/

namespace CheckedInt

variable {t s : IntType} {p : Policies} {α β : Type}

/-! ### Faults and their events -/

/-- The event of a fault that is passed over. -/
def Fault.warning (f : Fault) : Event := Handling.logAndContinue.event f.diagnostic

/-- The fault of a computation that is refused. -/
def faultOf : Except Fault α → List Fault
  | .ok _ => []
  | .error f => [f]

theorem mem_faultOf {f : Fault} {result : Except Fault α} :
    f ∈ faultOf result ↔ result = .error f := by
  cases result <;> simp [faultOf, eq_comm]

theorem exists_of_mem_elim {o : Option α} {g : α → List β} {b : β} (mem : b ∈ o.elim [] g) :
    ∃ a, o = some a ∧ b ∈ g a := by
  cases o with
  | none => cases mem
  | some a => exact ⟨a, rfl, mem⟩

theorem faultOf_map (g : α → β) (result : Except Fault α) :
    faultOf (result.map g) = faultOf result := by
  cases result <;> rfl

/-- The fault of an integer that the domain does not contain. -/
def Policies.refusal (p : Policies) (t : IntType) (f : Fault) (n : Int) : List Fault :=
  if p.domain.Contains t n then [] else [f]

/-- A refused integer is told of with the given fault, and no other. -/
theorem Policies.eq_of_mem_refusal {f f' : Fault} {n : Int} (mem : f' ∈ p.refusal t f n) :
    f' = f := by
  rw [refusal] at mem
  split at mem
  · cases mem
  · exact List.mem_singleton.mp mem

/-- What depends on the domain alone is refused for one fault. -/
theorem faultOf_ite (f : Fault) (n : Int) (a : α) :
    faultOf (if p.domain.Contains t n then .ok a else .error f) = p.refusal t f n := by
  rw [Policies.refusal]
  split <;> rfl

/-- An integer is told of exactly if the domain does not contain it. -/
theorem map_warning_refusal (f : Fault) (n : Int) :
    (p.refusal t f n).map Fault.warning =
      if p.domain.Contains t n then [] else [f.warning] := by
  rw [Policies.refusal]
  split <;> rfl

namespace SafeInt

/-- A result that is refused is logged as an overflow. -/
theorem map_warning_tryApply (x : SafeInt t p) (op : Operator) (r : Word s) :
    (faultOf (x.tryApply op r)).map Fault.warning = match x.tryApply op r with
      | .ok _ => []
      | .error f => [Handling.logAndContinue.event ⟨.overflow, f.reason⟩] := by
  cases h : x.tryApply op r with
  | ok y => rfl
  | error f =>
      rw [← category_of_tryApply h]
      rfl

/-- A refused construction is told of as an invalid value. -/
theorem map_warning_tryCreate (raw : Word s) :
    (faultOf (tryCreate p t raw)).map Fault.warning = match tryCreate p t raw with
      | .ok _ => []
      | .error _ => [Fault.invalidValue.warning] := by
  cases h : tryCreate p t raw with
  | ok x => rfl
  | error f =>
      obtain ⟨-, rfl⟩ := tryCreate_eq_error_iff.mp h
      rfl

/-- A word is refused exactly if the domain does not contain its number. -/
theorem faultOf_validated (f : Fault) (raw : Word s) :
    faultOf (validated p.domain t f raw) = p.refusal t f raw.toInt := by
  rw [validated_eq, ← faultOf_ite f raw.toInt (Word.ofInt t raw.toInt)]
  exact congrArg faultOf (if_congr Domain.accepts_iff rfl rfl)

/-- A step to a neighbour that gives the old value puts its own fault in place of the operator's. -/
theorem faultOf_postStep (x : SafeInt t p) (d : Direction) :
    faultOf ((x.tryApply d.operator (Word.ofInt .u8 1)).mapError fun _ => d.fault) =
      p.refusal t d.fault (d.neighbour x.value.toInt) := by
  rw [tryApply_neighbour, Policies.refusal]
  split <;> rfl

end SafeInt

namespace Machine

open CheckedInt.Action CheckedInt.SafeInt

variable {σ : Type}

/-! ### Actions that report -/

/-- From every state the action answers, and logs one warning for each of the faults. -/
def Reports (faults : σ → List Fault) (m : Action σ α) : Prop :=
  ∀ s, ∃ a s', m.run s = ⟨.ok a, s', (faults s).map Fault.warning⟩

namespace Reports

theorem of_quiet {m : Action σ α} (quiet : Quiet m) : Reports (fun _ => []) m := quiet

theorem congr {faults faults' : σ → List Fault} {m : Action σ α} (h : Reports faults m)
    (eq : ∀ s, faults s = faults' s) : Reports faults' m :=
  funext eq ▸ h

/-- The fault of a transaction is passed over, and logged once. -/
theorem transact {h : Handling} (passed : h = .logAndContinue)
    (attempt : σ → Except Fault (σ × α)) (standIn : σ → α) :
    Reports (fun s => faultOf (attempt s)) (transact h attempt standIn) := by
  subst passed
  intro s
  beta_reduce
  cases tried : attempt s with
  | ok result => exact ⟨result.2, result.1, run_transact_of_ok tried⟩
  | error f => exact ⟨standIn s, s, run_transact_of_error tried⟩

/-- The faults of a transaction are those of what it tries, wherever that is stored. -/
theorem transact_map {h : Handling} (passed : h = .logAndContinue) (result : σ → Except Fault β)
    (place : σ → β → σ × α) (standIn : σ → α) :
    Reports (fun s => faultOf (result s))
      (Action.transact h (fun s => (result s).map (place s)) standIn) :=
  (transact passed _ standIn).congr fun s => faultOf_map (place s) (result s)

/-- What follows reports after what comes first, and its faults do not depend on the state. -/
theorem bind {faults : σ → List Fault} {later : List Fault} {m : Action σ α}
    {k : α → Action σ β} (hm : Reports faults m) (hk : ∀ a, Reports (fun _ => later) (k a)) :
    Reports (fun s => faults s ++ later) (m >>= k) := by
  intro s
  obtain ⟨a, s', run_m⟩ := hm s
  obtain ⟨b, s'', run_k⟩ := hk a s'
  refine ⟨b, s'', ?_⟩
  rw [run_bind, run_m, List.map_append]
  simp only [run_k]

/-- What logs nothing adds nothing to the faults before it. -/
theorem bind_quiet {faults : σ → List Fault} {m : Action σ α} {k : α → Action σ β}
    (hm : Reports faults m) (hk : ∀ a, Quiet (k a)) : Reports faults (m >>= k) :=
  (hm.bind fun a => of_quiet (hk a)).congr fun s => List.append_nil (faults s)

/-- On a register the faults are those of the action on its value, and none if it is not there. -/
theorem onRegister {faults : SafeInt t p → List Fault} {m : Action (SafeInt t p) α}
    {next : α → Action (Registers t p) (Answer t)} (hm : Reports faults m)
    (hnext : ∀ a, Quiet (next a)) (r : Nat) :
    Reports (fun regs : Registers t p => (regs[r]?).elim [] faults) (onRegister r m next) := by
  intro regs
  beta_reduce
  cases hx : regs[r]? with
  | none => exact ⟨_, _, run_onRegister_of_none hx⟩
  | some x =>
      have focused : Reports (fun _ => faults x) (focus r x m) := by
        intro regs'
        obtain ⟨a, y, run_m⟩ := hm x
        exact ⟨a, regs'.set r y, run_focus run_m regs'⟩
      rw [run_onRegister_of_some hx]
      exact focused.bind_quiet hnext regs

/-- With an operand the faults are those of the action on its word, and none if there is no such
word. -/
theorem withOperand {faults : Literal → Registers t p → List Fault}
    {next : Literal → Action (Registers t p) (Answer t)} (hnext : ∀ v, Reports (faults v) (next v))
    (rhs : Operand) :
    Reports (fun regs => (rhs.literal? regs).elim [] fun v => faults v regs)
      (withOperand rhs next) := by
  intro regs
  rw [Machine.withOperand, run_read_bind]
  beta_reduce
  cases rhs.literal? regs with
  | none => exact ⟨_, _, rfl⟩
  | some v => exact hnext v regs

end Reports

/-! ### The operations -/

section

variable (passed : p.handling = .logAndContinue)
include passed

/-- A construction reports what its trial refuses. -/
theorem reports_create (raw : Word s) :
    Reports (fun _ => faultOf (tryCreate p t raw)) (create p t raw : Action σ (SafeInt t p)) := by
  rw [create_eq]
  exact .transact_map passed _ _ _

/-- A chain goes on after a value that is refused. -/
theorem reports_assignAll (vs : List Literal) :
    Reports
      (fun _ => (vs.filter fun v => ¬ p.domain.Contains t v.word.toInt).map
        fun _ => .invalidAssignment)
      (assignAll vs : Action (SafeInt t p) Unit) := by
  intro x
  have rejected : (vs.filter fun v => !p.domain.accepts t v.word) =
      vs.filter fun v => ¬ p.domain.Contains t v.word.toInt :=
    List.filter_congr fun v _ => by simp [← Domain.accepts_iff]
  rw [run_assignAll_of_passed passed, rejected, passed, List.map_map]
  exact ⟨(), _, rfl⟩

/-- An edit reports an edited value outside the domain. -/
theorem reports_modify (edit : Word t → Word t) :
    Reports (fun x => p.refusal t .invalidAssignment (edit x.value).toInt)
      (modify edit : Action (SafeInt t p) Unit) := by
  rw [modify_eq]
  exact (Reports.transact_map passed _ _ _).congr fun x => faultOf_validated _ _

/-- An operator reports what its trial refuses. -/
theorem reports_apply (op : Operator) (r : Word s) :
    Reports (fun x => faultOf (x.tryApply op r))
      (withValue fun x : SafeInt t p => x.apply op r) := by
  rw [withValue_apply_eq]
  exact .transact_map passed _ _ _

/-- An operator in place reports once, although the domain is checked twice. -/
theorem reports_applyAssign (op : Operator) (r : Word s) :
    Reports (fun x => faultOf (x.tryApply op r))
      (applyAssign op r : Action (SafeInt t p) Unit) := by
  rw [applyAssign_eq]
  exact .transact_map passed _ _ _

/-- A step that returns the new value reports as the operator that it is. -/
theorem reports_preStep (d : Direction) :
    Reports (fun x => faultOf (x.tryApply d.operator (Word.ofInt .u8 1)))
      (preStep d : Action (SafeInt t p) (SafeInt t p)) := by
  rw [preStep_eq]
  exact .transact_map passed _ _ _

/-- A step that returns the old value reports a neighbour outside the domain, and not what refused
it. -/
theorem reports_postStep (d : Direction) :
    Reports (fun x => p.refusal t d.fault (d.neighbour x.value.toInt))
      (postStep d : Action (SafeInt t p) (SafeInt t p)) := by
  rw [postStep_eq]
  exact (Reports.transact_map passed _ _ _).congr fun x => faultOf_postStep x d

theorem reports_negate :
    Reports (fun x => p.refusal t (.overflow .sub) (-x.value.toInt))
      (withValue fun x : SafeInt t p => x.negate) := by
  rw [withValue_negate_eq]
  refine (Reports.transact_map passed _ _ _).congr fun x => ?_
  rw [tryNegate_eq, faultOf_ite]

theorem reports_complement (signed : t.signed = true) :
    Reports (fun x => p.refusal t .complement (-x.value.toInt - 1))
      (withValue fun x : SafeInt t p => x.complement) := by
  rw [withValue_complement_eq]
  refine (Reports.transact_map passed _ _ _).congr fun x => ?_
  rw [tryComplement_eq signed, faultOf_ite]

end

/-! ### Steps -/

namespace Step

/-- The faults that a step commits. -/
def faults (regs : Registers t p) : Step t → List Fault
  | create v _ => faultOf (SafeInt.tryCreate p t v.word)
  | assign r vs => (regs[r]?).elim [] fun _ =>
    (vs.filter fun v => ¬ p.domain.Contains t v.word.toInt).map fun _ => .invalidAssignment
  | modify r edit => (regs[r]?).elim [] fun x =>
    p.refusal t .invalidAssignment (edit x.value).toInt
  | apply r op rhs _ | applyAssign r op rhs => (rhs.literal? regs).elim [] fun v =>
    (regs[r]?).elim [] fun x => faultOf (x.tryApply op v.word)
  | preStep r d _ => (regs[r]?).elim [] fun x =>
    faultOf (x.tryApply d.operator (Word.ofInt .u8 1))
  | postStep r d _ => (regs[r]?).elim [] fun x =>
    p.refusal t d.fault (d.neighbour x.value.toInt)
  | negate r _ =>
    if t.signed then (regs[r]?).elim [] fun x => p.refusal t (.overflow .sub) (-x.value.toInt)
    else []
  | complement r _ =>
    if t.signed then (regs[r]?).elim [] fun x => p.refusal t .complement (-x.value.toInt - 1)
    else []
  | tryCreate _ _ | tryApply _ _ _ _ | copy _ _ | compare _ _ | read _ | sort
  | countDistinct => []

/-- The step takes a value in, and does not compute one. -/
def isIntake : Step t → Bool
  | create _ _ | tryCreate _ _ | assign _ _ | modify _ _ => true
  | _ => false

/-- The step returns its fault or has none. -/
def isSilent : Step t → Bool
  | tryCreate _ _ | tryApply _ _ _ _ | copy _ _ | compare _ _ | read _ | sort
  | countDistinct => true
  | _ => false

/-- The category of everything that a step reports. -/
def category (step : Step t) : Category := if step.isIntake then .range else .overflow

/-- A step reports what it commits. -/
theorem reports_perform (passed : p.handling = .logAndContinue) (step : Step t) :
    Reports (fun regs : Registers t p => step.faults regs) step.perform := by
  cases step with
  | create v target => exact (reports_create passed v.word).bind_quiet (.deliver target)
  | tryCreate v target => exact .of_quiet (.deliverOrRefuse _ _)
  | assign r vs => exact (reports_assignAll passed vs).onRegister (fun _ => .pure) r
  | modify r edit => exact (reports_modify passed edit).onRegister (fun _ => .pure) r
  | apply r op rhs target =>
      refine .withOperand (fun v => ?_) rhs
      exact (reports_apply passed op v.word).onRegister (.deliver target) r
  | applyAssign r op rhs =>
      refine .withOperand (fun v => ?_) rhs
      exact (reports_applyAssign passed op v.word).onRegister (fun _ => .pure) r
  | tryApply r op rhs target =>
      exact .of_quiet (Quiet.read.onRegister (fun _ => .deliverOrRefuse _ _) r)
  | preStep r d target => exact (reports_preStep passed d).onRegister (.deliver target) r
  | postStep r d target => exact (reports_postStep passed d).onRegister (.deliver target) r
  | negate r target =>
      simp only [perform, faults]
      split
      · exact (reports_negate passed).onRegister (.deliver target) r
      · exact .of_quiet .pure
  | complement r target =>
      simp only [perform, faults]
      split
      · exact (reports_complement passed ‹_›).onRegister (.deliver target) r
      · exact .of_quiet .pure
  | copy r target => exact .of_quiet (Quiet.read.onRegister (.deliver target) r)
  | compare r rhs =>
      refine .of_quiet (.withOperand (fun v => Quiet.read.onRegister ?_ r) rhs)
      exact fun x => Quiet.read.bind fun _ => .pure
  | read r => exact .of_quiet (Quiet.read.onRegister (fun _ => .pure) r)
  | sort => exact .of_quiet (Quiet.read.bind fun _ => Quiet.write.bind fun _ => .pure)
  | countDistinct => exact .of_quiet (Quiet.read.bind fun _ => .pure)

/-- A silent step commits nothing. -/
theorem faults_of_isSilent {step : Step t} (silent : step.isSilent = true)
    (regs : Registers t p) : step.faults regs = [] := by
  cases step <;> first | rfl | cases silent

/-- A value is refused on its way in as a range error, and a result as an overflow. -/
theorem category_of_mem_faults {step : Step t} {regs : Registers t p} {f : Fault}
    (mem : f ∈ step.faults regs) : f.category = step.category := by
  cases step with
  | create v _ =>
      obtain ⟨-, rfl⟩ := tryCreate_eq_error_iff.mp (mem_faultOf.mp mem)
      rfl
  | assign r vs =>
      obtain ⟨x, -, mem⟩ := exists_of_mem_elim mem
      obtain ⟨v, -, rfl⟩ := List.mem_map.mp mem
      rfl
  | modify r edit =>
      obtain ⟨x, -, mem⟩ := exists_of_mem_elim mem
      cases Policies.eq_of_mem_refusal mem
      rfl
  | apply r op rhs _ | applyAssign r op rhs =>
      obtain ⟨v, -, mem⟩ := exists_of_mem_elim mem
      obtain ⟨x, -, mem⟩ := exists_of_mem_elim mem
      exact category_of_tryApply (mem_faultOf.mp mem)
  | preStep r d _ =>
      obtain ⟨x, -, mem⟩ := exists_of_mem_elim mem
      exact category_of_tryApply (mem_faultOf.mp mem)
  | postStep r d _ =>
      obtain ⟨x, -, mem⟩ := exists_of_mem_elim mem
      cases Policies.eq_of_mem_refusal mem
      cases d <;> rfl
  | negate r _ | complement r _ =>
      rw [faults] at mem
      split at mem
      · obtain ⟨x, -, mem⟩ := exists_of_mem_elim mem
        cases Policies.eq_of_mem_refusal mem
        rfl
      · cases mem
  | _ => cases mem

/-- A step logs its faults, each of them once and in order. -/
theorem events_perform (passed : p.handling = .logAndContinue) (step : Step t)
    (regs : Registers t p) :
    (step.perform.run regs).events = (step.faults regs).map Fault.warning := by
  obtain ⟨a, regs', run_step⟩ := step.reports_perform passed regs
  rw [run_step]

/-- What a step logs is of its category. -/
theorem category_of_mem_events (passed : p.handling = .logAndContinue) {step : Step t}
    {regs : Registers t p} {e : Event} (mem : e ∈ (step.perform.run regs).events) :
    e.diagnostic.category = step.category := by
  rw [step.events_perform passed] at mem
  obtain ⟨f, committed, rfl⟩ := List.mem_map.mp mem
  exact category_of_mem_faults committed

end Step

/-! ### Runs -/

/-- The faults of the steps of a run. -/
def faultsFrom (regs : Registers t p) : List (Step t) → List (List Fault)
  | [] => []
  | step :: rest => step.faults regs :: faultsFrom (step.perform.run regs).state rest

/-- The steps of a run report what they commit, each in its own frame. -/
theorem events_runFrom (passed : p.handling = .logAndContinue) (steps : List (Step t)) :
    ∀ regs : Registers t p,
      (runFrom regs steps).map (·.events) =
        (faultsFrom regs steps).map (List.map Fault.warning) := by
  induction steps with
  | nil => exact fun _ => rfl
  | cons step rest ih =>
      intro regs
      obtain ⟨a, regs', run_step⟩ := step.reports_perform passed regs
      rw [runFrom_cons_of_ok run_step, faultsFrom, run_step, List.map_cons, List.map_cons, ih]

/-- The steps of a run log what is of their category, each in its own frame. -/
theorem categories_runFrom (passed : p.handling = .logAndContinue) (steps : List (Step t)) :
    ∀ regs : Registers t p,
      List.Forall₂ (fun step frame => ∀ e ∈ frame.events, e.diagnostic.category = step.category)
        steps (runFrom regs steps) := by
  induction steps with
  | nil => exact fun _ => .nil
  | cons step rest ih =>
      intro regs
      obtain ⟨a, regs', run_step⟩ := step.reports_perform passed regs
      rw [runFrom_cons_of_ok run_step]
      refine .cons (fun e mem => ?_) (ih regs')
      have logged : e ∈ (step.perform.run regs).events := by rwa [run_step]
      exact Step.category_of_mem_events passed logged

/-- **Reporting is exact.**  On any registers a step logs what is told of it here, where faults are
passed over: a construction that is refused, each value of a chain and each edited value outside the
domain, and each result that is refused, with its reason.  The other steps log nothing.  So a run
logs every fault of its steps once and in order, and nothing else; what comes in is never told as an
overflow, and a result never as out of range. -/
theorem violations_reported_exactly (passed : p.handling = .logAndContinue) :
    let told (c : Category) (reason : String) : Event :=
      ⟨.warning, ⟨c, reason⟩, "safe numeric invariant violated"⟩
    let unlessContained (n : Int) (e : Event) : List Event :=
      if p.domain.Contains t n then [] else [e]
    let ofTrial (trial : Except Fault (SafeInt t p)) : List Event :=
      match trial with
      | .ok _ => []
      | .error f => [told .overflow f.reason]
    (∀ regs : Registers t p,
      let events (step : Step t) : List Event := (step.perform.run regs).events
      (∀ v target, events (.create v target) = match SafeInt.tryCreate p t v.word with
        | .ok _ => []
        | .error _ => [told .range "Invalid value"]) ∧
      (∀ r x, regs[r]? = some x →
        (∀ vs, events (.assign r vs) =
          (vs.filter fun v => ¬ p.domain.Contains t v.word.toInt).map fun _ =>
            told .range "Invalid value passed on assignment") ∧
        (∀ edit, events (.modify r edit) =
          unlessContained (edit x.value).toInt
            (told .range "Invalid value passed on assignment")) ∧
        (∀ op rhs v target, rhs.literal? regs = some v →
          events (.apply r op rhs target) = ofTrial (x.tryApply op v.word) ∧
          events (.applyAssign r op rhs) = ofTrial (x.tryApply op v.word)) ∧
        ∀ target,
          (∀ d : Direction, events (.preStep r d target) =
            ofTrial (x.tryApply d.operator (Word.ofInt .u8 1))) ∧
          events (.postStep r .up target) =
            unlessContained (x.value.toInt + 1) (told .overflow "Overflow on increment") ∧
          events (.postStep r .down target) =
            unlessContained (x.value.toInt - 1) (told .overflow "Overflow on decrement") ∧
          (t.signed = true → events (.negate r target) =
            unlessContained (-x.value.toInt) (told .overflow "Overflow on subtraction")) ∧
          (t.signed = true → events (.complement r target) =
            unlessContained (-x.value.toInt - 1)
              (told .overflow "Overflow on bitwise complement"))) ∧
      ∀ step : Step t, step.isSilent = true → events step = []) ∧
    ∀ (regs : Registers t p) (steps : List (Step t)),
      (runFrom regs steps).map (·.events) = (faultsFrom regs steps).map (List.map Fault.warning) ∧
      List.Forall₂ (fun step frame => ∀ e ∈ frame.events, e.diagnostic.category = step.category)
        steps (runFrom regs steps) := by
  intro told unlessContained ofTrial
  refine ⟨fun regs => ?_, fun regs steps =>
    ⟨events_runFrom passed steps regs, categories_runFrom passed steps regs⟩⟩
  intro events
  have logged (step : Step t) : events step = (step.faults regs).map Fault.warning :=
    step.events_perform passed regs
  refine ⟨fun v target => ?_,
    fun r x hx => ⟨fun vs => ?_, fun edit => ?_, fun op rhs v target hv => ?_,
      fun target => ⟨fun d => ?_, ?_, ?_, fun signed => ?_, fun signed => ?_⟩⟩,
    fun step silent => ?_⟩
  · rw [logged, Step.faults]
    exact map_warning_tryCreate v.word
  · rw [logged, Step.faults, hx, Option.elim, List.map_map]
    rfl
  · rw [logged, Step.faults, hx]
    exact map_warning_refusal .invalidAssignment (edit x.value).toInt
  · rw [logged, logged, Step.faults, Step.faults, hv, Option.elim, hx]
    exact ⟨x.map_warning_tryApply op v.word, x.map_warning_tryApply op v.word⟩
  · rw [logged, Step.faults, hx]
    exact x.map_warning_tryApply d.operator (Word.ofInt .u8 1)
  · rw [logged, Step.faults, hx]
    exact map_warning_refusal .increment (x.value.toInt + 1)
  · rw [logged, Step.faults, hx]
    exact map_warning_refusal .decrement (x.value.toInt - 1)
  · rw [logged, Step.faults, if_pos signed, hx]
    exact map_warning_refusal (.overflow .sub) (-x.value.toInt)
  · rw [logged, Step.faults, if_pos signed, hx]
    exact map_warning_refusal .complement (-x.value.toInt - 1)
  · rw [logged, Step.faults_of_isSilent silent]
    rfl

/-- In a domain from 0 to 100 a chain with two values outside tells of both, and the negation of 7
of an overflow.  A run tells of the sum of 60 and 41, of those, and of the construction from 300. -/
theorem violations_reported_exactly_at_300 :
    let p : Policies := ⟨.ranged (Word.ofInt .i128 0) (Word.ofInt .i128 100), .native,
      .logAndContinue⟩
    let seven : SafeInt .i8 p := ⟨Word.ofInt .i8 7⟩
    let chain : Step .i8 := .assign 0 [⟨.u8, Word.ofInt .u8 7⟩, ⟨.i32, Word.ofInt .i32 300⟩,
      ⟨.i16, Word.ofInt .i16 (-1)⟩]
    let minus : Step .i8 := .negate 0 .append
    let steps : List (Step .i8) := [.create ⟨.i32, Word.ofInt .i32 60⟩,
      .applyAssign 0 .add (.literal ⟨.i16, Word.ofInt .i16 41⟩), chain, minus,
      .create ⟨.i32, Word.ofInt .i32 300⟩]
    let refused : Event := ⟨.warning, ⟨.range, "Invalid value passed on assignment"⟩,
      "safe numeric invariant violated"⟩
    let overflow : Event := ⟨.warning, ⟨.overflow, "Overflow on subtraction"⟩,
      "safe numeric invariant violated"⟩
    (chain.perform.run [seven]).events = [refused, refused] ∧
      (minus.perform.run [seven]).events = [overflow] ∧
      (run p steps).map (·.events) = [[], [(Fault.overflow .add).warning], [refused, refused],
        [overflow], [Fault.invalidValue.warning]] := by
  intro p seven chain minus steps refused overflow
  obtain ⟨stepwise, runs⟩ :=
    violations_reported_exactly (rfl : p.handling = .logAndContinue) (t := .i8)
  obtain ⟨-, onSeven, -⟩ := stepwise [seven]
  obtain ⟨assigned, -, -, others⟩ := onSeven 0 seven rfl
  obtain ⟨-, -, -, negated, -⟩ := others .append
  refine ⟨(assigned _).trans ?_, (negated rfl).trans ?_, (runs [] steps).1.trans ?_⟩
  · decide
  · decide
  · decide

end Machine

end CheckedInt
