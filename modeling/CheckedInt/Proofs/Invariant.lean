import CheckedInt.Machine.Run
import CheckedInt.Proofs.Preservation

/-!
# Invariant — the domain over whole runs

A step keeps every property of the registers' words that the domain's words have, unless it is a
construction whose fault is passed over (`Step.keeps_perform`).

What such a construction leaves can be copied from register to register, and stands in for results
that are refused.  The invariant of a run therefore remembers where a word comes from: it is in the
domain, or it is the low bits of a word that a construction was given and the domain rejects
(`Grounded`).  It holds after every step (`runFrom_grounded`).

**Domain invariant** (`registers_in_domain`).  If faults end a step or the program, every register
is in the domain after every step.  If they are passed over, each register outside the domain holds
the low bits of a rejected word of a construction up to then.
-/

namespace CheckedInt.Machine

open CheckedInt.Action CheckedInt.SafeInt

variable {t : IntType} {p : Policies} {α : Type} {P : Word t → Prop} {J : α → Prop}

/-! ### Steps -/

/-- Every register's word has the property. -/
def AllHold (P : Word t → Prop) (regs : Registers t p) : Prop := ∀ x ∈ regs, Holds P x

/-- What all registers have in common is kept if what is stored has it too, wherever the target
is. -/
theorem Target.store_allHold {target : Target} {x : SafeInt t p} {regs : Registers t p}
    (hx : Holds P x) (hregs : AllHold P regs) : AllHold P (target.store x regs) := by
  intro y hy
  cases target with
  | drop => exact hregs y hy
  | replace i =>
      rcases List.mem_or_eq_of_mem_set hy with hy | rfl
      · exact hregs y hy
      · exact hx
  | append =>
      rcases List.mem_append.mp hy with hy | hy
      · exact hregs y hy
      · cases List.mem_singleton.mp hy
        exact hx

/-- A result with the property can go to any target. -/
theorem keeps_deliver {x : SafeInt t p} (hx : Holds P x) (target : Target) :
    (deliver target x).Preserves (AllHold P) :=
  Keeps.read.bind fun _ hregs =>
    (Keeps.write (Target.store_allHold hx hregs)).bind fun _ _ => Keeps.pure trivial

theorem keeps_deliverOrRefuse {result : Except Fault (SafeInt t p)}
    (h : ∀ x, result = .ok x → Holds P x) (target : Target) :
    (deliverOrRefuse target result).Preserves (AllHold P) := by
  cases result with
  | ok x => exact keeps_deliver (h x rfl) target
  | error f => exact Keeps.pure trivial

/-- What an action keeps of one safe integer it keeps of all registers. -/
theorem keeps_focus {x : SafeInt t p} {m : Action (SafeInt t p) α} (hx : Holds P x)
    (hm : m.Keeps (Holds P) J) (r : Nat) : (focus r x m).Keeps (AllHold P) J := by
  intro regs hregs
  obtain ⟨kept, answered⟩ := hm x hx
  refine ⟨fun y hy => ?_, answered⟩
  rcases List.mem_or_eq_of_mem_set hy with hy | rfl
  · exact hregs y hy
  · exact kept

/-- An action on one register and what follows it keep what each of them keeps. -/
theorem keeps_onRegister {m : Action (SafeInt t p) α}
    {next : α → Action (Registers t p) (Answer t)} (hm : m.Keeps (Holds P) J)
    (hnext : ∀ a, J a → (next a).Preserves (AllHold P)) (r : Nat) :
    (onRegister r m next).Preserves (AllHold P) := by
  refine Keeps.read.bind fun regs hregs => ?_
  cases h : regs[r]? with
  | some x => exact (keeps_focus (hregs x (List.mem_of_getElem? h)) hm r).bind hnext
  | none => exact Keeps.pure trivial

/-- The result of an operation on a register goes to a target. -/
theorem keeps_onRegister_deliver {m : Action (SafeInt t p) (SafeInt t p)}
    (hm : m.Keeps (Holds P) (Holds P)) (r : Nat) (target : Target) :
    (onRegister r m (deliver target)).Preserves (AllHold P) :=
  keeps_onRegister hm (fun _ hx => keeps_deliver hx target) r

/-- An operation changes a register in place. -/
theorem keeps_onRegister_done {m : Action (SafeInt t p) Unit} (hm : m.Preserves (Holds P))
    (r : Nat) : (onRegister r m fun _ => return .done).Preserves (AllHold P) :=
  keeps_onRegister hm (fun _ _ => Keeps.pure trivial) r

theorem keeps_withOperand {next : Literal → Action (Registers t p) (Answer t)}
    (hnext : ∀ v, (next v).Preserves (AllHold P)) (rhs : Operand) :
    (withOperand rhs next).Preserves (AllHold P) := by
  refine Keeps.read.bind fun regs _ => ?_
  cases rhs.literal? regs with
  | some v => exact hnext v
  | none => exact Keeps.pure trivial

/-- A step keeps what the domain's words have in common, and so do the low bits that a construction
may leave. -/
theorem Step.keeps_perform (hP : Covers p P) (step : Step t)
    (low : ∀ v target, step = .create v target → p.handling = .logAndContinue →
      p.domain.accepts t v.word = false → P (Word.truncate t v.word.widen)) :
    (step.perform (p := p)).Preserves (AllHold P) := by
  cases step with
  | create v target =>
      -- the one step that may put a word from outside the domain into a register
      exact (keeps_create hP (low v target rfl)).bind fun x hx => keeps_deliver hx target
  | tryCreate v target =>
      exact keeps_deliverOrRefuse (fun x h => hP _ (tryCreate_accepts h)) target
  | assign r vs => exact keeps_onRegister_done (keeps_assignAll hP vs) r
  | modify r edit => exact keeps_onRegister_done (keeps_modify hP edit) r
  | apply r op rhs target =>
      refine keeps_withOperand (fun v => keeps_onRegister_deliver ?_ r target) rhs
      exact Keeps.read.bind fun x hx => keeps_apply hP hx op v.word
  | applyAssign r op rhs =>
      refine keeps_withOperand (fun v => keeps_onRegister_done ?_ r) rhs
      exact keeps_applyAssign hP op v.word
  | tryApply r op rhs target =>
      refine keeps_onRegister Keeps.read (fun x _ => ?_) r
      exact keeps_deliverOrRefuse (fun y h => hP _ (tryApply_accepts h)) target
  | preStep r d target => exact keeps_onRegister_deliver (keeps_preStep hP d) r target
  | postStep r d target => exact keeps_onRegister_deliver (keeps_postStep hP d) r target
  | negate r target =>
      rw [perform]
      split
      · refine keeps_onRegister_deliver ?_ r target
        exact Keeps.read.bind fun x hx => keeps_negate hP hx
      · exact Keeps.pure trivial
  | complement r target =>
      rw [perform]
      split
      · refine keeps_onRegister_deliver ?_ r target
        exact Keeps.read.bind fun x hx => keeps_complement hP hx
      · exact Keeps.pure trivial
  | copy r target => exact keeps_onRegister_deliver Keeps.read r target
  | compare r rhs =>
      refine keeps_withOperand (fun v => keeps_onRegister Keeps.read (fun x _ => ?_) r) rhs
      exact Keeps.read.bind fun regs _ => Keeps.pure trivial
  | read r => exact keeps_onRegister Keeps.read (fun x _ => Keeps.pure trivial) r
  | sort =>
      refine Keeps.read.bind fun regs hregs => ?_
      have sorted : AllHold P (regs.mergeSort fun x y => (Ord.compare x y).isLE) :=
        fun x hx => hregs x (List.mem_mergeSort.mp hx)
      exact (Keeps.write sorted).bind fun _ _ => Keeps.pure trivial
  | countDistinct => exact Keeps.read.bind fun regs _ => Keeps.pure trivial

/-! ### Runs -/

/-- The words that the constructions among `steps` leave where their fault is passed over: the low
bits of what the domain rejects. -/
def Leftover (p : Policies) (steps : List (Step t)) (w : Word t) : Prop :=
  ∃ (v : Literal) (target : Target), Step.create v target ∈ steps ∧
    p.domain.accepts t v.word = false ∧ w = Word.truncate t v.word.widen

/-- The word is in the domain, or faults are passed over and one of `steps` has left it. -/
def Grounded (p : Policies) (steps : List (Step t)) (w : Word t) : Prop :=
  p.domain.accepts t w = true ∨ p.handling = .logAndContinue ∧ Leftover p steps w

theorem Grounded.mono {steps steps' : List (Step t)} (h : steps ⊆ steps') {w : Word t} :
    Grounded p steps w → Grounded p steps' w := by
  rintro (accepted | ⟨passed, v, target, made, rest⟩)
  · exact .inl accepted
  · exact .inr ⟨passed, v, target, h made, rest⟩

/-- One more step keeps the origins of all words known. -/
theorem Step.keeps_grounded (past : List (Step t)) (step : Step t) {regs : Registers t p}
    (h : AllHold (Grounded p past) regs) :
    AllHold (Grounded p (past ++ [step])) (step.perform.run regs).state := by
  have covers : Covers p (Grounded p (past ++ [step])) := fun _ accepted => .inl accepted
  refine (step.keeps_perform covers ?_ regs fun x hx => ?_).1
  · rintro v target rfl passed rejected
    have now := List.mem_append_right past (List.mem_singleton_self (Step.create v target))
    exact .inr ⟨passed, v, target, now, rejected, rfl⟩
  · exact (h x hx).mono (List.subset_append_left _ _)

/-- The first frame shows the first step. -/
theorem runFrom_cons_zero (regs : Registers t p) (step : Step t) (rest : List (Step t)) :
    (runFrom regs (step :: rest))[0]? =
      some ⟨(step.perform.run regs).answer, (step.perform.run regs).state.map (·.value),
        (step.perform.run regs).events⟩ := by
  rw [runFrom]
  split <;> rfl

/-- The other frames are those of the rest of the run, unless the program is aborted. -/
theorem runFrom_cons_succ (regs : Registers t p) (step : Step t) (rest : List (Step t)) (k : Nat)
    {frame : Frame t} (h : (runFrom regs (step :: rest))[k + 1]? = some frame) :
    (runFrom (step.perform.run regs).state rest)[k]? = some frame := by
  rw [runFrom] at h
  split at h
  · cases h
  · exact h

/-- After every step all words are grounded in the steps so far. -/
theorem runFrom_grounded {frame : Frame t} (steps : List (Step t)) :
    ∀ {past : List (Step t)} {regs : Registers t p} {k : Nat}, AllHold (Grounded p past) regs →
      (runFrom regs steps)[k]? = some frame →
      ∀ w ∈ frame.registers, Grounded p (past ++ steps.take (k + 1)) w := by
  induction steps with
  | nil =>
      intro past regs k _ hk
      cases hk
  | cons step rest ih =>
      intro past regs k h hk w hw
      -- the step joins the past, so what it has left stays known in the rest of the run
      have next := Step.keeps_grounded past step h
      cases k with
      | zero =>
          rw [runFrom_cons_zero] at hk
          cases hk
          obtain ⟨x, hx, rfl⟩ := List.mem_map.mp hw
          exact next x hx
      | succ k =>
          have grounded := ih next (runFrom_cons_succ regs step rest k hk) w hw
          rw [List.append_assoc] at grounded
          exact grounded

/-- **Domain invariant.**  Under a handling that ends the step or the program, every register is in
the domain after every step.  Under the one that passes faults over, a register outside the domain
holds the low bits of a word that the domain rejected when this or an earlier step constructed a
safe integer of it. -/
theorem registers_in_domain (p : Policies) (steps : List (Step t)) (k : Nat) (frame : Frame t)
    (hk : (run p steps)[k]? = some frame) (w : Word t) (hw : w ∈ frame.registers) :
    (p.handling ≠ .logAndContinue →
      p.domain.accepts t w = true ∧ p.domain.Contains t w.toInt) ∧
    (p.handling = .logAndContinue → p.domain.accepts t w = false →
      ∃ (v : Literal) (target : Target), Step.create v target ∈ steps.take (k + 1) ∧
        p.domain.accepts t v.word = false ∧ w = Word.truncate t v.word.widen) := by
  have none_yet : AllHold (Grounded p []) ([] : Registers t p) :=
    fun x hx => absurd hx List.not_mem_nil
  have grounded := runFrom_grounded steps none_yet hk w hw
  rw [List.nil_append] at grounded
  rcases grounded with accepted | ⟨passed, leftover⟩
  · refine ⟨fun _ => ⟨accepted, Domain.accepts_iff.mp accepted⟩, fun _ rejected => ?_⟩
    rw [accepted] at rejected
    cases rejected
  · exact ⟨fun ends => absurd passed ends, fun _ _ => leftover⟩

/-- In a domain from 0 to 10 a register that holds 7 is overwritten with what is constructed of 300,
and copied: unwinding leaves it as it was, and what is passed over leaves its low bits in both
registers. -/
theorem registers_in_domain_of_300 :
    let domain : Domain := .ranged (Word.ofInt .i128 0) (Word.ofInt .i128 10)
    let steps : List (Step .u8) := [.create ⟨.i8, Word.ofInt .i8 7⟩ .append,
      .create ⟨.i32, Word.ofInt .i32 300⟩ (.replace 0), .copy 0 .append]
    (∃ frame w, (run ⟨domain, .native, .unwind⟩ steps)[2]? = some frame ∧ w ∈ frame.registers ∧
      domain.accepts .u8 w = true) ∧
    ∃ v target, Step.create v target ∈ steps.take 3 ∧ domain.accepts .u8 v.word = false ∧
      Word.ofInt .u8 44 = Word.truncate .u8 v.word.widen := by
  intro domain steps
  have unwound : (run ⟨domain, .native, .unwind⟩ steps)[2]? = some ⟨.ok (.value (Word.ofInt .u8 7)),
      [Word.ofInt .u8 7, Word.ofInt .u8 7], []⟩ := rfl
  have passed : (run ⟨domain, .native, .logAndContinue⟩ steps)[2]? =
      some ⟨.ok (.value (Word.ofInt .u8 44)),
        [Word.ofInt .u8 44, Word.ofInt .u8 44], []⟩ := rfl
  refine ⟨⟨_, Word.ofInt .u8 7, unwound, List.mem_cons_self, ?_⟩, ?_⟩
  · exact ((registers_in_domain _ _ _ _ unwound _ List.mem_cons_self).1 (by decide)).1
  · exact (registers_in_domain _ _ _ _ passed _ List.mem_cons_self).2 rfl rfl

end CheckedInt.Machine
