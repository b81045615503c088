import CheckedInt.Proofs.Admission

/-!
# Preservation — what actions keep

`Action.Keeps I J m`: from a state with `I` the action `m` leaves one with `I`, also where a fault
interrupts it, and what it answers has `J`.  The rules follow the ways in which actions are
composed (`Keeps.pure` to `Keeps.forM`).

**One way out of the domain** (`SafeInt.keeps_create`).  Let `P` be a property of words that every
word of the domain has.  Then the operations on a safe integer keep `P`, of what is stored and of
what is handed back.  Only a construction needs more: where its fault is passed over, the low bits
of the rejected word must have `P` too.
-/

namespace CheckedInt

namespace Action

variable {σ α β : Type} {I : σ → Prop} {J J' : α → Prop} {K : β → Prop}

/-- From a state with `I` the action leaves one with `I`, and what it answers has `J`. -/
def Keeps (I : σ → Prop) (J : α → Prop) (m : Action σ α) : Prop :=
  ∀ s, I s → I (m.run s).state ∧ ∀ a, (m.run s).answer = .ok a → J a

/-- No answer is asked for. -/
abbrev Preserves (I : σ → Prop) (m : Action σ α) : Prop := m.Keeps I fun _ => True

namespace Keeps

theorem pure {a : α} (h : J a) : (Pure.pure a : Action σ α).Keeps I J := by
  intro s hs
  refine ⟨hs, fun b hb => ?_⟩
  cases hb
  exact h

/-- An action keeps what its parts keep, where the second may rely on what the first answers. -/
theorem bind {m : Action σ α} {f : α → Action σ β} (hm : m.Keeps I J)
    (hf : ∀ a, J a → (f a).Keeps I K) : (m >>= f).Keeps I K := by
  intro s hs
  obtain ⟨kept, answered⟩ := hm s hs
  rw [run_bind]
  rcases h : m.run s with ⟨answer | a, s', es⟩
  · rw [h] at kept
    refine ⟨kept, fun b hb => ?_⟩
    cases hb
  · rw [h] at kept answered
    exact hf a (answered a rfl) s' kept

theorem mono {m : Action σ α} (hm : m.Keeps I J) (h : ∀ a, J a → J' a) : m.Keeps I J' := by
  intro s hs
  obtain ⟨kept, answered⟩ := hm s hs
  exact ⟨kept, fun a ha => h a (answered a ha)⟩

theorem read : (Action.read : Action σ σ).Keeps I I := by
  intro s hs
  refine ⟨hs, fun a ha => ?_⟩
  cases ha
  exact hs

theorem write {s : σ} (h : I s) : (Action.write s).Preserves I :=
  fun _ _ => ⟨h, fun _ _ => trivial⟩

/-- Only a fault that is logged and passed over leaves anything to go on with. -/
theorem raise {h : Handling} {d : Diagnostic} :
    (Action.raise h d : Action σ Unit).Keeps I fun _ => h = .logAndContinue := by
  intro s hs
  cases h with
  | unwind | abort => exact ⟨hs, fun _ ha => by cases ha⟩
  | logAndContinue => exact ⟨hs, fun _ _ => rfl⟩

/-- Actions done one after the other keep what each of them keeps. -/
theorem forM {γ : Type} {f : γ → Action σ Unit} (hf : ∀ c, (f c).Preserves I) :
    ∀ cs : List γ, (cs.forM f).Preserves I
  | [] => pure trivial
  | c :: cs => (hf c).bind fun _ _ => forM hf cs

end Keeps

end Action

/-! ### The operations on a safe integer -/

namespace SafeInt

open CheckedInt.Action

variable {t s : IntType} {p : Policies} {σ : Type} {I : σ → Prop} {P : Word t → Prop}

/-- The stored word has the property. -/
def Holds (P : Word t → Prop) (x : SafeInt t p) : Prop := P x.value

/-- Every word of the domain has the property. -/
def Covers (p : Policies) (P : Word t → Prop) : Prop := ∀ v, p.domain.accepts t v = true → P v

theorem keeps_raise {f : Fault} : (raise p f : Action σ Unit).Keeps I fun _ =>
    p.handling = .logAndContinue :=
  Keeps.raise

/-- A construction answers with a word of the domain, or with the low bits of one that the domain
rejects if the fault is passed over. -/
theorem keeps_create (hP : Covers p P) {raw : Word s}
    (low : p.handling = .logAndContinue → p.domain.accepts t raw = false →
      P (Word.truncate t raw.widen)) :
    (create p t raw : Action σ (SafeInt t p)).Keeps I (Holds P) := by
  rw [create]
  cases h : tryCreate p t raw with
  | ok x => exact Keeps.pure (hP _ (tryCreate_accepts h))
  | error f =>
      exact keeps_raise.bind fun _ passed =>
        Keeps.pure (low passed (tryCreate_eq_error_iff.mp h).1)

/-- An assignment stores what is in the domain, or nothing. -/
theorem keeps_assign (hP : Covers p P) {raw : Word s} :
    (assign raw : Action (SafeInt t p) Unit).Preserves (Holds P) := by
  rw [assign]
  cases h : validated p.domain t .invalidAssignment raw with
  | ok v => exact Keeps.write (hP _ (validated_eq_ok_iff.mp h).2)
  | error f => exact keeps_raise.mono fun _ _ => trivial

theorem keeps_assignAll (hP : Covers p P) (raws : List Literal) :
    (assignAll raws : Action (SafeInt t p) Unit).Preserves (Holds P) :=
  Keeps.forM (fun _ => keeps_assign hP) raws

theorem keeps_modify (hP : Covers p P) (edit : Word t → Word t) :
    (modify edit : Action (SafeInt t p) Unit).Preserves (Holds P) :=
  Keeps.read.bind fun _ _ => keeps_assign hP

/-- The operand stands in for a result that is refused. -/
theorem keeps_resultOr {x : SafeInt t p} {result : Except Fault (SafeInt t p)} (hx : Holds P x)
    (hy : ∀ y, result = .ok y → Holds P y) :
    (x.resultOr result : Action σ (SafeInt t p)).Keeps I (Holds P) := by
  cases result with
  | ok y => exact Keeps.pure (hy y rfl)
  | error f => exact keeps_raise.bind fun _ _ => Keeps.pure hx

/-- An operator gives what is in the domain, or its left operand. -/
theorem keeps_apply (hP : Covers p P) {x : SafeInt t p} (hx : Holds P x) (op : Operator)
    (r : Word s) : (x.apply op r : Action σ (SafeInt t p)).Keeps I (Holds P) :=
  keeps_resultOr hx fun _ h => hP _ (tryApply_accepts h)

theorem keeps_applyAssign (hP : Covers p P) (op : Operator) (r : Word s) :
    (applyAssign op r : Action (SafeInt t p) Unit).Preserves (Holds P) := by
  refine Keeps.read.bind fun x _ => ?_
  cases x.tryApply op r with
  | ok y => exact keeps_assign hP
  | error f => exact keeps_raise.mono fun _ _ => trivial

theorem keeps_preStep (hP : Covers p P) (d : Direction) :
    (preStep d : Action (SafeInt t p) (SafeInt t p)).Keeps (Holds P) (Holds P) :=
  (keeps_applyAssign hP _ _).bind fun _ _ => Keeps.read

/-- A step to a neighbour stores what is in the domain and gives what was stored before. -/
theorem keeps_postStep (hP : Covers p P) (d : Direction) :
    (postStep d : Action (SafeInt t p) (SafeInt t p)).Keeps (Holds P) (Holds P) := by
  refine Keeps.read.bind fun previous hx => ?_
  cases h : previous.tryApply d.operator (Word.ofInt .u8 1) with
  | ok next =>
      have committed : Holds P next := hP _ (tryApply_accepts h)
      exact (Keeps.write committed).bind fun _ _ => Keeps.pure hx
  | error f => exact keeps_raise.bind fun _ _ => Keeps.pure hx

theorem keeps_negate (hP : Covers p P) {x : SafeInt t p} (hx : Holds P x) :
    (x.negate : Action σ (SafeInt t p)).Keeps I (Holds P) :=
  keeps_resultOr hx fun _ h => hP _ (settled_accepts h)

theorem keeps_complement (hP : Covers p P) {x : SafeInt t p} (hx : Holds P x) :
    (x.complement : Action σ (SafeInt t p)).Keeps I (Holds P) := by
  refine keeps_resultOr hx fun y h => ?_
  split at h
  · cases h
    exact hP _ ‹_›
  · cases h

end SafeInt

end CheckedInt
