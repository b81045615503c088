import CheckedInt.Proofs.Invariant
import CheckedInt.Proofs.Simulation

/-!
# Relaxation — more permissive policies

A run is clean if it raises no fault and answers with none (`Frame.isClean`).

**Relaxation** (`clean_run_of_relaxed`).  A clean run stays the same, frame by frame, if the domain
accepts more or if promotion becomes automatic: by the simulation of its steps every step does what
it did.  The way that faults are handled plays no part, as there are none.
-/

namespace CheckedInt.Machine

open CheckedInt.SafeInt

variable {t : IntType} {p q : Policies}

/-- No fault was raised, and none was the answer. -/
def Frame.isClean (frame : Frame t) : Bool :=
  frame.events.isEmpty &&
    match frame.answer with
    | .ok (.refused _) | .error _ => false
    | .ok _ => true

/-- A clean frame has no event and an answer that is not a fault. -/
theorem Frame.isClean_iff {frame : Frame t} :
    frame.isClean = true ↔
      frame.events = [] ∧ ∃ a, frame.answer = .ok a ∧ ∀ f, a ≠ .refused f := by
  obtain ⟨answer, registers, events⟩ := frame
  rw [isClean, Bool.and_eq_true, List.isEmpty_iff]
  refine and_congr_right fun _ => ?_
  rcases answer with i | a
  · simp
  · cases a <;> simp

/-- A clean run is the same under policies that permit more. -/
theorem runFrom_of_clean (permits : Permits False t p q) (steps : List (Step t)) :
    ∀ {regs : Registers t p}, (∀ frame ∈ runFrom regs steps, frame.isClean = true) →
      runFrom (regs.map (recast q)) steps = runFrom regs steps := by
  induction steps with
  | nil => exact fun _ => rfl
  | cons step rest ih =>
      intro regs clean
      have first := clean _ (List.mem_of_getElem? (runFrom_cons_zero regs step rest))
      obtain ⟨quiet, a, answered, unrefused⟩ := Frame.isClean_iff.mp first
      obtain ⟨run_p, run_q⟩ := runFrom_cons_of_quiet permits quiet
        (fun b answered' => .inr (Except.ok.inj (answered.symm.trans answered') ▸ unrefused)) rest
      rw [run_p] at clean
      rw [run_p, run_q, ih fun later mem => clean later (List.mem_cons_of_mem _ mem)]

/-- **Relaxing the policies changes no clean run.**  If the second domain accepts all that the first
accepts of the stored type, and promotion stays as it is or becomes automatic, a clean run has the
same frames under both, however faults are handled.  At the bottom, an operator that has a result
under native promotion has the same under automatic promotion. -/
theorem clean_run_of_relaxed :
    (∀ (V₁ V₂ : Domain) (P₁ P₂ : Promotion) (h₁ h₂ : Handling) (steps : List (Step t)),
      (∀ w : Word t, V₁.accepts t w = true → V₂.accepts t w = true) →
      (P₁ = P₂ ∨ P₁ = .native ∧ P₂ = .automatic) →
      (∀ frame ∈ run ⟨V₁, P₁, h₁⟩ steps, frame.isClean = true) →
      run ⟨V₂, P₂, h₂⟩ steps = run ⟨V₁, P₁, h₁⟩ steps ∧
        ∀ frame ∈ run ⟨V₂, P₂, h₂⟩ steps, frame.isClean = true) ∧
    ∀ {s u : IntType} (op : Operator) (l : Word s) (r : Word u) (w : Wide),
      evaluate .native op l r = .ok w → evaluate .automatic op l r = .ok w := by
  refine ⟨fun V₁ V₂ P₁ P₂ h₁ h₂ steps wider promoted clean => ?_,
    fun op l r w => evaluate_automatic_of_native⟩
  have permits : Permits False t ⟨V₁, P₁, h₁⟩ ⟨V₂, P₂, h₂⟩ :=
    ⟨wider, promoted, False.elim, False.elim⟩
  have same : run ⟨V₂, P₂, h₂⟩ steps = run ⟨V₁, P₁, h₁⟩ steps :=
    runFrom_of_clean permits steps clean
  exact ⟨same, same ▸ clean⟩

/-- A product and a sum that stay in a domain from 0 to 100 are the same over the whole type. -/
theorem clean_run_of_relaxed_100 :
    let domain : Domain := .ranged (Word.ofInt .i128 0) (Word.ofInt .i128 100)
    let steps : List (Step .u8) := [.create ⟨.i32, Word.ofInt .i32 30⟩,
      .applyAssign 0 .mul (.literal ⟨.u8, Word.ofInt .u8 2⟩),
      .apply 0 .add (.literal ⟨.i16, Word.ofInt .i16 40⟩) .append]
    (∀ frame ∈ run ⟨domain, .native, .unwind⟩ steps, frame.isClean = true) ∧
      run ⟨.full, .automatic, .abort⟩ steps = run ⟨domain, .native, .unwind⟩ steps := by
  intro domain steps
  have clean : ∀ frame ∈ run ⟨domain, .native, .unwind⟩ steps, frame.isClean = true := by decide
  have wider : ∀ w : Word .u8, domain.accepts .u8 w = true → Domain.full.accepts .u8 w = true :=
    fun _ accepted => Domain.accepts_iff.mpr ⟨(Domain.accepts_iff.mp accepted).1, trivial⟩
  exact ⟨clean, (clean_run_of_relaxed.1 _ _ _ _ _ _ _ wider (.inr ⟨rfl, rfl⟩) clean).1⟩

end CheckedInt.Machine
