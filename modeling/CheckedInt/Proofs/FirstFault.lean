import CheckedInt.Proofs.Invariant
import CheckedInt.Proofs.Simulation

/-!
# First fault — where the handlings part

`AgreeToFault` relates three runs of one list of steps: one that passes faults over, one that
unwinds and one that aborts.  They show the same frames as long as no event is logged, and then all
three log one diagnostic.  Unwinding logs nothing else in that step, and aborting ends with it.  By
the simulation of the steps the three runs are related (`runFrom_agree`).

**Agreement** (`handlings_agree_to_first_fault`).  A run without a fault does not depend on the
handling at all.  One with faults does not depend on it before the first fault, and that is the same
under every handling.
-/

namespace CheckedInt.Machine

open CheckedInt.SafeInt

variable {t : IntType} {p : Policies}

/-! ### Runs that part at a fault -/

theorem exists_runFrom_cons (regs : Registers t p) (step : Step t) (rest : List (Step t)) :
    ∃ later, runFrom regs (step :: rest) =
      ⟨(step.perform.run regs).answer, (step.perform.run regs).state.map (·.value),
        (step.perform.run regs).events⟩ :: later := by
  rw [← List.head?_eq_some_iff, List.head?_eq_getElem?]
  exact runFrom_cons_zero regs step rest

/-- An abort ends the run. -/
theorem runFrom_cons_of_aborted {regs : Registers t p} {step : Step t}
    (h : (step.perform.run regs).answer = .error .aborted) (rest : List (Step t)) :
    runFrom regs (step :: rest) =
      [⟨.error .aborted, (step.perform.run regs).state.map (·.value),
        (step.perform.run regs).events⟩] := by
  rw [runFrom, h]

/-- Runs that pass faults over, unwind and abort agree until the first of them logs an event.  They
log the same diagnostic there; unwinding answers with it, and aborting is at its end. -/
inductive AgreeToFault : List (Frame t) → List (Frame t) → List (Frame t) → Prop
  | done : AgreeToFault [] [] []
  | quiet {frame : Frame t} {passed unwound aborted : List (Frame t)} :
      frame.events = [] → AgreeToFault passed unwound aborted →
      AgreeToFault (frame :: passed) (frame :: unwound) (frame :: aborted)
  | fault {d : Diagnostic} {violating caught last : Frame t} (rest later : List (Frame t)) :
      violating.events.head?.map (·.diagnostic) = some d →
      caught.answer = .error (.unwound d) → caught.events = [Handling.unwind.event d] →
      last.answer = .error .aborted → last.events = [Handling.abort.event d] →
      AgreeToFault (violating :: rest) (caught :: later) [last]

namespace AgreeToFault

variable {passed unwound aborted : List (Frame t)}

/-- If nothing is logged where faults are passed over, the runs agree to the end. -/
theorem eq_of_quiet (h : AgreeToFault passed unwound aborted)
    (silent : ∀ frame ∈ passed, frame.events = []) : unwound = passed ∧ aborted = passed := by
  induction h with
  | done => exact ⟨rfl, rfl⟩
  | @quiet frame passed unwound aborted _ _ ih =>
      obtain ⟨unwound_eq, aborted_eq⟩ :=
        ih fun later mem => silent later (List.mem_cons_of_mem frame mem)
      exact ⟨congrArg _ unwound_eq, congrArg _ aborted_eq⟩
  | @fault d violating _ _ rest _ first =>
      rw [silent violating List.mem_cons_self] at first
      cases first

/-- The runs part at the first frame with an event. -/
theorem part {before rest : List (Frame t)} {violating : Frame t} :
    ∀ {unwound aborted : List (Frame t)},
      AgreeToFault (before ++ violating :: rest) unwound aborted →
      (∀ frame ∈ before, frame.events = []) → violating.events ≠ [] →
      ∃ d caught later last, unwound = before ++ caught :: later ∧ aborted = before ++ [last] ∧
        violating.events.head?.map (·.diagnostic) = some d ∧
        caught.answer = .error (.unwound d) ∧ caught.events = [Handling.unwind.event d] ∧
        last.answer = .error .aborted ∧ last.events = [Handling.abort.event d] := by
  induction before with
  | nil =>
      intro unwound aborted h _ raised
      cases h with
      | quiet silent => exact absurd silent raised
      | fault _ later first caught_d caught_event last_d last_event =>
          exact ⟨_, _, later, _, rfl, rfl, first, caught_d, caught_event, last_d, last_event⟩
  | cons frame before ih =>
      intro unwound aborted h silent raised
      cases h with
      | quiet _ h =>
          obtain ⟨d, caught, later, last, rfl, rfl, facts⟩ :=
            ih h (fun later mem => silent later (List.mem_cons_of_mem _ mem)) raised
          exact ⟨d, caught, later, last, rfl, rfl, facts⟩
      | fault _ _ first =>
          rw [silent frame List.mem_cons_self] at first
          cases first

end AgreeToFault

/-! ### Agreement -/

section

variable (V : Domain) (P : Promotion)

/-- A handling that ends a step or the program is compared with one that does neither. -/
theorem permits_of_ends {h : Handling} (ends : h ≠ .logAndContinue) :
    Permits True t ⟨V, P, .logAndContinue⟩ ⟨V, P, h⟩ :=
  ⟨fun _ accepted => accepted, .inl rfl, fun _ => ⟨rfl, rfl⟩, fun _ => ends⟩

/-- From registers of the same words the runs under the three handlings agree to the first fault. -/
theorem runFrom_agree (steps : List (Step t)) : ∀ regs : Registers t ⟨V, P, .logAndContinue⟩,
    AgreeToFault (runFrom regs steps) (runFrom (regs.map (recast ⟨V, P, .unwind⟩)) steps)
      (runFrom (regs.map (recast ⟨V, P, .abort⟩)) steps) := by
  induction steps with
  | nil => exact fun _ => .done
  | cons step rest ih =>
      intro regs
      -- both comparisons read the events of one step of the run that passes faults over
      have unwinds : Permits True t ⟨V, P, .logAndContinue⟩ ⟨V, P, .unwind⟩ :=
        permits_of_ends V P nofun
      have aborts : Permits True t ⟨V, P, .logAndContinue⟩ ⟨V, P, .abort⟩ :=
        permits_of_ends V P nofun
      cases events : (step.perform.run regs).events with
      | nil =>
          obtain ⟨run_p, run_u⟩ :=
            runFrom_cons_of_quiet unwinds events (fun _ _ => .inl trivial) rest
          obtain ⟨-, run_a⟩ := runFrom_cons_of_quiet aborts events (fun _ _ => .inl trivial) rest
          rw [run_p, run_u, run_a]
          exact .quiet events (ih _)
      | cons event more =>
          obtain ⟨i, hi, caught, caught_event⟩ :=
            (step.follows_perform unwinds regs).fault trivial event more events
          obtain ⟨j, hj, last, last_event⟩ :=
            (step.follows_perform aborts regs).fault trivial event more events
          cases hi
          cases hj
          obtain ⟨_, run_p⟩ := exists_runFrom_cons regs step rest
          obtain ⟨_, run_u⟩ := exists_runFrom_cons (regs.map (recast ⟨V, P, .unwind⟩)) step rest
          rw [run_p, run_u, runFrom_cons_of_aborted last]
          exact .fault _ _ (congrArg (fun es => es.head?.map (·.diagnostic)) events) caught
            caught_event rfl last_event

end

/-- **The handlings agree to the first fault.**  If the run that passes faults over logs nothing,
the runs that unwind and abort are the same.  Otherwise all three show the same frames before the
first one with an event.  There the run that unwinds is interrupted by the first diagnostic that is
passed over, the one that aborts ends for it, and neither logs anything else. -/
theorem handlings_agree_to_first_fault (V : Domain) (P : Promotion) (steps : List (Step t)) :
    let passed := run ⟨V, P, .logAndContinue⟩ steps
    let unwound := run ⟨V, P, .unwind⟩ steps
    let aborted := run ⟨V, P, .abort⟩ steps
    ((∀ frame ∈ passed, frame.events = []) → unwound = passed ∧ aborted = passed) ∧
    ∀ before violating rest, passed = before ++ violating :: rest →
      (∀ frame ∈ before, frame.events = []) → violating.events ≠ [] →
      ∃ d caught later last, unwound = before ++ caught :: later ∧ aborted = before ++ [last] ∧
        violating.events.head?.map (·.diagnostic) = some d ∧
        caught.answer = .error (.unwound d) ∧ caught.events = [Handling.unwind.event d] ∧
        last.answer = .error .aborted ∧ last.events = [Handling.abort.event d] := by
  intro passed unwound aborted
  have agree : AgreeToFault passed unwound aborted := runFrom_agree V P steps []
  refine ⟨agree.eq_of_quiet, fun before violating rest split silent raised => ?_⟩
  rw [split] at agree
  exact agree.part silent raised

/-- In a domain from 0 to 100 the sum of 60 and 41 is the first fault of a run: unwinding is caught
with its diagnostic, and aborting ends there. -/
theorem handlings_agree_to_first_fault_at_101 :
    let domain : Domain := .ranged (Word.ofInt .i128 0) (Word.ofInt .i128 100)
    let steps : List (Step .u8) := [.create ⟨.i32, Word.ofInt .i32 60⟩,
      .apply 0 .add (.literal ⟨.i16, Word.ofInt .i16 41⟩) .append]
    let first : Frame .u8 := ⟨.ok (.value (Word.ofInt .u8 60)), [Word.ofInt .u8 60], []⟩
    let d := (Fault.overflow .add).diagnostic
    ∃ caught later last, run ⟨domain, .native, .unwind⟩ steps = first :: caught :: later ∧
      run ⟨domain, .native, .abort⟩ steps = [first, last] ∧
      caught.answer = .error (.unwound d) ∧ last.events = [Handling.abort.event d] := by
  intro domain steps first d
  have passed : run ⟨domain, .native, .logAndContinue⟩ steps =
      [first] ++ [⟨.ok (.value (Word.ofInt .u8 60)), [Word.ofInt .u8 60, Word.ofInt .u8 60],
        [Handling.logAndContinue.event d]⟩] := by
    subst domain steps first d
    rfl
  have silent : ∀ frame ∈ [first], frame.events = [] := by
    rintro _ mem
    cases List.mem_singleton.mp mem
    rfl
  obtain ⟨d', caught, later, last, unwound, aborted, same, answered, -, -, logged⟩ :=
    (handlings_agree_to_first_fault domain .native steps).2 _ _ _ passed silent nofun
  cases same
  exact ⟨caught, later, last, unwound, aborted, answered, logged⟩

end CheckedInt.Machine
