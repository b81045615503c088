import CheckedInt.Proofs.Acceptance

/-!
# Neighbours — steps up and down

A step adds an eight-bit one or takes it away, and no type is narrower than that, so under either
promotion it goes wherever the domain contains the neighbour (`SafeInt.tryApply_neighbour`).  The
form that answers the new value assigns the result, the form that answers the old value stores it
directly, and each tells a refusal in its own words.

* `SafeInt.run_preStep`, `SafeInt.run_postStep`: what each form leaves, by one test of the domain.
* `Direction.neighbour_opposite`, `SafeInt.moved_opposite`: the way back leads to the old value.

**Steps are exact** (`SafeInt.neighbour_steps_exact`).  Both forms reach the neighbour if it is in
the domain and stay where they are if it is not; and from a neighbour that was reached from within
the domain, both forms of the opposite step lead back.
-/

namespace CheckedInt

open CheckedInt.Action

namespace Direction

/-- The direction that leads back. -/
def opposite : Direction → Direction
  | up => down
  | down => up

/-- The way back leads from the neighbour to the integer. -/
theorem neighbour_opposite (d : Direction) (n : Int) :
    d.opposite.neighbour (d.neighbour n) = n := by
  cases d with
  | up => exact Int.add_sub_cancel n 1
  | down => exact Int.sub_add_cancel n 1

end Direction

namespace SafeInt

variable {t : IntType} {p : Policies}

/-! ### Moves -/

/-- The safe integer of the neighbour. -/
def moved (x : SafeInt t p) (d : Direction) : SafeInt t p :=
  ⟨Word.ofInt t (d.neighbour x.value.toInt)⟩

theorem toInt_moved {x : SafeInt t p} {d : Direction}
    (contained : p.domain.Contains t (d.neighbour x.value.toInt)) :
    (x.moved d).value.toInt = d.neighbour x.value.toInt :=
  Word.toInt_ofInt contained.1

/-- A move into the domain is undone by the move back. -/
theorem moved_opposite {x : SafeInt t p} {d : Direction}
    (contained : p.domain.Contains t (d.neighbour x.value.toInt)) :
    (x.moved d).moved d.opposite = x := by
  show SafeInt.mk (Word.ofInt t (d.opposite.neighbour (x.moved d).value.toInt)) = x
  rw [toInt_moved contained, Direction.neighbour_opposite, Word.ofInt_toInt]

/-! ### What a step leaves -/

/-- A step that returns the new value moves if the domain contains the neighbour, and otherwise
overflows as the sum or difference. -/
theorem run_preStep (x : SafeInt t p) (d : Direction) :
    (preStep d : Action (SafeInt t p) (SafeInt t p)).run x =
      if p.domain.Contains t (d.neighbour x.value.toInt) then ⟨.ok (x.moved d), x.moved d, []⟩
      else
        ⟨p.handling.verdict (Fault.overflow d.operator).diagnostic x, x,
          [p.handling.event (Fault.overflow d.operator).diagnostic]⟩ := by
  rw [preStep_eq]
  refine run_transact_of_ite ?_
  rw [tryApply_neighbour]
  exact apply_ite (Except.map _) _ _ _

/-- A step that returns the old value moves if the domain contains the neighbour, and otherwise
raises a fault of its own. -/
theorem run_postStep (x : SafeInt t p) (d : Direction) :
    (postStep d : Action (SafeInt t p) (SafeInt t p)).run x =
      if p.domain.Contains t (d.neighbour x.value.toInt) then ⟨.ok x, x.moved d, []⟩
      else
        ⟨p.handling.verdict d.fault.diagnostic x, x, [p.handling.event d.fault.diagnostic]⟩ := by
  rw [postStep_eq]
  refine run_transact_of_ite ?_
  rw [tryApply_neighbour, apply_ite (Except.mapError _), apply_ite (Except.map _)]
  rfl

/-- A step that raises nothing has reached the neighbour, in either form. -/
theorem moved_of_quiet {x : SafeInt t p} {d : Direction} {step : Ending (SafeInt t p) (SafeInt t p)}
    (mem : step ∈ [(preStep d : Action (SafeInt t p) (SafeInt t p)).run x, (postStep d).run x])
    (quiet : step.events = []) :
    p.domain.Contains t (d.neighbour x.value.toInt) ∧ step.state = x.moved d := by
  rw [run_preStep, run_postStep] at mem
  by_cases contained : p.domain.Contains t (d.neighbour x.value.toInt)
  · rw [if_pos contained, if_pos contained] at mem
    rcases List.mem_pair.mp mem with rfl | rfl <;> exact ⟨contained, rfl⟩
  · rw [if_neg contained, if_neg contained] at mem
    rcases List.mem_pair.mp mem with rfl | rfl <;> cases quiet

/-- From a neighbour that was reached, both forms lead back into the domain. -/
theorem run_opposite {x : SafeInt t p} {d : Direction}
    (contained : p.domain.Contains t (d.neighbour x.value.toInt))
    (member : p.domain.accepts t x.value = true) :
    (preStep d.opposite : Action (SafeInt t p) (SafeInt t p)).run (x.moved d) = ⟨.ok x, x, []⟩ ∧
      (postStep d.opposite : Action (SafeInt t p) (SafeInt t p)).run (x.moved d) =
        ⟨.ok (x.moved d), x, []⟩ := by
  have back : p.domain.Contains t (d.opposite.neighbour (x.moved d).value.toInt) := by
    rw [toInt_moved contained, Direction.neighbour_opposite]
    exact Domain.accepts_iff.mp member
  rw [run_preStep, run_postStep, if_pos back, if_pos back, moved_opposite contained]
  exact ⟨rfl, rfl⟩

/-! ### Exactness -/

/-- **Steps are exact.**  If the domain contains the neighbour, both forms store it and raise
nothing; the first answers the neighbour, the second the old value.  Otherwise both leave the old
value, raise one overflow, and answer the old value if that is passed over.  From a member of the
domain every step that raises nothing is taken back by both forms of the opposite step. -/
theorem neighbour_steps_exact (x : SafeInt t p) (d : Direction) :
    let next := d.neighbour x.value.toInt
    let pre := (preStep d : Action (SafeInt t p) (SafeInt t p)).run x
    let post := (postStep d : Action (SafeInt t p) (SafeInt t p)).run x
    let preError : Diagnostic := ⟨.overflow, match d with
      | .up => "Overflow on addition"
      | .down => "Overflow on subtraction"⟩
    let postError : Diagnostic := ⟨.overflow, match d with
      | .up => "Overflow on increment"
      | .down => "Overflow on decrement"⟩
    (p.domain.Contains t next →
      ∃ y, y.value.toInt = next ∧ pre = ⟨.ok y, y, []⟩ ∧ post = ⟨.ok x, y, []⟩) ∧
    (¬ p.domain.Contains t next →
      pre = ⟨p.handling.verdict preError x, x, [p.handling.event preError]⟩ ∧
      post = ⟨p.handling.verdict postError x, x, [p.handling.event postError]⟩) ∧
    (p.domain.accepts t x.value = true → ∀ step ∈ [pre, post], step.events = [] →
      (preStep d.opposite : Action (SafeInt t p) (SafeInt t p)).run step.state = ⟨.ok x, x, []⟩ ∧
      (postStep d.opposite : Action (SafeInt t p) (SafeInt t p)).run step.state =
        ⟨.ok step.state, x, []⟩) := by
  intro next pre post preError postError
  have pre_eq : pre = _ := x.run_preStep d
  have post_eq : post = _ := x.run_postStep d
  have pre_told : (Fault.overflow d.operator).diagnostic = preError := by cases d <;> rfl
  have post_told : d.fault.diagnostic = postError := by cases d <;> rfl
  rw [pre_told] at pre_eq
  rw [post_told] at post_eq
  refine ⟨fun contained => ?_, fun refused => ?_, fun member step mem quiet => ?_⟩
  · exact ⟨x.moved d, toInt_moved contained, pre_eq.trans (if_pos contained),
      post_eq.trans (if_pos contained)⟩
  · exact ⟨pre_eq.trans (if_neg refused), post_eq.trans (if_neg refused)⟩
  · -- a step that raises nothing has moved, so the domain contains the neighbour
    obtain ⟨contained, reached⟩ := moved_of_quiet mem quiet
    rw [reached]
    exact run_opposite contained member

/-- Up to 127 and back, and no further: the signed eight-bit type ties with that of the one added,
and native promotion keeps to it. -/
theorem neighbour_steps_exact_at_127 :
    let p : Policies := ⟨.full, .native, .logAndContinue⟩
    let x : SafeInt .i8 p := ⟨Word.ofInt .i8 126⟩
    let top : SafeInt .i8 p := ⟨Word.ofInt .i8 127⟩
    let pre (d : Direction) : Action (SafeInt .i8 p) (SafeInt .i8 p) := preStep d
    let post (d : Direction) : Action (SafeInt .i8 p) (SafeInt .i8 p) := postStep d
    (p.domain.Contains .i8 127 ∧ p.domain.accepts .i8 x.value = true ∧
      ∃ y, y.value.toInt = 127 ∧ (pre .up).run x = ⟨.ok y, y, []⟩ ∧
        (post .up).run x = ⟨.ok x, y, []⟩ ∧ (pre .down).run y = ⟨.ok x, x, []⟩ ∧
        (post .down).run y = ⟨.ok y, x, []⟩) ∧
    ¬ p.domain.Contains .i8 128 ∧
      (pre .up).run top =
        ⟨.ok top, top, [Handling.logAndContinue.event ⟨.overflow, "Overflow on addition"⟩]⟩ ∧
      (post .up).run top =
        ⟨.ok top, top, [Handling.logAndContinue.event ⟨.overflow, "Overflow on increment"⟩]⟩ := by
  intro p x top pre post
  have below : p.domain.Contains .i8 127 := by decide
  have above : ¬ p.domain.Contains .i8 128 := by decide
  have member : p.domain.accepts .i8 x.value = true := by decide
  obtain ⟨stored, -, back⟩ := neighbour_steps_exact x .up
  obtain ⟨y, value, reached, reached'⟩ := stored below
  have restored := back member _ List.mem_cons_self (congrArg Ending.events reached)
  rw [congrArg Ending.state reached] at restored
  obtain ⟨-, refused, -⟩ := neighbour_steps_exact top .up
  exact ⟨⟨below, member, y, value, reached, reached', restored⟩, above, refused above⟩

end SafeInt

end CheckedInt
