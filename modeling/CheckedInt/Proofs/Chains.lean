import CheckedInt.Proofs.Construction
import CheckedInt.Proofs.Registers

/-!
# Chains — one assignment after another

Each link of a chain starts from what the one before it has left, which is the old value where that
one was refused.

* `SafeInt.overwrittenBy`: a safe integer after words that the domain accepts.
* `run_assignAll_of_accepted`, `run_assignAll_of_rejected`, `run_assignAll_of_passed`: what a chain
  leaves if every word is accepted, if it stops at one that is not, and if it goes on after it.
* `run_modify`: an edit is the assignment of what it makes of a copy.

**Chains and edits are exact** (`chains_and_edits_exact`).  Where faults are passed over, a chain
leaves the last accepted word; otherwise the last word before the first that is rejected.  Of an
edit only the final value counts, and if that is rejected the old one is left.
-/

namespace CheckedInt

open CheckedInt.Action

variable {t : IntType} {p : Policies}

/-- A list holds a first element without the property, unless all of its elements have it. -/
theorem forall_or_exists_first {α : Type} (f : α → Bool) (xs : List α) :
    (∀ x ∈ xs, f x = true) ∨
      ∃ before x after, xs = before ++ x :: after ∧ (∀ y ∈ before, f y = true) ∧ f x = false := by
  cases found : xs.find? fun x => !f x with
  | none => exact .inl fun x mem => by simpa using List.find?_eq_none.mp found x mem
  | some x =>
      obtain ⟨fails, before, after, split, passes⟩ := List.find?_eq_some_iff_append.mp found
      exact .inr ⟨before, x, after, split, fun y mem => by simpa using passes y mem,
        by simpa using fails⟩

namespace SafeInt

/-! ### Runs of a chain -/

/-- What words that the domain accepts leave of a safe integer, stored one after the other. -/
def overwrittenBy (x : SafeInt t p) (us : List Literal) : SafeInt t p :=
  (us.getLast?.map fun u => ⟨Word.ofInt t u.word.toInt⟩).getD x

theorem overwrittenBy_cons (x : SafeInt t p) (u : Literal) (us : List Literal) :
    x.overwrittenBy (u :: us) = overwrittenBy ⟨Word.ofInt t u.word.toInt⟩ us := by
  rw [overwrittenBy, overwrittenBy, List.getLast?_cons]
  cases us.getLast? <;> rfl

/-- Its integer is that of the last word. -/
theorem toInt_overwrittenBy {us : List Literal}
    (accepted : ∀ u ∈ us, p.domain.accepts t u.word = true) (x : SafeInt t p) :
    (x.overwrittenBy us).value.toInt =
      (us.getLast?.map fun u => u.word.toInt).getD x.value.toInt := by
  rw [overwrittenBy]
  cases last : us.getLast? with
  | none => rfl
  | some u =>
      have fits := (Domain.accepts_iff.mp (accepted u (List.mem_of_getLast? last))).1
      exact Word.toInt_ofInt fits

theorem assignAll_cons (v : Literal) (vs : List Literal) :
    (assignAll (v :: vs) : Action (SafeInt t p) Unit) =
      assign v.word >>= fun _ => assignAll vs :=
  List.forM_cons

theorem assignAll_append (us vs : List Literal) :
    (assignAll (us ++ vs) : Action (SafeInt t p) Unit) =
      assignAll us >>= fun _ => assignAll vs :=
  List.forM_append

theorem assignAll_singleton (v : Literal) :
    (assignAll [v] : Action (SafeInt t p) Unit) = assign v.word := by
  rw [assignAll_cons]
  exact bind_pure_unit

/-- A chain whose values are all in the domain makes all of its assignments and logs nothing. -/
theorem run_assignAll_of_accepted {vs : List Literal}
    (accepted : ∀ v ∈ vs, p.domain.accepts t v.word = true) (x : SafeInt t p) :
    (assignAll vs : Action (SafeInt t p) Unit).run x = ⟨.ok (), x.overwrittenBy vs, []⟩ := by
  induction vs generalizing x with
  | nil => rfl
  | cons v vs ih =>
      obtain ⟨first, rest⟩ := List.forall_mem_cons.mp accepted
      rw [assignAll_cons, run_bind, run_assign, if_pos first, overwrittenBy_cons]
      simp only [ih rest, List.nil_append]

/-- A fault that is not passed over ends the chain. -/
theorem run_assignAll_of_rejected (stops : p.handling ≠ .logAndContinue) {before : List Literal}
    {v : Literal} (accepted : ∀ u ∈ before, p.domain.accepts t u.word = true)
    (rejected : p.domain.accepts t v.word = false) (after : List Literal) (x : SafeInt t p) :
    (assignAll (before ++ v :: after) : Action (SafeInt t p) Unit).run x =
      ⟨p.handling.verdict Fault.invalidAssignment.diagnostic (), x.overwrittenBy before,
        [p.handling.event Fault.invalidAssignment.diagnostic]⟩ := by
  rw [assignAll_append, run_bind, run_assignAll_of_accepted accepted, assignAll_cons]
  simp only [run_bind, run_assign, if_neg (Bool.eq_false_iff.mp rejected)]
  cases handling : p.handling with
  | unwind | abort => rfl
  | logAndContinue => exact absurd handling stops

/-- A fault that is passed over leaves a warning, and the rest of the chain as if the word had not
been there. -/
theorem run_assignAll_of_passed (passed : p.handling = .logAndContinue) (vs : List Literal)
    (x : SafeInt t p) :
    (assignAll vs : Action (SafeInt t p) Unit).run x =
      ⟨.ok (), x.overwrittenBy (vs.filter fun v => p.domain.accepts t v.word),
        (vs.filter fun v => !p.domain.accepts t v.word).map fun _ =>
          p.handling.event Fault.invalidAssignment.diagnostic⟩ := by
  induction vs generalizing x with
  | nil => rfl
  | cons v vs ih =>
      rw [assignAll_cons, run_bind, run_assign, List.filter_cons, List.filter_cons]
      cases accepted : p.domain.accepts t v.word with
      | true => simp [ih, overwrittenBy_cons]
      | false => simp [ih, passed, Handling.verdict, Handling.interruption?]

/-- An edit is the assignment of the edited value. -/
theorem run_modify (edit : Word t → Word t) (x : SafeInt t p) :
    (modify edit : Action (SafeInt t p) Unit).run x =
      (assign (edit x.value) : Action (SafeInt t p) Unit).run x :=
  run_read_bind _ x

end SafeInt

namespace Machine

open CheckedInt.SafeInt

/-! ### Exactness -/

/-- **Chains and edits are exact.**  Where faults are passed over, a chain of assignments answers,
leaves the last of the accepted words, and logs one warning for each that is rejected.  Whatever the
handling, it leaves its last word if all of them are accepted; and where a fault is not passed over,
it ends at the first word that is rejected and leaves the last one before it.  An edit does what the
assignment of its final value does, whatever was in the copy before that, and leaves the old value
if the final one is rejected.  All of this holds of a register as it does of the value in it. -/
theorem chains_and_edits_exact (x : SafeInt t p) (vs : List Literal) (edit : Word t → Word t) :
    let accepts (v : Literal) : Bool := p.domain.accepts t v.word
    let last (us : List Literal) : Int := (us.getLast?.map fun u => u.word.toInt).getD x.value.toInt
    let refused : Diagnostic := ⟨.range, "Invalid value passed on assignment"⟩
    let event := p.handling.event refused
    let chain := (assignAll vs : Action (SafeInt t p) Unit).run x
    let modified := (modify edit : Action (SafeInt t p) Unit).run x
    let final : Literal := ⟨t, edit x.value⟩
    (p.handling = .logAndContinue → chain.answer = .ok () ∧
      chain.state.value.toInt = last (vs.filter accepts) ∧
      chain.events = (vs.filter fun v => !accepts v).map fun _ => event) ∧
    ((∀ v ∈ vs, accepts v = true) →
      chain.answer = .ok () ∧ chain.state.value.toInt = last vs ∧ chain.events = []) ∧
    (p.handling ≠ .logAndContinue → ∀ before v after, vs = before ++ v :: after →
      (∀ u ∈ before, accepts u = true) → accepts v = false →
      chain.answer = p.handling.verdict refused () ∧ chain.state.value.toInt = last before ∧
        chain.events = [event]) ∧
    (modified = (assign final.word : Action (SafeInt t p) Unit).run x ∧
      (∀ scratch : List (Edit t),
        (modify (Edit.applyAll (scratch ++ [.set final.word])) : Action (SafeInt t p) Unit).run x =
          modified) ∧
      (accepts final = true → modified = ⟨.ok (), ⟨final.word⟩, []⟩) ∧
      (accepts final = false → modified = ⟨p.handling.verdict refused (), x, [event]⟩)) ∧
    ∀ r (regs : Registers t p), regs[r]? = some x →
      (Step.assign r vs).perform.run regs =
        ⟨chain.answer.map fun _ => .done, regs.set r chain.state, chain.events⟩ ∧
      (Step.modify r edit).perform.run regs = (Step.assign r [final]).perform.run regs ∧
      (accepts final = false → ((Step.modify r edit).perform.run regs).state = regs) := by
  intro accepts last refused event chain modified final
  have assigned : modified = (assign final.word : Action (SafeInt t p) Unit).run x :=
    run_modify edit x
  have modified_eq : modified = _ := assigned.trans (run_assign _ x)
  have left_of_rejected (rejected : accepts final = false) :
      modified = ⟨p.handling.verdict refused (), x, [event]⟩ :=
    modified_eq.trans (if_neg (Bool.eq_false_iff.mp rejected))
  refine ⟨fun passed => ?_, fun accepted => ?_, ?_, ⟨assigned, fun scratch => ?_,
    fun accepted => ?_, left_of_rejected⟩, fun r regs hx => ⟨run_onRegister_done hx, ?_, ?_⟩⟩
  · have ran : chain = _ := run_assignAll_of_passed passed vs x
    rw [ran]
    exact ⟨rfl, toInt_overwrittenBy (fun u mem => (List.mem_filter.mp mem).2) x, rfl⟩
  · have ran : chain = _ := run_assignAll_of_accepted accepted x
    rw [ran]
    exact ⟨rfl, toInt_overwrittenBy accepted x, rfl⟩
  · rintro stops before v after rfl accepted rejected
    have ran : chain = _ := run_assignAll_of_rejected stops accepted rejected after x
    rw [ran]
    exact ⟨rfl, toInt_overwrittenBy accepted x, rfl⟩
  · -- the last change sets the value, whatever was made of it before
    have overwritten : Edit.applyAll (scratch ++ [.set final.word]) x.value = final.word := by
      rw [Edit.applyAll, List.foldl_append]
      rfl
    rw [run_modify, overwritten, assigned]
  · rw [modified_eq, if_pos accepted, Word.ofInt_toInt]
  · rw [Step.perform, Step.perform, run_onRegister_done hx, run_onRegister_done hx, run_modify,
      assignAll_singleton]
  · intro rejected
    have ran : (modify edit : Action (SafeInt t p) Unit).run x = _ := left_of_rejected rejected
    rw [Step.perform, run_onRegister_done hx, ran]
    exact set_getElem?_self hx

/-- In a domain from 0 to 100 a chain of 7, 300, 9 and -1 leaves 9 where faults are passed over, and
stops with 7 where they unwind.  An edit to 200 leaves its register alone. -/
theorem chains_and_edits_exact_of_300 :
    let unwinding : Policies := ⟨.ranged (Word.ofInt .i128 0) (Word.ofInt .i128 100), .native,
      .unwind⟩
    let passing : Policies := { unwinding with handling := .logAndContinue }
    let vs : List Literal := [⟨.i8, Word.ofInt .i8 7⟩, ⟨.i32, Word.ofInt .i32 300⟩,
      ⟨.u128, Word.ofInt .u128 9⟩, ⟨.i64, Word.ofInt .i64 (-1)⟩]
    let half : Word .u8 := Word.ofInt .u8 50
    let passed := (assignAll vs : Action (SafeInt .u8 passing) Unit).run ⟨half⟩
    let stopped := (assignAll vs : Action (SafeInt .u8 unwinding) Unit).run ⟨half⟩
    let edit : Step .u8 := .modify 0 fun _ => Word.ofInt .u8 200
    (passed.answer = .ok () ∧ passed.state.value.toInt = 9 ∧ passed.events.length = 2) ∧
      (stopped.answer = .error (.unwound ⟨.range, "Invalid value passed on assignment"⟩) ∧
        stopped.state.value.toInt = 7) ∧
      (edit.perform.run [(⟨half⟩ : SafeInt .u8 unwinding)]).state = [⟨half⟩] := by
  intro unwinding passing vs half passed stopped edit
  obtain ⟨goesOn, -, -, -, -⟩ :=
    chains_and_edits_exact (⟨half⟩ : SafeInt .u8 passing) vs id
  obtain ⟨-, -, stops, -, registers⟩ :=
    chains_and_edits_exact (⟨half⟩ : SafeInt .u8 unwinding) vs fun _ => Word.ofInt .u8 200
  obtain ⟨answered, left, logged⟩ := goesOn rfl
  obtain ⟨interrupted, leftBefore, -⟩ :=
    stops nofun [⟨.i8, Word.ofInt .i8 7⟩] ⟨.i32, Word.ofInt .i32 300⟩ _ rfl (by decide) (by decide)
  obtain ⟨-, -, alone⟩ := registers 0 [⟨half⟩] rfl
  refine ⟨⟨answered, left.trans (by decide), ?_⟩, ⟨interrupted, leftBefore.trans (by decide)⟩,
    alone (by decide)⟩
  rw [logged]
  decide

end Machine

end CheckedInt
