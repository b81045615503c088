import CheckedInt.Proofs.Acceptance
import CheckedInt.Proofs.Recast

/-!
# Unary operators — negation and complement

The negation goes through the evaluation of a difference, the complement flips the bits of the word
and evaluates nothing.  Both have an exact integer that the domain alone decides on, and raise a
fault of their own where it does not contain that (`SafeInt.endingAt`).

* `SafeInt.ExactUnary`: what such an operator does.  It follows from its ending, for any exact
  result that is its own inverse (`SafeInt.exactUnary_of_run`).
* `SafeInt.map_value_of_run`: its word is the same under either promotion.
* `Operator.exact_bitXor_neg_one`: a complement is an "exclusive or" with minus one.

**Unary operators are exact** (`SafeInt.unary_operators_exact`).  This is so of both, under either
promotion, and the complement succeeds where the "exclusive or" does.
-/

namespace CheckedInt

open CheckedInt.Action

/-- Minus one has all bits, and so it flips those of the other integer. -/
theorem Operator.exact_bitXor_neg_one (n : Int) : Operator.exact .bitXor n (-1) = -n - 1 := by
  have flipped : Int.xor n (-1) = Int.lnot n := by
    refine Bits.eq_of_testBit_eq fun k => ?_
    have bit : Int.testBit (-1) k = true := by
      show (!Nat.testBit 0 k) = true
      rw [Nat.zero_testBit]
      rfl
    rw [Int.testBit_lxor, Int.testBit_lnot, bit, Bool.xor_true]
  rw [exact, flipped]
  cases n with
  | ofNat m =>
      show Int.negSucc m = -(m : Int) - 1
      rw [Int.negSucc_eq, neg_add, sub_eq_add_neg]
  | negSucc m =>
      show (m : Int) = -Int.negSucc m - 1
      rw [Int.neg_negSucc, Nat.cast_succ, Int.add_sub_cancel]

namespace SafeInt

variable {t : IntType} {p : Policies} {σ : Type}

/-! ### Endings -/

/-- An operator on `x` ends with the word of `n` if the domain contains that.  Otherwise it raises
the fault, and `x` stands in where that is passed over. -/
def endingAt (x : SafeInt t p) (n : Int) (f : Fault) (z : σ) : Ending σ (SafeInt t p) :=
  if p.domain.Contains t n then ⟨.ok ⟨Word.ofInt t n⟩, z, []⟩
  else ⟨p.handling.verdict f.diagnostic x, z, [p.handling.event f.diagnostic]⟩

/-- The ending is that of a success exactly if the domain contains the integer. -/
theorem endingAt_eq_ok_iff {x y : SafeInt t p} {n : Int} {f : Fault} {z : σ} :
    x.endingAt n f z = ⟨.ok y, z, []⟩ ↔ p.domain.Contains t n ∧ y.value.toInt = n := by
  rw [endingAt]
  by_cases contained : p.domain.Contains t n
  · have value : (Word.ofInt t n).toInt = n := Word.toInt_ofInt contained.1
    rw [if_pos contained, and_iff_right contained]
    refine ⟨fun same => ?_, fun exact => ?_⟩
    · cases same
      exact value
    · rw [← exact, Word.ofInt_toInt]
  · rw [if_neg contained]
    exact ⟨fun same => (List.cons_ne_nil _ _ (congrArg Ending.events same)).elim,
      fun reached => absurd reached.1 contained⟩

/-- An operator that gives the exact integer, and only if the domain contains that.  It is refused
with one diagnostic, and it takes itself back. -/
structure ExactUnary (op : SafeInt t p → Action σ (SafeInt t p)) (exact : Int → Int)
    (d : Diagnostic) : Prop where
  succeeds_iff : ∀ x z, (∃ y, (op x).run z = ⟨.ok y, z, []⟩) ↔
    p.domain.Contains t (exact x.value.toInt)
  value : ∀ x y z, (op x).run z = ⟨.ok y, z, []⟩ → y.value.toInt = exact x.value.toInt
  refusal : ∀ x z, ¬ p.domain.Contains t (exact x.value.toInt) →
    (op x).run z = ⟨p.handling.verdict d x, z, [p.handling.event d]⟩
  involutive : ∀ x y z, p.domain.accepts t x.value = true → (op x).run z = ⟨.ok y, z, []⟩ →
    (op y).run z = ⟨.ok x, z, []⟩

/-- All that is said of a unary operator follows from its ending. -/
theorem exactUnary_of_run {op : SafeInt t p → Action σ (SafeInt t p)} {exact : Int → Int}
    {f : Fault} (involutive : Function.Involutive exact)
    (run_op : ∀ x z, (op x).run z = x.endingAt (exact x.value.toInt) f z) :
    ExactUnary op exact f.diagnostic where
  succeeds_iff x z := by
    simp only [run_op, endingAt_eq_ok_iff]
    refine ⟨fun ⟨_, contained, _⟩ => contained, fun contained => ?_⟩
    exact ⟨⟨Word.ofInt t _⟩, contained, Word.toInt_ofInt contained.1⟩
  value x y z there := (endingAt_eq_ok_iff.mp (run_op x z ▸ there)).2
  refusal x z missing := (run_op x z).trans (if_neg missing)
  involutive x y z member there := by
    have back : exact y.value.toInt = x.value.toInt := by
      rw [(endingAt_eq_ok_iff.mp (run_op x z ▸ there)).2, involutive]
    rw [run_op, back]
    exact endingAt_eq_ok_iff.mpr ⟨Domain.accepts_iff.mp member, rfl⟩

/-- A result that hangs on the domain alone. -/
theorem run_resultOr_of_ite {x : SafeInt t p} {result : Except Fault (SafeInt t p)} {n : Int}
    {f : Fault}
    (tried : result = if p.domain.Contains t n then .ok ⟨Word.ofInt t n⟩ else .error f) (z : σ) :
    (x.resultOr result : Action σ (SafeInt t p)).run z = x.endingAt n f z := by
  rw [resultOr_eq]
  refine run_transact_of_ite ?_
  rw [tried]
  exact apply_ite (Except.map _) _ _ _

theorem run_negate (x : SafeInt t p) (z : σ) :
    (x.negate : Action σ (SafeInt t p)).run z =
      x.endingAt (-x.value.toInt) (.overflow .sub) z :=
  run_resultOr_of_ite x.tryNegate_eq z

theorem run_complement (signed : t.signed = true) (x : SafeInt t p) (z : σ) :
    (x.complement : Action σ (SafeInt t p)).run z =
      x.endingAt (-x.value.toInt - 1) .complement z := by
  refine run_resultOr_of_ite ((x.tryComplement_eq signed).trans ?_) z
  rw [← Word.toInt_complement signed, Word.ofInt_toInt]

/-- The word of an ending does not depend on the promotion. -/
theorem map_value_of_run (q : Promotion) {x : SafeInt t p} {n : Int} {f : Fault}
    {m : Action σ (SafeInt t p)} {m' : Action σ (SafeInt t { p with promotion := q })}
    (run_m : ∀ z, m.run z = x.endingAt n f z)
    (run_m' : ∀ z, m'.run z = (x.recast { p with promotion := q }).endingAt n f z) :
    value <$> m' = value <$> m := by
  refine Action.ext fun z => ?_
  rw [map_eq_pure_bind, map_eq_pure_bind, run_bind, run_bind, run_m, run_m', endingAt, endingAt]
  by_cases contained : p.domain.Contains t n
  · rw [if_pos contained, if_pos contained]
  · rw [if_neg contained, if_neg contained]
    cases p.handling <;> rfl

/-! ### The complement as an "exclusive or" -/

/-- The exclusive or with minus one succeeds exactly where the complement does, with the same
result. -/
theorem tryApply_bitXor_eq_ok_iff (signed : t.signed = true) {x y : SafeInt t p} {r : Word t}
    (minusOne : r.toInt = -1) :
    x.tryApply .bitXor r = .ok y ↔
      p.domain.Contains t (-x.value.toInt - 1) ∧ y.value.toInt = -x.value.toInt - 1 := by
  have exact : Operator.exact .bitXor x.value.toInt r.toInt = -x.value.toInt - 1 := by
    rw [minusOne, Operator.exact_bitXor_neg_one]
  have held : t.Contains (Operator.exact .bitXor x.value.toInt r.toInt) := by
    rw [exact, ← Word.toInt_complement signed]
    exact x.value.complement.contains_toInt
  have admitted : p.promotion = .native →
      Operator.bitXor.Admits (.machine t) x.value.toInt r.toInt := fun _ _ =>
    ⟨Representation.machine_contains.mpr x.value.contains_toInt,
      Representation.machine_contains.mpr r.contains_toInt⟩
  have defined : Operator.bitXor.Defined t.bits x.value.toInt r.toInt := trivial
  have fits := (p.promotion.spans_self t).fits_of_admits admitted rfl held
  rw [tryApply_eq_ok_iff_exact, and_iff_right defined, and_iff_right fits, exact, and_comm,
    Domain.accepts_iff]
  exact and_congr_left fun value => by rw [value]

/-! ### Exactness -/

/-- **Unary operators are exact.**  On a signed type the negation of `n` is `-n` and its complement
is `-n - 1`, and each succeeds exactly if the domain contains that.  Otherwise it raises one
overflow of its own, and the operand stands in for the result where that is passed over.  What an
operator makes of a member of the domain it takes back itself.  The promotion has no say in either
of them.  The complement succeeds with what an "exclusive or" with the word of minus one gives. -/
theorem unary_operators_exact (signed : t.signed = true) :
    ExactUnary (negate : SafeInt t p → Action σ (SafeInt t p)) (fun n => -n)
      ⟨.overflow, "Overflow on subtraction"⟩ ∧
    ExactUnary (complement : SafeInt t p → Action σ (SafeInt t p)) (fun n => -n - 1)
      ⟨.overflow, "Overflow on bitwise complement"⟩ ∧
    ∀ x : SafeInt t p,
      (∀ q : Promotion, let other := x.recast { p with promotion := q }
        (value <$> other.negate : Action σ (Word t)) = value <$> x.negate ∧
          (value <$> other.complement : Action σ (Word t)) = value <$> x.complement) ∧
      ∀ (r : Word t) (y : SafeInt t p) (z : σ), r.toInt = -1 →
        ((x.complement : Action σ (SafeInt t p)).run z = ⟨.ok y, z, []⟩ ↔
          x.tryApply .bitXor r = .ok y) := by
  have flips : Function.Involutive fun n : Int => -n - 1 := fun n => by
    beta_reduce
    omega
  refine ⟨exactUnary_of_run neg_neg run_negate, exactUnary_of_run flips (run_complement signed),
    fun x => ⟨fun q => ⟨?_, ?_⟩, fun r y z minusOne => ?_⟩⟩
  · exact map_value_of_run q x.run_negate (run_negate _)
  · exact map_value_of_run q (x.run_complement signed) (run_complement signed _)
  · rw [run_complement signed, endingAt_eq_ok_iff, tryApply_bitXor_eq_ok_iff signed minusOne]

/-- The least integer of eight bits has a complement and no negation.  In a domain from 0 to 10 the
complement of 3 is refused. -/
theorem unary_operators_exact_at_min :
    let p : Policies := ⟨.full, .native, .logAndContinue⟩
    let least : SafeInt .i8 p := ⟨Word.ofInt .i8 (-128)⟩
    let greatest : SafeInt .i8 p := ⟨Word.ofInt .i8 127⟩
    let narrow : Policies := ⟨.ranged (Word.ofInt .i128 0) (Word.ofInt .i128 10), .automatic,
      .abort⟩
    let three : SafeInt .i8 narrow := ⟨Word.ofInt .i8 3⟩
    ((least.negate : Action Unit _).run () =
        ⟨.ok least, (), [p.handling.event ⟨.overflow, "Overflow on subtraction"⟩]⟩ ∧
      (least.complement : Action Unit _).run () = ⟨.ok greatest, (), []⟩ ∧
      (greatest.complement : Action Unit _).run () = ⟨.ok least, (), []⟩ ∧
      least.tryApply .bitXor (Word.ofInt .i8 (-1)) = .ok greatest) ∧
    (three.complement : Action Unit _).run () = ⟨.error .aborted, (),
      [narrow.handling.event ⟨.overflow, "Overflow on bitwise complement"⟩]⟩ := by
  intro p least greatest narrow three
  obtain ⟨negation, flip, others⟩ := unary_operators_exact (σ := Unit) (t := .i8) (p := p) rfl
  obtain ⟨-, narrowFlip, -⟩ := unary_operators_exact (σ := Unit) (t := .i8) (p := narrow) rfl
  obtain ⟨-, xor⟩ := others least
  obtain ⟨y, flipped⟩ := (flip.succeeds_iff least ()).mpr (by decide)
  have value : y = greatest := by
    obtain ⟨v⟩ := y
    exact congrArg _ (Word.toInt_inj.mp ((flip.value least _ () flipped).trans (by decide)))
  subst value
  refine ⟨⟨negation.refusal least () (by decide), flipped, ?_, ?_⟩,
    narrowFlip.refusal three () (by decide)⟩
  · exact flip.involutive least _ () (by decide) flipped
  · exact (xor _ _ () (by decide)).mp flipped

end SafeInt

end CheckedInt
