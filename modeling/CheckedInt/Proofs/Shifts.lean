import CheckedInt.Proofs.Exactness

/-!
# Shifts — lossless, or refused for the right reason

The amount of a shift is read from a wide integer, held against the left operand's width, and only
then shifted by; the result is held against the promoted range.  On integers this comes to three
tests in a row, and the diagnostics of the three refusals tell them apart
(`Fault.diagnostic_injective`).

* `evaluate_shift_eq_error_iff_negative`, `evaluate_shift_eq_error_iff_amount`: a negative left
  operand is refused first, then an amount that is negative or not below the width.
* `Representation.contains_iff_of_nonneg`: the promoted range bounds what is left from above only.

**Exactness** (`evaluate_shift_exact`).  A shift to the right by an amount in bounds always has its
result, rounded down.  One to the left has its result exactly as long as that is at most the
greatest integer of the left type under native promotion, and of any type under automatic promotion.
-/

namespace CheckedInt

variable {s t : IntType} {α : Type}

/-! ### Faults and their diagnostics -/

namespace Fault

/-- Every fault. -/
def all : List Fault :=
  [invalidValue, invalidAssignment, divisionByZero, negativeShiftOperand, shiftAmountOutOfRange,
    overflow .add, overflow .sub, overflow .mul, overflow .div, overflow .rem, overflow .bitOr,
    overflow .bitAnd, overflow .bitXor, overflow .shl, overflow .shr, increment, decrement,
    complement]

theorem mem_all (f : Fault) : f ∈ all := by
  cases f with
  | overflow op => cases op <;> decide
  | _ => decide

/-- No two faults are told alike. -/
theorem diagnostic_injective : Function.Injective diagnostic := by
  have distinct : (all.map diagnostic).Nodup := by decide
  intro f g same
  exact List.inj_on_of_nodup_map distinct f.mem_all g.mem_all same

end Fault

/-- What is told of a refusal is told of this one only. -/
theorem mapError_diagnostic_eq_error_iff {result : Except Fault α} {f : Fault} :
    result.mapError Fault.diagnostic = .error f.diagnostic ↔ result = .error f := by
  cases result with
  | ok a => exact iff_of_false nofun nofun
  | error g =>
      refine ⟨fun same => ?_, congrArg (Except.mapError Fault.diagnostic)⟩
      exact congrArg _ (Fault.diagnostic_injective (Except.error.inj same))

/-! ### Refused operands -/

namespace Operator

variable {op : Operator} {width : Nat} {l r : Int}

/-- A shift has no result for a negative operand, and next for an amount out of range. -/
theorem undefined?_shift (h : op.isShift = true) (width : Nat) (l r : Int) :
    op.undefined? width l r =
      if l < 0 then some .negativeShiftOperand
      else if 0 ≤ r ∧ r < width then none
      else some .shiftAmountOutOfRange := by
  cases op
  case shl | shr => rfl
  all_goals cases h

/-- A result that is refused is refused as an overflow, so any other fault is one of operands. -/
theorem outcome_eq_error_iff_undefined {promoted : Representation} {f : Fault}
    (operands : f ≠ .overflow op) :
    op.outcome promoted width l r = .error f ↔ op.undefined? width l r = some f := by
  refine ⟨fun h => ?_, outcome_of_undefined⟩
  cases hu : op.undefined? width l r with
  | some g =>
      rw [outcome_of_undefined hu] at h
      cases h
      rfl
  | none =>
      rw [outcome_of_defined hu] at h
      split at h
      · cases h
      · cases h
        exact absurd rfl operands

end Operator

section

variable {p : Promotion} {op : Operator} {l : Word s} {r : Word t}

/-- A fault other than the operator's overflow is a matter of the operands alone. -/
theorem evaluate_eq_error_iff_undefined {f : Fault} (operands : f ≠ .overflow op) :
    evaluate p op l r = .error f ↔ op.undefined? s.bits l.toInt r.toInt = some f :=
  evaluate_eq_error_iff.trans (Operator.outcome_eq_error_iff_undefined operands)

/-- A shift is refused for its left operand exactly if that is negative, whatever the amount. -/
theorem evaluate_shift_eq_error_iff_negative (h : op.isShift = true) :
    evaluate p op l r = .error .negativeShiftOperand ↔ l.toInt < 0 := by
  have operands : Fault.negativeShiftOperand ≠ .overflow op := nofun
  rw [evaluate_eq_error_iff_undefined operands, Operator.undefined?_shift h]
  split
  · exact iff_of_true rfl ‹_›
  · refine iff_of_false (fun refused => ?_) ‹_›
    split at refused <;> cases refused

/-- A shift of an operand that is not negative is refused for its amount exactly if that is negative
or not below the operand's width. -/
theorem evaluate_shift_eq_error_iff_amount (h : op.isShift = true) (nonneg : 0 ≤ l.toInt) :
    evaluate p op l r = .error .shiftAmountOutOfRange ↔ r.toInt < 0 ∨ s.bits ≤ r.toInt := by
  have operands : Fault.shiftAmountOutOfRange ≠ .overflow op := nofun
  rw [evaluate_eq_error_iff_undefined operands, Operator.undefined?_shift h,
    if_neg (not_lt.mpr nonneg)]
  split
  · refine iff_of_false nofun ?_
    omega
  · refine iff_of_true rfl ?_
    omega

end

/-! ### Results in range -/

namespace Representation

theorem toInt_min_nonpos (r : Representation) : r.min.toInt ≤ 0 := by
  cases r with
  | widest => decide
  | machine t =>
      have pos : (0 : Int) < 2 ^ (t.bits - 1) := by positivity
      rw [toInt_min_machine, IntType.min_eq]
      split <;> omega

/-- A number that is not negative can only be too great. -/
theorem contains_iff_of_nonneg (r : Representation) {n : Int} (h : 0 ≤ n) :
    r.Contains n ↔ n ≤ r.max.toInt :=
  and_iff_right (r.toInt_min_nonpos.trans h)

end Representation

/-- What a shift to the right leaves of a number is in every range that holds the number. -/
theorem Representation.contains_shiftRight {r : Representation} {n : Int} (held : r.Contains n)
    (nonneg : 0 ≤ n) (k : Nat) : r.Contains (n / 2 ^ k) := by
  have smaller : n / 2 ^ k ≤ n := Int.ediv_le_self _ nonneg
  have stays : 0 ≤ n / 2 ^ k := Int.ediv_nonneg nonneg (by positivity)
  exact (r.contains_iff_of_nonneg stays).mpr (smaller.trans held.2)

/-- Both ways to promote keep the left type's range for a shift to the right. -/
theorem Promotion.promote_shr (p : Promotion) (lhs rhs : Representation) :
    p.promote .shr lhs rhs = lhs := by
  cases p <;> rfl

/-- The results of a shift to the left end with the left type's range, or with the widest one. -/
theorem Promotion.toInt_max_promote_shl (p : Promotion) :
    (p.promote .shl (.machine s) (.machine t)).max.toInt =
      match p with
      | .native => s.max
      | .automatic => 2 ^ 128 - 1 := by
  cases p with
  | native => exact Representation.toInt_max_machine s
  | automatic => exact Representation.toInt_max_widest

/-! ### Exactness -/

/-- **Shifts are exact.**  They refuse a negative left operand as such, and next an amount that is
negative or not below the left operand's width, however large it is.  What is left of a shift to the
right is always answered.  A shift to the left is answered with the exact multiple if that is at
most the greatest integer of the left type under native promotion, and of any type under automatic
promotion, and refused as an overflow if not. -/
theorem evaluate_shift_exact (p : Promotion) (l : Word s) (r : Word t) :
    let answer (op : Operator) := (evaluate p op l r).mapError Fault.diagnostic
    let multiple := l.toInt * 2 ^ r.toInt.toNat
    let greatest := match p with
      | .native => s.max
      | .automatic => 2 ^ 128 - 1
    (∀ op ∈ [Operator.shl, .shr],
      (answer op = .error ⟨.overflow, "Shift of negative value"⟩ ↔ l.toInt < 0) ∧
      (0 ≤ l.toInt → (answer op = .error ⟨.overflow, "Shift amount out of range"⟩ ↔
        r.toInt < 0 ∨ s.bits ≤ r.toInt))) ∧
    (0 ≤ l.toInt → 0 ≤ r.toInt ∧ r.toInt < s.bits →
      (∃ w, answer .shr = .ok w ∧ w.toInt = l.toInt / 2 ^ r.toInt.toNat) ∧
      ((∃ w, answer .shl = .ok w ∧ w.toInt = multiple) ↔ multiple ≤ greatest) ∧
      (¬ multiple ≤ greatest → answer .shl = .error ⟨.overflow, "Overflow on shift left"⟩)) := by
  intro answer multiple greatest
  refine ⟨fun op hop => ?_, fun nonneg amount => ?_⟩
  · have shift : op.isShift = true := by fin_cases hop <;> rfl
    refine ⟨?_, fun nonneg => ?_⟩
    · exact mapError_diagnostic_eq_error_iff.trans (evaluate_shift_eq_error_iff_negative shift)
    · exact mapError_diagnostic_eq_error_iff.trans
        (evaluate_shift_eq_error_iff_amount shift nonneg)
  · refine ⟨?_, ?_⟩
    · have defined : Operator.Defined .shr s.bits l.toInt r.toInt := ⟨nonneg, amount⟩
      obtain ⟨given, -⟩ := answer_of_defined (p := p) defined
      rw [Operator.fits_iff_of_not_bitwise rfl, Promotion.promote_shr] at given
      -- the result lies between zero and the left operand, whose type the promoted range holds
      have held := Representation.machine_contains.mpr l.contains_toInt
      exact given.mpr (Representation.contains_shiftRight held nonneg _)
    · -- a multiple that is not negative can only pass the upper end
      have nonneg_multiple : 0 ≤ Operator.exact .shl l.toInt r.toInt :=
        Int.mul_nonneg nonneg (by positivity)
      have defined : Operator.Defined .shl s.bits l.toInt r.toInt := ⟨nonneg, amount⟩
      obtain ⟨given, refused, -⟩ := answer_of_defined (p := p) defined
      rw [Operator.fits_iff_of_not_bitwise rfl,
        Representation.contains_iff_of_nonneg _ nonneg_multiple,
        Promotion.toInt_max_promote_shl] at given refused
      exact ⟨given, refused⟩

/-- Twice 255 leaves the eight bits of the left operand, which only native promotion minds, and an
amount of all 128 bits is not cut down to one in bounds. -/
theorem evaluate_shift_of_255 :
    let answer (p : Promotion) (op : Operator) (amount : Word .u128) :=
      (evaluate p op (Word.ofInt .u8 255) amount).mapError Fault.diagnostic
    (0 ≤ (Word.ofInt .u8 255).toInt ∧
      answer .native .shl (Word.ofInt .u128 (2 ^ 128 - 1)) =
        .error ⟨.overflow, "Shift amount out of range"⟩) ∧
    (0 ≤ (Word.ofInt .u128 1).toInt ∧ (Word.ofInt .u128 1).toInt < IntType.u8.bits ∧
      answer .native .shl (Word.ofInt .u128 1) = .error ⟨.overflow, "Overflow on shift left"⟩ ∧
      (∃ w, answer .automatic .shl (Word.ofInt .u128 1) = .ok w ∧ w.toInt = 510) ∧
      ∃ w, answer .native .shr (Word.ofInt .u128 1) = .ok w ∧ w.toInt = 127) := by
  intro answer
  have nonneg : 0 ≤ (Word.ofInt .u8 255).toInt := by decide
  have amount : 0 ≤ (Word.ofInt .u128 1).toInt ∧ (Word.ofInt .u128 1).toInt < IntType.u8.bits := by
    decide
  have large := (evaluate_shift_exact .native (Word.ofInt .u8 255)
    (Word.ofInt .u128 (2 ^ 128 - 1))).1 .shl (by decide)
  obtain ⟨right, -, refused⟩ := (evaluate_shift_exact .native (Word.ofInt .u8 255)
    (Word.ofInt .u128 1)).2 nonneg amount
  obtain ⟨-, left, -⟩ := (evaluate_shift_exact .automatic (Word.ofInt .u8 255)
    (Word.ofInt .u128 1)).2 nonneg amount
  exact ⟨⟨nonneg, (large.2 nonneg).mpr (by decide)⟩, amount.1, amount.2, refused (by decide),
    left.mpr (by decide), right⟩

end CheckedInt
