import CheckedInt.Wide.Lemmas

/-!
# Exactness of wide arithmetic

Each operation gives the exact result, and refuses it only if no wide integer stands for it.

* `add?_eq_some_iff`, `sub?_eq_some_iff`, `mul?_eq_some_iff`: sum, difference and product.
* `div?_eq_some_iff`, `rem?_eq_some_iff`: truncated quotient and remainder by a divisor other than
  zero.
* `shl?_eq_some_iff`, `shr?_eq_some_iff`: multiples by and truncated quotients by a power of two.
-/

namespace CheckedInt.Wide

@[simp] theorem toInt_neg (a : Wide) : (-a).toInt = -a.toInt := by
  show (neg a).toInt = _
  cases h : a.negative <;> simp [neg, toInt, h, ofParts]
  rintro hm
  simp [hm]

/-- An operation that is exact where it answers and refuses only what is out of range answers with
a wide integer exactly if that is the result. -/
theorem eq_some_iff_of_exact {result : Option Wide} {n : Int}
    (exact_of_some : ∀ c, result = some c → c.toInt = n)
    (out_of_none : result = none → 2 ^ 128 ≤ n.natAbs) {c : Wide} :
    result = some c ↔ c.toInt = n := by
  refine ⟨exact_of_some c, fun hc => ?_⟩
  cases hr : result with
  | none =>
    have := out_of_none hr
    have := c.natAbs_toInt_lt
    omega
  | some d => rw [ext_toInt ((exact_of_some d hr).trans hc.symm)]

/-- A sum is given exactly if a wide integer stands for it, whatever the signs of the operands. -/
theorem add?_eq_some_iff {a b c : Wide} : a.add? b = some c ↔ c.toInt = a.toInt + b.toInt := by
  have ha := a.magnitude.isLt
  have hb := b.magnitude.isLt
  refine eq_some_iff_of_exact (fun c h => ?_) (fun h => ?_) <;>
    simp only [add?, BitVec.uaddOverflow, decide_eq_true_eq, BitVec.le_def] at h
  · split at h
    · split at h
      · cases h
      · cases h
        rw [toInt_ofParts, BitVec.toNat_add_of_lt (by omega)]
        simp only [toInt]
        grind
    · -- of opposite signs the difference of the magnitudes never wraps
      split at h <;> cases h <;>
        rw [toInt_ofParts, BitVec.toNat_sub_of_le (BitVec.le_def.2 (by omega))] <;>
        simp only [toInt] <;>
        grind
  · split at h
    · split at h
      · simp only [toInt]
        grind
      · cases h
    · split at h <;> cases h

/-- A difference is given exactly if a wide integer stands for it. -/
theorem sub?_eq_some_iff {a b c : Wide} : a.sub? b = some c ↔ c.toInt = a.toInt - b.toInt := by
  rw [sub?, add?_eq_some_iff, toInt_neg]
  rfl

/-- The number of a product of signs and a magnitude. -/
theorem toInt_ofParts_bne (a b : Bool) (m : BitVec 128) :
    (ofParts (a != b) m).toInt =
      (if a then -1 else 1) * (if b then -1 else 1) * (m.toNat : Int) := by
  cases a <;> cases b <;> simp

theorem toInt_eq_sign_mul (a : Wide) :
    a.toInt = (if a.negative then -1 else 1) * (a.magnitude.toNat : Int) := by
  cases h : a.negative <;> simp [toInt, h]

/-- A product is given exactly if a wide integer stands for it. -/
theorem mul?_eq_some_iff {a b c : Wide} : a.mul? b = some c ↔ c.toInt = a.toInt * b.toInt := by
  refine eq_some_iff_of_exact (fun c h => ?_) (fun h => ?_) <;>
    simp only [mul?, BitVec.umulOverflow, decide_eq_true_eq] at h <;> split at h
  · cases h
  · cases h
    rw [toInt_ofParts_bne, BitVec.toNat_mul_of_lt (by omega), toInt_eq_sign_mul a,
      toInt_eq_sign_mul b]
    push_cast
    grind
  · rw [Int.natAbs_mul, natAbs_toInt, natAbs_toInt]
    assumption
  · cases h

/-- A quotient is truncated toward zero, and is missing for a divisor of zero only. -/
theorem div?_eq_some_iff {a b c : Wide} :
    a.div? b = some c ↔ b.toInt ≠ 0 ∧ c.toInt = a.toInt.tdiv b.toInt := by
  have toInt_quotient : (ofParts (a.negative != b.negative) (a.magnitude / b.magnitude)).toInt =
      a.toInt.tdiv b.toInt := by
    rw [toInt_ofParts_bne, BitVec.toNat_udiv]
    cases ha : a.negative <;> cases hb : b.negative <;>
      simp [toInt, ha, hb, Int.tdiv_neg, Int.neg_tdiv]
  simp only [div?]
  split
  case isTrue h => simp [isZero_iff.1 h]
  case isFalse h =>
    have hb : b.toInt ≠ 0 := fun hb => h (isZero_iff.2 hb)
    simp only [Option.some.injEq, hb, ne_eq, not_false_eq_true, true_and]
    rw [← toInt_inj, toInt_quotient, eq_comm]

/-- A remainder is that of the truncated quotient, and is missing for a divisor of zero only. -/
theorem rem?_eq_some_iff {a b c : Wide} :
    a.rem? b = some c ↔ b.toInt ≠ 0 ∧ c.toInt = a.toInt.tmod b.toInt := by
  have toInt_remainder : (ofParts a.negative (a.magnitude % b.magnitude)).toInt =
      a.toInt.tmod b.toInt := by
    have natCast_umod : ((a.magnitude.toNat % b.magnitude.toNat : Nat) : Int) =
        (a.magnitude.toNat : Int).tmod b.magnitude.toNat := rfl
    rw [toInt_ofParts, BitVec.toNat_umod, natCast_umod]
    cases ha : a.negative <;> cases hb : b.negative <;>
      simp [toInt, ha, hb, Int.tmod_neg, Int.neg_tmod]
  simp only [rem?]
  split
  case isTrue h => simp [isZero_iff.1 h]
  case isFalse h =>
    have hb : b.toInt ≠ 0 := fun hb => h (isZero_iff.2 hb)
    simp only [Option.some.injEq, hb, ne_eq, not_false_eq_true, true_and]
    rw [← toInt_inj, toInt_remainder, eq_comm]

/-- A shift to the right truncates toward zero, and is missing for an amount of 128 or more only. -/
theorem shr?_eq_some_iff {a c : Wide} {n : Nat} :
    a.shr? n = some c ↔ n < 128 ∧ c.toInt = a.toInt.tdiv (2 ^ n) := by
  have toInt_shifted : (ofParts a.negative (a.magnitude >>> n)).toInt = a.toInt.tdiv (2 ^ n) := by
    rw [toInt_ofParts, BitVec.toNat_ushiftRight, Nat.shiftRight_eq_div_pow]
    cases ha : a.negative <;> simp [toInt, ha, Int.neg_tdiv]
  simp only [shr?, Option.ite_none_right_eq_some, Option.some.injEq]
  rw [← toInt_inj, toInt_shifted, eq_comm]

/-- A magnitude times a power of two stays below `2 ^ 128` exactly if it has a leading zero for each
place that it goes. -/
theorem mul_two_pow_lt_iff_clz {m : BitVec 128} (nonzero : m ≠ 0#128) (n : Nat) :
    m.toNat * 2 ^ n < 2 ^ 128 ↔ n ≤ m.clz.toNat := by
  -- the leading zeros place the highest one of the magnitude
  have below : m.toNat < 2 ^ (128 - m.clz.toNat) := BitVec.toNat_lt_two_pow_sub_clz
  have above : 2 ^ (128 - 1 - m.clz.toNat) ≤ m.toNat :=
    BitVec.two_pow_sub_clz_le_toNat_of_ne_zero (by decide) nonzero
  have places : m.clz.toNat < 128 := BitVec.clz_lt_iff_ne_zero.mpr nonzero
  refine ⟨fun fits => ?_, fun enough => ?_⟩
  · have product : 2 ^ (128 - 1 - m.clz.toNat + n) < 2 ^ 128 := by
      rw [Nat.pow_add]
      exact Nat.lt_of_le_of_lt (Nat.mul_le_mul_right _ above) fits
    have := (Nat.pow_lt_pow_iff_right (by decide)).mp product
    omega
  · calc m.toNat * 2 ^ n < 2 ^ (128 - m.clz.toNat) * 2 ^ n :=
        Nat.mul_lt_mul_of_pos_right below (Nat.two_pow_pos n)
      _ = 2 ^ (128 - m.clz.toNat + n) := (Nat.pow_add _ _ _).symm
      _ ≤ 2 ^ 128 := Nat.pow_le_pow_right (by decide) (by omega)

/-- A magnitude has too few leading zeros exactly if its multiple leaves the 128 bits. -/
theorem clz_lt_iff (m : BitVec 128) (n : Nat) :
    m ≠ 0#128 ∧ m.clz.toNat < n ↔ ¬ m.toNat * 2 ^ n < 2 ^ 128 := by
  by_cases zero : m = 0#128
  · simp [zero]
  · rw [and_iff_right zero, mul_two_pow_lt_iff_clz zero, Nat.not_le]

/-- A shift to the left by less than 128 is given exactly if a wide integer stands for the
multiple. -/
theorem shl?_eq_some_iff {a c : Wide} {n : Nat} :
    a.shl? n = some c ↔ n < 128 ∧ c.toInt = a.toInt * 2 ^ n := by
  have natAbs_multiple : (a.toInt * 2 ^ n).natAbs = a.magnitude.toNat * 2 ^ n := by
    rw [Int.natAbs_mul, natAbs_toInt, Int.natAbs_pow]
    rfl
  have toInt_shifted (h : a.magnitude.toNat * 2 ^ n < 2 ^ 128) :
      (ofParts a.negative (a.magnitude <<< n)).toInt = a.toInt * 2 ^ n := by
    rw [toInt_ofParts, BitVec.toNat_shiftLeft, Nat.shiftLeft_eq, Nat.mod_eq_of_lt h]
    cases ha : a.negative <;> simp [toInt, ha]
  simp only [shl?, clz_lt_iff, Option.ite_none_left_eq_some, Option.some.injEq, not_or, Nat.not_le,
    Classical.not_not, and_assoc]
  refine and_congr_right fun _ => ⟨?_, fun hc => ?_⟩
  · rintro ⟨h, rfl⟩
    exact toInt_shifted h
  · have h : a.magnitude.toNat * 2 ^ n < 2 ^ 128 := by
      rw [← natAbs_multiple, ← hc]
      exact c.natAbs_toInt_lt
    exact ⟨h, ext_toInt ((toInt_shifted h).trans hc.symm)⟩

end CheckedInt.Wide
