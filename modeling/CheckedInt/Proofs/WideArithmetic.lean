import CheckedInt.Proofs.Range
import CheckedInt.Wide.Exactness

/-!
# Wide arithmetic — 128 bits and a sign

The wide integers are those from `-(2 ^ 128 - 1)` to `2 ^ 128 - 1` (`Wide.exists_toInt_eq_iff`).  An
operation on them that is exact wherever it answers has an answer wherever the exact result is in
that range (`Wide.exactIf_of_eq_some_iff`), and quotients and remainders never leave it.

* `Wide.ExactIf result c n`: the result stands for `n` if `c` holds, and there is none if not.
* `tmod_mem_uIcc`, `natAbs_tmod_lt`, `sign_tmod`: the size and the sign of a truncated remainder.

**Exactness** (`Wide.arithmetic_exact`).  A sum, a difference or a product is refused only outside
the range, a quotient or a remainder only for a divisor of zero, a shift to the right only for an
amount of 128 or more, and a shift to the left for that or outside the range.  A negation is never
refused.
-/

namespace CheckedInt

/-! ### Truncated remainders -/

/-- A remainder lies between zero and the dividend. -/
theorem tmod_mem_uIcc (a b : Int) : a.tmod b ∈ Set.uIcc 0 a := by
  have le_of_nonneg {a : Int} (h : 0 ≤ a) : 0 ≤ a.tmod b ∧ a.tmod b ≤ a := by
    have nonneg := Int.tmod_nonneg b h
    have smaller : (a.tmod b).natAbs ≤ a.natAbs := by
      rw [Int.natAbs_tmod]
      exact Nat.mod_le _ _
    omega
  rw [Set.mem_uIcc]
  rcases le_total 0 a with h | h
  · exact .inl (le_of_nonneg h)
  · obtain ⟨nonneg, le⟩ := le_of_nonneg (a := -a) (by omega)
    rw [Int.neg_tmod] at nonneg le
    omega

/-- A remainder is smaller than the divisor. -/
theorem natAbs_tmod_lt {b : Int} (nonzero : b ≠ 0) (a : Int) : (a.tmod b).natAbs < b.natAbs := by
  rw [Int.natAbs_tmod]
  exact Nat.mod_lt _ (Int.natAbs_pos.mpr nonzero)

/-- A remainder other than zero has the sign of the dividend. -/
theorem sign_tmod (a b : Int) : a.tmod b = 0 ∨ (a.tmod b).sign = a.sign := by
  refine or_iff_not_imp_left.mpr fun nonzero => ?_
  rcases Set.mem_uIcc.mp (tmod_mem_uIcc a b) with ⟨nonneg, le⟩ | ⟨ge, nonpos⟩
  · have pos : 0 < a.tmod b := by omega
    rw [Int.sign_eq_one_of_pos pos, Int.sign_eq_one_of_pos (pos.trans_le le)]
  · have neg : a.tmod b < 0 := by omega
    rw [Int.sign_eq_neg_one_of_neg neg, Int.sign_eq_neg_one_of_neg (ge.trans_lt neg)]

namespace Wide

variable {a b : Wide} {n : Int}

/-! ### The range -/

/-- The integer is one that a wide integer stands for. -/
def InRange (n : Int) : Prop := -(2 ^ 128 - 1) ≤ n ∧ n ≤ 2 ^ 128 - 1

instance (n : Int) : Decidable (InRange n) := inferInstanceAs (Decidable (_ ∧ _))

/-- The range as a bound on the magnitude. -/
theorem inRange_iff_natAbs_lt : InRange n ↔ n.natAbs < 2 ^ 128 := by
  rw [InRange]
  omega

theorem inRange_toInt (a : Wide) : InRange a.toInt := inRange_iff_natAbs_lt.mpr a.natAbs_toInt_lt

/-- The integers of the range, and no others, have a wide integer. -/
theorem exists_toInt_eq_iff : (∃ a : Wide, a.toInt = n) ↔ InRange n := by
  refine ⟨?_, fun inRange => exists_toInt_eq (inRange_iff_natAbs_lt.mp inRange)⟩
  rintro ⟨a, rfl⟩
  exact a.inRange_toInt

/-- A truncated quotient never leaves the range. -/
theorem inRange_tdiv (a : Wide) (d : Int) : InRange (a.toInt.tdiv d) :=
  inRange_iff_natAbs_lt.mpr ((Int.natAbs_tdiv_le_natAbs _ _).trans_lt a.natAbs_toInt_lt)

/-- A remainder never leaves the range. -/
theorem inRange_tmod (a : Wide) (d : Int) : InRange (a.toInt.tmod d) := by
  rw [inRange_iff_natAbs_lt, Int.natAbs_tmod]
  exact (Nat.mod_le _ _).trans_lt a.natAbs_toInt_lt

/-! ### Results on a condition -/

/-- If `c` holds the result is there and stands for `n`; if not there is none. -/
structure ExactIf (result : Option Wide) (c : Prop) (n : Int) : Prop where
  answer : c → ∃ w, result = some w ∧ w.toInt = n
  refusal : ¬ c → result = none

/-- A result that is exact wherever it is there is missing for its own condition, or because no wide
integer stands for it. -/
theorem exactIf_of_eq_some_iff {result : Option Wide} {c : Prop}
    (exact : ∀ w, result = some w ↔ c ∧ w.toInt = n) : ExactIf result (c ∧ InRange n) n := by
  refine ⟨?_, fun refused => ?_⟩
  · rintro ⟨hc, inRange⟩
    obtain ⟨w, hw⟩ := exists_toInt_eq_iff.mpr inRange
    exact ⟨w, (exact w).mpr ⟨hc, hw⟩, hw⟩
  · refine Option.eq_none_iff_forall_ne_some.mpr fun w given => refused ?_
    obtain ⟨hc, hw⟩ := (exact w).mp given
    exact ⟨hc, hw ▸ w.inRange_toInt⟩

namespace ExactIf

variable {result : Option Wide} {c c' : Prop}

theorem congr (h : ExactIf result c n) (iff : c ↔ c') : ExactIf result c' n := propext iff ▸ h

/-- There is no result exactly if the condition fails. -/
theorem eq_none_iff (h : ExactIf result c n) : result = none ↔ ¬ c := by
  refine ⟨fun none hc => ?_, h.refusal⟩
  obtain ⟨w, given, -⟩ := h.answer hc
  cases none.symm.trans given

end ExactIf

/-- A result for which there is no condition but the range. -/
theorem exactIf_inRange {result : Option Wide} (exact : ∀ w, result = some w ↔ w.toInt = n) :
    ExactIf result (InRange n) n :=
  (exactIf_of_eq_some_iff fun w => (exact w).trans (and_iff_right trivial).symm).congr
    (and_iff_right trivial)

/-! ### The operations -/

theorem add?_exactIf (a b : Wide) :
    ExactIf (a.add? b) (InRange (a.toInt + b.toInt)) (a.toInt + b.toInt) :=
  exactIf_inRange fun _ => add?_eq_some_iff

theorem sub?_exactIf (a b : Wide) :
    ExactIf (a.sub? b) (InRange (a.toInt - b.toInt)) (a.toInt - b.toInt) :=
  exactIf_inRange fun _ => sub?_eq_some_iff

theorem mul?_exactIf (a b : Wide) :
    ExactIf (a.mul? b) (InRange (a.toInt * b.toInt)) (a.toInt * b.toInt) :=
  exactIf_inRange fun _ => mul?_eq_some_iff

theorem div?_exactIf (a b : Wide) : ExactIf (a.div? b) (b.toInt ≠ 0) (a.toInt.tdiv b.toInt) :=
  (exactIf_of_eq_some_iff fun _ => div?_eq_some_iff).congr (and_iff_left (a.inRange_tdiv _))

theorem rem?_exactIf (a b : Wide) : ExactIf (a.rem? b) (b.toInt ≠ 0) (a.toInt.tmod b.toInt) :=
  (exactIf_of_eq_some_iff fun _ => rem?_eq_some_iff).congr (and_iff_left (a.inRange_tmod _))

theorem shl?_exactIf (a : Wide) (n : Nat) :
    ExactIf (a.shl? n) (n < 128 ∧ InRange (a.toInt * 2 ^ n)) (a.toInt * 2 ^ n) :=
  exactIf_of_eq_some_iff fun _ => shl?_eq_some_iff

theorem shr?_exactIf (a : Wide) (n : Nat) :
    ExactIf (a.shr? n) (n < 128) (a.toInt.tdiv (2 ^ n)) :=
  (exactIf_of_eq_some_iff fun _ => shr?_eq_some_iff).congr (and_iff_left (a.inRange_tdiv _))

theorem div?_eq_none_iff : a.div? b = none ↔ b.toInt = 0 :=
  (div?_exactIf a b).eq_none_iff.trans not_ne_iff

theorem rem?_eq_none_iff : a.rem? b = none ↔ b.toInt = 0 :=
  (rem?_exactIf a b).eq_none_iff.trans not_ne_iff

/-- Quotient and remainder recombine. -/
theorem recombine {q m : Wide} (quotient : a.div? b = some q) (remainder : a.rem? b = some m) :
    a.toInt = q.toInt * b.toInt + m.toInt ∧ m.toInt.natAbs < b.toInt.natAbs ∧
      (m.toInt = 0 ∨ m.toInt.sign = a.toInt.sign) := by
  obtain ⟨nonzero, hq⟩ := div?_eq_some_iff.mp quotient
  obtain ⟨-, hm⟩ := rem?_eq_some_iff.mp remainder
  rw [hq, hm]
  exact ⟨(Int.tdiv_mul_add_tmod _ _).symm, natAbs_tmod_lt nonzero _, sign_tmod _ _⟩

/-- Zero is not negative, and so the parts of wide integers are those of their numbers. -/
theorem parts_eq_iff : a.negative = b.negative ∧ a.magnitude = b.magnitude ↔ a.toInt = b.toInt := by
  rw [toInt_inj]
  refine ⟨?_, fun same => same ▸ ⟨rfl, rfl⟩⟩
  rintro ⟨sign, magnitude⟩
  cases a
  cases b
  cases sign
  cases magnitude
  rfl

/-! ### Exactness -/

/-- **Wide arithmetic is exact.**  Sums, differences and products are given wherever a wide integer
stands for them.  Quotients, truncated toward zero, and remainders are given unless the divisor is
zero, and recombine to the dividend.  A negation is always given.  A shift takes an amount below
128; the one to the left gives the multiple wherever a wide integer stands for it, the one to the
right the quotient, truncated toward zero.  Zero is never negative, so results are equal in sign and
magnitude exactly if their numbers are. -/
theorem arithmetic_exact (a b : Wide) (n : Nat) :
    (ExactIf (a.add? b) (InRange (a.toInt + b.toInt)) (a.toInt + b.toInt) ∧
      ExactIf (a.sub? b) (InRange (a.toInt - b.toInt)) (a.toInt - b.toInt) ∧
      ExactIf (a.mul? b) (InRange (a.toInt * b.toInt)) (a.toInt * b.toInt)) ∧
    (ExactIf (a.div? b) (b.toInt ≠ 0) (a.toInt.tdiv b.toInt) ∧
      ExactIf (a.rem? b) (b.toInt ≠ 0) (a.toInt.tmod b.toInt) ∧
      ∀ q m, a.div? b = some q → a.rem? b = some m →
        a.toInt = q.toInt * b.toInt + m.toInt ∧ m.toInt.natAbs < b.toInt.natAbs ∧
          (m.toInt = 0 ∨ m.toInt.sign = a.toInt.sign)) ∧
    (-a).toInt = -a.toInt ∧
    (ExactIf (a.shl? n) (n < 128 ∧ InRange (a.toInt * 2 ^ n)) (a.toInt * 2 ^ n) ∧
      ExactIf (a.shr? n) (n < 128) (a.toInt.tdiv (2 ^ n))) ∧
    ∀ c : Wide, (c.toInt = 0 → c.negative = false) ∧
      ∀ d : Wide, c.negative = d.negative ∧ c.magnitude = d.magnitude ↔ c.toInt = d.toInt := by
  refine ⟨⟨add?_exactIf a b, sub?_exactIf a b, mul?_exactIf a b⟩,
    ⟨div?_exactIf a b, rem?_exactIf a b, fun q m => recombine⟩, toInt_neg a,
    ⟨shl?_exactIf a n, shr?_exactIf a n⟩, fun c => ⟨fun zero => ?_, fun d => parts_eq_iff⟩⟩
  have nonneg : ¬ c.toInt < 0 := zero.not_lt
  exact Bool.eq_false_iff.mpr (mt toInt_neg_iff.mpr nonneg)

/-- The least wide integer has no predecessor, and its negation is the greatest.  Divided by minus
one it leaves no remainder, and by zero it leaves nothing.  Minus one is shifted to the left by
127, and not by 128. -/
theorem arithmetic_exact_at_least :
    let minusOne := ofParts true 1#128
    (¬ InRange (min.toInt + minusOne.toInt) ∧ min.add? minusOne = none) ∧
    (InRange (min.toInt * minusOne.toInt) ∧
      ∃ w, min.mul? minusOne = some w ∧ w.toInt = 2 ^ 128 - 1) ∧
    (minusOne.toInt ≠ 0 ∧ ∃ q m, min.div? minusOne = some q ∧ min.rem? minusOne = some m ∧
      min.toInt = q.toInt * minusOne.toInt + m.toInt ∧ m.toInt = 0) ∧
    (¬ zero.toInt ≠ 0 ∧ min.div? zero = none) ∧
    (∃ w, minusOne.shl? 127 = some w ∧ w.toInt = -2 ^ 127) ∧ minusOne.shl? 128 = none := by
  intro minusOne
  obtain ⟨⟨sum, -, product⟩, ⟨quotient, remainder, whole⟩, -⟩ := arithmetic_exact min minusOne 0
  obtain ⟨-, ⟨byZero, -⟩, -⟩ := arithmetic_exact min zero 0
  obtain ⟨-, -, -, ⟨shifted, -⟩, -⟩ := arithmetic_exact minusOne zero 127
  obtain ⟨-, -, -, ⟨beyond, -⟩, -⟩ := arithmetic_exact minusOne zero 128
  have low : ¬ InRange (min.toInt + minusOne.toInt) := by decide
  have high : InRange (min.toInt * minusOne.toInt) := by decide
  have nonzero : minusOne.toInt ≠ 0 := by decide
  obtain ⟨q, hq, -⟩ := quotient.answer nonzero
  obtain ⟨m, hm, rest⟩ := remainder.answer nonzero
  exact ⟨⟨low, sum.refusal low⟩, ⟨high, product.answer high⟩,
    ⟨nonzero, q, m, hq, hm, (whole q m hq hm).1, rest⟩,
    ⟨not_not_intro rfl, byZero.refusal (not_not_intro rfl)⟩, shifted.answer (by decide),
    beyond.refusal (by decide)⟩

end Wide

end CheckedInt
