import Mathlib.Tactic.FinCases
import CheckedInt.Proofs.Automatic

/-!
# Exactness — what evaluation answers, operator by operator

* `evaluate_arithmetic_exact`: a sum, difference, product, quotient or remainder is given exactly
  where it lies in the promoted range, and refused as an overflow elsewhere; a divisor of zero is
  refused as such.  No operands are refused for want of bits in the wide intermediate.
* `evaluate_bitwise_exact`: a bitwise operator gives what it gives on two's complement without end,
  if that and both operands lie in the promoted range.  Under automatic promotion the range is never
  too narrow for "or" and "and" (`widest_contains_lor`, `widest_contains_land`), and for "exclusive
  or" only below every type (`xor_lt_of_not_widest_contains`).
-/

namespace CheckedInt

variable {s t : IntType}

/-! ### Answers -/

/-- Operands with a result are answered with it if it fits, and with an overflow if not. -/
theorem answer_of_defined {p : Promotion} {op : Operator} {l : Word s} {r : Word t}
    (h : op.Defined s.bits l.toInt r.toInt) :
    let fits := op.Fits (p.promote op (.machine s) (.machine t)) l.toInt r.toInt
    let answer := (evaluate p op l r).mapError Fault.diagnostic
    ((∃ w, answer = .ok w ∧ w.toInt = op.exact l.toInt r.toInt) ↔ fits) ∧
    (¬ fits → answer = .error (Fault.overflow op).diagnostic) ∧
    (∀ w, answer = .ok w → w.toInt = op.exact l.toInt r.toInt) := by
  intro fits answer
  by_cases hf : fits
  · obtain ⟨v, hv, exact⟩ := evaluate_of_fits h hf
    have given : answer = .ok v := congrArg (Except.mapError Fault.diagnostic) hv
    refine ⟨⟨fun _ => hf, fun _ => ⟨v, given, exact⟩⟩, fun h => absurd hf h, fun w hw => ?_⟩
    cases given.symm.trans hw
    exact exact
  · have refused : answer = .error (Fault.overflow op).diagnostic :=
      congrArg (Except.mapError Fault.diagnostic) (evaluate_of_not_fits h hf)
    refine ⟨⟨?_, fun h => absurd h hf⟩, fun _ => refused, fun w hw => ?_⟩
    · rintro ⟨w, hw, -⟩
      cases refused.symm.trans hw
    · cases refused.symm.trans hw

/-! ### Arithmetic -/

/-- Of the arithmetic operators only division and remainder may lack a result, for a divisor of
zero. -/
theorem Operator.undefined?_arithmetic {op : Operator}
    (h : op ∈ [Operator.add, .sub, .mul, .div, .rem]) (width : Nat) (l r : Int) :
    op.undefined? width l r =
      if (op = .div ∨ op = .rem) ∧ r = 0 then some .divisionByZero else none := by
  fin_cases h <;> simp [undefined?]

/-- An overflow is told apart from a divisor of zero. -/
theorem Fault.diagnostic_overflow_ne_divisionByZero (op : Operator) :
    (overflow op).diagnostic ≠ divisionByZero.diagnostic := by
  cases op <;> simp [diagnostic, reason, category, Operator.activity]

/-- **Arithmetic is exact.**  Only a divisor of zero is refused as such.  Any other result is
answered if it lies in the promoted range, and refused as an overflow if not. -/
theorem evaluate_arithmetic_exact (p : Promotion) (op : Operator)
    (hop : op ∈ [Operator.add, .sub, .mul, .div, .rem]) (l : Word s) (r : Word t) :
    let promoted := p.promote op (.machine s) (.machine t)
    let e := op.exact l.toInt r.toInt
    let answer := (evaluate p op l r).mapError Fault.diagnostic
    (answer = .error ⟨.overflow, "Division by zero"⟩ ↔ (op = .div ∨ op = .rem) ∧ r.toInt = 0) ∧
    (¬ ((op = .div ∨ op = .rem) ∧ r.toInt = 0) →
      ((∃ w, answer = .ok w ∧ w.toInt = e) ↔
        promoted.min.toInt ≤ e ∧ e ≤ promoted.max.toInt) ∧
      (¬ (promoted.min.toInt ≤ e ∧ e ≤ promoted.max.toInt) →
        answer = .error ⟨.overflow, "Overflow on " ++ op.activity⟩)) ∧
    (∀ w, answer = .ok w → w.toInt = e) := by
  intro promoted e answer
  have undefined := Operator.undefined?_arithmetic hop s.bits l.toInt r.toInt
  by_cases zero : (op = .div ∨ op = .rem) ∧ r.toInt = 0
  · rw [if_pos zero] at undefined
    have refused : answer = .error Fault.divisionByZero.diagnostic :=
      congrArg (Except.mapError Fault.diagnostic) (evaluate_of_undefined undefined)
    refine ⟨⟨fun _ => zero, fun _ => refused⟩, fun h => absurd zero h, fun w hw => ?_⟩
    rw [refused] at hw
    cases hw
  · rw [if_neg zero] at undefined
    have unconstrained : op.isBitwise = false := by fin_cases hop <;> rfl
    obtain ⟨given, refused, exact⟩ :=
      answer_of_defined (p := p) (Operator.undefined?_eq_none_iff.mp undefined)
    rw [Operator.fits_iff_of_not_bitwise unconstrained] at given refused
    refine ⟨⟨fun h => ?_, fun h => absurd h zero⟩, fun _ => ⟨given, refused⟩, exact⟩
    by_cases fits : promoted.Contains e
    · obtain ⟨w, hw, -⟩ := given.mpr fits
      cases h.symm.trans hw
    · have told_apart := Except.error.inj ((refused fits).symm.trans h)
      exact absurd told_apart (Fault.diagnostic_overflow_ne_divisionByZero op)

/-- The one quotient that leaves the dividend's type is refused there, and given beyond it. -/
theorem evaluate_least_div_minus_one :
    ((evaluate .native .div (Word.ofInt .i128 (-2 ^ 127)) (Word.ofInt .i8 (-1))).mapError
        Fault.diagnostic = .error ⟨.overflow, "Overflow on " ++ Operator.activity .div⟩) ∧
    ∃ w, (evaluate .automatic .div (Word.ofInt .i128 (-2 ^ 127)) (Word.ofInt .i8 (-1))).mapError
        Fault.diagnostic = .ok w ∧ w.toInt = 2 ^ 127 :=
  ⟨((evaluate_arithmetic_exact .native .div (by decide) (Word.ofInt .i128 (-2 ^ 127))
      (Word.ofInt .i8 (-1))).2.1 (by decide)).2 (by decide),
    ((evaluate_arithmetic_exact .automatic .div (by decide) (Word.ofInt .i128 (-2 ^ 127))
      (Word.ofInt .i8 (-1))).2.1 (by decide)).1.mpr (by decide)⟩

/-! ### Bitwise operators on the widest range -/

/-- Clearing bits never makes a number greater. -/
theorem ldiff_le (m n : Nat) : Nat.ldiff m n ≤ m := by
  have masked : Nat.ldiff m n = m &&& Nat.ldiff m n := by
    refine Nat.eq_of_testBit_eq fun k => ?_
    rw [Nat.testBit_and, Nat.testBit_ldiff]
    cases m.testBit k <;> rfl
  rw [masked]
  exact Nat.and_le_left

/-- Below zero a number with bits added does not become less. -/
theorem le_lor_of_neg {a b : Int} (ha : 0 ≤ a) (hb : b < 0) :
    b ≤ Int.lor a b ∧ Int.lor a b < 0 := by
  obtain ⟨m, rfl⟩ := Int.eq_ofNat_of_zero_le ha
  obtain ⟨n, rfl⟩ := Int.eq_negSucc_of_lt_zero hb
  show Int.negSucc n ≤ Int.negSucc (Nat.ldiff n m) ∧ Int.negSucc (Nat.ldiff n m) < 0
  have := ldiff_le n m
  omega

/-- A number with bits taken away is between zero and it. -/
theorem land_le_of_nonneg {a b : Int} (ha : 0 ≤ a) (hb : b < 0) :
    0 ≤ Int.land a b ∧ Int.land a b ≤ a := by
  obtain ⟨m, rfl⟩ := Int.eq_ofNat_of_zero_le ha
  obtain ⟨n, rfl⟩ := Int.eq_negSucc_of_lt_zero hb
  show 0 ≤ ((Nat.ldiff m n : Nat) : Int) ∧ ((Nat.ldiff m n : Nat) : Int) ≤ m
  have := ldiff_le m n
  omega

namespace Representation

variable {a b : Int}

theorem widest_contains_of_signed (h : FitsIn 127 true a) : widest.Contains a :=
  ⟨h.of_signed.1, show a ≤ 2 ^ 128 - 1 by have := h.2; omega⟩

theorem widest_contains_of_unsigned (h : FitsIn 128 false a) : widest.Contains a :=
  ⟨show -2 ^ 127 ≤ a by have := h.nonneg; omega, show a ≤ 2 ^ 128 - 1 by have := h.2; omega⟩

theorem fitsIn_of_neg (h : widest.Contains a) (neg : a < 0) : FitsIn 127 true a :=
  ⟨(widest_contains.mp h).1, by omega⟩

theorem fitsIn_of_nonneg (h : widest.Contains a) (nonneg : 0 ≤ a) : FitsIn 128 false a :=
  ⟨nonneg, by have := (widest_contains.mp h).2; omega⟩

/-- Operands of one sign have a 128-bit type in common, and so has the result. -/
theorem widest_contains_placewise {g : Bool → Bool → Bool}
    {f : {n : Nat} → BitVec n → BitVec n → BitVec n} {F : Int → Int → Int}
    (h : Bits.Placewise g f F) (ha : widest.Contains a) (hb : widest.Contains b)
    (signs : a < 0 ↔ b < 0) : widest.Contains (F a b) := by
  by_cases na : a < 0
  · have nb := signs.mp na
    exact widest_contains_of_signed ((fitsIn_of_neg ha na).placewise h (fitsIn_of_neg hb nb))
  · have nb := mt signs.mpr na
    exact widest_contains_of_unsigned ((fitsIn_of_nonneg ha (not_lt.mp na)).placewise h
      (fitsIn_of_nonneg hb (not_lt.mp nb)))

/-- The widest range is closed under "or". -/
theorem widest_contains_lor (ha : widest.Contains a) (hb : widest.Contains b) :
    widest.Contains (Int.lor a b) := by
  rcases lt_or_ge a 0 with na | pa <;> rcases lt_or_ge b 0 with nb | pb
  · exact widest_contains_placewise Bits.placewise_or ha hb (iff_of_true na nb)
  · obtain ⟨lower, upper⟩ := le_lor_of_neg pb na
    rw [Bits.placewise_or.comm Bool.or_comm] at lower upper
    exact widest_contains.mpr ⟨(widest_contains.mp ha).1.trans lower, by omega⟩
  · obtain ⟨lower, upper⟩ := le_lor_of_neg pa nb
    exact widest_contains.mpr ⟨(widest_contains.mp hb).1.trans lower, by omega⟩
  · exact widest_contains_placewise Bits.placewise_or ha hb (iff_of_false pa.not_gt pb.not_gt)

/-- The widest range is closed under "and". -/
theorem widest_contains_land (ha : widest.Contains a) (hb : widest.Contains b) :
    widest.Contains (Int.land a b) := by
  rcases lt_or_ge a 0 with na | pa <;> rcases lt_or_ge b 0 with nb | pb
  · exact widest_contains_placewise Bits.placewise_and ha hb (iff_of_true na nb)
  · obtain ⟨lower, upper⟩ := land_le_of_nonneg pb na
    rw [Bits.placewise_and.comm Bool.and_comm] at lower upper
    exact widest_contains.mpr ⟨by omega, upper.trans (widest_contains.mp hb).2⟩
  · obtain ⟨lower, upper⟩ := land_le_of_nonneg pa nb
    exact widest_contains.mpr ⟨by omega, upper.trans (widest_contains.mp ha).2⟩
  · exact widest_contains_placewise Bits.placewise_and ha hb (iff_of_false pa.not_gt pb.not_gt)

/-- A negative number and one that takes all 128 bits are the only ones whose "exclusive or" leaves
the widest range, and it leaves it below. -/
theorem xor_lt_of_neg_of_nonneg (ha : widest.Contains a) (na : a < 0)
    (hb : widest.Contains b) (pb : 0 ≤ b) (h : ¬ widest.Contains (Int.xor a b)) :
    2 ^ 127 ≤ b ∧ Int.xor a b < -2 ^ 127 := by
  have fa := fitsIn_of_neg ha na
  have fb := fitsIn_of_nonneg hb pb
  refine ⟨not_lt.mp fun small => h ?_, not_le.mp fun large => h ?_⟩
  · -- both operands have 127 bits and a sign, and so has the result
    have fb' : FitsIn 127 true b := ⟨show -2 ^ 127 ≤ b by omega, small⟩
    exact widest_contains_of_signed (fa.placewise Bits.placewise_xor fb')
  · -- the result has 128 bits and a sign, which is more than the range holds only from below
    have bits : FitsIn 128 true (Int.xor a b) :=
      (fa.mono (by decide) id).placewise Bits.placewise_xor (fb.mono le_rfl fun _ => rfl)
    exact widest_contains.mpr ⟨large, by have := bits.2; omega⟩

/-- "Exclusive or" leaves the widest range only downward, from operands of opposite signs. -/
theorem xor_lt_of_not_widest_contains (ha : widest.Contains a) (hb : widest.Contains b)
    (h : ¬ widest.Contains (Int.xor a b)) :
    (2 ^ 127 ≤ a ∧ b < 0 ∨ 2 ^ 127 ≤ b ∧ a < 0) ∧ Int.xor a b < -2 ^ 127 := by
  rcases lt_or_ge a 0 with na | pa <;> rcases lt_or_ge b 0 with nb | pb
  · exact absurd (widest_contains_placewise Bits.placewise_xor ha hb (iff_of_true na nb)) h
  · obtain ⟨large, low⟩ := xor_lt_of_neg_of_nonneg ha na hb pb h
    exact ⟨.inr ⟨large, na⟩, low⟩
  · rw [Bits.placewise_xor.comm Bool.xor_comm] at h ⊢
    obtain ⟨large, low⟩ := xor_lt_of_neg_of_nonneg hb nb ha pa h
    exact ⟨.inl ⟨large, nb⟩, low⟩
  · have same := iff_of_false pa.not_gt pb.not_gt
    exact absurd (widest_contains_placewise Bits.placewise_xor ha hb same) h

end Representation

/-- Only one type holds numbers from `2 ^ 127` on. -/
theorem IntType.eq_u128_of_contains {t : IntType} {n : Int} (h : t.Contains n)
    (large : 2 ^ 127 ≤ n) : t = .u128 := by
  obtain ⟨w, signed⟩ := t
  have fits := IntType.contains_iff_fitsIn.mp h
  by_cases bits : (Representation.machine ⟨w, signed⟩).magnitudeBits ≤ 127
  · exact absurd (fits.mono bits id).2 (not_lt.mpr large)
  · cases w <;> cases signed <;> first | rfl | exact absurd (by decide) bits

/-! ### Bitwise operators -/

/-- The bitwise operators have a result for all operands. -/
theorem Operator.defined_of_bitwise {op : Operator} (h : op.isBitwise = true) (width : Nat)
    (l r : Int) : op.Defined width l r := by
  cases op <;> trivial

/-- **Bitwise operators are exact**, and under automatic promotion they fail only where "exclusive
or" leads below every type. -/
theorem evaluate_bitwise_exact (p : Promotion) (op : Operator)
    (hop : op ∈ [Operator.bitOr, .bitAnd, .bitXor]) (l : Word s) (r : Word t) :
    let promoted := p.promote op (.machine s) (.machine t)
    let e := op.exact l.toInt r.toInt
    let fits := (promoted.min.toInt ≤ l.toInt ∧ l.toInt ≤ promoted.max.toInt) ∧
      (promoted.min.toInt ≤ r.toInt ∧ r.toInt ≤ promoted.max.toInt) ∧
      promoted.min.toInt ≤ e ∧ e ≤ promoted.max.toInt
    let answer := (evaluate p op l r).mapError Fault.diagnostic
    ((∃ w, answer = .ok w ∧ w.toInt = e) ↔ fits) ∧
    (¬ fits → answer = .error ⟨.overflow, "Overflow on " ++ op.activity⟩) ∧
    (p = .automatic → op = .bitOr ∨ op = .bitAnd → ∃ w, answer = .ok w ∧ w.toInt = e) ∧
    (p = .automatic → op = .bitXor → ∀ d, answer = .error d →
      (s = .u128 ∧ r.toInt < 0 ∨ t = .u128 ∧ l.toInt < 0) ∧ e < -2 ^ 127) := by
  intro promoted e fits answer
  have bitwise : op.isBitwise = true := by fin_cases hop <;> rfl
  have defined := Operator.defined_of_bitwise bitwise s.bits l.toInt r.toInt
  obtain ⟨given, refused, -⟩ := answer_of_defined (p := p) defined
  have suffices_widest (h : p = .automatic) (hw : Representation.widest.Contains e) :
      ∃ w, answer = .ok w ∧ w.toInt = e := by
    subst h
    exact given.mpr (automaticRange_fits (Operator.undefined?_eq_none_iff.mpr defined) hw)
  rw [Operator.fits_iff_of_bitwise bitwise] at given refused
  refine ⟨given, refused, ?_, ?_⟩
  · rintro automatic (rfl | rfl)
    · exact suffices_widest automatic
        (Representation.widest_contains_lor l.widest_contains r.widest_contains)
    · exact suffices_widest automatic
        (Representation.widest_contains_land l.widest_contains r.widest_contains)
  · rintro automatic rfl d hd
    -- a result that some type holds would have been given
    have out : ¬ Representation.widest.Contains (Int.xor l.toInt r.toInt) := fun contained => by
      obtain ⟨w, hw, -⟩ := suffices_widest automatic contained
      cases hd.symm.trans hw
    obtain ⟨signs, low⟩ :=
      Representation.xor_lt_of_not_widest_contains l.widest_contains r.widest_contains out
    refine ⟨signs.imp (fun h => ⟨?_, h.2⟩) fun h => ⟨?_, h.2⟩, low⟩
    · exact IntType.eq_u128_of_contains l.contains_toInt h.1
    · exact IntType.eq_u128_of_contains r.contains_toInt h.1

/-- An unsigned number and a negative one, on either side of the least result that a type holds. -/
theorem evaluate_bitXor_minus_one :
    (∃ w, (evaluate .automatic .bitXor (Word.ofInt .u128 (2 ^ 127 - 1))
        (Word.ofInt .i8 (-1))).mapError Fault.diagnostic = .ok w ∧ w.toInt = -2 ^ 127) ∧
    (evaluate .automatic .bitXor (Word.ofInt .u128 (2 ^ 127)) (Word.ofInt .i8 (-1))).mapError
      Fault.diagnostic = .error ⟨.overflow, "Overflow on " ++ Operator.activity .bitXor⟩ ∧
    Operator.exact .bitXor (Word.ofInt .u128 (2 ^ 127)).toInt (Word.ofInt .i8 (-1)).toInt <
      -2 ^ 127 := by
  obtain ⟨given, -⟩ := evaluate_bitwise_exact .automatic .bitXor (by decide)
    (Word.ofInt .u128 (2 ^ 127 - 1)) (Word.ofInt .i8 (-1))
  obtain ⟨-, refused, -, low⟩ := evaluate_bitwise_exact .automatic .bitXor (by decide)
    (Word.ofInt .u128 (2 ^ 127)) (Word.ofInt .i8 (-1))
  have out := refused (by decide)
  exact ⟨given.mpr (by decide), out, (low rfl rfl _ out).2⟩

end CheckedInt
