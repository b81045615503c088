import CheckedInt.Evaluation
import CheckedInt.Proofs.Bits
import CheckedInt.Proofs.Range

/-!
# Patterns — what the low bits of a number stand for

The bitwise operators leave the numbers and work on patterns.  A pattern of 129 bits holds every
wide integer (`toInt_toPattern129`) and is read back unless it is that of `-2 ^ 128`
(`ofPattern129?_eq_some_iff`).  A pattern cut to the bits of a type is read as the word made of
those bits (`toInt_ofPatternAt`), and the word of a number's low bits is the number's own wherever
the type holds it (`toInt_truncate`).

`bitwise?_eq_some_iff`: on operands of the promoted range, an operator that works place by place
gives the integer that it gives on the operands' integers, on both of these ways.
-/

namespace CheckedInt

open Bits (Placewise)

/-! ### Patterns of 129 bits -/

namespace Wide

/-- In 129 bits every wide integer is the number of its pattern. -/
theorem toInt_toPattern129 (w : Wide) : w.toPattern129.toInt = w.toInt := by
  have low := w.toNat_toPattern
  have bound := w.natAbs_toInt_lt
  have sign := @toInt_neg_iff w
  rw [toPattern129, BitVec.toInt_eq_msb_cond, BitVec.msb_cons, BitVec.toNat_cons']
  cases h : w.negative with
  | false =>
      have nonneg : ¬ w.toInt < 0 := fun hw => Bool.false_ne_true (h.symm.trans (sign.mp hw))
      rw [if_neg Bool.false_ne_true, Bool.toNat_false, Nat.zero_shiftLeft, Nat.zero_add]
      omega
  | true =>
      have neg := sign.mpr h
      rw [if_pos rfl, Bool.toNat_true, Nat.one_shiftLeft]
      push_cast
      omega

/-- Only the pattern of `-2 ^ 128` is the pattern of no wide integer. -/
theorem ofPattern129?_eq_some_iff {p : BitVec 129} {w : Wide} :
    ofPattern129? p = some w ↔ w.toInt = p.toInt := by
  have bound := w.natAbs_toInt_lt
  have low_eq : (p.setWidth 128).toNat = p.toNat % 2 ^ 128 := BitVec.toNat_setWidth ..
  have high : p.msb = decide (2 ^ 128 ≤ p.toNat) := BitVec.msb_eq_decide p
  have isLt := p.isLt
  rw [BitVec.toInt_eq_msb_cond, ofPattern129?]
  cases hp : p.msb with
  | false =>
      rw [hp] at high
      have small := of_decide_eq_false high.symm
      rw [if_neg Bool.false_ne_true, if_neg Bool.false_ne_true, Option.some.injEq, ← toInt_inj,
        toInt_ofParts, if_neg Bool.false_ne_true]
      omega
  | true =>
      rw [hp] at high
      have large := of_decide_eq_true high.symm
      rw [if_pos rfl, if_pos rfl]
      by_cases h0 : p.setWidth 128 = 0#128
      · -- the pattern of `-2 ^ 128`, whose magnitude takes 129 bits
        have := congrArg BitVec.toNat h0
        rw [BitVec.toNat_ofNat] at this
        rw [if_pos h0]
        push_cast
        refine ⟨?_, ?_⟩
        · intro h
          cases h
        · intro h
          omega
      · have pos : (p.setWidth 128).toNat ≠ 0 := fun h => h0 (BitVec.eq_of_toNat_eq h)
        rw [if_neg h0, Option.some.injEq, ← toInt_inj, toInt_ofParts, if_pos rfl, BitVec.toNat_neg]
        push_cast
        omega

end Wide

/-! ### Patterns cut to the bits of a type -/

namespace Word

variable {t : IntType}

/-- The word of the low bits is the word of the number modulo the type's power of two. -/
theorem truncate_eq_ofInt (t : IntType) (w : Wide) : truncate t w = ofInt t w.toInt := by
  have low := w.toNat_toPattern
  have divides : (2 : Int) ^ t.bits ∣ 2 ^ 128 := pow_dvd_pow 2 t.bits_le
  refine congrArg Word.mk (BitVec.eq_of_toNat_eq ?_)
  rw [BitVec.toNat_setWidth, BitVec.toNat_ofInt, ← Int.natCast_inj, Int.natCast_emod, low,
    Nat.cast_pow, Nat.cast_ofNat, Int.emod_emod_of_dvd _ divides,
    Int.toNat_of_nonneg (Int.emod_nonneg _ (by positivity))]

/-- Truncation keeps a number in range. -/
theorem toInt_truncate {w : Wide} (h : t.Contains w.toInt) : (truncate t w).toInt = w.toInt := by
  rw [truncate_eq_ofInt, toInt_ofInt h]

/-- An operator that works place by place gives on words what it gives on their integers. -/
theorem toInt_placewise {g : Bool → Bool → Bool}
    {f : {n : Nat} → BitVec n → BitVec n → BitVec n} {F : Int → Int → Int} (h : Placewise g f F)
    (a b : BitVec t.bits) :
    (Word.mk (t := t) (f a b)).toInt = F (Word.mk a).toInt (Word.mk b).toInt := by
  unfold toInt
  split
  · exact h.toInt a b
  · exact h.toNat a b

end Word

namespace Representation

/-- A mask of `n` ones keeps the remainder by `2 ^ n`, also where the power is beyond 128 bits. -/
theorem toNat_and_mask (p : BitVec 128) {n : Nat} (h : n ≤ 128) :
    (p &&& (1#128 <<< n - 1#128)).toNat = p.toNat % 2 ^ n := by
  have pos := Nat.two_pow_pos n
  have upper : 2 ^ n ≤ 2 ^ 128 := Nat.pow_le_pow_right (by decide) h
  have mask : (1#128 <<< n - 1#128).toNat = 2 ^ n - 1 := by
    rw [BitVec.toNat_sub, BitVec.toNat_shiftLeft, BitVec.toNat_ofNat, Nat.shiftLeft_eq]
    omega
  rw [BitVec.toNat_and, mask, Nat.and_two_pow_sub_one_eq_mod]

/-- Reading a pattern at a type is reading the word of its low bits. -/
theorem toInt_ofPatternAt (t : IntType) (p : BitVec 128) :
    (ofPatternAt t p).toInt = (Word.ofPattern t p).toInt := by
  have pos := t.bits_pos
  have upper : 2 ^ t.bits ≤ 2 ^ 128 := Nat.pow_le_pow_right (by decide) t.bits_le
  have low := toNat_and_mask p t.bits_le
  have low_lt : p.toNat % 2 ^ t.bits < 2 ^ t.bits := Nat.mod_lt _ (Nat.two_pow_pos _)
  have sign : (p &&& (1#128 <<< t.bits - 1#128)).getLsbD (t.bits - 1) =
      (p.setWidth t.bits).msb := by
    rw [BitVec.msb_eq_getLsbD_last, BitVec.getLsbD, low, BitVec.getLsbD, BitVec.toNat_setWidth]
  rw [ofPatternAt, Word.ofPattern, Word.toInt]
  simp only [sign]
  cases ht : t.signed with
  | false =>
      rw [Bool.false_and, if_neg Bool.false_ne_true, if_neg Bool.false_ne_true, Wide.toInt_ofParts,
        if_neg Bool.false_ne_true, low, BitVec.toNat_setWidth]
  | true =>
      rw [Bool.true_and, if_pos rfl, BitVec.toInt_eq_msb_cond, BitVec.toNat_setWidth]
      cases hm : (p.setWidth t.bits).msb with
      | false =>
          rw [if_neg Bool.false_ne_true, if_neg Bool.false_ne_true, Wide.toInt_ofParts,
            if_neg Bool.false_ne_true, low]
      | true =>
          -- the sign bit is set, so the low bits are not zero and the difference does not wrap
          have large : 0 < p.toNat % 2 ^ t.bits := by
            rw [BitVec.msb_eq_decide, decide_eq_true_eq, BitVec.toNat_setWidth] at hm
            exact (Nat.two_pow_pos _).trans_le hm
          have magnitude : (1#128 <<< t.bits - (p &&& (1#128 <<< t.bits - 1#128))).toNat =
              2 ^ t.bits - p.toNat % 2 ^ t.bits := by
            rw [BitVec.toNat_sub, low, BitVec.toNat_shiftLeft, BitVec.toNat_ofNat,
              Nat.shiftLeft_eq]
            omega
          rw [if_pos rfl, if_pos rfl, Wide.toInt_ofParts, if_pos rfl, magnitude,
            Nat.cast_sub low_lt.le]
          omega

/-- On operands that the type holds, reading the result at the type is exact. -/
theorem toInt_ofPatternAt_placewise {g : Bool → Bool → Bool}
    {f : {n : Nat} → BitVec n → BitVec n → BitVec n} {F : Int → Int → Int} (h : Placewise g f F)
    {t : IntType} {a b : Wide} (ha : t.Contains a.toInt) (hb : t.Contains b.toInt) :
    (ofPatternAt t (f a.toPattern b.toPattern)).toInt = F a.toInt b.toInt := by
  rw [toInt_ofPatternAt, Word.ofPattern, h.setWidth, Word.toInt_placewise h]
  exact congrArg₂ F (Word.toInt_truncate ha) (Word.toInt_truncate hb)

end Representation

/-- **Bitwise operators are exact.**  They give the integer that the operator gives on the
operands' integers, wherever both operands lie in the promoted range and a wide integer stands for
the result. -/
theorem bitwise?_eq_some_iff {g : Bool → Bool → Bool}
    {f : {n : Nat} → BitVec n → BitVec n → BitVec n} {F : Int → Int → Int} (h : Placewise g f F)
    {promoted : Representation} {a b c : Wide} :
    bitwise? promoted f a b = some c ↔
      (promoted.Contains a.toInt ∧ promoted.Contains b.toInt) ∧ c.toInt = F a.toInt b.toInt := by
  rw [bitwise?]
  by_cases hab : promoted.Contains a.toInt ∧ promoted.Contains b.toInt
  · obtain ⟨ha, hb⟩ := hab
    rw [Representation.contains_eq_true_iff.mpr ha, Representation.contains_eq_true_iff.mpr hb,
      Bool.and_true, if_pos rfl]
    simp only [ha, hb, true_and]
    cases promoted with
    | widest =>
        -- 129 bits are enough for every wide integer and its sign
        rw [show Representation.widest.isWidest = true from rfl, if_pos rfl,
          Wide.ofPattern129?_eq_some_iff, h.toInt, Wide.toInt_toPattern129,
          Wide.toInt_toPattern129]
    | machine t =>
        -- the type holds both operands, so nothing is lost when they are cut to its bits
        have ha := Representation.machine_contains.mp ha
        have hb := Representation.machine_contains.mp hb
        rw [show (Representation.machine t).isWidest = false from rfl,
          if_neg Bool.false_ne_true, Option.some.injEq, ← Wide.toInt_inj,
          Representation.ofPattern, Representation.toInt_ofPatternAt_placewise h ha hb, eq_comm]
  · have refused : (promoted.contains a && promoted.contains b) = false := by
      rw [← Bool.not_eq_true, Bool.and_eq_true, Representation.contains_eq_true_iff,
        Representation.contains_eq_true_iff]
      exact hab
    rw [refused, if_neg Bool.false_ne_true]
    simp [hab]

end CheckedInt
