import Mathlib.Data.Int.Bitwise
import CheckedInt.Wide.Arithmetic

/-!
# Wide integers and their numbers

* `natAbs_toInt_lt`: the range of wide integers.
* `toSigned?_eq_some_iff`, `toUnsigned?_eq_some_iff`: writing a 128-bit pattern succeeds on the
  pattern's range only and keeps the number; `toInt_ofSigned` and `toInt_ofUnsigned` read it back.
* `toNat_toPattern`: the pattern of a number is the number modulo `2 ^ 128`.
-/

namespace CheckedInt.Wide

theorem natAbs_toInt (a : Wide) : a.toInt.natAbs = a.magnitude.toNat := by
  simp only [toInt]
  split <;> simp

/-- No wide integer reaches `2 ^ 128` on either side of zero. -/
theorem natAbs_toInt_lt (a : Wide) : a.toInt.natAbs < 2 ^ 128 :=
  a.natAbs_toInt ▸ a.magnitude.isLt

theorem toInt_of_negative {a : Wide} (h : a.negative = true) :
    a.toInt = -(a.magnitude.toNat : Int) := by
  simp [toInt, h]

theorem toInt_of_not_negative {a : Wide} (h : a.negative = false) :
    a.toInt = a.magnitude.toNat := by
  simp [toInt, h]

theorem isZero_iff {a : Wide} : a.isZero = true ↔ a.toInt = 0 := by
  rw [← Int.natAbs_eq_zero, natAbs_toInt, isZero, beq_iff_eq]
  exact ⟨fun h => by simp [h], fun h => BitVec.eq_of_toNat_eq (by simpa using h)⟩

/-- A pattern that is read as plain binary. -/
@[simp] theorem toInt_ofUnsigned (p : BitVec 128) : (ofUnsigned p).toInt = p.toNat := by
  simp [ofUnsigned]

/-- A pattern that is read in two's complement. The least one is its own magnitude. -/
@[simp] theorem toInt_ofSigned (p : BitVec 128) : (ofSigned p).toInt = p.toInt := by
  have isLt := p.isLt
  simp only [ofSigned, toInt_ofParts, BitVec.toNat_abs, BitVec.toInt_eq_msb_cond]
  cases p.msb <;> simp only [if_true, Bool.false_eq_true, if_false]
  omega

/-- A wide integer is written in plain binary as the pattern of its number, and not at all if no
pattern has that number. -/
theorem toUnsigned?_eq_some_iff {w : Wide} {p : BitVec 128} :
    w.toUnsigned? = some p ↔ (p.toNat : Int) = w.toInt := by
  cases h : w.negative
  · rw [toInt_of_not_negative h]
    simp only [toUnsigned?, h, Bool.false_eq_true, if_false, Option.some.injEq]
    exact ⟨fun hp => hp ▸ rfl, fun hp => BitVec.eq_of_toNat_eq (by omega)⟩
  · have pos := magnitude_pos_of_negative h
    rw [toInt_of_negative h]
    simp only [toUnsigned?, h, if_true, reduceCtorEq, false_iff]
    omega

/-- A wide integer is written in two's complement as the pattern of its number, and not at all if no
pattern has that number. -/
theorem toSigned?_eq_some_iff {w : Wide} {p : BitVec 128} :
    w.toSigned? = some p ↔ p.toInt = w.toInt := by
  have lower := p.le_toInt
  have upper := p.toInt_lt
  have isLt := w.magnitude.isLt
  cases h : w.negative
  · -- up to `2 ^ 127 - 1` both ways of writing agree
    rw [toInt_of_not_negative h]
    simp only [toSigned?, h, Bool.false_eq_true, if_false, Option.ite_none_right_eq_some,
      BitVec.le_def, BitVec.toNat_intMax, Option.some.injEq]
    constructor
    · rintro ⟨hm, rfl⟩
      rw [BitVec.toInt_eq_toNat_cond, if_pos (by omega)]
    · intro hp
      have hm : w.magnitude.toInt = w.magnitude.toNat := by
        rw [BitVec.toInt_eq_toNat_cond, if_pos (by omega)]
      exact ⟨by omega, BitVec.eq_of_toInt_eq (by omega)⟩
  · -- a magnitude of up to `2 ^ 127` is written as its complement
    have pos := magnitude_pos_of_negative h
    have half : (1#128 <<< 127).toNat = 2 ^ 127 := by decide
    have neg (hm : w.magnitude.toNat ≤ 2 ^ 127) :
        (-w.magnitude).toInt = -(w.magnitude.toNat : Int) := by
      rw [BitVec.toInt_eq_toNat_cond, BitVec.toNat_neg]
      omega
    rw [toInt_of_negative h]
    simp only [toSigned?, h, if_true, Option.ite_none_right_eq_some, BitVec.le_def, half,
      Option.some.injEq]
    constructor
    · rintro ⟨hm, rfl⟩
      exact neg hm
    · intro hp
      have hm : w.magnitude.toNat ≤ 2 ^ 127 := by omega
      exact ⟨hm, BitVec.eq_of_toInt_eq (by rw [neg hm, hp])⟩

/-- The pattern of a number is the number modulo `2 ^ 128`. -/
theorem toNat_toPattern (w : Wide) : (w.toPattern.toNat : Int) = w.toInt % 2 ^ 128 := by
  have isLt := w.magnitude.isLt
  cases h : w.negative
  · rw [toInt_of_not_negative h]
    simp only [toPattern, h, Bool.false_eq_true, if_false]
    omega
  · have pos := magnitude_pos_of_negative h
    rw [toInt_of_negative h]
    simp only [toPattern, h, if_true, BitVec.toNat_neg]
    omega

end CheckedInt.Wide
