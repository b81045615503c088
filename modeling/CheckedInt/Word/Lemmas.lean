import Mathlib.Data.Int.Bitwise
import CheckedInt.Word.Basic

/-!
# Words and their integers

A word is determined by the integer it stands for, and the integers of a type's words are exactly
those of its range.

* `contains_toInt`, `toInt_inj`, `toInt_ofInt`: the view `Word.toInt` and its inverse.
* `ofInt?_eq_some_iff`: a word is made of the integers in range only, and keeps the integer.
* `order_eq`, `toInt_complement`: the type's own order and flipping all bits, on integers.
-/

namespace CheckedInt

theorem IntType.two_pow_bits (t : IntType) : (2 : Int) ^ t.bits = 2 * 2 ^ (t.bits - 1) := by
  have h := t.bits_pos
  rw [show t.bits = t.bits - 1 + 1 by omega, Int.pow_succ, Nat.add_sub_cancel]
  omega

/-- The least integer as a power of two. -/
theorem IntType.min_eq (t : IntType) : t.min = if t.signed then -2 ^ (t.bits - 1) else 0 := by
  simp [IntType.min, Nat.one_shiftLeft]

/-- The greatest integer as a power of two. -/
theorem IntType.max_eq (t : IntType) :
    t.max = if t.signed then 2 ^ (t.bits - 1) - 1 else 2 ^ t.bits - 1 := by
  simp [IntType.max, Nat.one_shiftLeft]

namespace Word

variable {t : IntType}

/-- The integer of a word lies in its type's range. -/
theorem contains_toInt (w : Word t) : t.Contains w.toInt := by
  have upper := w.bits.isLt
  have lower := w.bits.le_toInt
  have upper' := w.bits.toInt_lt
  cases h : t.signed <;> simp only [IntType.Contains, IntType.min_eq, IntType.max_eq, toInt, h]
  · simp only [Bool.false_eq_true, if_false]
    have : ((2 ^ t.bits : Nat) : Int) = 2 ^ t.bits := by simp
    omega
  · simp only [if_true]
    omega

/-- Each integer has one word of a type at most. -/
theorem toInt_inj {a b : Word t} : a.toInt = b.toInt ↔ a = b := by
  refine ⟨fun h => ?_, fun h => h ▸ rfl⟩
  obtain ⟨a⟩ := a
  obtain ⟨b⟩ := b
  congr 1
  simp only [toInt] at h
  split at h
  · exact BitVec.eq_of_toInt_eq h
  · exact BitVec.eq_of_toNat_eq (by omega)

/-- An integer in range is the integer of its word. -/
theorem toInt_ofInt {n : Int} (h : t.Contains n) : (ofInt t n).toInt = n := by
  have pow := t.two_pow_bits
  cases hs : t.signed <;>
    simp only [IntType.Contains, IntType.min_eq, IntType.max_eq, hs, Bool.false_eq_true, if_true,
      if_false] at h <;>
    simp only [toInt, ofInt, hs, Bool.false_eq_true, if_true, if_false]
  · rw [BitVec.toNat_ofInt]
    have : ((2 ^ t.bits : Nat) : Int) = 2 ^ t.bits := by simp
    rw [Int.emod_eq_of_lt h.1 (by omega)]
    omega
  · rw [BitVec.toInt_ofInt_eq_self t.bits_pos h.1 (by omega)]

theorem ofInt_toInt (w : Word t) : ofInt t w.toInt = w :=
  toInt_inj.1 (toInt_ofInt w.contains_toInt)

/-- The word of an integer is the one that stands for it. -/
theorem ofInt?_eq_some_iff {n : Int} {w : Word t} : ofInt? t n = some w ↔ w.toInt = n := by
  simp only [ofInt?]
  constructor
  · intro h
    split at h
    case isTrue hn => cases h; exact toInt_ofInt hn
    case isFalse => cases h
  · rintro rfl
    rw [if_pos w.contains_toInt, ofInt_toInt]

/-- An integer has no word of a type exactly if it is out of the type's range. -/
theorem ofInt?_eq_none_iff {n : Int} : ofInt? t n = none ↔ ¬ t.Contains n := by
  simp [ofInt?]

/-- The test on stored patterns is that on the integers. -/
theorem isBelow_iff {a b : Word t} : a.isBelow b = true ↔ a.toInt < b.toInt := by
  simp only [isBelow, toInt]
  split
  · exact BitVec.slt_iff_toInt_lt
  · rw [BitVec.ult_iff_toNat_lt]
    omega

/-- The type's own order is the order of the integers. -/
theorem order_eq (a b : Word t) : a.order b = compare a.toInt b.toInt := by
  simp only [order, isBelow_iff, compare, compareOfLessAndEq, beq_iff_eq, toInt_inj]
  congr 2
  exact propext ⟨fun h => by cases a; cases b; simp_all, fun h => h ▸ rfl⟩

/-- Flipping all bits of a signed word gives one less than the negation. -/
theorem toInt_complement (h : t.signed = true) (w : Word t) :
    w.complement.toInt = -w.toInt - 1 := by
  have isLt := w.bits.isLt
  have even : 2 ^ t.bits = 2 * 2 ^ (t.bits - 1) := by
    have pos := t.bits_pos
    rw [show t.bits = t.bits - 1 + 1 by omega, Nat.pow_succ, Nat.add_sub_cancel]
    omega
  simp only [toInt, complement, h, if_true, BitVec.toInt_eq_toNat_cond, BitVec.toNat_not]
  split <;> split <;> omega

end Word

end CheckedInt
