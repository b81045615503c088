import Mathlib.Data.Int.Bitwise

/-!
# Bits — operators that work place by place

An integer has a bit at every place: it is read as a two's complement that repeats its sign bit
without end.  An integer is determined by its bits (`eq_of_testBit_eq`), and a pattern of `n` bits
stands for the integer that has the bits of the pattern below `n` and its topmost bit from there
on (`testBit_toInt`).

`Placewise g f F` says that `f`, on patterns of every width, and `F`, on integers, apply the one
Boolean function `g` at each place.  It holds of the three bitwise operators (`placewise_or`,
`placewise_and`, `placewise_xor`), and it is all that is needed of them:

* `Placewise.toInt`, `Placewise.toNat`: `f` on patterns is `F` on the integers that they stand
  for, in two's complement and in plain binary.
* `Placewise.setWidth`: dropping the high bits first or last gives the same pattern.
-/

namespace CheckedInt.Bits

/-! ### The bits of an integer -/

/-- Far enough up, the bits of an integer are its sign. -/
theorem exists_testBit_eq_sign (a : Int) : ∃ n, ∀ k, n ≤ k → a.testBit k = decide (a < 0) := by
  cases a with
  | ofNat m =>
      refine ⟨m, fun k hk => ?_⟩
      have hm : m < 2 ^ k := hk.trans_lt Nat.lt_two_pow_self
      simp [Int.testBit, Nat.testBit_lt_two_pow hm]
  | negSucc m =>
      refine ⟨m, fun k hk => ?_⟩
      have hm : m < 2 ^ k := hk.trans_lt Nat.lt_two_pow_self
      simp [Int.testBit, Nat.testBit_lt_two_pow hm, Int.negSucc_lt_zero]

/-- Integers of the same bits are equal. -/
theorem eq_of_testBit_eq {a b : Int} (h : ∀ k, a.testBit k = b.testBit k) : a = b := by
  obtain ⟨m, hm⟩ := exists_testBit_eq_sign a
  obtain ⟨n, hn⟩ := exists_testBit_eq_sign b
  have sign : a < 0 ↔ b < 0 := by
    have := h (m + n)
    rw [hm _ (Nat.le_add_right m n), hn _ (Nat.le_add_left n m)] at this
    exact decide_eq_decide.mp this
  cases a with
  | ofNat a =>
      cases b with
      | ofNat b => exact congrArg _ (Nat.eq_of_testBit_eq h)
      | negSucc b => exact absurd (sign.mpr (Int.negSucc_lt_zero b)) (by simp)
  | negSucc a =>
      cases b with
      | ofNat b => exact absurd (sign.mp (Int.negSucc_lt_zero a)) (by simp)
      | negSucc b =>
          refine congrArg _ (Nat.eq_of_testBit_eq fun k => ?_)
          have := h k
          simpa [Int.testBit] using this

theorem testBit_natCast (m k : Nat) : (m : Int).testBit k = m.testBit k := rfl

/-- The integer of a pattern repeats the topmost bit. -/
theorem testBit_toInt {n : Nat} (x : BitVec n) (k : Nat) :
    x.toInt.testBit k = if k < n then x.getLsbD k else x.msb := by
  have beyond : ¬ k < n → x.toNat.testBit k = false := fun hk =>
    Nat.testBit_lt_two_pow (x.isLt.trans_le (Nat.pow_le_pow_right (by decide) (not_lt.mp hk)))
  cases hx : x.msb with
  | false =>
      rw [BitVec.toInt_eq_msb_cond, hx, if_neg Bool.false_ne_true, testBit_natCast]
      split
      · rfl
      · exact beyond ‹_›
  | true =>
      -- below zero the bits are those of `2 ^ n - 1 - x`, flipped
      have complement : x.toInt = Int.negSucc (2 ^ n - (x.toNat + 1)) := by
        have fits : x.toNat + 1 ≤ 2 ^ n := x.isLt
        rw [BitVec.toInt_eq_msb_cond, hx, if_pos rfl, Int.negSucc_eq, Nat.cast_sub fits]
        push_cast
        omega
      rw [complement]
      show (!(2 ^ n - (x.toNat + 1)).testBit k) = _
      rw [Nat.testBit_two_pow_sub_succ x.isLt]
      split
      · rename_i hk
        simp [hk, BitVec.getLsbD]
      · rename_i hk
        simp [hk]

/-! ### Operators that work place by place -/

/-- `f` on patterns of every width and `F` on integers apply `g` at each place, beyond the width of
the patterns too. -/
structure Placewise (g : Bool → Bool → Bool) (f : {n : Nat} → BitVec n → BitVec n → BitVec n)
    (F : Int → Int → Int) : Prop where
  getLsbD : ∀ {n : Nat} (x y : BitVec n) k, (f x y).getLsbD k = g (x.getLsbD k) (y.getLsbD k)
  testBit : ∀ a b k, (F a b).testBit k = g (a.testBit k) (b.testBit k)

theorem placewise_or : Placewise Bool.or (fun x y => x ||| y) Int.lor :=
  ⟨fun _ _ _ => BitVec.getLsbD_or, Int.testBit_lor⟩

theorem placewise_and : Placewise Bool.and (fun x y => x &&& y) Int.land :=
  ⟨fun _ _ _ => BitVec.getLsbD_and, Int.testBit_land⟩

theorem placewise_xor : Placewise Bool.xor (fun x y => x ^^^ y) Int.xor :=
  ⟨fun _ _ _ => BitVec.getLsbD_xor, Int.testBit_lxor⟩

namespace Placewise

variable {g : Bool → Bool → Bool} {f : {n : Nat} → BitVec n → BitVec n → BitVec n}
  {F : Int → Int → Int}

/-- The topmost bit of the result is the function of the topmost bits. -/
theorem msb (h : Placewise g f F) {n : Nat} (x y : BitVec n) : (f x y).msb = g x.msb y.msb := by
  rw [BitVec.msb_eq_getLsbD_last, BitVec.msb_eq_getLsbD_last, BitVec.msb_eq_getLsbD_last,
    h.getLsbD]

/-- On two's complement patterns `f` is `F`. -/
theorem toInt (h : Placewise g f F) {n : Nat} (x y : BitVec n) :
    (f x y).toInt = F x.toInt y.toInt := by
  refine eq_of_testBit_eq fun k => ?_
  rw [h.testBit, testBit_toInt, testBit_toInt, testBit_toInt]
  split
  · exact h.getLsbD x y k
  · exact h.msb x y

/-- On patterns in plain binary `f` is `F`. -/
theorem toNat (h : Placewise g f F) {n : Nat} (x y : BitVec n) :
    ((f x y).toNat : Int) = F x.toNat y.toNat := by
  refine eq_of_testBit_eq fun k => ?_
  rw [h.testBit]
  exact h.getLsbD x y k

/-- If the order of two bits does not matter, neither does that of two integers. -/
theorem comm (h : Placewise g f F) (hg : ∀ x y, g x y = g y x) (a b : Int) : F a b = F b a := by
  refine eq_of_testBit_eq fun k => ?_
  rw [h.testBit, h.testBit, hg]

/-- Cutting the result, or filling it up with zeros, comes to the same as doing so with the
operands. -/
theorem setWidth (h : Placewise g f F) {n : Nat} (m : Nat) (x y : BitVec n) :
    (f x y).setWidth m = f (x.setWidth m) (y.setWidth m) := by
  refine BitVec.eq_of_getLsbD_eq fun k hk => ?_
  rw [h.getLsbD, BitVec.getLsbD_setWidth, BitVec.getLsbD_setWidth, BitVec.getLsbD_setWidth,
    h.getLsbD]
  simp [hk]

end Placewise

end CheckedInt.Bits
