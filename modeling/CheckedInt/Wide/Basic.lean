/-!
# Wide integers — sign and 128-bit magnitude

`Wide` holds every value of every machine-integer type, and every negation of one. It is the exact
intermediate of all arithmetic.

* Zero has one form, so two wide integers are equal exactly if their numbers are (`ext_toInt`).
* `Wide.toInt` is the number a wide integer stands for; `toInt_ofParts` reads it off the parts.
* `Wide.order` compares signs first and then magnitudes, reversed below zero.
* `ofSigned` and `ofUnsigned` read a 128-bit pattern, `toSigned?` and `toUnsigned?` write one.
-/

namespace CheckedInt

/-- An integer from `-(2 ^ 128 - 1)` to `2 ^ 128 - 1`. -/
structure Wide where
  negative : Bool
  magnitude : BitVec 128
  /-- Zero is never negative. -/
  canonical : negative = true → magnitude ≠ 0#128
deriving DecidableEq

namespace Wide

/-- The wide integer of a sign and a magnitude; the sign of zero is dropped. -/
def ofParts (negative : Bool) (magnitude : BitVec 128) : Wide where
  negative := negative && magnitude != 0#128
  magnitude := magnitude
  canonical := by simp

/-- The number zero. -/
def zero : Wide := ofParts false 0#128

/-- The number one. -/
def one : Wide := ofParts false 1#128

/-- The least wide integer, `-(2 ^ 128 - 1)`. -/
def min : Wide := ofParts true (BitVec.allOnes 128)

/-- The greatest wide integer, `2 ^ 128 - 1`. -/
def max : Wide := ofParts false (BitVec.allOnes 128)

instance : Inhabited Wide := ⟨zero⟩

/-- The number that a wide integer stands for. -/
def toInt (w : Wide) : Int :=
  if w.negative then -(w.magnitude.toNat : Int) else w.magnitude.toNat

/-- The test for zero, by the magnitude alone. -/
def isZero (w : Wide) : Bool := w.magnitude == 0#128

/-- Signs decide first. Of two negative numbers the one of greater magnitude is less. -/
def order (a b : Wide) : Ordering :=
  match a.negative, b.negative with
  | true, false => .lt
  | false, true => .gt
  | false, false => compare a.magnitude.toNat b.magnitude.toNat
  | true, true => compare b.magnitude.toNat a.magnitude.toNat

instance : Ord Wide := ⟨order⟩
instance : LT Wide := ltOfOrd
instance : LE Wide := leOfOrd

/-- The number that a 128-bit pattern stands for in two's complement. -/
def ofSigned (p : BitVec 128) : Wide := ofParts p.msb p.abs

/-- The number that a 128-bit pattern stands for in plain binary. -/
def ofUnsigned (p : BitVec 128) : Wide := ofParts false p

/-- The 128-bit two's complement of the number. The magnitude `2 ^ 127` is its own negation as a
pattern, so a negative number of that magnitude comes out right. -/
def toSigned? (w : Wide) : Option (BitVec 128) :=
  if w.negative then
    if w.magnitude ≤ 1#128 <<< 127 then some (-w.magnitude) else none
  else if w.magnitude ≤ BitVec.intMax 128 then
    some w.magnitude
  else
    none

/-- The 128-bit plain binary of the number. -/
def toUnsigned? (w : Wide) : Option (BitVec 128) :=
  if w.negative then none else some w.magnitude

/-- The low 128 bits of the number's two's complement. -/
def toPattern (w : Wide) : BitVec 128 :=
  if w.negative then -w.magnitude else w.magnitude

instance : ToString Wide :=
  ⟨fun w => (if w.negative then "-" else "") ++ toString w.magnitude.toNat⟩

/-- The number labelled as a wide integer, for diagnostics. -/
def describe (w : Wide) : String := "Wide(" ++ toString w ++ ")"

/-! ### The number of a wide integer -/

/-- The number of a sign and a magnitude. For zero the sign that is dropped makes no difference. -/
@[simp] theorem toInt_ofParts (negative : Bool) (magnitude : BitVec 128) :
    (ofParts negative magnitude).toInt =
      if negative then -(magnitude.toNat : Int) else magnitude.toNat := by
  by_cases h : magnitude = 0#128
  · subst h; cases negative <;> rfl
  · cases negative <;> simp [ofParts, toInt, h]

/-- A negative wide integer is not zero. -/
theorem magnitude_pos_of_negative {w : Wide} (h : w.negative = true) :
    0 < w.magnitude.toNat := by
  refine Nat.pos_of_ne_zero fun h0 => w.canonical h ?_
  exact BitVec.eq_of_toNat_eq (by simpa using h0)

/-- The sign tells whether the number is below zero. -/
theorem toInt_neg_iff {w : Wide} : w.toInt < 0 ↔ w.negative = true := by
  have pos := @magnitude_pos_of_negative w
  cases h : w.negative <;> simp_all [toInt]

/-- Equal numbers have equal parts. -/
theorem ext_toInt {a b : Wide} (h : a.toInt = b.toInt) : a = b := by
  have hs : a.negative = b.negative := by
    rw [Bool.eq_iff_iff, ← toInt_neg_iff, ← toInt_neg_iff, h]
  have hm : a.magnitude = b.magnitude := by
    refine BitVec.eq_of_toNat_eq ?_
    simp only [toInt, hs] at h
    split at h <;> omega
  cases a
  cases b
  simp_all

/-- Each number has one wide integer at most. -/
theorem toInt_inj {a b : Wide} : a.toInt = b.toInt ↔ a = b :=
  ⟨ext_toInt, fun h => h ▸ rfl⟩

/-- The order of wide integers is the order of their numbers. -/
theorem order_eq (a b : Wide) : a.order b = compare a.toInt b.toInt := by
  have ha := @magnitude_pos_of_negative a
  have hb := @magnitude_pos_of_negative b
  cases h₁ : a.negative <;> cases h₂ : b.negative <;>
    simp only [order, toInt, h₁, h₂, compare, compareOfLessAndEq] <;>
    grind

end Wide

end CheckedInt
