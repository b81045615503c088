import CheckedInt.Proofs.WideArithmetic

/-!
# Canonical form — wide integers as their numbers

A wide integer is compared with another part by part.  Equality looks whether the parts are the
same, and the order takes the signs first and then the magnitudes, reversed below zero.  Both go by
the number, because zero has one form, whatever sign it is built with (`Wide.ofParts_inj`).

* `Wide.signedNumber`: the number of a sign and a magnitude; zero is that of either sign.
* `Wide.compare_eq`, `Wide.compare_swap`, `Wide.compare_trans`: the order is that of the numbers,
  reversed if its operands are exchanged, and transitive.
* `Wide.Reading number read write`: patterns of 128 bits are read as the wide integers of their
  numbers and written back.  Two's complement and plain binary are both read in this way.
* `Representation.interval`: the integers of a representation, in powers of two.

**Canonical form** (`Wide.canonical_form_is_numeric`).  Equality and order of wide integers, their
conversions and their membership in a representation all are those of the numbers.
-/

namespace CheckedInt

namespace Wide

variable {a b c : Wide}

/-! ### Equality -/

/-- The number of a sign and a magnitude. -/
def signedNumber (negative : Bool) (magnitude : BitVec 128) : Int :=
  if negative then -(magnitude.toNat : Int) else magnitude.toNat

/-- Parts build the same wide integer if they are those of one number, though they may be different
themselves. -/
theorem ofParts_inj {s₁ s₂ : Bool} {m₁ m₂ : BitVec 128} :
    ofParts s₁ m₁ = ofParts s₂ m₂ ↔ signedNumber s₁ m₁ = signedNumber s₂ m₂ := by
  rw [← toInt_inj, toInt_ofParts, toInt_ofParts]
  rfl

theorem beq_iff_toInt : (a == b) = true ↔ a.toInt = b.toInt := by
  rw [beq_iff_eq, toInt_inj]

/-! ### Order -/

/-- The order of signs and magnitudes is that of the numbers. -/
theorem compare_eq (a b : Wide) : compare a b = compare a.toInt b.toInt := order_eq a b

/-- Only equal wide integers tie. -/
theorem compare_eq_eq_iff : compare a b = .eq ↔ a = b := by
  rw [compare_eq, Std.compare_eq_iff_eq, toInt_inj]

theorem lt_iff_toInt : a < b ↔ a.toInt < b.toInt := by
  show compare a b = .lt ↔ _
  rw [compare_eq, Std.compare_eq_lt]

theorem le_iff_toInt : a ≤ b ↔ a.toInt ≤ b.toInt := by
  show (compare a b).isLE = true ↔ _
  rw [compare_eq, Std.isLE_compare]

theorem compare_swap (a b : Wide) : (compare a b).swap = compare b a := by
  rw [compare_eq, compare_eq, Int.compare_swap]

protected theorem le_antisymm (hab : a ≤ b) (hba : b ≤ a) : a = b :=
  ext_toInt (Int.le_antisymm (le_iff_toInt.mp hab) (le_iff_toInt.mp hba))

protected theorem le_trans (hab : a ≤ b) (hbc : b ≤ c) : a ≤ c :=
  le_iff_toInt.mpr (Int.le_trans (le_iff_toInt.mp hab) (le_iff_toInt.mp hbc))

/-- Two comparisons of one outcome make a third. -/
theorem compare_trans {o : Ordering} (hab : compare a b = o) (hbc : compare b c = o) :
    compare a c = o := by
  rw [compare_eq] at hab hbc ⊢
  cases o with
  | lt =>
      exact Std.compare_eq_lt.mpr
        (Int.lt_trans (Std.compare_eq_lt.mp hab) (Std.compare_eq_lt.mp hbc))
  | eq =>
      exact Std.compare_eq_iff_eq.mpr
        ((Std.compare_eq_iff_eq.mp hab).trans (Std.compare_eq_iff_eq.mp hbc))
  | gt =>
      exact Std.compare_eq_gt.mpr
        (Int.lt_trans (Std.compare_eq_gt.mp hbc) (Std.compare_eq_gt.mp hab))

/-! ### Patterns read and written -/

/-- Each pattern is read as the wide integer of its number, no two as the same one and in the order
of their numbers, and exactly the wide integers that are read are written, as the pattern that they
are read from. -/
structure Reading (number : BitVec 128 → Int) (read : BitVec 128 → Wide)
    (write : Wide → Option (BitVec 128)) : Prop where
  toInt_read : ∀ p, (read p).toInt = number p
  injective : Function.Injective read
  compare_read : ∀ p q, compare (read p) (read q) = compare (number p) (number q)
  write_eq_some_iff : ∀ w p, write w = some p ↔ read p = w

/-- Numbers that determine their patterns are enough for a reading. -/
theorem reading_of_injective {number : BitVec 128 → Int} {read : BitVec 128 → Wide}
    {write : Wide → Option (BitVec 128)} (injective : Function.Injective number)
    (toInt_read : ∀ p, (read p).toInt = number p)
    (written : ∀ w p, write w = some p ↔ number p = w.toInt) : Reading number read write where
  toInt_read := toInt_read
  injective p q same := by
    have numbers := congrArg toInt same
    rw [toInt_read, toInt_read] at numbers
    exact injective numbers
  compare_read p q := by rw [compare_eq, toInt_read, toInt_read]
  write_eq_some_iff w p := by rw [written, ← toInt_read, toInt_inj]

/-- Reading in two's complement. -/
theorem reading_signed : Reading BitVec.toInt ofSigned toSigned? :=
  reading_of_injective (fun _ _ => BitVec.eq_of_toInt_eq) toInt_ofSigned
    fun _ _ => toSigned?_eq_some_iff

/-- Reading in plain binary. -/
theorem reading_unsigned : Reading (fun p => p.toNat) ofUnsigned toUnsigned? :=
  reading_of_injective (fun _ _ same => BitVec.eq_of_toNat_eq (Int.ofNat.inj same))
    toInt_ofUnsigned fun _ _ => toUnsigned?_eq_some_iff

end Wide

/-! ### Intervals -/

namespace Representation

/-- The integers that the bits of a representation are enough for. -/
def interval : Representation → Set Int
  | machine t =>
      if t.signed then {n | -2 ^ (t.bits - 1) ≤ n ∧ n ≤ 2 ^ (t.bits - 1) - 1}
      else {n | 0 ≤ n ∧ n ≤ 2 ^ t.bits - 1}
  | widest => {n | -2 ^ 127 ≤ n ∧ n ≤ 2 ^ 128 - 1}

/-- A range holds the numbers of its interval. -/
theorem contains_iff_mem_interval {r : Representation} {w : Wide} :
    r.contains w = true ↔ w.toInt ∈ r.interval := by
  rw [contains_eq_true_iff]
  cases r with
  | widest => exact widest_contains
  | machine t =>
      rw [machine_contains, IntType.Contains, IntType.min_eq, IntType.max_eq, interval]
      cases t.signed <;> exact Iff.rfl

end Representation

namespace Wide

/-- **Equality and order are numeric.**  Wide integers built of signs and magnitudes are equal
exactly if their numbers are, and so zero is the same with either sign.  Their order is that of the
numbers: it finds equal exactly what is equal, it is reversed if the operands are exchanged, and it
is antisymmetric and transitive.  Patterns are read in their own order, no two as the same wide
integer, and are written back from no other.  A representation contains the wide integers whose
numbers lie in its interval. -/
theorem canonical_form_is_numeric (s₁ s₂ : Bool) (m₁ m₂ : BitVec 128) (a b c : Wide)
    (r : Representation) :
    ((ofParts s₁ m₁).toInt = signedNumber s₁ m₁ ∧
      ((ofParts s₁ m₁ == ofParts s₂ m₂) = true ↔ signedNumber s₁ m₁ = signedNumber s₂ m₂) ∧
      ((a == b) = true ↔ a.toInt = b.toInt) ∧
      (a.negative = b.negative ∧ a.magnitude = b.magnitude ↔ a.toInt = b.toInt)) ∧
    (compare a b = compare a.toInt b.toInt ∧
      (a < b ↔ a.toInt < b.toInt) ∧ (a ≤ b ↔ a.toInt ≤ b.toInt) ∧
      (compare a b = .eq ↔ (a == b) = true) ∧
      compare b a = (compare a b).swap ∧
      (a ≤ b → b ≤ a → a = b) ∧ (a ≤ b → b ≤ c → a ≤ c) ∧
      ∀ o, compare a b = o → compare b c = o → compare a c = o) ∧
    (Reading BitVec.toInt ofSigned toSigned? ∧
      Reading (fun p => p.toNat) ofUnsigned toUnsigned?) ∧
    (r.contains a = true ↔ a.toInt ∈ r.interval) := by
  refine ⟨⟨toInt_ofParts s₁ m₁, ?_, beq_iff_toInt, parts_eq_iff⟩, ?_,
    ⟨reading_signed, reading_unsigned⟩, Representation.contains_iff_mem_interval⟩
  · rw [beq_iff_eq, ofParts_inj]
  · refine ⟨compare_eq a b, lt_iff_toInt, le_iff_toInt, ?_, (compare_swap a b).symm,
      Wide.le_antisymm, Wide.le_trans, fun o => compare_trans⟩
    rw [compare_eq_eq_iff, beq_iff_eq]

/-- The least wide integer is below that of the 128-bit type, and this is below the greatest one.
Zero with a sign is not above zero, nor below it. -/
theorem canonical_form_is_numeric_at_ends :
    let low := ofSigned (BitVec.intMin 128)
    (compare min low = .lt ∧ compare low max = .lt ∧ compare min max = .lt) ∧
    (min ≤ low ∧ low ≤ max ∧ min ≤ max) ∧
    (ofParts true 0#128 ≤ zero ∧ zero ≤ ofParts true 0#128 ∧ ofParts true 0#128 = zero) ∧
    (low.toSigned? = some (BitVec.intMin 128) ∧ Representation.widest.contains low = true ∧
      Representation.widest.contains min = false) := by
  intro low
  obtain ⟨-, ⟨-, -, -, -, -, -, trans, transOf⟩, ⟨signed, -⟩, inside⟩ :=
    canonical_form_is_numeric true false 0#128 0#128 min low max .widest
  obtain ⟨-, ⟨-, -, -, -, -, antisymm, -⟩, -⟩ :=
    canonical_form_is_numeric true false 0#128 0#128 (ofParts true 0#128) zero zero .widest
  have below : compare min low = .lt := by decide
  have above : compare low max = .lt := by decide
  have least : min ≤ low := by decide
  have greatest : low ≤ max := by decide
  have negativeZero : ofParts true 0#128 ≤ zero := by decide
  have positiveZero : zero ≤ ofParts true 0#128 := by decide
  have outside : min.toInt ∉ Representation.widest.interval := fun inside =>
    absurd inside.1 (by decide)
  exact ⟨⟨below, above, transOf .lt below above⟩, ⟨least, greatest, trans least greatest⟩,
    ⟨negativeZero, positiveZero, antisymm negativeZero positiveZero⟩,
    (signed.write_eq_some_iff low _).mpr rfl, by decide,
    Bool.eq_false_iff.mpr fun held => outside (inside.mp held)⟩

end Wide

end CheckedInt
