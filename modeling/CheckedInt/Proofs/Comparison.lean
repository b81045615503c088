import CheckedInt.Word.Exactness

/-!
# Comparison — words of any types in the order of their integers

`lessThan` goes one of three ways, by the signednesses of the two types and the signs of the two
words.  On each of them it decides the order of the two integers (`lessThan_iff`), so the ways agree
wherever they meet, and what is built from `lessThan` is a relation of integers as well
(`greaterThan_iff`, `lessEqual_iff`, `greaterEqual_iff`).

* `compareTo_swap`: the order of two words is reversed if they are exchanged.
* `trichotomy`: of two words one is less, or they are equal, and only one of these.
* `lessThan_trans`, `equal_trans`: a word of a second type leads from one of a first type to one of
  a third.

**Integer order** (`comparison_is_integer_order`).  Words of any types compare as their integers do.
-/

namespace CheckedInt.Word

variable {s t u : IntType} {a : Word s} {b : Word t} {c : Word u}

/-! ### The tests built from `lessThan` -/

theorem lessThan_eq_false_iff : a.lessThan b = false ↔ b.toInt ≤ a.toInt := by
  rw [← Bool.not_eq_true, lessThan_iff, Int.not_lt]

theorem greaterThan_iff : a.greaterThan b = true ↔ b.toInt < a.toInt := lessThan_iff

theorem lessEqual_iff : a.lessEqual b = true ↔ a.toInt ≤ b.toInt := by
  rw [lessEqual, greaterThan, Bool.not_eq_true', lessThan_eq_false_iff]

theorem greaterEqual_iff : a.greaterEqual b = true ↔ b.toInt ≤ a.toInt := by
  rw [greaterEqual, Bool.not_eq_true', lessThan_eq_false_iff]

theorem equal_eq_false_iff : a.equal b = false ↔ a.toInt ≠ b.toInt := by
  rw [← Bool.not_eq_true, equal_iff]

/-! ### Words of two and of three types -/

/-- Exchanging the words reverses their order. -/
theorem compareTo_swap (a : Word s) (b : Word t) : (a.compareTo b).swap = b.compareTo a := by
  rw [compareTo_eq, compareTo_eq, Int.compare_swap]

/-- Of two words one is less than the other or they are equal. -/
theorem trichotomy (a : Word s) (b : Word t) :
    (a.lessThan b = true ∧ b.lessThan a = false ∧ a.equal b = false) ∨
    (a.lessThan b = false ∧ b.lessThan a = true ∧ a.equal b = false) ∨
    (a.lessThan b = false ∧ b.lessThan a = false ∧ a.equal b = true) := by
  simp only [lessThan_iff, equal_iff, lessThan_eq_false_iff, equal_eq_false_iff]
  rcases Int.lt_trichotomy a.toInt b.toInt with less | same | greater
  · exact .inl ⟨less, Int.le_of_lt less, Int.ne_of_lt less⟩
  · exact .inr (.inr ⟨Int.le_of_eq same.symm, Int.le_of_eq same, same⟩)
  · exact .inr (.inl ⟨Int.le_of_lt greater, greater, Int.ne_of_gt greater⟩)

theorem lessThan_trans (hab : a.lessThan b = true) (hbc : b.lessThan c = true) :
    a.lessThan c = true :=
  lessThan_iff.mpr (Int.lt_trans (lessThan_iff.mp hab) (lessThan_iff.mp hbc))

theorem equal_trans (hab : a.equal b = true) (hbc : b.equal c = true) : a.equal c = true :=
  equal_iff.mpr ((equal_iff.mp hab).trans (equal_iff.mp hbc))

/-- No word is within bounds that are crossed. -/
theorem within_of_crossed {low : Word s} {high : Word t} (crossed : high.toInt < low.toInt)
    (w : Word u) : w.within low high = false := by
  rw [← Bool.not_eq_true, within_iff]
  rintro ⟨above, below⟩
  exact absurd (Int.le_trans above below) (Int.not_le.mpr crossed)

/-- **Comparison is the integer order.**  The tests on words of any two types, and the test of a
word of a third type against the two, are those on the integers.  So exactly one of the three
relations holds, exchanging the words reverses their order, and the relations are transitive through
three types, whichever ways the three comparisons take. -/
theorem comparison_is_integer_order (a : Word s) (b : Word t) (c : Word u) :
    ((a.lessThan b = true ↔ a.toInt < b.toInt) ∧
      (a.greaterThan b = true ↔ a.toInt > b.toInt) ∧
      (a.lessEqual b = true ↔ a.toInt ≤ b.toInt) ∧
      (a.greaterEqual b = true ↔ a.toInt ≥ b.toInt) ∧
      (a.equal b = true ↔ a.toInt = b.toInt) ∧
      a.compareTo b = compare a.toInt b.toInt) ∧
    ((c.within a b = true ↔ a.toInt ≤ c.toInt ∧ c.toInt ≤ b.toInt) ∧
      (a.toInt > b.toInt → c.within a b = false)) ∧
    ((a.lessThan b = true ∧ b.lessThan a = false ∧ a.equal b = false) ∨
      (a.lessThan b = false ∧ b.lessThan a = true ∧ a.equal b = false) ∨
      (a.lessThan b = false ∧ b.lessThan a = false ∧ a.equal b = true)) ∧
    b.compareTo a = (a.compareTo b).swap ∧
    (a.lessThan b = true → b.lessThan c = true → a.lessThan c = true) ∧
    (a.equal b = true → b.equal c = true → a.equal c = true) := by
  refine ⟨?_, ?_, trichotomy a b, (compareTo_swap a b).symm, lessThan_trans, equal_trans⟩
  · exact ⟨lessThan_iff, greaterThan_iff, lessEqual_iff, greaterEqual_iff, equal_iff,
      compareTo_eq a b⟩
  · exact ⟨within_iff, fun crossed => within_of_crossed crossed c⟩

/-- The least number of all types, a negative one and the greatest number of all types: the first
two compare as numbers with a sign and the others by a sign alone, and nothing lies between bounds
from the top down.  The number 127 is equal to itself in three types. -/
theorem comparison_of_extremes :
    let least := ofInt .i128 (-2 ^ 127)
    let minusOne := ofInt .i8 (-1)
    let greatest := ofInt .u128 (2 ^ 128 - 1)
    (least.lessThan minusOne = true ∧ minusOne.lessThan greatest = true ∧
      least.lessThan greatest = true) ∧
    (greatest.toInt > least.toInt ∧ minusOne.within greatest least = false) ∧
    (ofInt .i8 127).equal (ofInt .u64 127) = true ∧
      (ofInt .u64 127).equal (ofInt .u128 127) = true ∧
      (ofInt .i8 127).equal (ofInt .u128 127) = true := by
  intro least minusOne greatest
  obtain ⟨-, -, -, -, less, -⟩ := comparison_is_integer_order least minusOne greatest
  obtain ⟨-, ⟨-, crossed⟩, -⟩ := comparison_is_integer_order greatest least minusOne
  obtain ⟨-, -, -, -, -, same⟩ :=
    comparison_is_integer_order (ofInt .i8 127) (ofInt .u64 127) (ofInt .u128 127)
  have below : least.lessThan minusOne = true := by decide
  have above : minusOne.lessThan greatest = true := by decide
  have downward : greatest.toInt > least.toInt := by decide
  have signedWithUnsigned : (ofInt .i8 127).equal (ofInt .u64 127) = true := by decide
  have unsignedBoth : (ofInt .u64 127).equal (ofInt .u128 127) = true := by decide
  exact ⟨⟨below, above, less below above⟩, ⟨downward, crossed downward⟩, signedWithUnsigned,
    unsignedBoth, same signedWithUnsigned unsignedBoth⟩

end CheckedInt.Word
