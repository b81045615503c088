import CheckedInt.Representation.Lemmas
import CheckedInt.Word.Comparison
import CheckedInt.Word.Lemmas

/-!
# Exactness of conversions and comparisons

* `toInt_widen`, `narrow?_eq_some_iff`, `canRepresent_iff`: conversions keep the integer, and
  succeed exactly on the type's range.
* `lessThan_iff`, `equal_iff`, `compareTo_eq`, `within_iff`: comparison of words of any types is
  comparison of their integers.
-/

namespace CheckedInt

namespace Word

variable {s t u : IntType}

/-- A word keeps its number when it is widened. -/
@[simp] theorem toInt_widen (w : Word s) : w.widen.toInt = w.toInt := by
  simp only [widen, toInt]
  split
  · rw [Wide.toInt_ofSigned, BitVec.toInt_signExtend_of_le s.bits_le]
  · rw [Wide.toInt_ofUnsigned, BitVec.toNat_setWidth_of_le s.bits_le]

/-- Only the range of a 128-bit type reaches a word, and every type's range lies in one. -/
theorem narrow?_eq_some_iff {w : Wide} {v : Word t} :
    narrow? t w = some v ↔ v.toInt = w.toInt := by
  simp only [narrow?]
  cases hs : w.toSigned? with
  | some p =>
    simp only
    rw [ofInt?_eq_some_iff, Wide.toSigned?_eq_some_iff.1 hs]
  | none =>
    cases hu : w.toUnsigned? with
    | some p =>
      simp only [Option.bind_some]
      rw [ofInt?_eq_some_iff, Wide.toUnsigned?_eq_some_iff.1 hu]
    | none =>
      simp only [Option.bind_none, reduceCtorEq, false_iff]
      intro hv
      -- neither reading of a 128-bit pattern gives the number, and every word has one of them
      have no_unsigned (p : BitVec 128) : (p.toNat : Int) ≠ w.toInt := fun h => by
        rw [Wide.toUnsigned?_eq_some_iff.2 h] at hu
        cases hu
      have no_signed (p : BitVec 128) : p.toInt ≠ w.toInt := fun h => by
        rw [Wide.toSigned?_eq_some_iff.2 h] at hs
        cases hs
      simp only [toInt] at hv
      split at hv
      · refine no_signed (v.bits.signExtend 128) ?_
        rw [BitVec.toInt_signExtend_of_le t.bits_le, hv]
      · refine no_unsigned (v.bits.setWidth 128) ?_
        rw [BitVec.toNat_setWidth_of_le t.bits_le, hv]

/-- Words of any two types compare as their numbers. -/
theorem lessThan_iff {a : Word s} {b : Word t} :
    a.lessThan b = true ↔ a.toInt < b.toInt := by
  have nonneg_of_unsigned {r : IntType} (w : Word r) (h : r.signed = false) : 0 ≤ w.toInt := by
    simp [toInt, h]
  rw [← toInt_widen a, ← toInt_widen b]
  simp only [lessThan]
  split
  · rw [show compare a.widen b.widen = a.widen.order b.widen from rfl, Wide.order_eq, beq_iff_eq,
      Std.compare_eq_lt]
  · rename_i signs
    have ha := @Wide.toInt_neg_iff a.widen
    have hb := @Wide.toInt_neg_iff b.widen
    -- of different signedness at most one of the two is negative
    have one_unsigned : 0 ≤ a.widen.toInt ∨ 0 ≤ b.widen.toInt := by
      rw [toInt_widen, toInt_widen]
      cases hs : s.signed
      · exact .inl (nonneg_of_unsigned a hs)
      · cases ht : t.signed
        · exact .inr (nonneg_of_unsigned b ht)
        · exact absurd (hs.trans ht.symm) signs
    cases hx : a.widen.negative <;> cases hy : b.widen.negative <;>
      simp only [hx, hy, Bool.or_false, Bool.or_true, Bool.false_eq_true, if_false, if_true,
        iff_true, iff_false, true_iff, false_iff] at ha hb ⊢
    · rw [BitVec.ult_iff_toNat_lt, Wide.toInt_of_not_negative hx, Wide.toInt_of_not_negative hy]
      omega
    all_goals omega

theorem equal_iff {a : Word s} {b : Word t} : a.equal b = true ↔ a.toInt = b.toInt := by
  simp only [equal, Bool.and_eq_true, Bool.not_eq_true', ← Bool.not_eq_true, lessThan_iff]
  omega

theorem compareTo_eq (a : Word s) (b : Word t) : a.compareTo b = compare a.toInt b.toInt := by
  simp only [compareTo, lessThan_iff, compare, compareOfLessAndEq]
  grind

/-- A word lies between two others if its number lies between theirs. -/
theorem within_iff {w : Word s} {low : Word t} {high : Word u} :
    w.within low high = true ↔ low.toInt ≤ w.toInt ∧ w.toInt ≤ high.toInt := by
  simp only [within, greaterThan, Bool.and_eq_true, Bool.not_eq_true', ← Bool.not_eq_true,
    lessThan_iff]
  omega

end Word

/-- The test asks for the number of the word, not for its type. -/
theorem IntType.canRepresent_iff {t s : IntType} {w : Word s} :
    t.canRepresent w = true ↔ t.Contains w.toInt := by
  rw [canRepresent, Representation.contains_machine_iff, Word.toInt_widen]

end CheckedInt
