import Mathlib.Tactic.Linarith
import Mathlib.Tactic.Positivity
import CheckedInt.Representation.Lemmas
import CheckedInt.Word.Exactness

/-!
# Range — the integers of types and of representations

* `Representation.Contains`: the closed interval of integers between the ends of a representation.
  For a type it is the type's own interval (`machine_contains`), and the widest one holds exactly
  the integers of some type (`widest_contains_iff_exists`).
* `FitsIn m signed n`: the integer takes at most `m` bits besides its sign, and has a sign only if
  it may.  Types are of this form (`IntType.contains_iff_fitsIn`), and the formulas for the width of
  a result count such bits.
* `Representation.fitting_contains`: the representation for `m` bits and a sign holds every integer
  that fits in them, as far as any type does.
-/

namespace CheckedInt

/-- The integer takes at most `m` bits besides its sign; without a sign it is not negative. -/
def FitsIn (m : Nat) (signed : Bool) (n : Int) : Prop :=
  (if signed then -2 ^ m ≤ n else 0 ≤ n) ∧ n < 2 ^ m

namespace FitsIn

variable {m : Nat} {signed : Bool} {n : Int}

/-- Nothing that fits is below `-2 ^ m`, with a sign or without. -/
theorem lower (h : FitsIn m signed n) : -2 ^ m ≤ n := by
  have pos : (0 : Int) < 2 ^ m := by positivity
  obtain ⟨h, -⟩ := h
  split at h <;> omega

theorem nonneg (h : FitsIn m false n) : 0 ≤ n := h.1

theorem of_signed (h : FitsIn m true n) : -2 ^ m ≤ n ∧ n < 2 ^ m := h

/-- More bits and a sign take nothing away. -/
theorem mono {m' : Nat} {signed' : Bool} (h : FitsIn m signed n) (bits : m ≤ m')
    (sign : signed = true → signed' = true) : FitsIn m' signed' n := by
  have pow : (2 : Int) ^ m ≤ 2 ^ m' := pow_le_pow_right₀ (by decide) bits
  refine ⟨?_, h.2.trans_le pow⟩
  cases signed' with
  | true =>
      have := h.lower
      rw [if_pos rfl]
      omega
  | false =>
      cases signed with
      | false => exact h.nonneg
      | true => exact absurd (sign rfl) Bool.false_ne_true

end FitsIn

/-- A type of `b` bits has `b - 1` of them besides the sign, or all `b`. -/
theorem IntType.contains_iff_fitsIn {t : IntType} {n : Int} :
    t.Contains n ↔ FitsIn (Representation.machine t).magnitudeBits t.signed n := by
  rw [IntType.Contains, IntType.min_eq, IntType.max_eq, FitsIn]
  show _ ↔ (if t.signed then -2 ^ (if t.signed then t.bits - 1 else t.bits) ≤ n else 0 ≤ n) ∧
    n < 2 ^ (if t.signed then t.bits - 1 else t.bits)
  cases t.signed with
  | true =>
      rw [if_pos rfl, if_pos rfl, if_pos rfl, if_pos rfl]
      omega
  | false =>
      rw [if_neg Bool.false_ne_true, if_neg Bool.false_ne_true, if_neg Bool.false_ne_true,
        if_neg Bool.false_ne_true]
      omega

/-- The word of a type fits in the bits of the type. -/
theorem Word.fitsIn {t : IntType} (w : Word t) :
    FitsIn (Representation.machine t).magnitudeBits t.signed w.toInt :=
  IntType.contains_iff_fitsIn.mp w.contains_toInt

/-- Every integer whose magnitude has 128 bits is that of a wide integer. -/
theorem Wide.exists_toInt_eq {n : Int} (h : n.natAbs < 2 ^ 128) : ∃ w : Wide, w.toInt = n := by
  refine ⟨ofParts (decide (n < 0)) (BitVec.ofNat 128 n.natAbs), ?_⟩
  rw [toInt_ofParts, BitVec.toNat_ofNat, Nat.mod_eq_of_lt h]
  by_cases hn : n < 0
  · rw [decide_eq_true hn, if_pos rfl]
    omega
  · rw [decide_eq_false hn, if_neg Bool.false_ne_true]
    omega

/-- The least number of bits that the search finds is enough. -/
theorem Width.le_bits_of_atLeast? {n : Nat} {w : Width} (h : atLeast? n = some w) : n ≤ w.bits :=
  of_decide_eq_true (@List.find?_some _ (fun w : Width => decide (n ≤ w.bits)) _ _ h)

namespace Representation

variable {r : Representation} {n : Int}

/-- The integers between the ends of the range. -/
def Contains (r : Representation) (n : Int) : Prop := r.min.toInt ≤ n ∧ n ≤ r.max.toInt

instance (r : Representation) (n : Int) : Decidable (r.Contains n) :=
  inferInstanceAs (Decidable (_ ∧ _))

theorem contains_eq_true_iff {w : Wide} : r.contains w = true ↔ r.Contains w.toInt := contains_iff

/-- A machine range contains the integers of its type. -/
theorem machine_contains {t : IntType} : (machine t).Contains n ↔ t.Contains n := by
  rw [Contains, toInt_min_machine, toInt_max_machine]
  rfl

/-- The widest range goes from the least signed to the greatest unsigned integer. -/
theorem widest_contains : widest.Contains n ↔ -2 ^ 127 ≤ n ∧ n ≤ 2 ^ 128 - 1 := by
  rw [Contains, toInt_min_widest, toInt_max_widest]

/-- No representation holds more than the widest one. -/
theorem Contains.widest (h : r.Contains n) : widest.Contains n := by
  cases r with
  | widest => exact h
  | machine t =>
      rw [machine_contains, IntType.contains_iff_fitsIn] at h
      obtain ⟨w, s⟩ := t
      rw [widest_contains]
      cases s with
      | true =>
          have bits : (machine ⟨w, true⟩).magnitudeBits ≤ 127 := by cases w <;> decide
          obtain ⟨lower, upper⟩ := (h.mono bits id).of_signed
          exact ⟨lower, by omega⟩
      | false =>
          have bits : (machine ⟨w, false⟩).magnitudeBits ≤ 128 := by cases w <;> decide
          have upper := (h.mono bits id).2
          have := h.nonneg
          exact ⟨by omega, by omega⟩

/-- The integers of the widest representation are those of some type. -/
theorem widest_contains_iff_exists : widest.Contains n ↔ ∃ t : IntType, t.Contains n := by
  refine ⟨?_, ?_⟩
  · intro h
    obtain ⟨lower, upper⟩ := widest_contains.mp h
    by_cases hn : n < 0
    · have fits : FitsIn 127 true n := ⟨lower, by omega⟩
      exact ⟨.i128, IntType.contains_iff_fitsIn.mpr fits⟩
    · have fits : FitsIn 128 false n := ⟨not_lt.mp hn, by omega⟩
      exact ⟨.u128, IntType.contains_iff_fitsIn.mpr fits⟩
  · rintro ⟨t, ht⟩
    exact (machine_contains.mpr ht).widest

/-- What a representation holds, a wide integer stands for. -/
theorem Contains.exists_wide (h : r.Contains n) : ∃ w : Wide, w.toInt = n := by
  obtain ⟨lower, upper⟩ := widest_contains.mp h.widest
  exact Wide.exists_toInt_eq (by omega)

/-- **Sufficiency of `fitting`.**  An integer of `m` bits besides its sign lies in the
representation for `m` bits and the sign, unless it lies in none. -/
theorem fitting_contains {m : Nat} {signed : Bool} (h : FitsIn m signed n)
    (hw : widest.Contains n) : (fitting (m + signed.toNat) signed).Contains n := by
  unfold fitting
  cases hb : Width.atLeast? (m + signed.toNat) with
  | none => exact hw
  | some w =>
      have enough := Width.le_bits_of_atLeast? hb
      refine machine_contains.mpr (IntType.contains_iff_fitsIn.mpr (h.mono ?_ id))
      show m ≤ if signed then w.bits - 1 else w.bits
      cases signed with
      | true => exact Nat.le_sub_one_of_lt enough
      | false => exact enough

end Representation

end CheckedInt
