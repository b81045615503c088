import CheckedInt.Representation.Basic
import CheckedInt.Wide.Lemmas

/-!
# The ranges of representations, as integers

* `toInt_min_machine`, `toInt_max_machine`, `toInt_min_widest`, `toInt_max_widest`: the ends.
* `contains_iff`, `contains_machine_iff`: membership is that of the closed interval between them.
-/

namespace CheckedInt.Representation

/-- A machine range starts at the least integer of its type. -/
theorem toInt_min_machine (t : IntType) : (machine t).min.toInt = t.min := by
  obtain ⟨w, s⟩ := t
  cases w <;> cases s <;> rfl

/-- A machine range ends at the greatest integer of its type. -/
theorem toInt_max_machine (t : IntType) : (machine t).max.toInt = t.max := by
  obtain ⟨w, s⟩ := t
  cases w <;> cases s <;> rfl

/-- The widest range starts with the least signed integer. -/
theorem toInt_min_widest : widest.min.toInt = -2 ^ 127 := rfl

/-- The widest range ends with the greatest unsigned integer. -/
theorem toInt_max_widest : widest.max.toInt = 2 ^ 128 - 1 := rfl

/-- A range holds the numbers between its ends. -/
theorem contains_iff {r : Representation} {w : Wide} :
    r.contains w = true ↔ r.min.toInt ≤ w.toInt ∧ w.toInt ≤ r.max.toInt := by
  show ((r.min.order w).isLE && (w.order r.max).isLE) = true ↔ _
  simp only [Wide.order_eq, Bool.and_eq_true, Std.isLE_compare]

/-- A machine range holds the numbers of its type. -/
theorem contains_machine_iff {t : IntType} {w : Wide} :
    (machine t).contains w = true ↔ t.Contains w.toInt := by
  rw [contains_iff, toInt_min_machine, toInt_max_machine]
  rfl

end CheckedInt.Representation
