import Mathlib.Tactic.FinCases
import CheckedInt.Proofs.Acceptance

/-!
# Operand order — commutative operators

Sums, products and the three bitwise operators do not depend on the order of two integers
(`Operator.exact_comm`), and neither does the test whether they fit a promoted range
(`Operator.fits_comm`).  So the order of the operands matters to evaluation only as far as it
matters to promotion (`evaluate_comm_of_promote`).

* `Promotion.automaticRange_comm`: to automatic promotion it never does.
* `Promotion.promote_native_comm`: to native promotion it does not unless the two types have one
  width and different signs.
* `Operator.fits_one`, `Operator.not_fits_one`: there the left type decides, and the signed and the
  unsigned type of a width each hold two neighbours that the other does not.

**Operand order** (`evaluate_swap`).  The exception is a tie of native promotion, and there too both
orders never give different results; one of them may have none.
-/

namespace CheckedInt

variable {s t : IntType}

namespace Operator

variable {op : Operator} {promoted : Representation} {l r : Int}

/-! ### Commutative operators on integers -/

/-- On integers the order of the operands does not matter. -/
def isCommutative : Operator → Bool
  | add | mul | bitOr | bitAnd | bitXor => true
  | _ => false

/-- The exact results of a commutative operator do not depend on the order of the operands. -/
theorem exact_comm (commutes : op.isCommutative = true) (l r : Int) :
    op.exact l r = op.exact r l := by
  cases op
  case add => exact Int.add_comm l r
  case mul => exact Int.mul_comm l r
  case bitOr => exact Bits.placewise_or.comm Bool.or_comm l r
  case bitAnd => exact Bits.placewise_and.comm Bool.and_comm l r
  case bitXor => exact Bits.placewise_xor.comm Bool.xor_comm l r
  all_goals cases commutes

/-- A commutative operator has a result for all operands. -/
theorem defined_of_isCommutative (commutes : op.isCommutative = true) (width : Nat) (l r : Int) :
    op.Defined width l r := by
  cases op <;> trivial

/-- In one range the results fit in both orders or in none. -/
theorem fits_comm (commutes : op.isCommutative = true) :
    op.Fits promoted l r ↔ op.Fits promoted r l := by
  rw [Fits, Fits, exact_comm commutes l r]
  exact and_congr_left' (forall_congr' fun _ => and_comm)

/-- The left operand's width plays no part either, as nothing is shifted. -/
theorem outcome_comm (commutes : op.isCommutative = true) (width width' : Nat) :
    op.outcome promoted width l r = op.outcome promoted width' r l := by
  have defined (width : Nat) (l r : Int) : op.undefined? width l r = none :=
    undefined?_eq_none_iff.mpr (defined_of_isCommutative commutes width l r)
  rw [outcome_of_defined (defined width l r), outcome_of_defined (defined width' r l),
    exact_comm commutes l r]
  exact if_congr (fits_comm commutes) rfl rfl

end Operator

/-! ### Promotion of commutative operators -/

theorem Width.bits_injective : Function.Injective Width.bits := by
  intro v w same
  cases v <;> cases w <;> first | rfl | cases same

theorem IntType.ext_bits (width : s.bits = t.bits) (sign : s.signed = t.signed) : s = t := by
  obtain ⟨v, signed⟩ := s
  obtain ⟨w, signed'⟩ := t
  obtain rfl := Width.bits_injective width
  exact congrArg _ sign

namespace Promotion

/-- The automatic range of a commutative operator does not depend on the order of the operands. -/
theorem automaticRange_comm {op : Operator} (commutes : op.isCommutative = true)
    (lhs rhs : Representation) : automaticRange op lhs rhs = automaticRange op rhs lhs := by
  have signs : (lhs.signed || rhs.signed) = (rhs.signed || lhs.signed) := Bool.or_comm _ _
  have magnitudes : Nat.max lhs.magnitudeBits rhs.magnitudeBits =
      Nat.max rhs.magnitudeBits lhs.magnitudeBits := Nat.max_comm _ _
  cases op
  case add | bitOr | bitAnd | bitXor => simp only [automaticRange, signs, magnitudes]
  case mul => simp only [automaticRange, signs, Nat.add_comm lhs.bits rhs.bits]
  all_goals cases commutes

/-- Native promotion takes the right operand's type if that is the wider one. -/
theorem promote_native_of_lt {op : Operator} (unshifted : op.isShift = false)
    (wide : s.bits < t.bits) : promote .native op (.machine s) (.machine t) = .machine t :=
  if_neg (not_or.mpr ⟨ne_true_of_eq_false unshifted, not_le.mpr wide⟩)

/-- Of two widths the greater one decides, and of equal types either. -/
theorem promote_native_comm {op : Operator} (commutes : op.isCommutative = true)
    (told_apart : s.bits ≠ t.bits ∨ s.signed = t.signed) :
    promote .native op (.machine s) (.machine t) =
      promote .native op (.machine t) (.machine s) := by
  have unshifted : op.isShift = false := by cases op <;> first | rfl | cases commutes
  rcases lt_trichotomy s.bits t.bits with wide | same | narrow
  · rw [promote_native_of_lt unshifted wide, promote_native_of_le wide.le]
  · rw [IntType.ext_bits same (told_apart.resolve_left (not_not.mpr same))]
  · rw [promote_native_of_le narrow.le, promote_native_of_lt unshifted narrow]

end Promotion

/-! ### Evaluation in both orders -/

/-- If promotion does not mind the order of the operands, neither does evaluation. -/
theorem evaluate_comm_of_promote {p : Promotion} {op : Operator}
    (commutes : op.isCommutative = true) (l : Word s) (r : Word t)
    (same : p.promote op (.machine s) (.machine t) = p.promote op (.machine t) (.machine s)) :
    evaluate p op l r = evaluate p op r l := by
  refine evaluate_congr ?_
  rw [same]
  exact Operator.outcome_comm commutes s.bits t.bits

/-- Results are exact, so two orders that both have one have the same. -/
theorem eq_of_evaluate_swap {p : Promotion} {op : Operator} (commutes : op.isCommutative = true)
    {l : Word s} {r : Word t} {w w' : Wide} (h : evaluate p op l r = .ok w)
    (h' : evaluate p op r l = .ok w') : w = w' := by
  have defined := Operator.defined_of_isCommutative commutes
  have exact := ((evaluate_eq_ok_iff_fits (defined ..)).mp h).2
  have exact' := ((evaluate_eq_ok_iff_fits (defined ..)).mp h').2
  rw [← Wide.toInt_inj, exact, exact', Operator.exact_comm commutes]

/-! ### Ties of native promotion -/

/-- A type is closed under operators that work place by place. -/
theorem IntType.contains_placewise {g : Bool → Bool → Bool}
    {f : {n : Nat} → BitVec n → BitVec n → BitVec n} {F : Int → Int → Int}
    (h : Bits.Placewise g f F) {a b : Int} (ha : t.Contains a) (hb : t.Contains b) :
    t.Contains (F a b) :=
  contains_iff_fitsIn.mpr
    ((contains_iff_fitsIn.mp ha).placewise h (contains_iff_fitsIn.mp hb))

namespace Operator

variable {op : Operator} {n : Int}

/-- A type that holds an integer and the next one holds what a commutative operator makes of the
integer and one. -/
theorem fits_one (commutes : op.isCommutative = true) (held : s.Contains n)
    (next : s.Contains (n + 1)) (one : s.Contains 1) : op.Fits (.machine s) n 1 := by
  have result : s.Contains (op.exact n 1) := by
    cases op
    case add => exact next
    case mul => exact (congrArg s.Contains (Int.mul_one n)).mpr held
    case bitOr => exact IntType.contains_placewise Bits.placewise_or held one
    case bitAnd => exact IntType.contains_placewise Bits.placewise_and held one
    case bitXor => exact IntType.contains_placewise Bits.placewise_xor held one
    all_goals cases commutes
  simp only [Fits, Admits, Representation.machine_contains]
  exact ⟨fun _ => ⟨held, one⟩, result⟩

/-- A type that holds neither refuses them. -/
theorem not_fits_one (commutes : op.isCommutative = true) (out : ¬ t.Contains n)
    (next : ¬ t.Contains (n + 1)) : ¬ op.Fits (.machine t) n 1 := by
  simp only [Fits, Admits, Representation.machine_contains]
  rintro ⟨admitted, result⟩
  cases op
  case add => exact next result
  case mul => exact out ((congrArg t.Contains (Int.mul_one n)).mp result)
  case bitOr | bitAnd | bitXor => exact out (admitted rfl).1
  all_goals cases commutes

end Operator

/-- Of the signed and the unsigned type of a width each holds neighbours that the other does not. -/
theorem IntType.exists_neighbours (same : s.bits = t.bits) (signs : s.signed ≠ t.signed) :
    ∃ n, s.Contains n ∧ s.Contains (n + 1) ∧ ¬ t.Contains n ∧ ¬ t.Contains (n + 1) := by
  obtain ⟨v, signed⟩ := s
  obtain ⟨w, signed'⟩ := t
  obtain rfl := Width.bits_injective same
  cases signed <;> cases signed'
  case false.true => exact ⟨IntType.max ⟨v, false⟩ - 1, by cases v <;> decide⟩
  case true.false => exact ⟨-2, by cases v <;> decide⟩
  all_goals exact absurd rfl signs

/-- On a tie one order can have a result that the other lacks. -/
theorem exists_evaluate_swap_of_tie {op : Operator} (commutes : op.isCommutative = true)
    (same : s.bits = t.bits) (signs : s.signed ≠ t.signed) :
    ∃ (l : Word s) (r : Word t), (∃ w, evaluate .native op l r = .ok w) ∧
      evaluate .native op r l = .error (.overflow op) := by
  obtain ⟨n, held, next, out, next_out⟩ := IntType.exists_neighbours same signs
  have hl := Word.toInt_ofInt held
  have hr := Word.toInt_ofInt t.contains_one
  have defined := Operator.defined_of_isCommutative commutes
  refine ⟨Word.ofInt s n, Word.ofInt t 1, ?_, ?_⟩
  · have fits := Operator.fits_one commutes held next s.contains_one
    rw [← Promotion.promote_native_of_le same.ge op, ← hl, ← hr] at fits
    obtain ⟨w, given, -⟩ := evaluate_of_fits (defined ..) fits
    exact ⟨w, given⟩
  · have unfit := Operator.not_fits_one commutes out next_out
    have refused := mt (Operator.fits_comm commutes).mp unfit
    rw [← Promotion.promote_native_of_le same.le op, ← hl, ← hr] at refused
    exact evaluate_of_not_fits (defined ..) refused

/-! ### Operand order -/

/-- **Operand order.**  The order of the operands of a commutative operator does not matter under
automatic promotion, faults included, nor under native promotion unless the two types have one
width and different signs.  There the two orders never have different results, and for every such
pair of types there are operands with a result in one order and an overflow in the other. -/
theorem evaluate_swap (op : Operator)
    (hop : op ∈ [Operator.add, .mul, .bitOr, .bitAnd, .bitXor]) (s t : IntType) :
    (∀ (l : Word s) (r : Word t), evaluate .automatic op l r = evaluate .automatic op r l) ∧
    (s.bits ≠ t.bits ∨ s.signed = t.signed →
      ∀ (l : Word s) (r : Word t), evaluate .native op l r = evaluate .native op r l) ∧
    (s.bits = t.bits ∧ s.signed ≠ t.signed →
      (∀ (l : Word s) (r : Word t) (w w' : Wide), evaluate .native op l r = .ok w →
        evaluate .native op r l = .ok w' → w = w') ∧
      ∃ (l : Word s) (r : Word t), (∃ w, evaluate .native op l r = .ok w) ∧
        evaluate .native op r l = .error (.overflow op)) := by
  have commutes : op.isCommutative = true := by fin_cases hop <;> rfl
  refine ⟨fun l r => ?_, fun told_apart l r => ?_, fun ⟨same, signs⟩ => ⟨?_, ?_⟩⟩
  · exact evaluate_comm_of_promote commutes l r (Promotion.automaticRange_comm commutes _ _)
  · exact evaluate_comm_of_promote commutes l r (Promotion.promote_native_comm commutes told_apart)
  · exact fun l r w w' h h' => eq_of_evaluate_swap commutes h h'
  · exact exists_evaluate_swap_of_tie commutes same signs

/-- The wider type wins in both orders, and both refuse the negative operand.  On a tie the product
127 is in both types and has one value, and other operands of the two types have a product in one
order only. -/
theorem evaluate_swap_at_127 :
    (IntType.i8.bits ≠ IntType.u64.bits ∧
      evaluate .native .bitXor (Word.ofInt .i8 (-1)) (Word.ofInt .u64 5) =
        evaluate .native .bitXor (Word.ofInt .u64 5) (Word.ofInt .i8 (-1))) ∧
    (IntType.u8.bits = IntType.i8.bits ∧ IntType.u8.signed ≠ IntType.i8.signed) ∧
    (∃ w, evaluate .native .mul (Word.ofInt .u8 127) (Word.ofInt .i8 1) = .ok w ∧
      evaluate .native .mul (Word.ofInt .i8 1) (Word.ofInt .u8 127) = .ok w) ∧
    ∃ (l : Word .u8) (r : Word .i8), (∃ w, evaluate .native .mul l r = .ok w) ∧
      evaluate .native .mul r l = .error (.overflow .mul) := by
  have widths : IntType.i8.bits ≠ IntType.u64.bits := by decide
  have tie : IntType.u8.bits = IntType.i8.bits ∧ IntType.u8.signed ≠ IntType.i8.signed := by decide
  have unsigned_first : evaluate .native .mul (Word.ofInt .u8 127) (Word.ofInt .i8 1) =
      .ok (Word.ofInt .u8 127).widen := by decide
  have signed_first : evaluate .native .mul (Word.ofInt .i8 1) (Word.ofInt .u8 127) =
      .ok (Word.ofInt .i8 127).widen := by decide
  obtain ⟨agree, differ⟩ := (evaluate_swap .mul (by decide) .u8 .i8).2.2 tie
  have same := agree _ _ _ _ unsigned_first signed_first
  exact ⟨⟨widths, (evaluate_swap .bitXor (by decide) .i8 .u64).2.1 (.inl widths) _ _⟩, tie,
    ⟨_, unsigned_first, signed_first.trans (congrArg Except.ok same.symm)⟩, differ⟩

end CheckedInt
