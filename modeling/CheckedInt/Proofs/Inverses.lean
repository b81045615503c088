import CheckedInt.Proofs.Acceptance
import CheckedInt.Proofs.Shifts

/-!
# Inverses — operators that take each other back

On integers a sum is taken back by a difference, a difference by a sum, a product by a quotient
unless the factor is zero, an "exclusive or" by itself, and a shift to the left by one to the right
(`Operator.inverse?`, `Operator.exact_inverse`).  On safe integers the way back is another operator
with a promoted range of its own, and what it gives has to fit that range and the stored type.

* `Operator.defined_inverse`: operands with a result on the way there have one on the way back.
* `SafeInt.fits_inverse`: that result fits the promoted range, unless a right operand of a wider
  type has drawn native promotion away from the stored type.  A shift to the right keeps to the
  stored type under either promotion and needs no such proviso.

**Undoing** (`SafeInt.operators_undo`).  So whatever an operator makes of a member of the domain is
taken back to that member.
-/

namespace CheckedInt

namespace Operator

variable {op back : Operator} {l r : Int}

/-! ### Inverses on integers -/

/-- The operator that takes another one back, with the same right operand. -/
def inverse? : Operator → Option Operator
  | add => some sub
  | sub => some add
  | mul => some div
  | bitXor => some bitXor
  | shl => some shr
  | _ => none

/-- The operator loses nothing of its left operand, as a product by zero does. -/
def Reversible (op : Operator) (r : Int) : Prop := op = mul → r ≠ 0

theorem reversible_of_ne (h : op ≠ mul) (r : Int) : op.Reversible r := fun h' => absurd h' h

theorem xor_xor_cancel_right (a b : Int) : Int.xor (Int.xor a b) b = a := by
  refine Bits.eq_of_testBit_eq fun k => ?_
  rw [Int.testBit_lxor, Int.testBit_lxor, Bool.xor_assoc, Bool.xor_self, Bool.xor_false]

/-- On integers the way back ends where the way there began. -/
theorem exact_inverse (inverse : op.inverse? = some back) (reversible : op.Reversible r) :
    back.exact (op.exact l r) r = l := by
  cases op <;> cases inverse
  case add => exact Int.add_sub_cancel l r
  case sub => exact Int.sub_add_cancel l r
  case mul => exact Int.mul_tdiv_cancel l (reversible rfl)
  case bitXor => exact xor_xor_cancel_right l r
  case shl => exact Int.mul_ediv_cancel l (pow_ne_zero _ (by decide))

/-- Operands with a result on the way there have one on the way back. -/
theorem defined_inverse (inverse : op.inverse? = some back) (reversible : op.Reversible r)
    {width : Nat} (defined : op.Defined width l r) : back.Defined width (op.exact l r) r := by
  cases op <;> cases inverse
  case mul => exact reversible rfl
  case shl => exact ⟨Int.mul_nonneg defined.1 (by positivity), defined.2⟩
  all_goals trivial

/-- An operator and the one that undoes it are bitwise together. -/
theorem isBitwise_inverse (inverse : op.inverse? = some back) : back.isBitwise = op.isBitwise := by
  cases op <;> cases inverse <;> rfl

/-- What undoes a shift is the shift to the right. -/
theorem inverse_of_isShift (inverse : op.inverse? = some back) (shift : op.isShift = true) :
    back = shr := by
  cases op <;> cases inverse <;> first | rfl | cases shift

end Operator

namespace SafeInt

variable {s t : IntType} {p : Policies} {x y : SafeInt t p} {op back : Operator} {r : Word s}

/-! ### The way back -/

/-- The way back has a result, and it is where the way there began. -/
theorem exact_inverse_of_tryApply (inverse : op.inverse? = some back)
    (reversible : op.Reversible r.toInt) (there : x.tryApply op r = .ok y) :
    back.Defined t.bits y.value.toInt r.toInt ∧
      back.exact y.value.toInt r.toInt = x.value.toInt := by
  obtain ⟨defined, -, exact, -⟩ := tryApply_eq_ok_iff_exact.mp there
  rw [exact]
  exact ⟨Operator.defined_inverse inverse reversible defined,
    Operator.exact_inverse inverse reversible⟩

/-- The promoted range of the way back holds that result. -/
theorem fits_inverse (inverse : op.inverse? = some back) (reversible : op.Reversible r.toInt)
    (spans : op.isShift = true ∨ p.promotion.Spans t s) (there : x.tryApply op r = .ok y) :
    back.Fits (p.promotion.promote back (.machine t) (.machine s)) y.value.toInt r.toInt := by
  obtain ⟨defined, restored⟩ := exact_inverse_of_tryApply inverse reversible there
  have held : t.Contains (back.exact y.value.toInt r.toInt) := restored ▸ x.value.contains_toInt
  rcases spans with shift | spans
  · obtain rfl := Operator.inverse_of_isShift inverse shift
    rw [Promotion.promote_shr, Operator.fits_iff_of_not_bitwise rfl]
    exact Representation.machine_contains.mpr held
  · refine spans.fits_of_admits (fun native bitwise => ?_)
      (Operator.undefined?_eq_none_iff.mpr defined) held
    -- the way there has been admitted already, with the same right operand
    obtain ⟨-, fits, -⟩ := tryApply_eq_ok_iff_exact.mp there
    rw [native] at spans fits
    rw [spans.promote_native] at fits
    have admitted := fits.1 (Operator.isBitwise_inverse inverse ▸ bitwise)
    exact ⟨Representation.machine_contains.mpr y.value.contains_toInt, admitted.2⟩

/-- What an operator makes of a member of the domain, its inverse takes back. -/
theorem tryApply_inverse (inverse : op.inverse? = some back) (reversible : op.Reversible r.toInt)
    (spans : op.isShift = true ∨ p.promotion.Spans t s)
    (member : p.domain.accepts t x.value = true) (there : x.tryApply op r = .ok y) :
    y.tryApply back r = .ok x := by
  obtain ⟨defined, restored⟩ := exact_inverse_of_tryApply inverse reversible there
  have fits := fits_inverse inverse reversible spans there
  exact tryApply_eq_ok_iff_exact.mpr ⟨defined, fits, restored.symm, member⟩

-- An unsigned right operand of sixteen bits draws native promotion away from a signed type of
-- eight: it leads from -1 to 4, and not back.
example :
    let p : Policies := ⟨.full, .native, .unwind⟩
    let x : SafeInt .i8 p := ⟨Word.ofInt .i8 (-1)⟩
    let y : SafeInt .i8 p := ⟨Word.ofInt .i8 4⟩
    x.tryApply .add (Word.ofInt .u16 5) = .ok y ∧
      y.tryApply .sub (Word.ofInt .u16 5) = .error (.overflow .sub) := by decide

/-! ### Undoing -/

/-- **Operators undo each other.**  If promotion is automatic, or native with a right operand that
is no wider than the stored type, then a sum is taken back by the difference, a difference by the
sum, a product by the quotient unless the factor is zero, and an "exclusive or" by itself.  A shift
to the left is taken back by one to the right, whatever type the amount comes in. -/
theorem operators_undo (x : SafeInt t p) (member : p.domain.accepts t x.value = true) (r : Word s) :
    (p.promotion = .automatic ∨ p.promotion = .native ∧ s.bits ≤ t.bits →
      (∀ y, x.tryApply .add r = .ok y → y.tryApply .sub r = .ok x) ∧
      (∀ y, x.tryApply .sub r = .ok y → y.tryApply .add r = .ok x) ∧
      (r.toInt ≠ 0 → ∀ y, x.tryApply .mul r = .ok y → y.tryApply .div r = .ok x) ∧
      ∀ y, x.tryApply .bitXor r = .ok y → y.tryApply .bitXor r = .ok x) ∧
    ∀ y, x.tryApply .shl r = .ok y → y.tryApply .shr r = .ok x := by
  refine ⟨fun promoted => ?_, fun y there => ?_⟩
  · have spans : p.promotion.Spans t s := promoted.imp id And.right
    refine ⟨fun y there => ?_, fun y there => ?_, fun nonzero y there => ?_, fun y there => ?_⟩
    · exact tryApply_inverse rfl (Operator.reversible_of_ne (by decide) _) (.inr spans) member there
    · exact tryApply_inverse rfl (Operator.reversible_of_ne (by decide) _) (.inr spans) member there
    · exact tryApply_inverse rfl (fun _ => nonzero) (.inr spans) member there
    · exact tryApply_inverse rfl (Operator.reversible_of_ne (by decide) _) (.inr spans) member there
  · exact tryApply_inverse rfl (Operator.reversible_of_ne (by decide) _) (.inl rfl) member there

/-- The unsigned 200 is beyond the signed eight-bit type that native promotion keeps to, and yet it
is added and taken away again.  An "exclusive or" with all ones of 128 bits and a shift by an amount
of 128 bits are undone as well. -/
theorem operators_undo_at_200 :
    (let p : Policies := ⟨.ranged (Word.ofInt .i128 (-100)) (Word.ofInt .i128 100), .native,
        .unwind⟩
      let x : SafeInt .i8 p := ⟨Word.ofInt .i8 (-100)⟩
      let y : SafeInt .i8 p := ⟨Word.ofInt .i8 100⟩
      x.tryApply .add (Word.ofInt .u8 200) = .ok y ∧
        y.tryApply .sub (Word.ofInt .u8 200) = .ok x) ∧
    (let p : Policies := ⟨.full, .automatic, .abort⟩
      let x : SafeInt .i8 p := ⟨Word.ofInt .i8 127⟩
      let y : SafeInt .i8 p := ⟨Word.ofInt .i8 (-128)⟩
      x.tryApply .bitXor (Word.ofInt .i128 (-1)) = .ok y ∧
        y.tryApply .bitXor (Word.ofInt .i128 (-1)) = .ok x) ∧
    (let p : Policies := ⟨.full, .native, .abort⟩
      let x : SafeInt .u8 p := ⟨Word.ofInt .u8 3⟩
      let y : SafeInt .u8 p := ⟨Word.ofInt .u8 192⟩
      x.tryApply .shl (Word.ofInt .u128 6) = .ok y ∧
        y.tryApply .shr (Word.ofInt .u128 6) = .ok x) := by
  refine ⟨?_, ?_, ?_⟩
  · intro p x y
    have there : x.tryApply .add (Word.ofInt .u8 200) = .ok y := by decide
    have undone := (operators_undo x (by decide) (Word.ofInt .u8 200)).1 (.inr ⟨rfl, le_rfl⟩)
    exact ⟨there, undone.1 y there⟩
  · intro p x y
    have there : x.tryApply .bitXor (Word.ofInt .i128 (-1)) = .ok y := by decide
    have undone := (operators_undo x (by decide) (Word.ofInt .i128 (-1))).1 (.inl rfl)
    exact ⟨there, undone.2.2.2 y there⟩
  · intro p x y
    have there : x.tryApply .shl (Word.ofInt .u128 6) = .ok y := by decide
    exact ⟨there, (operators_undo x (by decide) (Word.ofInt .u128 6)).2 y there⟩

end SafeInt

end CheckedInt
