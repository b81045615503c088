import CheckedInt.Operator
import CheckedInt.Representation.Basic

/-!
# Promotion — the range that a result has to fit

* `native`: the wider operand's range, the left one's on a tie; a shift keeps the left one's.
* `automatic`: a range that holds every result of the operator on the operands' ranges, as far as
  one of at most 128 bits does, and the widest range beyond that.
-/

namespace CheckedInt

/-- How the range that a result has to fit follows from those of the operands. -/
inductive Promotion where
  | native
  | automatic
deriving DecidableEq

namespace Promotion

/-- The range of an automatic result. With `m` magnitude bits in the larger operand, a sum needs
`m + 1` of them and a difference its own sign besides; a product needs the bits of both operands. A
quotient leaves the dividend's range only as the least number over `-1`. -/
def automaticRange (op : Operator) (lhs rhs : Representation) : Representation :=
  let signed := lhs.signed || rhs.signed
  let magnitudeBits := Nat.max lhs.magnitudeBits rhs.magnitudeBits
  let signBit := signed.toNat
  match op with
  | .add => .fitting (magnitudeBits + 1 + signBit) signed
  | .sub => .fitting (magnitudeBits + 2) true
  | .mul => .fitting (lhs.bits + rhs.bits) signed
  | .div => .fitting (lhs.bits + signBit) signed
  | .bitOr | .bitAnd | .bitXor => .fitting (magnitudeBits + signBit) signed
  | .shl => .widest
  | .rem | .shr => lhs

/-- The range that the result of an operator on two ranges has to fit. -/
def promote (p : Promotion) (op : Operator) (lhs rhs : Representation) : Representation :=
  match p with
  | native => if op.isShift ∨ rhs.bits ≤ lhs.bits then lhs else rhs
  | automatic => automaticRange op lhs rhs

end Promotion

end CheckedInt
