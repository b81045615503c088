/-!
# Binary operators

The ten operators on integers, with the symbol each is written by and its two families: the bitwise
operators work on the bits of both operands, the shifts on the bits of the left one.
-/

namespace CheckedInt

/-- The binary operators. -/
inductive Operator where
  | add
  | sub
  | mul
  | div
  | rem
  | bitOr
  | bitAnd
  | bitXor
  | shl
  | shr
deriving DecidableEq

namespace Operator

/-- How an operator is written in an expression. -/
def symbol : Operator → String
  | add => "+"
  | sub => "-"
  | mul => "*"
  | div => "/"
  | rem => "%"
  | bitOr => "|"
  | bitAnd => "&"
  | bitXor => "^"
  | shl => "<<"
  | shr => ">>"

instance : ToString Operator := ⟨symbol⟩

/-- The name of an operator, for diagnostics. -/
def label : Operator → String
  | add => "Add"
  | sub => "Sub"
  | mul => "Mul"
  | div => "Div"
  | rem => "Rem"
  | bitOr => "BitOr"
  | bitAnd => "BitAnd"
  | bitXor => "BitXor"
  | shl => "Shl"
  | shr => "Shr"

/-- What an operator does, in words. -/
def activity : Operator → String
  | add => "addition"
  | sub => "subtraction"
  | mul => "multiplication"
  | div => "division"
  | rem => "modulus"
  | bitOr => "bitwise or"
  | bitAnd => "bitwise and"
  | bitXor => "bitwise xor"
  | shl => "shift left"
  | shr => "shift right"

/-- The operator works on the two's complement patterns of both operands. -/
def isBitwise : Operator → Bool
  | bitOr | bitAnd | bitXor => true
  | _ => false

/-- The operator moves the bits of the left operand. -/
def isShift : Operator → Bool
  | shl | shr => true
  | _ => false

end Operator

end CheckedInt
