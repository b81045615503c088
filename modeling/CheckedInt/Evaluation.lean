import CheckedInt.Fault
import CheckedInt.Promotion
import CheckedInt.Wide.Arithmetic
import CheckedInt.Word.Conversion

/-!
# Evaluation of an operator on two words

`evaluate` computes the exact result of an operator on words of any two types and refuses it unless
it fits the promoted range; `evaluateInto` then narrows it to a type.

* Arithmetic is that of wide integers. A divisor of zero is a fault of its own.
* The bitwise operators work on two's complement patterns of both operands, which must lie in the
  promoted range. In the widest range the patterns have 129 bits.
* The shifts refuse a negative left operand first, and then an amount that is negative or not below
  the left operand's width.
-/

namespace CheckedInt

/-- The two's complement of a wide integer in 129 bits: its sign above its low bits. -/
def Wide.toPattern129 (w : Wide) : BitVec 129 := BitVec.cons w.negative w.toPattern

/-- The wide integer that a 129-bit pattern stands for. The pattern of `-2 ^ 128` has none. -/
def Wide.ofPattern129? (p : BitVec 129) : Option Wide :=
  let low := p.setWidth 128
  if p.msb then
    if low = 0#128 then none else some (ofParts true (-low))
  else
    some (ofParts false low)

/-- A bitwise operator on two wide integers in the range of `promoted`. -/
def bitwise? (promoted : Representation) (f : {n : Nat} → BitVec n → BitVec n → BitVec n)
    (a b : Wide) : Option Wide :=
  if promoted.contains a && promoted.contains b then
    if promoted.isWidest then
      Wide.ofPattern129? (f a.toPattern129 b.toPattern129)
    else
      some (promoted.ofPattern (f a.toPattern b.toPattern))
  else
    none

/-- The number of places to shift an operand of `width` bits by. -/
def shiftAmount (operand amount : Wide) (width : Nat) : Except Fault Nat :=
  if operand.negative then
    .error .negativeShiftOperand
  else
    match amount.toUnsigned? with
    | some n =>
      if n.toNat < width then .ok n.toNat else .error .shiftAmountOutOfRange
    | none => .error .shiftAmountOutOfRange

/-- A quotient or a remainder, which only a divisor of zero lacks. -/
def quotientOf : Option Wide → Except Fault (Option Wide)
  | some w => .ok (some w)
  | none => .error .divisionByZero

section

variable {s t : IntType}

/-- The result of an operator before it is held against the promoted range; `none` where it is not
a wide integer. -/
def exactResult (promoted : Representation) (op : Operator) (l : Word s) (r : Word t) :
    Except Fault (Option Wide) :=
  let a := l.widen
  let b := r.widen
  match op with
  | .add => .ok (a.add? b)
  | .sub => .ok (a.sub? b)
  | .mul => .ok (a.mul? b)
  | .div => quotientOf (a.div? b)
  | .rem => quotientOf (a.rem? b)
  | .bitOr => .ok (bitwise? promoted (fun x y => x ||| y) a b)
  | .bitAnd => .ok (bitwise? promoted (fun x y => x &&& y) a b)
  | .bitXor => .ok (bitwise? promoted (fun x y => x ^^^ y) a b)
  | .shl => (shiftAmount a b s.bits).map a.shl?
  | .shr => (shiftAmount a b s.bits).map a.shr?

/-- The exact result of an operator, if it fits the promoted range. -/
def evaluate (p : Promotion) (op : Operator) (l : Word s) (r : Word t) : Except Fault Wide := do
  let promoted := p.promote op (.machine s) (.machine t)
  match (← exactResult promoted op l r).filter promoted.contains with
  | some w => .ok w
  | none => .error (.overflow op)

/-- The exact result of an operator as a word of type `d`. It has to fit the promoted range and the
type. -/
def evaluateInto (p : Promotion) (d : IntType) (op : Operator) (l : Word s) (r : Word t) :
    Except Fault (Word d) := do
  match Word.narrow? d (← evaluate p op l r) with
  | some w => .ok w
  | none => .error (.overflow op)

end

end CheckedInt
