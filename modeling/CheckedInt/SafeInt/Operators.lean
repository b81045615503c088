import CheckedInt.SafeInt.Basic

/-!
# Operators on safe integers

The left operand's policies decide. A result is exact and in the domain, or it is refused.

* `tryApply`, `apply`, `applyAssign`: a binary operator that returns its fault, raises it, or works
  in place. Where the fault is passed over, `apply` gives the left operand.
* `preStep`, `postStep`: the neighbour in place, with the new or the old value returned.
* `negate`, `complement`: the unary operators, for signed types.
-/

namespace CheckedInt

/-- The direction of a step to a neighbouring integer. -/
inductive Direction where
  | up
  | down
deriving DecidableEq

namespace Direction

/-- The operator whose result with one is the neighbour. -/
def operator : Direction → Operator
  | up => .add
  | down => .sub

/-- The fault of a step that returns the old value. -/
def fault : Direction → Fault
  | up => .increment
  | down => .decrement

end Direction

namespace SafeInt

variable {t s : IntType} {p : Policies} {σ : Type}

/-- The result of an operator, or the fault. -/
def tryApply (x : SafeInt t p) (op : Operator) (r : Word s) : Except Fault (SafeInt t p) := do
  let exact ← evaluate p.promotion op x.value r
  (settled p.domain t (.overflow op) exact).map SafeInt.mk

/-- The result if there is one. Otherwise the fault is raised, and `x` stands in for the result if
that is passed over. -/
def resultOr (x : SafeInt t p) (result : Except Fault (SafeInt t p)) : Action σ (SafeInt t p) :=
  match result with
  | .ok y => pure y
  | .error f => do
    raise p f
    return x

/-- The result of an operator. Where its fault is passed over, the left operand stands in for it. -/
def apply (x : SafeInt t p) (op : Operator) (r : Word s) : Action σ (SafeInt t p) :=
  x.resultOr (x.tryApply op r)

/-- The result is assigned, which checks the domain once more. -/
def applyAssign (op : Operator) (r : Word s) : Action (SafeInt t p) Unit := do
  let x ← Action.read
  match x.tryApply op r with
  | .ok y => assign y.value
  | .error f => raise p f

/-- Moves to the neighbour and returns the value after the move. -/
def preStep (d : Direction) : Action (SafeInt t p) (SafeInt t p) := do
  applyAssign d.operator (Word.ofInt .u8 1)
  Action.read

/-- Moves to the neighbour and returns the value before the move. Whatever refuses the neighbour is
raised as the fault of the step. -/
def postStep (d : Direction) : Action (SafeInt t p) (SafeInt t p) := do
  let previous ← Action.read
  match previous.tryApply d.operator (Word.ofInt .u8 1) with
  | .ok next => Action.write next
  | .error _ => raise p d.fault
  return previous

/-- The difference of zero and the operand. -/
def negate (x : SafeInt t p) : Action σ (SafeInt t p) :=
  x.resultOr do
    let exact ← evaluate p.promotion .sub (Word.ofInt t 0) x.value
    (settled p.domain t (.overflow .sub) exact).map SafeInt.mk

/-- The operand with its bits flipped. -/
def complement (x : SafeInt t p) : Action σ (SafeInt t p) :=
  x.resultOr <|
    if p.domain.accepts t x.value.complement then
      .ok ⟨x.value.complement⟩
    else
      .error .complement

end SafeInt

end CheckedInt
