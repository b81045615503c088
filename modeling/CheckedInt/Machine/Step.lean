import CheckedInt.SafeInt.Comparison
import CheckedInt.SafeInt.Operators

/-!
# Steps — operations on a list of registers

The registers all hold safe integers of one type under one set of policies. A `Step` names the
operation, the register it works on, its right operand and where its result goes; it says nothing of
the policies, so one list of steps can be run under any of them.

`Answer` is what a step tells: the value it gives, the fault that it returns, or what it reads.
-/

namespace CheckedInt.Machine

/-- Where the result of a step goes. -/
inductive Target where
  | drop
  | replace (i : Nat)
  | append

/-- The right operand of a step. -/
inductive Operand where
  | literal (v : Literal)
  | safe {s : IntType} {q : Policies} (x : SafeInt s q)
  | register (j : Nat)

/-- An operation on the registers of stored type `t`. A constructed value is appended unless another
target is named. -/
inductive Step (t : IntType) where
  | create (v : Literal) (target : Target := .append)
  | tryCreate (v : Literal) (target : Target := .append)
  | assign (r : Nat) (vs : List Literal)
  | modify (r : Nat) (edit : Word t → Word t)
  | apply (r : Nat) (op : Operator) (rhs : Operand) (target : Target)
  | applyAssign (r : Nat) (op : Operator) (rhs : Operand)
  | tryApply (r : Nat) (op : Operator) (rhs : Literal) (target : Target)
  | preStep (r : Nat) (d : Direction) (target : Target)
  | postStep (r : Nat) (d : Direction) (target : Target)
  | negate (r : Nat) (target : Target)
  | complement (r : Nat) (target : Target)
  | copy (r : Nat) (target : Target)
  | compare (r : Nat) (rhs : Operand)
  | read (r : Nat)
  | sort
  | countDistinct

/-- The order of two registers, and the greater and the lesser of them. -/
structure Ranking (t : IntType) where
  order : Ordering
  greater : Word t
  lesser : Word t
deriving DecidableEq

/-- What a step tells. -/
inductive Answer (t : IntType) where
  | value (v : Word t)
  | refused (f : Fault)
  | done
  | unsupported
  | comparison (left right : Relations) (ranking : Option (Ranking t))
  | reading (v : Word t) (description indented : String)
  | count (n : Nat)
  | noRegister
deriving DecidableEq

end CheckedInt.Machine
