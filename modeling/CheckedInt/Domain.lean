import CheckedInt.Word.Comparison

/-!
# Domains — the integers that a safe integer may hold

`full` admits every integer of the stored type, and `ranged` those of a closed interval besides. The
ends of the interval are signed 128-bit integers, and an interval whose ends are crossed is empty.
-/

namespace CheckedInt

/-- The integers that a safe integer may hold, within its stored type. -/
inductive Domain where
  | full
  | ranged (lower upper : Word .i128)
deriving DecidableEq

namespace Domain

/-- The integers of the domain over stored type `t`. -/
def Contains (d : Domain) (t : IntType) (n : Int) : Prop :=
  t.Contains n ∧
    match d with
    | full => True
    | ranged lower upper => lower.toInt ≤ n ∧ n ≤ upper.toInt

/-- The domain over stored type `t` admits the number of the word, whatever type it comes in. -/
def accepts (d : Domain) (t : IntType) {s : IntType} (raw : Word s) : Bool :=
  match d with
  | full => t.canRepresent raw
  | ranged lower upper => t.canRepresent raw && raw.within lower upper

end Domain

end CheckedInt
