import CheckedInt.IntType

/-!
# Machine words — a bit pattern read at a type

* `Word t`: the `t.bits` bits that a value of type `t` is stored in.
* `Word.toInt`: the integer the word stands for, two's complement for a signed type and plain
  binary for an unsigned one.
* `Word.ofInt?`: the word of an integer, if the type's range holds it; `Word.ofPattern` keeps the
  low bits of a longer pattern whatever they stand for.
* `Literal`: a word of any type, carrying the type with it.
-/

namespace CheckedInt

/-- A stored value of type `t`. -/
structure Word (t : IntType) where
  bits : BitVec t.bits
deriving DecidableEq, Hashable

namespace Word

variable {t : IntType}

/-- The integer that a word stands for. -/
def toInt (w : Word t) : Int :=
  if t.signed then w.bits.toInt else w.bits.toNat

/-- The word whose bits are the low bits of an integer's two's complement. -/
def ofInt (t : IntType) (n : Int) : Word t := ⟨BitVec.ofInt t.bits n⟩

/-- The word of an integer in the type's range. -/
def ofInt? (t : IntType) (n : Int) : Option (Word t) :=
  if t.Contains n then some (ofInt t n) else none

/-- The word made of the low bits of a 128-bit pattern. -/
def ofPattern (t : IntType) (p : BitVec 128) : Word t := ⟨p.setWidth t.bits⟩

/-- All bits flipped. -/
def complement (w : Word t) : Word t := ⟨~~~w.bits⟩

/-- The type's own order test on two stored patterns. -/
def isBelow (a b : Word t) : Bool :=
  if t.signed then a.bits.slt b.bits else a.bits.ult b.bits

/-- The type's own order on stored patterns. -/
def order (a b : Word t) : Ordering :=
  if a.isBelow b then .lt else if a.bits == b.bits then .eq else .gt

instance : ToString (Word t) := ⟨fun w => toString w.toInt⟩

end Word

/-- A word together with its type. -/
structure Literal where
  type : IntType
  word : Word type

end CheckedInt
