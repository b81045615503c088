import CheckedInt.IntType
import CheckedInt.Wide.Basic

/-!
# Representations — the ranges that results are held in

* `Representation.machine t`: the range of a machine-integer type.
* `Representation.widest`: the union of the ranges of the two 128-bit types, which takes 129 bits
  and belongs to no stored type.
* `Representation.fitting`: the narrowest representation for a number of bits.
* `Representation.ofPattern`: the wide integer that the low bits of a pattern stand for.
-/

namespace CheckedInt

/-- A range of integers for results. -/
inductive Representation where
  | machine (t : IntType)
  | widest
deriving DecidableEq

namespace Representation

/-- The range belongs to no stored type. -/
def isWidest : Representation → Bool
  | machine _ => false
  | widest => true

/-- The number of bits of two's complement or plain binary that the range takes. -/
def bits : Representation → Nat
  | machine t => t.bits
  | widest => 129

/-- The range goes below zero. -/
def signed : Representation → Bool
  | machine t => t.signed
  | widest => true

/-- The number of bits without the sign. -/
def magnitudeBits (r : Representation) : Nat :=
  if r.signed then r.bits - 1 else r.bits

/-- The least member of the range. -/
def min : Representation → Wide
  | machine t => if t.signed then Wide.ofParts true (1#128 <<< (t.bits - 1)) else Wide.zero
  | widest => Wide.ofSigned (BitVec.intMin 128)

/-- The greatest member of the range. At 128 magnitude bits the shift drops its bit and taking one
away leaves all ones. -/
def max (r : Representation) : Wide :=
  Wide.ofParts false (1#128 <<< r.magnitudeBits - 1#128)

/-- The number lies in the range. -/
def contains (r : Representation) (w : Wide) : Bool :=
  (compare r.min w).isLE && (compare w r.max).isLE

/-- The representation of exactly `n` bits. -/
def ofBits? (n : Nat) (signed : Bool) : Option Representation :=
  (Width.ofBits? n).map fun w => machine ⟨w, signed⟩

/-- The narrowest representation of at least `n` bits. Beyond 128 bits it is the widest one,
whatever signedness was asked for. -/
def fitting (n : Nat) (signed : Bool) : Representation :=
  match Width.atLeast? n with
  | some w => machine ⟨w, signed⟩
  | none => widest

/-- Reads the low bits of a pattern at a type: with the sign bit set, a signed type takes `2 ^ bits`
away. At 128 bits that power is zero as a pattern, and so the difference is a plain negation. -/
def ofPatternAt (t : IntType) (p : BitVec 128) : Wide :=
  let low := p &&& (1#128 <<< t.bits - 1#128)
  if t.signed && low.getLsbD (t.bits - 1) then
    Wide.ofParts true (1#128 <<< t.bits - low)
  else
    Wide.ofParts false low

/-- Reads a pattern in a representation. The widest one has more than 128 bits and reads a pattern
as a number that is not negative. -/
def ofPattern (r : Representation) (p : BitVec 128) : Wide :=
  match r with
  | machine t => ofPatternAt t p
  | widest => Wide.ofUnsigned p

/-- The written name: that of the type, or both 128-bit types. -/
def name : Representation → String
  | machine t => t.name
  | widest => "i128|u128"

instance : ToString Representation := ⟨name⟩

end Representation

end CheckedInt
