import CheckedInt.Wide.Basic

/-!
# Arithmetic of wide integers

Each operation works on signs and magnitudes and answers `none` where the exact result is not a
wide integer. No result is ever wrapped.

* `add?`, `sub?`, `mul?`: the sum, difference and product.
* `div?`, `rem?`: the quotient truncated toward zero and the remainder, which has the sign of the
  dividend; only a divisor of zero is refused.
* `shl?`, `shr?`: the magnitude shifted, the sign kept; an amount of 128 or more is refused, and so
  is a left shift that loses a bit.
-/

namespace CheckedInt.Wide

/-- The negation, which a wide integer always has. -/
def neg (a : Wide) : Wide := ofParts (!a.negative) a.magnitude

instance : Neg Wide := ⟨neg⟩

/-- Magnitudes of equal sign are added. Of opposite signs the larger magnitude keeps its sign. -/
def add? (a b : Wide) : Option Wide :=
  if a.negative = b.negative then
    if a.magnitude.uaddOverflow b.magnitude then none
    else some (ofParts a.negative (a.magnitude + b.magnitude))
  else if b.magnitude ≤ a.magnitude then
    some (ofParts a.negative (a.magnitude - b.magnitude))
  else
    some (ofParts b.negative (b.magnitude - a.magnitude))

/-- The difference is the sum with the negation, which never fails. -/
def sub? (a b : Wide) : Option Wide := a.add? (-b)

/-- Magnitudes are multiplied, and unlike signs make the product negative. -/
def mul? (a b : Wide) : Option Wide :=
  if a.magnitude.umulOverflow b.magnitude then none
  else some (ofParts (a.negative != b.negative) (a.magnitude * b.magnitude))

/-- The quotient of the magnitudes, negative for unlike signs; that truncates toward zero. -/
def div? (a b : Wide) : Option Wide :=
  if b.isZero then none
  else some (ofParts (a.negative != b.negative) (a.magnitude / b.magnitude))

/-- The remainder of the magnitudes, with the sign of the dividend. -/
def rem? (a b : Wide) : Option Wide :=
  if b.isZero then none
  else some (ofParts a.negative (a.magnitude % b.magnitude))

/-- A left shift would lose a one of a magnitude with fewer leading zeros than places to go. -/
def shl? (a : Wide) (n : Nat) : Option Wide :=
  if 128 ≤ n ∨ a.magnitude ≠ 0#128 ∧ a.magnitude.clz.toNat < n then none
  else some (ofParts a.negative (a.magnitude <<< n))

/-- The magnitude loses its low bits and the sign is kept, so the quotient is truncated toward
zero. -/
def shr? (a : Wide) (n : Nat) : Option Wide :=
  if n < 128 then some (ofParts a.negative (a.magnitude >>> n)) else none

end CheckedInt.Wide
