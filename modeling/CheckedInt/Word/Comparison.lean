import CheckedInt.Word.Conversion

/-!
# Comparison of words of any two types

Words of different types are compared as the integers they stand for, so a negative word is less
than every unsigned one. `lessThan` is the one test; the others are built from it.
-/

namespace CheckedInt.Word

variable {s t u : IntType}

/-- Words of one signedness compare as wide integers. Otherwise only one of the two can be negative:
it is the lesser one, and if none is, the magnitudes decide. -/
def lessThan (a : Word s) (b : Word t) : Bool :=
  let x := a.widen
  let y := b.widen
  if s.signed = t.signed then
    compare x y == .lt
  else if x.negative || y.negative then
    x.negative
  else
    x.magnitude.ult y.magnitude

/-- The test with the operands exchanged. -/
def greaterThan (a : Word s) (b : Word t) : Bool := lessThan b a

/-- Neither word is less than the other. -/
def equal (a : Word s) (b : Word t) : Bool := !lessThan a b && !lessThan b a

/-- The word is not greater. -/
def lessEqual (a : Word s) (b : Word t) : Bool := !greaterThan a b

/-- The word is not less. -/
def greaterEqual (a : Word s) (b : Word t) : Bool := !lessThan a b

/-- The order of two words of any types. -/
def compareTo (a : Word s) (b : Word t) : Ordering :=
  if lessThan a b then .lt else if lessThan b a then .gt else .eq

/-- The word lies between two others, both included. -/
def within (w : Word s) (low : Word t) (high : Word u) : Bool :=
  !lessThan w low && !greaterThan w high

end CheckedInt.Word
