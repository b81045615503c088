import CheckedInt.SafeInt.Basic

/-!
# Comparison of safe integers

Safe integers compare by their stored words, with words and with safe integers of any type and any
policies; domains and policies play no part.

* `Relations`: the six relations and the order of two words.
* The instances order, equate and hash safe integers of one type by their stored words.
-/

namespace CheckedInt

/-- How two integers stand to each other. -/
structure Relations where
  eq : Bool
  ne : Bool
  lt : Bool
  le : Bool
  gt : Bool
  ge : Bool
  order : Ordering
deriving DecidableEq

/-- The relations of two words of any types. -/
def Relations.between {s t : IntType} (a : Word s) (b : Word t) : Relations where
  eq := a.equal b
  ne := !a.equal b
  lt := a.lessThan b
  le := a.lessEqual b
  gt := a.greaterThan b
  ge := a.greaterEqual b
  order := a.compareTo b

namespace SafeInt

variable {t : IntType} {p : Policies}

/-- Safe integers of one type are equal if neither is less than the other. -/
instance : BEq (SafeInt t p) := ⟨fun x y => x.value.equal y.value⟩

/-- The stored type's own order. -/
instance : Ord (SafeInt t p) := ⟨fun x y => x.value.order y.value⟩

/-- The greater of two safe integers, the second one on a tie. -/
def greater (x y : SafeInt t p) : SafeInt t p := if (compare y x).isLT then x else y

/-- The lesser of two safe integers, the first one on a tie. -/
def lesser (x y : SafeInt t p) : SafeInt t p := if (compare y x).isLT then y else x

end SafeInt

end CheckedInt
