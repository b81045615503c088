import CheckedInt.Action
import CheckedInt.Domain
import CheckedInt.Evaluation

/-!
# Safe integers — construction and assignment

* `Policies`: the domain of a safe integer, how its operands are promoted and how its faults are
  handled.
* `SafeInt t p`: a stored word of type `t` that is kept in the domain of `p`. Only a construction
  whose fault is logged and passed over leaves a word outside the domain.
* `create`, `tryCreate`: a safe integer of a word of any type; the first raises the fault, the
  second returns it.
* `assign`, `assignAll`, `modify`: a new value for a safe integer in place.
-/

namespace CheckedInt

/-- What a safe integer is bound to. -/
structure Policies where
  domain : Domain
  promotion : Promotion
  handling : Handling
deriving DecidableEq

/-- A stored word with its policies. -/
structure SafeInt (t : IntType) (p : Policies) where
  value : Word t
deriving DecidableEq, Hashable

namespace SafeInt

variable {t s : IntType} {p : Policies} {σ : Type}

/-- Raises a fault under the policies. -/
def raise (p : Policies) (f : Fault) : Action σ Unit := Action.raise p.handling f.diagnostic

/-- A word of any type as a member of the domain. -/
def validated (d : Domain) (t : IntType) (f : Fault) (raw : Word s) : Except Fault (Word t) :=
  if d.accepts t raw then
    match Word.narrow? t raw.widen with
    | some v => .ok v
    | none => .error f
  else
    .error f

/-- An exact result as a member of the domain. -/
def settled (d : Domain) (t : IntType) (f : Fault) (exact : Wide) : Except Fault (Word t) :=
  match (Word.narrow? t exact).filter fun v => d.accepts t v with
  | some v => .ok v
  | none => .error f

/-- The safe integer of a word, or the fault. A conversion from a word is this. -/
def tryCreate (p : Policies) (t : IntType) (raw : Word s) : Except Fault (SafeInt t p) :=
  (validated p.domain t .invalidValue raw).map SafeInt.mk

/-- The safe integer of a word. Where the fault is passed over, the low bits are stored. -/
def create (p : Policies) (t : IntType) (raw : Word s) : Action σ (SafeInt t p) :=
  match tryCreate p t raw with
  | .ok x => pure x
  | .error f => do
    raise p f
    return ⟨Word.truncate t raw.widen⟩

/-- Stores a word if the domain admits it. -/
def assign (raw : Word s) : Action (SafeInt t p) Unit :=
  match validated p.domain t .invalidAssignment raw with
  | .ok v => Action.write ⟨v⟩
  | .error f => raise p f

/-- Assigns words one after the other. -/
def assignAll (raws : List Literal) : Action (SafeInt t p) Unit :=
  raws.forM fun raw => assign raw.word

/-- Edits a copy of the value and assigns it. -/
def modify (edit : Word t → Word t) : Action (SafeInt t p) Unit := do
  let x ← Action.read
  assign (edit x.value)

/-- A line for a reader. -/
def describe (x : SafeInt t p) : String := "SafeValue(" ++ toString x.value ++ ")"

/-- The description with its field on a line of its own. -/
def describeIndented (x : SafeInt t p) : String :=
  "SafeValue(\n    " ++ toString x.value ++ ",\n)"

end SafeInt

/-- A change to a word that is being edited. -/
inductive Edit (t : IntType) where
  | set (v : Word t)
  | complement

namespace Edit

variable {t : IntType}

/-- The word after one change. -/
def apply (w : Word t) : Edit t → Word t
  | set v => v
  | complement => w.complement

/-- Changes made one after the other. -/
def applyAll (edits : List (Edit t)) (w : Word t) : Word t := edits.foldl apply w

end Edit

end CheckedInt
