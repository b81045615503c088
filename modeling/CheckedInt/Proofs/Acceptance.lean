import CheckedInt.Proofs.Automatic
import CheckedInt.Proofs.EntryPoints

/-!
# Acceptance — results that the domain alone decides on

A result has to fit the promoted range, the stored type and the domain.  The promoted range adds
nothing to the other two if promotion is automatic or the right operand is no wider than the left
one (`Promotion.Spans`): it then holds whatever the left operand's type holds.  So an operation is
accepted exactly if the domain contains its exact result (`SafeInt.tryApply_of_spans`).  Native
promotion asks one thing more of the bitwise operators, which is that the left operand's type holds
the right operand too (`Promotion.Spans.fits_of_admits`).

This is so of every step to a neighbour, which adds or takes away an eight-bit one
(`SafeInt.tryApply_neighbour`), and the negation, which takes a word from a zero of its own type
(`SafeInt.tryNegate_eq`).  The complement does not evaluate anything and comes to the same
(`SafeInt.tryComplement_eq`).
-/

namespace CheckedInt

variable {s t : IntType} {p : Policies}

instance (d : Domain) (t : IntType) (n : Int) : Decidable (d.Contains t n) :=
  match d with
  | .full => inferInstanceAs (Decidable (_ ∧ True))
  | .ranged _ _ => inferInstanceAs (Decidable (_ ∧ _ ∧ _))

theorem IntType.contains_zero (t : IntType) : t.Contains 0 := by
  obtain ⟨w, signed⟩ := t
  cases w <;> cases signed <;> decide

theorem IntType.contains_one (t : IntType) : t.Contains 1 := by
  obtain ⟨w, signed⟩ := t
  cases w <;> cases signed <;> decide

theorem Word.toInt_zero (t : IntType) : (ofInt t 0).toInt = 0 := toInt_ofInt t.contains_zero

/-- The word of an integer is accepted if the domain contains the integer. -/
theorem Domain.accepts_ofInt_iff {d : Domain} {n : Int} (held : t.Contains n) :
    d.accepts t (Word.ofInt t n) = true ↔ d.Contains t n := by
  rw [accepts_iff, Word.toInt_ofInt held]

/-! ### Promoted ranges that span the left operand's type -/

/-- Promotion gives results of a left operand of type `s` all of that type's range. -/
def Promotion.Spans (p : Promotion) (s t : IntType) : Prop :=
  p = .automatic ∨ t.bits ≤ s.bits

theorem Promotion.spans_self (p : Promotion) (t : IntType) : p.Spans t t := .inr le_rfl

/-- No type is narrower than eight bits. -/
theorem Promotion.spans_u8 (p : Promotion) (t : IntType) : p.Spans t .u8 := by
  have least (w : Width) : Width.w8.bits ≤ w.bits := by cases w <;> decide
  exact .inr (least t.width)

/-- Native promotion keeps the left type unless the right one is wider. -/
theorem Promotion.promote_native_of_le (narrow : t.bits ≤ s.bits) (op : Operator) :
    promote .native op (.machine s) (.machine t) = .machine s :=
  if_pos (.inr narrow)

theorem Promotion.Spans.promote_native (spans : Promotion.native.Spans s t) (op : Operator) :
    Promotion.promote .native op (.machine s) (.machine t) = .machine s :=
  promote_native_of_le (spans.resolve_left nofun) op

/-- What the left operand's type holds fits the promoted range, provided that native promotion
admits the operands. -/
theorem Promotion.Spans.fits_of_admits {p : Promotion} {op : Operator} {l : Word s} {r : Word t}
    (spans : p.Spans s t) (admitted : p = .native → op.Admits (.machine s) l.toInt r.toInt)
    (defined : op.undefined? s.bits l.toInt r.toInt = none)
    (held : s.Contains (op.exact l.toInt r.toInt)) :
    op.Fits (p.promote op (.machine s) (.machine t)) l.toInt r.toInt := by
  have contained := Representation.machine_contains.mpr held
  cases p with
  | automatic => exact automaticRange_fits defined contained.widest
  | native =>
      rw [spans.promote_native]
      exact ⟨admitted rfl, contained⟩

/-- An operator that is not bitwise asks nothing of its operands. -/
theorem Promotion.Spans.fits {p : Promotion} {op : Operator} {l : Word s} {r : Word t}
    (spans : p.Spans s t) (plain : op.isBitwise = false)
    (defined : op.undefined? s.bits l.toInt r.toInt = none)
    (held : s.Contains (op.exact l.toInt r.toInt)) :
    op.Fits (p.promote op (.machine s) (.machine t)) l.toInt r.toInt :=
  spans.fits_of_admits (fun _ => Operator.admits_of_not_bitwise plain) defined held

/-- Evaluation into the left operand's type refuses only what the type does not hold. -/
theorem Promotion.Spans.evaluateInto {p : Promotion} {op : Operator} {l : Word s} {r : Word t}
    (spans : p.Spans s t) (plain : op.isBitwise = false)
    (defined : op.undefined? s.bits l.toInt r.toInt = none) :
    evaluateInto p s op l r =
      if s.Contains (op.exact l.toInt r.toInt) then .ok (Word.ofInt s (op.exact l.toInt r.toInt))
      else .error (.overflow op) := by
  rw [evaluateInto_eq, Operator.outcome_of_defined defined]
  by_cases held : s.Contains (op.exact l.toInt r.toInt)
  · rw [if_pos held, if_pos (spans.fits plain defined held), Except.bind,
      Word.ofInt?_eq_some_iff.mpr (Word.toInt_ofInt held)]
  · rw [if_neg held]
    split
    · rw [Except.bind, Word.ofInt?_eq_none_iff.mpr held]
    · rfl

namespace SafeInt

/-- An operation succeeds exactly if its operands have a result, which fits the promoted range and
is the number of a word that the domain accepts. -/
theorem tryApply_eq_ok_iff_exact {x y : SafeInt t p} {op : Operator} {r : Word s} :
    x.tryApply op r = .ok y ↔
      op.Defined t.bits x.value.toInt r.toInt ∧
        op.Fits (p.promotion.promote op (.machine t) (.machine s)) x.value.toInt r.toInt ∧
        y.value.toInt = op.exact x.value.toInt r.toInt ∧ p.domain.accepts t y.value = true := by
  rw [tryApply_eq_ok_iff, evaluateInto_eq_ok_iff, and_assoc, and_assoc]

/-- A member of the domain is given wherever it is the exact result, if the promoted range spans the
stored type. -/
theorem tryApply_eq_ok_of_spans {x y : SafeInt t p} {op : Operator} {r : Word s}
    (spans : p.promotion.Spans t s) (plain : op.isBitwise = false)
    (defined : op.Defined t.bits x.value.toInt r.toInt)
    (exact : y.value.toInt = op.exact x.value.toInt r.toInt)
    (member : p.domain.accepts t y.value = true) : x.tryApply op r = .ok y := by
  have held : t.Contains (op.exact x.value.toInt r.toInt) := exact ▸ y.value.contains_toInt
  have fits := spans.fits plain (Operator.undefined?_eq_none_iff.mpr defined) held
  exact tryApply_eq_ok_iff_exact.mpr ⟨defined, fits, exact, member⟩

/-- What the domain contains is given, if the promoted range spans the stored type. -/
theorem exists_tryApply_of_spans (x : SafeInt t p) (op : Operator) (r : Word s)
    (spans : p.promotion.Spans t s) (plain : op.isBitwise = false)
    (defined : op.Defined t.bits x.value.toInt r.toInt)
    (contained : p.domain.Contains t (op.exact x.value.toInt r.toInt)) :
    ∃ y, x.tryApply op r = .ok y ∧ y.value.toInt = op.exact x.value.toInt r.toInt := by
  have value := Word.toInt_ofInt contained.1
  have member := (Domain.accepts_ofInt_iff contained.1).mpr contained
  exact ⟨⟨Word.ofInt t _⟩, tryApply_eq_ok_of_spans spans plain defined value member, value⟩

/-- **Acceptance.**  An operation whose promoted range spans the stored type gives its exact result
if the domain contains that, and is refused as an overflow if not. -/
theorem tryApply_of_spans (x : SafeInt t p) {op : Operator} {r : Word s}
    (spans : p.promotion.Spans t s) (plain : op.isBitwise = false)
    (defined : op.undefined? t.bits x.value.toInt r.toInt = none) :
    x.tryApply op r =
      if p.domain.Contains t (op.exact x.value.toInt r.toInt) then
        .ok ⟨Word.ofInt t (op.exact x.value.toInt r.toInt)⟩
      else
        .error (.overflow op) := by
  rw [tryApply_eq, spans.evaluateInto plain defined]
  by_cases held : t.Contains (op.exact x.value.toInt r.toInt)
  · rw [if_pos held]
    exact if_congr (Domain.accepts_ofInt_iff held) rfl rfl
  · rw [if_neg held, if_neg fun contained => held contained.1]

end SafeInt

/-! ### Neighbours, negations and complements -/

/-- The integer next to another one. -/
def Direction.neighbour (d : Direction) (n : Int) : Int :=
  match d with
  | .up => n + 1
  | .down => n - 1

namespace SafeInt

/-- A step to a neighbour succeeds exactly if the domain contains it. -/
theorem tryApply_neighbour (x : SafeInt t p) (d : Direction) :
    x.tryApply d.operator (Word.ofInt .u8 1) =
      if p.domain.Contains t (d.neighbour x.value.toInt) then
        .ok ⟨Word.ofInt t (d.neighbour x.value.toInt)⟩
      else
        .error (.overflow d.operator) := by
  cases d with
  | up => exact x.tryApply_of_spans (p.promotion.spans_u8 t) rfl rfl
  | down => exact x.tryApply_of_spans (p.promotion.spans_u8 t) rfl rfl

/-- A negation succeeds exactly if the domain contains it. -/
theorem tryNegate_eq (x : SafeInt t p) :
    x.tryNegate =
      if p.domain.Contains t (-x.value.toInt) then .ok ⟨Word.ofInt t (-x.value.toInt)⟩
      else .error (.overflow .sub) := by
  have difference : (⟨Word.ofInt t 0⟩ : SafeInt t p).tryApply .sub x.value = _ :=
    tryApply_of_spans _ (p.promotion.spans_self t) rfl rfl
  rw [Operator.exact, Word.toInt_zero, Int.zero_sub] at difference
  exact difference

/-- The complement of a signed word succeeds exactly if the domain contains its integer. -/
theorem tryComplement_eq (signed : t.signed = true) (x : SafeInt t p) :
    x.tryComplement =
      if p.domain.Contains t (-x.value.toInt - 1) then .ok ⟨x.value.complement⟩
      else .error .complement := by
  have accepted := @Domain.accepts_iff t t p.domain x.value.complement
  rw [Word.toInt_complement signed] at accepted
  exact if_congr accepted rfl rfl

end SafeInt

end CheckedInt
