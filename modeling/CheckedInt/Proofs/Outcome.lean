import CheckedInt.Proofs.Patterns
import CheckedInt.Proofs.WideArithmetic

/-!
# Outcome — evaluation read off the integers

`Operator.exact` is the result of an operator on integers without any bound, and `Operator.outcome`
says what is made of it: operands without a result are refused (`Operator.undefined?`), and so is a
result that does not fit the promoted range, or an operand of a bitwise operator that does not.

**Refinement** (`toInt_evaluate`).  Evaluation on words of any two types, through signs, magnitudes
and patterns, gives the outcome on the words' integers.  So it is determined by the two integers,
the width of the left type and the promoted range (`evaluate_eq_ok_iff`, `evaluate_eq_error_iff`),
and narrowing the result to a type tests that type's range besides (`evaluateInto_eq`,
`evaluateInto_eq_ok_iff`).
-/

namespace CheckedInt

namespace Operator

/-- The result of an operator on integers.  Division truncates toward zero and leaves a remainder of
the dividend's sign, the bitwise operators work on two's complement without end, and a shift to the
right rounds down. -/
def exact (op : Operator) (l r : Int) : Int :=
  match op with
  | add => l + r
  | sub => l - r
  | mul => l * r
  | div => l.tdiv r
  | rem => l.tmod r
  | bitOr => Int.lor l r
  | bitAnd => Int.land l r
  | bitXor => Int.xor l r
  | shl => l * 2 ^ r.toNat
  | shr => l / 2 ^ r.toNat

/-- The fault of operands that have no result, if they have none; the left one has `width` bits. -/
def undefined? (op : Operator) (width : Nat) (l r : Int) : Option Fault :=
  match op with
  | div | rem => if r = 0 then some .divisionByZero else none
  | shl | shr =>
    if l < 0 then some .negativeShiftOperand
    else if 0 ≤ r ∧ r < width then none
    else some .shiftAmountOutOfRange
  | _ => none

/-- The operands have a result; the left one has `width` bits. -/
def Defined (op : Operator) (width : Nat) (l r : Int) : Prop :=
  match op with
  | div | rem => r ≠ 0
  | shl | shr => 0 ≤ l ∧ 0 ≤ r ∧ r < width
  | _ => True

/-- The operands lie in the range, if the operator needs them to. -/
def Admits (op : Operator) (promoted : Representation) (l r : Int) : Prop :=
  op.isBitwise = true → promoted.Contains l ∧ promoted.Contains r

/-- The result lies in the range, and the operands do if they have to. -/
def Fits (op : Operator) (promoted : Representation) (l r : Int) : Prop :=
  op.Admits promoted l r ∧ promoted.Contains (op.exact l r)

instance (op : Operator) (promoted : Representation) (l r : Int) :
    Decidable (op.Fits promoted l r) :=
  inferInstanceAs (Decidable ((_ → _) ∧ _))

/-- The result is there exactly if the operands are admitted and a wide integer stands for it. -/
def IsExact (op : Operator) (promoted : Representation) (l r : Int) (result : Option Wide) : Prop :=
  ∀ w, result = some w ↔ op.Admits promoted l r ∧ w.toInt = op.exact l r

/-- The exact result, or the fault for which it is refused. -/
def outcome (op : Operator) (promoted : Representation) (width : Nat) (l r : Int) :
    Except Fault Int :=
  match op.undefined? width l r with
  | some f => .error f
  | none => if op.Fits promoted l r then .ok (op.exact l r) else .error (.overflow op)

variable {op : Operator} {promoted : Representation} {width : Nat} {l r : Int}

theorem undefined?_eq_none_iff : op.undefined? width l r = none ↔ op.Defined width l r := by
  cases op <;> simp only [undefined?, Defined]
  case div | rem => simp
  case shl | shr =>
    split
    · simp [not_le.mpr ‹l < 0›]
    · simp [not_lt.mp ‹¬ l < 0›]

/-- Only the bitwise operators ask anything of their operands. -/
theorem admits_of_not_bitwise (h : op.isBitwise = false) : op.Admits promoted l r :=
  fun h' => absurd (h.symm.trans h') Bool.false_ne_true

theorem admits_iff_of_bitwise (h : op.isBitwise = true) :
    op.Admits promoted l r ↔ promoted.Contains l ∧ promoted.Contains r :=
  ⟨fun hl => hl h, fun hl _ => hl⟩

theorem fits_iff_of_not_bitwise (h : op.isBitwise = false) :
    op.Fits promoted l r ↔ promoted.Contains (op.exact l r) :=
  and_iff_right (admits_of_not_bitwise h)

theorem fits_iff_of_bitwise (h : op.isBitwise = true) :
    op.Fits promoted l r ↔
      promoted.Contains l ∧ promoted.Contains r ∧ promoted.Contains (op.exact l r) := by
  rw [Fits, admits_iff_of_bitwise h, and_assoc]

/-- Where there is no result the outcome is the reason for that, whatever the range. -/
theorem outcome_of_undefined {f : Fault} (h : op.undefined? width l r = some f) :
    op.outcome promoted width l r = .error f := by
  rw [outcome, h]

/-- Where there is a result the outcome depends on whether it fits. -/
theorem outcome_of_defined (h : op.undefined? width l r = none) :
    op.outcome promoted width l r =
      if op.Fits promoted l r then .ok (op.exact l r) else .error (.overflow op) := by
  rw [outcome, h]

end Operator

/-! ### The result before it is held against the promoted range -/

section

variable {s t : IntType} {promoted : Representation} {op : Operator} {l : Word s} {r : Word t}

/-- The amount of a shift is below the width, so it is one that a shift can take. -/
theorem shiftAmount_eq (a b : Wide) (width : Nat) :
    shiftAmount a b width =
      if a.toInt < 0 then .error .negativeShiftOperand
      else if 0 ≤ b.toInt ∧ b.toInt < width then .ok b.toInt.toNat
      else .error .shiftAmountOutOfRange := by
  simp only [shiftAmount, ← Wide.toInt_neg_iff]
  refine if_congr Iff.rfl rfl ?_
  cases hb : b.toUnsigned? with
  | some n =>
      have hn := Wide.toUnsigned?_eq_some_iff.mp hb
      rw [← hn]
      simp
  | none =>
      -- a wide integer that is not negative has 128 bits, so only a negative one is left
      have hneg : ¬ 0 ≤ b.toInt := fun h => by
        obtain ⟨n, hn⟩ := Int.eq_ofNat_of_zero_le h
        have bound := b.natAbs_toInt_lt
        have : b.toUnsigned? = some (BitVec.ofNat 128 n) := by
          rw [Wide.toUnsigned?_eq_some_iff, BitVec.toNat_ofNat, Nat.mod_eq_of_lt (by omega), hn]
        rw [this] at hb
        cases hb
      simp [hneg]

theorem quotientOf_of_ne_none {q : Option Wide} (h : q ≠ none) : quotientOf q = .ok q := by
  obtain ⟨w, rfl⟩ := Option.ne_none_iff_exists'.mp h
  rfl

/-- Operands without a result are refused before anything is computed. -/
theorem exactResult_of_undefined {f : Fault}
    (h : op.undefined? s.bits l.toInt r.toInt = some f) :
    exactResult promoted op l r = .error f := by
  cases op
  case div =>
    obtain ⟨hr, hf⟩ := Option.ite_none_right_eq_some.mp h
    cases hf
    rw [← Word.toInt_widen r] at hr
    rw [exactResult, Wide.div?_eq_none_iff.mpr hr]
    rfl
  case rem =>
    obtain ⟨hr, hf⟩ := Option.ite_none_right_eq_some.mp h
    cases hf
    rw [← Word.toInt_widen r] at hr
    rw [exactResult, Wide.rem?_eq_none_iff.mpr hr]
    rfl
  case shl | shr =>
    simp only [Operator.undefined?] at h
    simp only [exactResult, shiftAmount_eq, Word.toInt_widen]
    split at h
    · cases h
      rw [if_pos ‹_›]
      rfl
    · rw [if_neg ‹_›]
      split at h
      · cases h
      · cases h
        rw [if_neg ‹_›]
        rfl
  all_goals cases h

/-- Operands of a shift with a result give an amount that can be shifted by. -/
theorem shiftAmount_of_defined (hop : op.isShift = true)
    (h : op.undefined? s.bits l.toInt r.toInt = none) :
    0 ≤ l.toInt ∧ r.toInt.toNat < 128 ∧
      shiftAmount l.widen r.widen s.bits = .ok r.toInt.toNat := by
  have below := s.bits_le
  have defined : 0 ≤ l.toInt ∧ 0 ≤ r.toInt ∧ r.toInt < s.bits := by
    cases op
    case shl | shr => exact Operator.undefined?_eq_none_iff.mp h
    all_goals cases hop
  obtain ⟨hl, hr⟩ := defined
  refine ⟨hl, by omega, ?_⟩
  rw [shiftAmount_eq, Word.toInt_widen, Word.toInt_widen, if_neg (not_lt.mpr hl), if_pos hr]

/-- An operator that asks nothing of its operands. -/
theorem isExact_of_not_bitwise (hop : op.isBitwise = false) {result : Option Wide}
    (h : ∀ w, result = some w ↔ w.toInt = op.exact l.widen.toInt r.widen.toInt) :
    op.IsExact promoted l.toInt r.toInt result := by
  intro w
  rw [h w, Word.toInt_widen, Word.toInt_widen]
  exact (and_iff_right (Operator.admits_of_not_bitwise hop)).symm

/-- An operator that works place by place. -/
theorem isExact_of_bitwise (hop : op.isBitwise = true) {g : Bool → Bool → Bool}
    {f : {n : Nat} → BitVec n → BitVec n → BitVec n}
    (h : Bits.Placewise g f fun l r => op.exact l r) :
    op.IsExact promoted l.toInt r.toInt (bitwise? promoted f l.widen r.widen) := by
  intro w
  rw [bitwise?_eq_some_iff h, Word.toInt_widen, Word.toInt_widen,
    Operator.admits_iff_of_bitwise hop]

/-- Operands with a result are computed with, and the wide result is exact. -/
theorem exactResult_of_defined (promoted : Representation)
    (h : op.undefined? s.bits l.toInt r.toInt = none) :
    ∃ result, exactResult promoted op l r = .ok result ∧
      op.IsExact promoted l.toInt r.toInt result := by
  have defined := Operator.undefined?_eq_none_iff.mp h
  cases op
  case add => exact ⟨_, rfl, isExact_of_not_bitwise rfl fun _ => Wide.add?_eq_some_iff⟩
  case sub => exact ⟨_, rfl, isExact_of_not_bitwise rfl fun _ => Wide.sub?_eq_some_iff⟩
  case mul => exact ⟨_, rfl, isExact_of_not_bitwise rfl fun _ => Wide.mul?_eq_some_iff⟩
  case div =>
    have nonzero : r.widen.toInt ≠ 0 := r.toInt_widen.symm ▸ defined
    refine ⟨_, quotientOf_of_ne_none (mt Wide.div?_eq_none_iff.mp nonzero), ?_⟩
    exact isExact_of_not_bitwise rfl fun _ => Wide.div?_eq_some_iff.trans (and_iff_right nonzero)
  case rem =>
    have nonzero : r.widen.toInt ≠ 0 := r.toInt_widen.symm ▸ defined
    refine ⟨_, quotientOf_of_ne_none (mt Wide.rem?_eq_none_iff.mp nonzero), ?_⟩
    exact isExact_of_not_bitwise rfl fun _ => Wide.rem?_eq_some_iff.trans (and_iff_right nonzero)
  case bitOr => exact ⟨_, rfl, isExact_of_bitwise rfl Bits.placewise_or⟩
  case bitAnd => exact ⟨_, rfl, isExact_of_bitwise rfl Bits.placewise_and⟩
  case bitXor => exact ⟨_, rfl, isExact_of_bitwise rfl Bits.placewise_xor⟩
  case shl =>
    obtain ⟨-, amount, hn⟩ := shiftAmount_of_defined rfl h
    refine ⟨_, congrArg (Except.map l.widen.shl?) hn, isExact_of_not_bitwise rfl fun w => ?_⟩
    rw [Wide.shl?_eq_some_iff, and_iff_right amount, Word.toInt_widen r]
    rfl
  case shr =>
    obtain ⟨nonneg, amount, hn⟩ := shiftAmount_of_defined rfl h
    refine ⟨_, congrArg (Except.map l.widen.shr?) hn, isExact_of_not_bitwise rfl fun w => ?_⟩
    -- the wide shift rounds toward zero, which is down only because the operand is not negative
    rw [Wide.shr?_eq_some_iff, and_iff_right amount, Word.toInt_widen, Word.toInt_widen,
      Int.tdiv_eq_ediv_of_nonneg nonneg]
    rfl

/-! ### Evaluation -/

/-- An exact result passes the test of the promoted range exactly if it fits. -/
theorem filter_of_isExact {result : Option Wide}
    (h : op.IsExact promoted l.toInt r.toInt result) (w : Wide) :
    result.filter promoted.contains = some w ↔
      op.Fits promoted l.toInt r.toInt ∧ w.toInt = op.exact l.toInt r.toInt := by
  rw [Option.filter_eq_some_iff, h w, Representation.contains_eq_true_iff, Operator.Fits]
  refine ⟨?_, ?_⟩
  · rintro ⟨⟨admitted, hw⟩, contained⟩
    exact ⟨⟨admitted, hw ▸ contained⟩, hw⟩
  · rintro ⟨⟨admitted, contained⟩, hw⟩
    exact ⟨⟨admitted, hw⟩, hw ▸ contained⟩

/-- **Refinement.**  Evaluation gives the outcome on the integers of the operands. -/
theorem toInt_evaluate (p : Promotion) (op : Operator) (l : Word s) (r : Word t) :
    (evaluate p op l r).map Wide.toInt =
      op.outcome (p.promote op (.machine s) (.machine t)) s.bits l.toInt r.toInt := by
  cases h : op.undefined? s.bits l.toInt r.toInt with
  | some f =>
      rw [Operator.outcome_of_undefined h, evaluate, exactResult_of_undefined h]
      rfl
  | none =>
      obtain ⟨result, computed, exact⟩ :=
        exactResult_of_defined (p.promote op (.machine s) (.machine t)) h
      have fits := filter_of_isExact exact
      rw [Operator.outcome_of_defined h, evaluate, computed]
      simp only [bind, Except.bind]
      cases hw : result.filter (p.promote op (.machine s) (.machine t)).contains with
      | some w =>
          obtain ⟨hf, he⟩ := (fits w).mp hw
          rw [if_pos hf, ← he]
          rfl
      | none =>
          rw [if_neg]
          · rfl
          · intro hf
            obtain ⟨w, he⟩ := hf.2.exists_wide
            have := (fits w).mpr ⟨hf, he⟩
            rw [hw] at this
            cases this

/-- Evaluation succeeds exactly with the number of the outcome. -/
theorem evaluate_eq_ok_iff {p : Promotion} {w : Wide} :
    evaluate p op l r = .ok w ↔
      op.outcome (p.promote op (.machine s) (.machine t)) s.bits l.toInt r.toInt =
        .ok w.toInt := by
  rw [← toInt_evaluate]
  cases evaluate p op l r with
  | ok v => simp [Except.map, Wide.toInt_inj]
  | error f => simp [Except.map]

/-- Evaluation fails exactly with the fault of the outcome. -/
theorem evaluate_eq_error_iff {p : Promotion} {f : Fault} :
    evaluate p op l r = .error f ↔
      op.outcome (p.promote op (.machine s) (.machine t)) s.bits l.toInt r.toInt = .error f := by
  rw [← toInt_evaluate]
  cases evaluate p op l r with
  | ok v => simp [Except.map]
  | error f => simp [Except.map]

/-- The outcome determines the evaluation, whatever the operands and the policies were. -/
theorem evaluate_congr {s' t' : IntType} {l' : Word s'} {r' : Word t'} {p p' : Promotion}
    {op' : Operator}
    (same : op.outcome (p.promote op (.machine s) (.machine t)) s.bits l.toInt r.toInt =
      op'.outcome (p'.promote op' (.machine s') (.machine t')) s'.bits l'.toInt r'.toInt) :
    evaluate p op l r = evaluate p' op' l' r' := by
  cases h : evaluate p' op' l' r' with
  | ok w => exact evaluate_eq_ok_iff.mpr (same.trans (evaluate_eq_ok_iff.mp h))
  | error f => exact evaluate_eq_error_iff.mpr (same.trans (evaluate_eq_error_iff.mp h))

theorem evaluate_of_undefined {p : Promotion} {f : Fault}
    (h : op.undefined? s.bits l.toInt r.toInt = some f) : evaluate p op l r = .error f :=
  evaluate_eq_error_iff.mpr (Operator.outcome_of_undefined h)

/-- A result that is there and fits is evaluated exactly. -/
theorem evaluate_of_fits {p : Promotion} (h : op.Defined s.bits l.toInt r.toInt)
    (hf : op.Fits (p.promote op (.machine s) (.machine t)) l.toInt r.toInt) :
    ∃ w, evaluate p op l r = .ok w ∧ w.toInt = op.exact l.toInt r.toInt := by
  obtain ⟨w, hw⟩ := hf.2.exists_wide
  refine ⟨w, evaluate_eq_ok_iff.mpr ?_, hw⟩
  rw [Operator.outcome_of_defined (Operator.undefined?_eq_none_iff.mpr h), if_pos hf, hw]

/-- A result that does not fit is an overflow of the operator. -/
theorem evaluate_of_not_fits {p : Promotion} (h : op.Defined s.bits l.toInt r.toInt)
    (hf : ¬ op.Fits (p.promote op (.machine s) (.machine t)) l.toInt r.toInt) :
    evaluate p op l r = .error (.overflow op) := by
  refine evaluate_eq_error_iff.mpr ?_
  rw [Operator.outcome_of_defined (Operator.undefined?_eq_none_iff.mpr h), if_neg hf]

/-- On operands with a result evaluation succeeds exactly if the result fits. -/
theorem evaluate_eq_ok_iff_fits {p : Promotion} (h : op.Defined s.bits l.toInt r.toInt)
    {w : Wide} :
    evaluate p op l r = .ok w ↔
      op.Fits (p.promote op (.machine s) (.machine t)) l.toInt r.toInt ∧
        w.toInt = op.exact l.toInt r.toInt := by
  by_cases hf : op.Fits (p.promote op (.machine s) (.machine t)) l.toInt r.toInt
  · obtain ⟨v, hv, exact⟩ := evaluate_of_fits h hf
    rw [hv, Except.ok.injEq, ← Wide.toInt_inj, exact, and_iff_right hf, eq_comm]
  · rw [evaluate_of_not_fits h hf]
    refine ⟨?_, ?_⟩
    · intro hw
      cases hw
    · exact fun hw => absurd hw.1 hf

/-- Narrowing asks only whether the type holds the number. -/
theorem Word.narrow?_eq_ofInt? (d : IntType) (w : Wide) : narrow? d w = ofInt? d w.toInt := by
  ext v
  rw [narrow?_eq_some_iff, ofInt?_eq_some_iff]

/-- Evaluation into a type narrows the outcome. -/
theorem evaluateInto_eq (p : Promotion) (d : IntType) (op : Operator) (l : Word s) (r : Word t) :
    evaluateInto p d op l r =
      (op.outcome (p.promote op (.machine s) (.machine t)) s.bits l.toInt r.toInt).bind fun n =>
        match Word.ofInt? d n with
        | some v => .ok v
        | none => .error (.overflow op) := by
  cases h : evaluate p op l r with
  | ok w =>
      rw [evaluate_eq_ok_iff.mp h, evaluateInto, h]
      show (match Word.narrow? d w with
        | some v => Except.ok v
        | none => Except.error (Fault.overflow op)) = _
      rw [Word.narrow?_eq_ofInt?]
      rfl
  | error f =>
      rw [evaluate_eq_error_iff.mp h, evaluateInto, h]
      rfl

/-- Evaluation into a type succeeds exactly if the operands have a result that fits the promoted
range and is the number of a word of the type. -/
theorem evaluateInto_eq_ok_iff {p : Promotion} {d : IntType} {v : Word d} :
    evaluateInto p d op l r = .ok v ↔
      op.Defined s.bits l.toInt r.toInt ∧
        op.Fits (p.promote op (.machine s) (.machine t)) l.toInt r.toInt ∧
        v.toInt = op.exact l.toInt r.toInt := by
  rw [evaluateInto_eq, ← Operator.undefined?_eq_none_iff, ← Word.ofInt?_eq_some_iff]
  cases h : op.undefined? s.bits l.toInt r.toInt with
  | some f =>
      rw [Operator.outcome_of_undefined h]
      exact iff_of_false nofun fun defined => nomatch defined.1
  | none =>
      rw [Operator.outcome_of_defined h, and_iff_right rfl]
      by_cases fits : op.Fits (p.promote op (.machine s) (.machine t)) l.toInt r.toInt
      · rw [if_pos fits, and_iff_right fits, Except.bind]
        cases Word.ofInt? d (op.exact l.toInt r.toInt) <;> simp
      · rw [if_neg fits]
        exact iff_of_false nofun fun held => fits held.1

end

end CheckedInt
