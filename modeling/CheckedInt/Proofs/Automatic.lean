import CheckedInt.Proofs.Outcome

/-!
# Automatic — promotion that loses no representable result

Each operator adds a known number of bits to those of its operands: a sum or a difference one, a
product those of both, a quotient at most a sign, and the bitwise operators, a remainder and a shift
to the right none (`FitsIn.add` to `FitsIn.ediv_two_pow`).  The ranges of automatic promotion are
wide enough for these bits, and where 128 bits are too few they are as wide as all types together.

**No loss** (`automaticRange_fits`).  Under automatic promotion a result that lies in the range of
some type fits the promoted range.  So the promoted range refuses only what no type could hold, and
narrowing to a type depends on nothing but the exact result (`evaluateInto_automatic`).
-/

namespace CheckedInt

/-! ### The bits of results -/

namespace FitsIn

variable {m m' : Nat} {signed signed' : Bool} {a b : Int}

/-- The sign is not counted, and so the magnitude is at most `2 ^ m` either way. -/
theorem natAbs_le (h : FitsIn m signed a) : a.natAbs ≤ 2 ^ m := by
  have lower := h.lower
  have upper := h.2
  zify
  rw [abs_le]
  exact ⟨lower, upper.le⟩

theorem natAbs_lt (h : FitsIn m false a) : a.natAbs < 2 ^ m := by
  zify
  rw [abs_of_nonneg h.nonneg]
  exact h.2

theorem of_natAbs_lt (h : a.natAbs < 2 ^ m) (sign : signed = false → 0 ≤ a) :
    FitsIn m signed a := by
  zify at h
  obtain ⟨lower, upper⟩ := abs_lt.mp h
  refine ⟨?_, upper⟩
  cases signed with
  | true => exact lower.le
  | false => exact sign rfl

/-- What lies between zero and an integer takes no more bits than it. -/
theorem toward_zero (h : FitsIn m signed a) (between : b ∈ Set.uIcc 0 a) : FitsIn m signed b := by
  have pos : (0 : Int) < 2 ^ m := by positivity
  obtain ⟨lower, upper⟩ := h
  rcases Set.mem_uIcc.mp between with ⟨hb, hba⟩ | ⟨hab, hb⟩
  · refine ⟨?_, hba.trans_lt upper⟩
    split
    · omega
    · exact hb
  · refine ⟨?_, hb.trans_lt pos⟩
    split at lower
    · rw [if_pos ‹_›]
      exact lower.trans hab
    · rw [if_neg ‹_›]
      exact lower.trans hab

/-- A sum takes one magnitude bit more than its operands. -/
theorem add (ha : FitsIn m signed a) (hb : FitsIn m signed b) :
    FitsIn (m + 1) signed (a + b) := by
  obtain ⟨la, ua⟩ := ha
  obtain ⟨lb, ub⟩ := hb
  rw [FitsIn, pow_succ]
  split at la
  · rw [if_pos ‹_›] at lb ⊢
    omega
  · rw [if_neg ‹_›] at lb ⊢
    omega

/-- A difference takes one magnitude bit more than its operands, and a sign. -/
theorem sub (ha : FitsIn m signed a) (hb : FitsIn m signed b) : FitsIn (m + 1) true (a - b) := by
  obtain ⟨la, ua⟩ := ha.mono le_rfl (fun _ => rfl : _ → true = true)
  obtain ⟨lb, ub⟩ := hb.mono le_rfl (fun _ => rfl : _ → true = true)
  rw [if_pos rfl] at la lb
  rw [FitsIn, pow_succ, if_pos rfl]
  omega

/-- A product takes the bits of both factors, the signs included; one of them is its own sign. -/
theorem mul (ha : FitsIn m signed a) (hb : FitsIn m' signed' b) :
    FitsIn (m + signed.toNat + (m' + signed'.toNat) - (signed || signed').toNat)
      (signed || signed') (a * b) := by
  have hab : (a * b).natAbs = a.natAbs * b.natAbs := Int.natAbs_mul a b
  have pos (k : Nat) : 0 < 2 ^ k := Nat.two_pow_pos k
  refine of_natAbs_lt ?_ fun h => ?_
  · rw [hab]
    cases signed with
    | false =>
        refine lt_of_lt_of_le (Nat.mul_lt_mul_of_lt_of_le ha.natAbs_lt hb.natAbs_le (pos m')) ?_
        rw [← pow_add]
        refine Nat.pow_le_pow_right (by decide) ?_
        simp only [Bool.toNat_false, Bool.false_or]
        omega
    | true =>
        cases signed' with
        | false =>
            refine lt_of_lt_of_le
              (Nat.mul_lt_mul_of_le_of_lt ha.natAbs_le hb.natAbs_lt (pos m)) ?_
            rw [← pow_add]
            exact Nat.pow_le_pow_right (by decide) (by simp)
        | true =>
            -- the two least numbers reach `2 ^ (m + m')`, and there is a bit to spare for that
            refine lt_of_le_of_lt (Nat.mul_le_mul ha.natAbs_le hb.natAbs_le) ?_
            rw [← pow_add]
            exact Nat.pow_lt_pow_right (by decide) (by simp)
  · obtain ⟨rfl, rfl⟩ := Bool.or_eq_false_iff.mp h
    exact Int.mul_nonneg ha.nonneg hb.nonneg

/-- A quotient takes the bits of the dividend, its sign included, and the sign of the divisor. -/
theorem tdiv (ha : FitsIn m signed a) (hb : FitsIn m' signed' b) :
    FitsIn (m + signed.toNat) (signed || signed') (a.tdiv b) := by
  have smaller := Int.natAbs_tdiv_le_natAbs a b
  refine of_natAbs_lt ?_ fun h => ?_
  · cases signed with
    | false => exact smaller.trans_lt ha.natAbs_lt
    | true =>
        exact (smaller.trans ha.natAbs_le).trans_lt (Nat.pow_lt_pow_right (by decide) (by simp))
  · obtain ⟨rfl, rfl⟩ := Bool.or_eq_false_iff.mp h
    exact Int.tdiv_nonneg ha.nonneg hb.nonneg

/-- A remainder needs no more than the dividend. -/
theorem tmod (ha : FitsIn m signed a) (b : Int) : FitsIn m signed (a.tmod b) :=
  ha.toward_zero (tmod_mem_uIcc a b)

/-- A shift to the right needs no more than the operand. -/
theorem ediv_two_pow (ha : FitsIn m signed a) (h : 0 ≤ a) (k : Nat) :
    FitsIn m signed (a / 2 ^ k) := by
  have nonneg : 0 ≤ a / 2 ^ k := Int.ediv_nonneg h (by positivity)
  have le : a / 2 ^ k ≤ a := Int.ediv_le_self _ h
  exact ha.toward_zero (Set.mem_uIcc_of_le nonneg le)

/-- An operator that works place by place needs no more bits than its operands. -/
theorem placewise {g : Bool → Bool → Bool} {f : {n : Nat} → BitVec n → BitVec n → BitVec n}
    {F : Int → Int → Int} (h : Bits.Placewise g f F) (ha : FitsIn m signed a)
    (hb : FitsIn m signed b) : FitsIn m signed (F a b) := by
  cases signed with
  | true =>
      -- the operands are two's complements of `m + 1` bits, and so is the result
      have read {n : Int} (hn : FitsIn m true n) : (BitVec.ofInt (m + 1) n).toInt = n := by
        obtain ⟨lower, upper⟩ := hn.of_signed
        exact BitVec.toInt_ofInt_eq_self (Nat.succ_pos m) lower upper
      rw [← read ha, ← read hb, ← h.toInt]
      exact ⟨BitVec.le_toInt _, BitVec.toInt_lt⟩
  | false =>
      have read {n : Int} (hn : FitsIn m false n) : ((BitVec.ofInt m n).toNat : Int) = n := by
        rw [BitVec.toNat_ofInt, Int.toNat_of_nonneg (Int.emod_nonneg _ (by positivity))]
        refine Int.emod_eq_of_lt hn.nonneg ?_
        push_cast
        exact hn.2
      rw [← read ha, ← read hb, ← h.toNat]
      refine ⟨Int.natCast_nonneg _, ?_⟩
      exact_mod_cast (f (BitVec.ofInt m a) (BitVec.ofInt m b)).isLt

end FitsIn

/-! ### The ranges of automatic promotion -/

section

variable {s t : IntType} {op : Operator} {l : Word s} {r : Word t}

/-- The operands in the bits of the larger one, with a sign if either has one. -/
theorem fitsIn_operands (l : Word s) (r : Word t) :
    FitsIn (Nat.max (Representation.machine s).magnitudeBits
        (Representation.machine t).magnitudeBits) (s.signed || t.signed) l.toInt ∧
      FitsIn (Nat.max (Representation.machine s).magnitudeBits
        (Representation.machine t).magnitudeBits) (s.signed || t.signed) r.toInt :=
  ⟨l.fitsIn.mono (Nat.le_max_left _ _) fun h => by rw [h, Bool.true_or],
    r.fitsIn.mono (Nat.le_max_right _ _) fun h => by rw [h, Bool.or_true]⟩

theorem Representation.bits_machine (t : IntType) :
    (machine t).bits = (machine t).magnitudeBits + t.signed.toNat := by
  have pos := t.bits_pos
  show t.bits = (if t.signed then t.bits - 1 else t.bits) + t.signed.toNat
  cases t.signed with
  | true => exact (Nat.sub_add_cancel pos).symm
  | false => rfl

/-- The widest range holds every word. -/
theorem Word.widest_contains (w : Word t) : Representation.widest.Contains w.toInt :=
  (Representation.machine_contains.mpr w.contains_toInt).widest

/-- The range of a bitwise operator holds its operands and every result that any range holds. -/
theorem automaticRange_fits_bitwise {g : Bool → Bool → Bool}
    {f : {n : Nat} → BitVec n → BitVec n → BitVec n}
    (h : Bits.Placewise g f fun l r => op.exact l r)
    (hw : Representation.widest.Contains (op.exact l.toInt r.toInt)) :
    op.Fits (.fitting (Nat.max (Representation.machine s).magnitudeBits
      (Representation.machine t).magnitudeBits + (s.signed || t.signed).toNat)
      (s.signed || t.signed)) l.toInt r.toInt := by
  obtain ⟨hl, hr⟩ := fitsIn_operands l r
  have holds_left := Representation.fitting_contains hl l.widest_contains
  have holds_right := Representation.fitting_contains hr r.widest_contains
  exact ⟨fun _ => ⟨holds_left, holds_right⟩,
    Representation.fitting_contains (hl.placewise h hr) hw⟩

/-- **No loss.**  A result that lies in the range of some type fits the promoted range. -/
theorem automaticRange_fits (defined : op.undefined? s.bits l.toInt r.toInt = none)
    (hw : Representation.widest.Contains (op.exact l.toInt r.toInt)) :
    op.Fits (Promotion.automaticRange op (.machine s) (.machine t)) l.toInt r.toInt := by
  obtain ⟨hl, hr⟩ := fitsIn_operands l r
  cases op
  case add =>
    have bits := Representation.fitting_contains (hl.add hr) hw
    exact (Operator.fits_iff_of_not_bitwise rfl).mpr bits
  case sub =>
    have bits := Representation.fitting_contains (hl.sub hr) hw
    exact (Operator.fits_iff_of_not_bitwise rfl).mpr bits
  case mul =>
    -- the sum of the widths counts both signs, of which the product keeps one
    have sign : (s.signed || t.signed).toNat ≤ s.signed.toNat + t.signed.toNat := by
      cases s.signed <;> cases t.signed <;> decide
    have bits := Representation.fitting_contains (l.fitsIn.mul r.fitsIn) hw
    rw [Nat.sub_add_cancel (by omega), ← Representation.bits_machine,
      ← Representation.bits_machine] at bits
    exact (Operator.fits_iff_of_not_bitwise rfl).mpr bits
  case div =>
    have bits := Representation.fitting_contains (l.fitsIn.tdiv r.fitsIn) hw
    rw [← Representation.bits_machine] at bits
    exact (Operator.fits_iff_of_not_bitwise rfl).mpr bits
  case rem =>
    have bits := IntType.contains_iff_fitsIn.mpr (l.fitsIn.tmod r.toInt)
    exact (Operator.fits_iff_of_not_bitwise rfl).mpr (Representation.machine_contains.mpr bits)
  case bitOr => exact automaticRange_fits_bitwise Bits.placewise_or hw
  case bitAnd => exact automaticRange_fits_bitwise Bits.placewise_and hw
  case bitXor => exact automaticRange_fits_bitwise Bits.placewise_xor hw
  case shl => exact (Operator.fits_iff_of_not_bitwise rfl).mpr hw
  case shr =>
    obtain ⟨nonneg, -⟩ := shiftAmount_of_defined rfl defined
    have bits := IntType.contains_iff_fitsIn.mpr (l.fitsIn.ediv_two_pow nonneg r.toInt.toNat)
    exact (Operator.fits_iff_of_not_bitwise rfl).mpr (Representation.machine_contains.mpr bits)

/-- The promoted range refuses only what lies in the range of no type. -/
theorem automaticRange_fits_iff (defined : op.undefined? s.bits l.toInt r.toInt = none) :
    op.Fits (Promotion.automaticRange op (.machine s) (.machine t)) l.toInt r.toInt ↔
      Representation.widest.Contains (op.exact l.toInt r.toInt) :=
  ⟨fun h => h.2.widest, automaticRange_fits defined⟩

/-- Into a type, automatic promotion gives the exact result wherever the type holds it. -/
theorem evaluateInto_automatic (d : IntType) (op : Operator) (l : Word s) (r : Word t) :
    evaluateInto .automatic d op l r =
      match op.undefined? s.bits l.toInt r.toInt with
      | some f => .error f
      | none =>
        match Word.ofInt? d (op.exact l.toInt r.toInt) with
        | some v => .ok v
        | none => .error (.overflow op) := by
  rw [evaluateInto_eq]
  cases h : op.undefined? s.bits l.toInt r.toInt with
  | some f =>
      rw [Operator.outcome_of_undefined h]
      rfl
  | none =>
      rw [Operator.outcome_of_defined h]
      show Except.bind (if op.Fits (Promotion.automaticRange op _ _) _ _ then _ else _) _ = _
      by_cases fits : Representation.widest.Contains (op.exact l.toInt r.toInt)
      · rw [if_pos (automaticRange_fits h fits)]
        rfl
      · have out : Word.ofInt? d (op.exact l.toInt r.toInt) = none :=
          Word.ofInt?_eq_none_iff.mpr fun hd =>
            fits (Representation.machine_contains.mpr hd).widest
        rw [if_neg (mt (automaticRange_fits_iff h).mp fits), out]
        rfl

/-- Automatic promotion refuses a result only if no type holds it. -/
theorem evaluate_automatic_eq_error_iff (h : op.Defined s.bits l.toInt r.toInt) :
    (∃ f, evaluate .automatic op l r = .error f) ↔
      ¬ Representation.widest.Contains (op.exact l.toInt r.toInt) := by
  have defined := Operator.undefined?_eq_none_iff.mpr h
  rw [← automaticRange_fits_iff defined]
  refine ⟨?_, ?_⟩
  · rintro ⟨f, hf⟩ fits
    obtain ⟨w, hw, -⟩ := evaluate_of_fits (p := .automatic) h fits
    rw [hw] at hf
    cases hf
  · intro out
    exact ⟨_, evaluate_of_not_fits (p := .automatic) h out⟩

end

/-- Whether operands have a result depends on a width only if they are shifted. -/
theorem Operator.undefined?_width {op : Operator} (h : op.isShift = false) (width width' : Nat)
    (l r : Int) : op.undefined? width l r = op.undefined? width' l r := by
  cases op
  case shl | shr => exact absurd h (by decide)
  all_goals rfl

/-- **Automatic promotion loses nothing.**  Where an operation has a result, every type that holds
the result receives it, and it is refused outright only below or above all types.  If nothing is
shifted, the integers of the operands decide alone, whatever types they come in. -/
theorem automatic_loses_nothing (op : Operator) :
    (∀ {s t : IntType} (l : Word s) (r : Word t), op.Defined s.bits l.toInt r.toInt →
      let e := op.exact l.toInt r.toInt
      (∀ d : IntType,
        ((∃ v, evaluateInto .automatic d op l r = .ok v ∧ v.toInt = e) ↔ d.Contains e) ∧
        ∀ v, evaluateInto .automatic d op l r = .ok v → v.toInt = e) ∧
      ((∃ f, evaluate .automatic op l r = .error f) ↔
        ¬ (IntType.i128.min ≤ e ∧ e ≤ IntType.u128.max)) ∧
      ((∃ f, evaluate .automatic op l r = .error f) ↔ ∀ u : IntType, ¬ u.Contains e)) ∧
    (op.isShift = false → ∀ {s t s' t' : IntType} (l : Word s) (r : Word t) (l' : Word s')
      (r' : Word t'), l.toInt = l'.toInt → r.toInt = r'.toInt → ∀ d : IntType,
        evaluateInto .automatic d op l r = evaluateInto .automatic d op l' r') := by
  refine ⟨?_, ?_⟩
  · intro s t l r defined e
    have into (d : IntType) : evaluateInto .automatic d op l r =
        match Word.ofInt? d e with
        | some v => .ok v
        | none => .error (.overflow op) := by
      rw [evaluateInto_automatic, Operator.undefined?_eq_none_iff.mpr defined]
    have exact (d : IntType) (v : Word d) (hv : evaluateInto .automatic d op l r = .ok v) :
        v.toInt = e := by
      rw [into] at hv
      split at hv
      · cases hv
        exact Word.ofInt?_eq_some_iff.mp ‹_›
      · cases hv
    -- the widest range starts with one of the 128-bit types and ends with the other
    have ends : Representation.widest.Contains e ↔ IntType.i128.min ≤ e ∧ e ≤ IntType.u128.max := by
      rw [Representation.widest_contains, IntType.min_eq, IntType.max_eq]
      exact Iff.rfl
    refine ⟨fun d => ⟨⟨?_, fun held => ?_⟩, exact d⟩, ?_, ?_⟩
    · rintro ⟨v, -, hv⟩
      rw [← hv]
      exact v.contains_toInt
    · refine ⟨Word.ofInt d e, ?_, Word.toInt_ofInt held⟩
      rw [into, Word.ofInt?_eq_some_iff.mpr (Word.toInt_ofInt held)]
    · rw [evaluate_automatic_eq_error_iff defined, ends]
    · rw [evaluate_automatic_eq_error_iff defined, Representation.widest_contains_iff_exists,
        not_exists]
  · intro unshifted s t s' t' l r l' r' hl hr d
    rw [evaluateInto_automatic, evaluateInto_automatic, hl, hr,
      Operator.undefined?_width unshifted s.bits s'.bits]

/-- The quotient that no signed type holds, with its divisor in two types. -/
theorem automatic_least_div_minus_one :
    (∃ v, evaluateInto .automatic .u128 .div (Word.ofInt .i128 (-2 ^ 127)) (Word.ofInt .i8 (-1)) =
      .ok v ∧ v.toInt = 2 ^ 127) ∧
    evaluateInto .automatic .u128 .div (Word.ofInt .i128 (-2 ^ 127)) (Word.ofInt .i8 (-1)) =
      evaluateInto .automatic .u128 .div (Word.ofInt .i128 (-2 ^ 127)) (Word.ofInt .i64 (-1)) :=
  ⟨(((automatic_loses_nothing .div).1 _ _
    (show (Word.ofInt .i8 (-1)).toInt ≠ 0 by decide)).1 .u128).1.mpr (by decide),
    (automatic_loses_nothing .div).2 rfl _ _ _ _ rfl rfl _⟩

end CheckedInt
