import CheckedInt.Proofs.Acceptance

/-!
# Division — quotient and remainder recombine

A remainder, and the product of quotient and divisor, lie between zero and the dividend
(`tmod_mem_uIcc`, `tdiv_mul_mem_uIcc`).  A domain has no gaps (`Domain.contains_of_between`), so one
that contains zero and the dividend contains both of them, whatever the signs and the divisor's
type.

**Recombination** (`SafeInt.quotient_remainder_recombine`).  The remainder is always given, and the
quotient unless it leaves the domain; then quotient times divisor plus remainder is the dividend,
and neither the product nor the sum is refused.
-/

namespace CheckedInt

variable {s t : IntType} {p : Policies}

/-! ### Truncated division -/

/-- The multiple that a truncated quotient gives back lies between zero and the dividend. -/
theorem tdiv_mul_mem_uIcc (a b : Int) : a.tdiv b * b ∈ Set.uIcc 0 a := by
  have whole := Int.tmod_add_tdiv_mul a b
  have remainder := Set.mem_uIcc.mp (tmod_mem_uIcc a b)
  rw [Set.mem_uIcc]
  omega

/-! ### Domains without gaps -/

/-- With two integers a domain contains all between them. -/
theorem Domain.contains_of_between {d : Domain} {a b n : Int} (ha : d.Contains t a)
    (hb : d.Contains t b) (lower : a ≤ n) (upper : n ≤ b) : d.Contains t n := by
  have held : t.Contains n := ⟨ha.1.1.trans lower, upper.trans hb.1.2⟩
  cases d with
  | full => exact ⟨held, trivial⟩
  | ranged _ _ => exact ⟨held, ha.2.1.trans lower, upper.trans hb.2.2⟩

/-- A domain holds what lies between two of its members, in either order. -/
theorem Domain.contains_of_mem_uIcc {d : Domain} {a b n : Int} (ha : d.Contains t a)
    (hb : d.Contains t b) (between : n ∈ Set.uIcc a b) : d.Contains t n := by
  rcases Set.mem_uIcc.mp between with ⟨lower, upper⟩ | ⟨lower, upper⟩
  · exact contains_of_between ha hb lower upper
  · exact contains_of_between hb ha lower upper

namespace SafeInt

/-! ### Recombination -/

/-- **Quotient and remainder recombine.**  Let the domain accept zero and the dividend, let the
divisor not be zero, and let promotion be automatic, or native with a divisor no wider than the
stored type.  Then the remainder is given, it is less than the divisor in magnitude, and it is zero
or has the dividend's sign.  The quotient is refused only if it is not in the domain; otherwise its
product with the divisor is given, and so is the sum of that and the remainder, which is the
dividend. -/
theorem quotient_remainder_recombine (x : SafeInt t p) (r : Word s)
    (promoted : p.promotion = .automatic ∨ p.promotion = .native ∧ s.bits ≤ t.bits)
    (zero : p.domain.accepts t (Word.ofInt t 0) = true)
    (member : p.domain.accepts t x.value = true) (nonzero : r.toInt ≠ 0) :
    ∃ m, x.tryApply .rem r = .ok m ∧
      m.value.toInt.natAbs < r.toInt.natAbs ∧
      (m.value.toInt = 0 ∨ m.value.toInt.sign = x.value.toInt.sign) ∧
      (∀ f, x.tryApply .div r = .error f →
        f = .overflow .div ∧ ¬ p.domain.Contains t (x.value.toInt.tdiv r.toInt)) ∧
      ∀ q, x.tryApply .div r = .ok q →
        ∃ y, q.tryApply .mul r = .ok y ∧ y.tryApply .add m.value = .ok x := by
  have spans : p.promotion.Spans t s := promoted.imp id And.right
  have contains_zero : p.domain.Contains t 0 := Word.toInt_zero t ▸ Domain.accepts_iff.mp zero
  have contains_dividend := Domain.accepts_iff.mp member
  -- the remainder and the product with the quotient lie between two members
  have contains_remainder := Domain.contains_of_mem_uIcc contains_zero contains_dividend
    (tmod_mem_uIcc x.value.toInt r.toInt)
  have contains_product := Domain.contains_of_mem_uIcc contains_zero contains_dividend
    (tdiv_mul_mem_uIcc x.value.toInt r.toInt)
  obtain ⟨m, remainder, hm⟩ :=
    x.exists_tryApply_of_spans .rem r spans rfl nonzero contains_remainder
  refine ⟨m, remainder, ?_, ?_, fun f refused => ?_, fun q given => ?_⟩
  · rw [hm]
    exact natAbs_tmod_lt nonzero _
  · rw [hm]
    exact sign_tmod _ _
  · have tried : x.tryApply .div r = _ := x.tryApply_of_spans spans rfl (if_neg nonzero)
    rw [tried] at refused
    split at refused <;> cases refused
    exact ⟨rfl, ‹_›⟩
  · obtain ⟨-, -, hq, -⟩ := tryApply_eq_ok_iff_exact.mp given
    obtain ⟨y, product, hy⟩ := q.exists_tryApply_of_spans .mul r spans rfl trivial
      (by rw [hq]; exact contains_product)
    have sum : x.value.toInt = y.value.toInt + m.value.toInt := by
      rw [hy, hq, hm]
      exact (Int.tdiv_mul_add_tmod x.value.toInt r.toInt).symm
    exact ⟨y, product, tryApply_eq_ok_of_spans (p.promotion.spans_self t) rfl trivial sum member⟩

/-- All members of a domain from -100 to 0 are at most zero.  So is -100 divided by an unsigned 7,
and from there the way leads back to -100.  The quotient by -7 is refused, and its remainder is
given. -/
theorem quotient_remainder_recombine_at_minus_100 :
    let p : Policies := ⟨.ranged (Word.ofInt .i128 (-100)) (Word.ofInt .i128 0), .native, .unwind⟩
    let x : SafeInt .i8 p := ⟨Word.ofInt .i8 (-100)⟩
    let q : SafeInt .i8 p := ⟨Word.ofInt .i8 (-14)⟩
    (p.domain.accepts .i8 (Word.ofInt .i8 0) = true ∧ p.domain.accepts .i8 x.value = true) ∧
    (x.tryApply .div (Word.ofInt .u8 7) = .ok q ∧
      ∃ m, x.tryApply .rem (Word.ofInt .u8 7) = .ok m ∧
        ∃ y, q.tryApply .mul (Word.ofInt .u8 7) = .ok y ∧ y.tryApply .add m.value = .ok x) ∧
    x.tryApply .div (Word.ofInt .i8 (-7)) = .error (.overflow .div) ∧
      ¬ p.domain.Contains .i8 14 ∧
      ∃ m, x.tryApply .rem (Word.ofInt .i8 (-7)) = .ok m ∧ m.value.toInt.natAbs < 7 := by
  intro p x q
  have zero : p.domain.accepts .i8 (Word.ofInt .i8 0) = true := by decide
  have member : p.domain.accepts .i8 x.value = true := by decide
  have given : x.tryApply .div (Word.ofInt .u8 7) = .ok q := by decide
  have refused : x.tryApply .div (Word.ofInt .i8 (-7)) = .error (.overflow .div) := by decide
  obtain ⟨m, remainder, -, -, -, recombine⟩ := quotient_remainder_recombine x (Word.ofInt .u8 7)
    (.inr ⟨rfl, le_rfl⟩) zero member (by decide)
  obtain ⟨m', remainder', smaller, -, outside, -⟩ :=
    quotient_remainder_recombine x (Word.ofInt .i8 (-7)) (.inr ⟨rfl, le_rfl⟩) zero member
      (by decide)
  exact ⟨⟨zero, member⟩, ⟨given, m, remainder, recombine q given⟩, refused,
    (outside _ refused).2, m', remainder', smaller⟩

end SafeInt

end CheckedInt
