import Mathlib.Data.Int.ModEq
import CheckedInt.Proofs.Patterns
import CheckedInt.Proofs.Transaction

/-!
# Construction — what can be stored

A word comes into a safe integer if the domain accepts it, and then the word of the same integer is
stored (`SafeInt.validated_eq`).  A word that is refused is raised as a fault, and where that is
passed over a construction has to give something all the same.

* `Word.modEq_toInt_iff`: each class of integers modulo the type's power of two has one word, which
  is that of the low bits.
* `SafeInt.run_create`, `SafeInt.run_assign`: what a construction and an assignment leave, by one
  test of the domain.

**Construction is exact** (`SafeInt.construction_exact`).  A construction that returns its fault,
one that raises it and an assignment accept the same integers, which are those of the domain, in
whatever type they come.
-/

namespace CheckedInt

open CheckedInt.Action

variable {s t : IntType} {p : Policies} {σ : Type}

/-! ### Words and congruence -/

namespace Word

/-- Integers have the same low bits if they are congruent. -/
theorem ofInt_eq_ofInt_iff {m n : Int} : ofInt t m = ofInt t n ↔ m ≡ n [ZMOD 2 ^ t.bits] := by
  have pos : (2 : Int) ^ t.bits ≠ 0 := by positivity
  have nonneg (k : Int) : 0 ≤ k % 2 ^ t.bits := Int.emod_nonneg k pos
  rw [ofInt, ofInt, mk.injEq, ← BitVec.toNat_inj, BitVec.toNat_ofInt, BitVec.toNat_ofInt,
    Nat.cast_pow, Nat.cast_ofNat, ← Int.natCast_inj, Int.toNat_of_nonneg (nonneg m),
    Int.toNat_of_nonneg (nonneg n), Int.ModEq]

/-- The word of the low bits is the only one in the class of the integer. -/
theorem modEq_toInt_iff {w : Word t} {n : Int} :
    w.toInt ≡ n [ZMOD 2 ^ t.bits] ↔ w = ofInt t n := by
  rw [← ofInt_eq_ofInt_iff, ofInt_toInt]

/-- Truncation depends on the number of a word only, and not on its type. -/
theorem truncate_widen (t : IntType) (raw : Word s) : truncate t raw.widen = ofInt t raw.toInt := by
  rw [truncate_eq_ofInt, toInt_widen]

end Word

/-- The test of the domain, spelled out. -/
theorem Domain.accepts_iff_bounds {d : Domain} {raw : Word s} :
    d.accepts t raw = true ↔ (t.min ≤ raw.toInt ∧ raw.toInt ≤ t.max) ∧
      ∀ lower upper, d = .ranged lower upper →
        lower.toInt ≤ raw.toInt ∧ raw.toInt ≤ upper.toInt := by
  rw [accepts_iff]
  refine and_congr_right fun _ => ?_
  cases d with
  | full => exact iff_of_true trivial nofun
  | ranged lower upper =>
      refine ⟨fun between l u same => ?_, fun between => between lower upper rfl⟩
      cases same
      exact between

namespace SafeInt

/-! ### What is stored -/

/-- The low bits are what a construction gives, refused or not. -/
theorem run_create (raw : Word s) (z : σ) :
    (create p t raw : Action σ (SafeInt t p)).run z =
      if p.domain.accepts t raw then ⟨.ok ⟨Word.ofInt t raw.toInt⟩, z, []⟩
      else
        ⟨p.handling.verdict Fault.invalidValue.diagnostic ⟨Word.ofInt t raw.toInt⟩, z,
          [p.handling.event Fault.invalidValue.diagnostic]⟩ := by
  rw [create_eq, Word.truncate_widen]
  refine run_transact_of_ite ?_
  rw [tryCreate_eq]
  exact apply_ite (Except.map _) _ _ _

/-- A word in the domain is stored.  For any other the fault is logged and the stored word
stays. -/
theorem run_assign (raw : Word s) (x : SafeInt t p) :
    (assign raw : Action (SafeInt t p) Unit).run x =
      if p.domain.accepts t raw then ⟨.ok (), ⟨Word.ofInt t raw.toInt⟩, []⟩
      else
        ⟨p.handling.verdict Fault.invalidAssignment.diagnostic (), x,
          [p.handling.event Fault.invalidAssignment.diagnostic]⟩ := by
  rw [assign_eq]
  refine run_transact_of_ite ?_
  rw [validated_eq]
  exact apply_ite (Except.map _) _ _ _

/-- A safe integer in the domain is constructed from its own value. -/
theorem tryCreate_value {x : SafeInt t p} (member : p.domain.accepts t x.value = true) :
    tryCreate p t x.value = .ok x := by
  rw [tryCreate_eq, if_pos member, Word.ofInt_toInt]

/-! ### Exactness -/

/-- **Construction is exact.**  The domain accepts a word exactly if its integer lies in the range
of the stored type and in the interval of the domain, whatever type the word has.  What it accepts
is narrowed without loss, and both constructions and an assignment store it.  What it does not
accept they refuse once, as a range error; where that is passed over a construction gives the one
word of the stored type that is congruent to it, and an assignment leaves the old value.  A member
of the domain is constructed from its own value. -/
theorem construction_exact (raw : Word s) (z : σ) (x : SafeInt t p) :
    let n := raw.toInt
    let tried := tryCreate p t raw
    let created := (create p t raw : Action σ (SafeInt t p)).run z
    let assigned := (assign raw : Action (SafeInt t p) Unit).run x
    let invalid : Diagnostic := ⟨.range, "Invalid value"⟩
    let invalidAssignment : Diagnostic := ⟨.range, "Invalid value passed on assignment"⟩
    ((p.domain.accepts t raw = true ↔ (t.min ≤ n ∧ n ≤ t.max) ∧
        ∀ lower upper, p.domain = .ranged lower upper → lower.toInt ≤ n ∧ n ≤ upper.toInt) ∧
      ∀ {s' : IntType} (raw' : Word s'), raw'.toInt = n →
        p.domain.accepts t raw' = p.domain.accepts t raw) ∧
    (p.domain.accepts t raw = true →
      (∃ v, Word.narrow? t raw.widen = some v) ∧
      ∃ y, y.value.toInt = n ∧ tried = .ok y ∧ created = ⟨.ok y, z, []⟩ ∧
        assigned = ⟨.ok (), y, []⟩) ∧
    (p.domain.accepts t raw = false →
      tried.mapError Fault.diagnostic = .error invalid ∧
      (∃ v : Word t, (∀ w : Word t, w.toInt ≡ n [ZMOD 2 ^ t.bits] ↔ w = v) ∧
        created = ⟨p.handling.verdict invalid ⟨v⟩, z, [p.handling.event invalid]⟩) ∧
      assigned = ⟨p.handling.verdict invalidAssignment (), x,
        [p.handling.event invalidAssignment]⟩) ∧
    ∀ y : SafeInt t p, p.domain.accepts t y.value = true → tryCreate p t y.value = .ok y := by
  intro n tried created assigned invalid invalidAssignment
  have tried_eq : tried = _ := tryCreate_eq p t raw
  have created_eq : created = _ := run_create raw z
  have assigned_eq : assigned = _ := run_assign raw x
  refine ⟨⟨Domain.accepts_iff_bounds, fun raw' same => ?_⟩, fun accepted => ?_, fun rejected => ?_,
    fun y => tryCreate_value⟩
  · exact Bool.eq_iff_iff.mpr (Domain.accepts_congr same)
  · rw [if_pos accepted] at tried_eq created_eq assigned_eq
    exact ⟨⟨_, Domain.narrow?_of_accepts accepted⟩, _,
      Word.toInt_ofInt (Domain.accepts_iff.mp accepted).1, tried_eq, created_eq, assigned_eq⟩
  · rw [if_neg (Bool.eq_false_iff.mp rejected)] at tried_eq created_eq assigned_eq
    exact ⟨congrArg (Except.mapError Fault.diagnostic) tried_eq,
      ⟨_, fun w => Word.modEq_toInt_iff, created_eq⟩, assigned_eq⟩

/-- All ones of 128 bits are beyond a domain from 0 to 100, and where that is passed over they are
stored as -1.  An assignment of theirs leaves -1 alone.  A seven is accepted from 32 bits, and from
the eight that it is stored in. -/
theorem construction_exact_of_all_ones :
    let p : Policies := ⟨.ranged (Word.ofInt .i128 0) (Word.ofInt .i128 100), .native,
      .logAndContinue⟩
    let ones : Word .u128 := Word.ofInt .u128 (2 ^ 128 - 1)
    let outside : SafeInt .i8 p := ⟨Word.ofInt .i8 (-1)⟩
    (p.domain.accepts .i8 ones = false ∧
      (tryCreate p .i8 ones).mapError Fault.diagnostic = .error ⟨.range, "Invalid value"⟩ ∧
      (create p .i8 ones : Action Unit (SafeInt .i8 p)).run () =
        ⟨.ok outside, (), [Handling.logAndContinue.event ⟨.range, "Invalid value"⟩]⟩ ∧
      ((assign ones : Action (SafeInt .i8 p) Unit).run outside).state = outside) ∧
    p.domain.accepts .i8 (Word.ofInt .i32 7) = true ∧
      ∃ y : SafeInt .i8 p, y.value.toInt = 7 ∧ tryCreate p .i8 (Word.ofInt .i32 7) = .ok y ∧
        tryCreate p .i8 y.value = .ok y := by
  intro p ones outside
  have rejected : p.domain.accepts .i8 ones = false := by decide
  have accepted : p.domain.accepts .i8 (Word.ofInt .i32 7) = true := by decide
  obtain ⟨-, -, refuses, -⟩ := construction_exact ones () outside
  obtain ⟨refused, ⟨v, congruent, created⟩, assigned⟩ := refuses rejected
  have minusOne : Word.ofInt .i8 (-1) = v := (congruent _).mp (by decide)
  obtain ⟨-, stores, -, again⟩ := construction_exact (Word.ofInt .i32 7) () outside
  obtain ⟨-, y, value, given, -⟩ := stores accepted
  rw [← minusOne] at created
  refine ⟨⟨rejected, refused, created, congrArg Ending.state assigned⟩, accepted, y, value, given,
    again y ?_⟩
  exact tryCreate_accepts given

end SafeInt

end CheckedInt
