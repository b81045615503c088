import CheckedInt.Proofs.Canonical
import CheckedInt.Proofs.Narrowing

/-!
# Encoding — 128-bit patterns and back

A wide integer is written as the pattern of its number modulo `2 ^ 128` (`Wide.toPattern_eq_iff`),
and a pattern is read in a representation by its low bits.  A type reads a pattern as the word made
of those bits (`Word.widen_ofPattern`), so all that is known of truncation holds of reading as well.

* `Representation.contains_ofPattern`, `Representation.modEq_ofPattern`: what a type reads is in its
  range, and in the class of the pattern.
* `Representation.ofPattern_toPattern`: reading recovers every member of the range that was written.
* `Representation.ofPattern_toPattern_widest_iff`: the widest range has no pattern of its own for
  what is below zero.

**Round trip** (`Representation.patterns_round_trip`).  Writing and reading are inverse wherever 128
bits are enough, and what the widest range loses is `2 ^ 128` at a time.
-/

namespace CheckedInt

/-! ### Writing -/

namespace Wide

variable {a b : Wide}

/-- Wide integers are written alike if a multiple of `2 ^ 128` lies between them. -/
theorem toPattern_eq_iff : a.toPattern = b.toPattern ↔ a.toInt ≡ b.toInt [ZMOD 2 ^ 128] := by
  rw [← BitVec.toNat_inj, ← Int.natCast_inj, toNat_toPattern, toNat_toPattern, Int.ModEq]

/-- The widest range is half as long again as `2 ^ 128`, so the multiple is that power itself. -/
theorem toPattern_eq_iff_of_widest (ha : Representation.widest.contains a = true)
    (hb : Representation.widest.contains b = true) (distinct : a ≠ b) :
    a.toPattern = b.toPattern ↔ (a.toInt - b.toInt).natAbs = 2 ^ 128 := by
  have apart : a.toInt ≠ b.toInt := fun same => distinct (ext_toInt same)
  obtain ⟨aboveA, belowA⟩ :=
    Representation.widest_contains.mp (Representation.contains_eq_true_iff.mp ha)
  obtain ⟨aboveB, belowB⟩ :=
    Representation.widest_contains.mp (Representation.contains_eq_true_iff.mp hb)
  rw [toPattern_eq_iff, Int.modEq_iff_dvd]
  omega

end Wide

/-! ### Reading at a type -/

namespace Word

/-- The low bits of a pattern are those of its number in plain binary. -/
theorem ofPattern_eq_truncate (t : IntType) (p : BitVec 128) :
    ofPattern t p = truncate t (Wide.ofUnsigned p) := rfl

/-- Masking and extending the sign by hand is reading the word of the low bits. -/
theorem widen_ofPattern (t : IntType) (p : BitVec 128) :
    (ofPattern t p).widen = (Representation.machine t).ofPattern p := by
  rw [← Wide.toInt_inj, toInt_widen]
  exact (Representation.toInt_ofPatternAt t p).symm

/-- The word of the low bits is what the pattern is read as at the type. -/
theorem widen_truncate (t : IntType) (w : Wide) :
    (truncate t w).widen = (Representation.machine t).ofPattern w.toPattern :=
  widen_ofPattern t w.toPattern

end Word

namespace Representation

variable {t : IntType} {w : Wide}

theorem contains_iff_between {r : Representation} :
    r.contains w = true ↔ r.min ≤ w ∧ w ≤ r.max := by
  rw [contains, Bool.and_eq_true]
  exact Iff.rfl

/-- What a pattern is read as at a type lies in the type's range. -/
theorem contains_ofPattern (t : IntType) (p : BitVec 128) :
    (machine t).contains ((machine t).ofPattern p) = true := by
  rw [← Word.widen_ofPattern, contains_machine_iff, Word.toInt_widen]
  exact Word.contains_toInt _

/-- Reading a pattern at a type keeps its low bits. -/
theorem modEq_ofPattern (t : IntType) (p : BitVec 128) :
    ((machine t).ofPattern p).toInt ≡ p.toNat [ZMOD 2 ^ t.bits] := by
  have lowBits := Word.modEq_truncate t (Wide.ofUnsigned p)
  rwa [Wide.toInt_ofUnsigned, ← Word.ofPattern_eq_truncate, ← Word.toInt_widen,
    Word.widen_ofPattern] at lowBits

/-- A member of the range is the wide integer of the word that it is truncated to. -/
theorem ofPattern_toPattern (held : (machine t).contains w = true) :
    (machine t).ofPattern w.toPattern = w := by
  rw [← Word.isSome_narrow?, Option.isSome_iff_exists] at held
  obtain ⟨v, narrowed⟩ := held
  rw [← Word.widen_truncate, Word.truncate_of_narrow? narrowed, Word.widen_of_narrow? narrowed]

/-! ### Reading in the widest range -/

/-- A pattern is read as a number that is not negative, so nothing below zero is read back. -/
theorem ofPattern_toPattern_widest_iff :
    widest.ofPattern w.toPattern = w ↔ 0 ≤ w.toInt := by
  have bound := w.natAbs_toInt_lt
  rw [ofPattern, ← Wide.toInt_inj, Wide.toInt_ofUnsigned, Wide.toNat_toPattern]
  omega

/-- **Patterns round-trip.**  A representation that is a type reads every pattern as a number
between its ends and congruent to the pattern, and reads what it contains from the pattern that it
is written as.  It reads a pattern as the type's own word of the low bits, and what is written as
the truncated word.  The widest range reads back what is not negative, and no two of its members are
written alike unless they are `2 ^ 128` apart. -/
theorem patterns_round_trip (p : BitVec 128) (w : Wide) :
    (∀ r : Representation, r.isWidest = false →
      (r.min ≤ r.ofPattern p ∧ r.ofPattern p ≤ r.max) ∧
      (r.ofPattern p).toInt ≡ p.toNat [ZMOD 2 ^ r.bits] ∧
      (r.contains w = true → r.ofPattern w.toPattern = w)) ∧
    (∀ t : IntType, (Word.ofPattern t p).widen = (machine t).ofPattern p ∧
      (Word.truncate t w).widen = (machine t).ofPattern w.toPattern) ∧
    (widest.ofPattern w.toPattern = w ↔ 0 ≤ w.toInt) ∧
    ∀ a b : Wide, widest.contains a = true → widest.contains b = true → a ≠ b →
      (a.toPattern = b.toPattern ↔ (a.toInt - b.toInt).natAbs = 2 ^ 128) := by
  refine ⟨fun r proper => ?_, fun t => ?_, ofPattern_toPattern_widest_iff,
    fun a b => Wide.toPattern_eq_iff_of_widest⟩
  · cases r with
    | widest => cases proper
    | machine t =>
        exact ⟨contains_iff_between.mp (contains_ofPattern t p), modEq_ofPattern t p,
          ofPattern_toPattern⟩
  · exact ⟨Word.widen_ofPattern t p, Word.widen_truncate t w⟩

/-- All ones of 128 bits are read as -1 in the signed type of 16 bits, which writes -1 so.  In the
widest range they are read as `2 ^ 128 - 1`, which is `2 ^ 128` from -1 and is written alike. -/
theorem patterns_round_trip_of_all_ones :
    let ones := BitVec.allOnes 128
    let minusOne := Wide.ofParts true 1#128
    let i16 := machine .i16
    (i16.isWidest = false ∧ (i16.min ≤ i16.ofPattern ones ∧ i16.ofPattern ones ≤ i16.max) ∧
      i16.contains minusOne = true ∧ i16.ofPattern minusOne.toPattern = minusOne) ∧
    ¬ widest.ofPattern minusOne.toPattern = minusOne ∧
    (widest.contains minusOne = true ∧ widest.contains Wide.max = true ∧ minusOne ≠ Wide.max ∧
      minusOne.toPattern = Wide.max.toPattern) := by
  intro ones minusOne i16
  obtain ⟨proper, -, nonneg, apart⟩ := patterns_round_trip ones minusOne
  obtain ⟨between, -, recovered⟩ := proper i16 rfl
  have held : i16.contains minusOne = true := by decide
  have low : widest.contains minusOne = true := by decide
  have high : widest.contains Wide.max = true := by decide
  have distinct : minusOne ≠ Wide.max := by decide
  have distance : (minusOne.toInt - Wide.max.toInt).natAbs = 2 ^ 128 := by decide
  exact ⟨⟨rfl, between, held, recovered held⟩, mt nonneg.mp (by decide), low, high, distinct,
    (apart _ _ low high distinct).mpr distance⟩

end Representation

end CheckedInt
