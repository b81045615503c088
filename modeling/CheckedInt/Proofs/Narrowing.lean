import CheckedInt.Proofs.Construction
import CheckedInt.Proofs.Outcome

/-!
# Narrowing — which wide integers a type holds

Three ways lead to what a type holds.  Narrowing goes through a pattern of 128 bits, in two's
complement if the number has one and in plain binary if not.  Membership compares with the ends of
the range.  Truncation keeps the low bits, whatever they stand for.

* `Word.isSome_narrow?`: narrowing has an answer exactly for the members of the range.
* `Word.narrowThrough_eq`: any casts from 128 bits narrow alike if they are exact.
* `Word.modEq_toInt_iff_truncate`: truncation gives the one word in the class of the number, and so
  the narrowed word wherever there is one (`Word.truncate_of_narrow?`).
* `Word.truncate_truncate`: low bits may be dropped in two steps.
* `Representation.contains_widest`: the widest range is what the two 128-bit types hold together.

**Agreement** (`Word.narrowing_agrees`).  The three ways agree on every wide integer, also below the
least and above the greatest number of any type.
-/

namespace CheckedInt

namespace Word

variable {s t u : IntType} {w : Wide}

/-! ### Narrowing -/

theorem isSome_ofInt? {n : Int} : (ofInt? t n).isSome = true ↔ t.Contains n := by
  rw [Option.isSome_iff_ne_none, ne_eq, ofInt?_eq_none_iff, not_not]

/-- Whichever pattern the number goes through, it arrives exactly if the range contains it. -/
theorem isSome_narrow? (t : IntType) (w : Wide) :
    (narrow? t w).isSome = (Representation.machine t).contains w := by
  rw [Bool.eq_iff_iff, narrow?_eq_ofInt?, isSome_ofInt?, Representation.contains_machine_iff]

/-- A wide integer that is narrowed comes back when it is widened. -/
theorem widen_of_narrow? {v : Word t} (narrowed : narrow? t w = some v) : v.widen = w := by
  rw [← Wide.toInt_inj, toInt_widen, narrow?_eq_some_iff.mp narrowed]

/-- A word that is widened comes back when it is narrowed. -/
theorem narrow?_widen (v : Word t) : narrow? t v.widen = some v :=
  narrow?_eq_some_iff.mpr v.toInt_widen.symm

/-! ### Casts -/

section

variable {fromSigned fromUnsigned : BitVec 128 → Option (Word t)}

/-- Narrowing by any casts from the two types of 128 bits, the signed one tried first. -/
def narrowThrough (fromSigned fromUnsigned : BitVec 128 → Option (Word t)) (w : Wide) :
    Option (Word t) :=
  match w.toSigned? with
  | some p => fromSigned p
  | none => w.toUnsigned?.bind fromUnsigned

/-- The casts succeed exactly where the type has the number of the pattern, and keep it. -/
structure ExactCasts (fromSigned fromUnsigned : BitVec 128 → Option (Word t)) : Prop where
  signed : ∀ p v, fromSigned p = some v ↔ v.toInt = p.toInt
  unsigned : ∀ p v, fromUnsigned p = some v ↔ v.toInt = p.toNat

/-- The casts that narrowing goes through are exact. -/
theorem exactCasts_ofInt? (t : IntType) :
    ExactCasts (fun p => ofInt? t p.toInt) (fun p => ofInt? t p.toNat) :=
  ⟨fun _ _ => ofInt?_eq_some_iff, fun _ _ => ofInt?_eq_some_iff⟩

/-- A cast is determined by the numbers that it succeeds on. -/
theorem eq_ofInt?_of_exact {number : BitVec 128 → Int} {cast : BitVec 128 → Option (Word t)}
    (exact : ∀ p v, cast p = some v ↔ v.toInt = number p) :
    cast = fun p => ofInt? t (number p) := by
  funext p
  ext v
  rw [exact, ofInt?_eq_some_iff]

/-- All exact casts narrow to the same word. -/
theorem narrowThrough_eq (exact : ExactCasts fromSigned fromUnsigned) (w : Wide) :
    narrowThrough fromSigned fromUnsigned w = narrow? t w := by
  obtain rfl := eq_ofInt?_of_exact exact.signed
  obtain rfl := eq_ofInt?_of_exact exact.unsigned
  rfl

end

/-! ### Truncation -/

/-- Truncation gives the one word that is congruent. -/
theorem modEq_toInt_iff_truncate {v : Word t} :
    v.toInt ≡ w.toInt [ZMOD 2 ^ t.bits] ↔ v = truncate t w := by
  rw [modEq_toInt_iff, truncate_eq_ofInt]

theorem modEq_truncate (t : IntType) (w : Wide) :
    (truncate t w).toInt ≡ w.toInt [ZMOD 2 ^ t.bits] :=
  modEq_toInt_iff_truncate.mpr rfl

/-- Where narrowing succeeds truncation agrees with it. -/
theorem truncate_of_narrow? {v : Word t} (narrowed : narrow? t w = some v) : truncate t w = v := by
  rw [truncate_eq_ofInt, ← narrow?_eq_some_iff.mp narrowed, ofInt_toInt]

/-- The low bits of the low bits are those of the number, whatever the signs in between. -/
theorem truncate_truncate (shorter : t.bits ≤ u.bits) (w : Wide) :
    truncate t (truncate u w).widen = truncate t w := by
  have first : (truncate u w).toInt ≡ w.toInt [ZMOD 2 ^ t.bits] :=
    (modEq_truncate u w).of_dvd (pow_dvd_pow 2 shorter)
  rw [truncate_widen, truncate_eq_ofInt t w, ofInt_eq_ofInt_iff]
  exact first

end Word

/-! ### Membership -/

/-- The test of a word of another type is the narrowing of its number. -/
theorem IntType.canRepresent_eq_isSome (t : IntType) {s : IntType} (r : Word s) :
    t.canRepresent r = (Word.narrow? t r.widen).isSome :=
  (Word.isSome_narrow? t r.widen).symm

/-- The widest range has the lower end of one 128-bit type and the upper end of the other, and they
overlap. -/
theorem Representation.contains_widest (w : Wide) :
    widest.contains w = ((Word.narrow? .i128 w).isSome || (Word.narrow? .u128 w).isSome) := by
  have signedMin : IntType.i128.min = -2 ^ 127 := rfl
  have signedMax : IntType.i128.max = 2 ^ 127 - 1 := rfl
  have unsignedMin : IntType.u128.min = 0 := rfl
  have unsignedMax : IntType.u128.max = 2 ^ 128 - 1 := rfl
  rw [Bool.eq_iff_iff, Bool.or_eq_true, Word.isSome_narrow?, Word.isSome_narrow?,
    contains_machine_iff, contains_machine_iff, contains_eq_true_iff, widest_contains,
    IntType.Contains, IntType.Contains]
  omega

namespace Word

/-- **Narrowing, membership and truncation agree.**  A wide integer is narrowed to a type exactly if
the range of the type contains it, which is from the least to the greatest integer of the type, and
then nothing is lost, whatever exact casts it is narrowed through.  Truncation gives the one word
that is congruent to it, which is the narrowed word if there is one, and may go through a longer
type.  A word is narrowed and truncated back from its own wide integer, a type can represent what is
narrowed to it, and the widest range contains what is narrowed to one of the 128-bit types. -/
theorem narrowing_agrees (t : IntType) (w : Wide) :
    ((narrow? t w).isSome = (Representation.machine t).contains w ∧
      ((Representation.machine t).contains w = true ↔ t.min ≤ w.toInt ∧ w.toInt ≤ t.max) ∧
      (∀ v, narrow? t w = some v → v.widen = w ∧ truncate t w = v) ∧
      ∀ fromSigned fromUnsigned : BitVec 128 → Option (Word t), ExactCasts fromSigned fromUnsigned →
        narrowThrough fromSigned fromUnsigned w = narrow? t w) ∧
    ((∀ v : Word t, v.toInt ≡ w.toInt [ZMOD 2 ^ t.bits] ↔ v = truncate t w) ∧
      ∀ u : IntType, t.bits ≤ u.bits → truncate t (truncate u w).widen = truncate t w) ∧
    (∀ v : Word t, narrow? t v.widen = some v ∧ truncate t v.widen = v) ∧
    (∀ {s : IntType} (r : Word s), t.canRepresent r = (narrow? t r.widen).isSome) ∧
    Representation.widest.contains w = ((narrow? .i128 w).isSome || (narrow? .u128 w).isSome) := by
  refine ⟨⟨isSome_narrow? t w, Representation.contains_machine_iff, fun v narrowed => ?_,
      fun _ _ exact => narrowThrough_eq exact w⟩,
    ⟨fun v => modEq_toInt_iff_truncate, fun u shorter => truncate_truncate shorter w⟩,
    fun v => ?_, t.canRepresent_eq_isSome, Representation.contains_widest w⟩
  · exact ⟨widen_of_narrow? narrowed, truncate_of_narrow? narrowed⟩
  · exact ⟨narrow?_widen v, truncate_of_narrow? (narrow?_widen v)⟩

/-- The negation of `2 ^ 127` is narrowed to the signed type of 128 bits, and the number before it
to none.  It still has low bits, which are all ones, and through 16 bits they are the same. -/
theorem narrowing_agrees_below_least :
    let least := Wide.ofParts true (1#128 <<< 127)
    let below := Wide.ofParts true (1#128 <<< 127 + 1#128)
    (narrow? .i128 least = some (ofInt .i128 (-2 ^ 127)) ∧
      (ofInt .i128 (-2 ^ 127)).widen = least ∧
      truncate .i128 least = ofInt .i128 (-2 ^ 127)) ∧
    narrowThrough (fun p => ofInt? .i128 p.toInt) (fun p => ofInt? .i128 p.toNat) least =
      narrow? .i128 least ∧
    (Representation.widest.contains below = false ∧ (narrow? .i128 below).isSome = false) ∧
    ((ofInt .i8 (-1)).toInt ≡ below.toInt [ZMOD 2 ^ 8] ∧ truncate .i8 below = ofInt .i8 (-1)) ∧
    IntType.i8.bits ≤ IntType.u16.bits ∧
      truncate .i8 (truncate .u16 below).widen = truncate .i8 below := by
  intro least below
  obtain ⟨⟨-, -, narrowed, through⟩, -⟩ := narrowing_agrees .i128 least
  obtain ⟨⟨decided, -⟩, -, -, -, widest⟩ := narrowing_agrees .i128 below
  obtain ⟨-, ⟨congruent, shortened⟩, -⟩ := narrowing_agrees .i8 below
  have found : narrow? .i128 least = some (ofInt .i128 (-2 ^ 127)) := by decide
  have outside : (Representation.machine .i128).contains below = false := by decide
  have remainder : (ofInt .i8 (-1)).toInt ≡ below.toInt [ZMOD 2 ^ 8] := by decide
  have shorter : IntType.i8.bits ≤ IntType.u16.bits := by decide
  exact ⟨⟨found, narrowed _ found⟩, through _ _ (exactCasts_ofInt? .i128),
    ⟨widest.trans (by decide), decided.trans outside⟩,
    ⟨remainder, ((congruent _).mp remainder).symm⟩, shorter, shortened .u16 shorter⟩

end Word

end CheckedInt
