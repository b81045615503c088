import Mathlib.Order.Bounds.Basic
import CheckedInt.Proofs.Range

/-!
# Fitting — the least representation for a number of bits

The widths are searched from the narrowest on, and behind the last of them stands the widest range.
A search through an ascending list finds the least element that passes (`le_of_find?_eq_some`), and
so `Width.atLeast?` the least width that is enough (`Width.isLeast_of_atLeast?`).

* `Representation.isLeast_bits_fitting`: up to 128 bits the representation is a type of that width.
* `Representation.Contains.fitting_mono`: more bits lose no member, also where the type gives way to
  the widest range, which has a sign of its own.
* `Representable bits signed n`: the integer has a form of so many bits, in two's complement or in
  plain binary.

**Least and monotone** (`Representation.fitting_least_and_monotone`).  The representation for a
number of bits is the least that there is, grows with the number, and holds whatever has so many
bits, as far as any type does.
-/

namespace CheckedInt

/-- A search through an ascending list finds the least of the elements that pass. -/
theorem le_of_find?_eq_some {α : Type} {key : α → Nat} {test : α → Bool} {l : List α} {a b : α}
    (ascending : l.Pairwise fun x y => key x ≤ key y) (found : l.find? test = some a)
    (member : b ∈ l) (passes : test b = true) : key a ≤ key b := by
  induction ascending with
  | nil => cases member
  | @cons x l first _ ih =>
      cases hx : test x with
      | true =>
          rw [List.find?_cons_of_pos hx] at found
          cases found
          rcases List.mem_cons.mp member with rfl | later
          · exact le_rfl
          · exact first b later
      | false =>
          rw [List.find?_cons_of_neg (Bool.eq_false_iff.mp hx)] at found
          rcases List.mem_cons.mp member with rfl | later
          · exact absurd (hx.symm.trans passes) Bool.false_ne_true
          · exact ih found later

/-! ### The widths -/

namespace Width

variable {n : Nat} {w : Width}

theorem all_ascending : all.Pairwise fun v w => v.bits ≤ w.bits := by decide

/-- The search finds the least width of at least `n` bits. -/
theorem isLeast_of_atLeast? (found : atLeast? n = some w) :
    IsLeast (Set.range bits ∩ Set.Ici n) w.bits := by
  refine ⟨⟨⟨w, rfl⟩, le_bits_of_atLeast? found⟩, ?_⟩
  rintro _ ⟨⟨v, rfl⟩, enough⟩
  exact le_of_find?_eq_some all_ascending found v.mem_all (decide_eq_true enough)

/-- Up to 128 bits there is a width that is enough. -/
theorem exists_atLeast? (h : n ≤ 128) : ∃ w, atLeast? n = some w := by
  rw [← Option.isSome_iff_exists, atLeast?, List.find?_isSome]
  exact ⟨w128, mem_all _, decide_eq_true h⟩

/-- Beyond 128 bits no width is enough. -/
theorem atLeast?_eq_none (h : 128 < n) : atLeast? n = none := by
  refine List.find?_eq_none.mpr fun w _ enough => ?_
  exact absurd ((of_decide_eq_true enough).trans w.bits_le) h.not_ge

end Width

/-! ### The representation that the search leads to -/

/-- More bits of one signedness take nothing away. -/
theorem IntType.Contains.of_bits_le {v w : Width} {signed : Bool} {n : Int}
    (wider : v.bits ≤ w.bits) (held : (IntType.mk v signed).Contains n) :
    (IntType.mk w signed).Contains n := by
  refine contains_iff_fitsIn.mpr ((contains_iff_fitsIn.mp held).mono ?_ id)
  show (if signed then v.bits - 1 else v.bits) ≤ if signed then w.bits - 1 else w.bits
  cases signed with
  | true => exact Nat.sub_le_sub_right wider 1
  | false => exact wider

namespace Representation

variable {m n : Nat} {signed : Bool} {k : Int}

theorem fitting_of_found {w : Width} (found : Width.atLeast? n = some w) :
    fitting n signed = machine ⟨w, signed⟩ := by
  rw [fitting, found]

theorem fitting_of_beyond (h : 128 < n) : fitting n signed = widest := by
  rw [fitting, Width.atLeast?_eq_none h]

/-- Up to 128 bits the range that is chosen has the least width of at least that many bits. -/
theorem isLeast_bits_fitting (h : n ≤ 128) (signed : Bool) :
    IsLeast (Set.range Width.bits ∩ Set.Ici n) (fitting n signed).bits := by
  obtain ⟨w, found⟩ := Width.exists_atLeast? h
  rw [fitting_of_found found]
  exact Width.isLeast_of_atLeast? found

/-- Up to 128 bits the signedness is the one asked for. -/
theorem signed_fitting (h : n ≤ 128) (signed : Bool) : (fitting n signed).signed = signed := by
  obtain ⟨w, found⟩ := Width.exists_atLeast? h
  rw [fitting_of_found found]
  rfl

/-- What is held with few bits is held with more. -/
theorem Contains.fitting_mono (held : (fitting m signed).Contains k) (more : m ≤ n) :
    (fitting n signed).Contains k := by
  rcases Nat.lt_or_ge 128 n with beyond | within
  · -- both 128-bit types lie in the widest range, whichever was left
    rw [fitting_of_beyond beyond]
    exact held.widest
  · obtain ⟨v, first⟩ := Width.exists_atLeast? (more.trans within)
    obtain ⟨w, second⟩ := Width.exists_atLeast? within
    have wider : v.bits ≤ w.bits :=
      (Width.isLeast_of_atLeast? first).2 ⟨⟨w, rfl⟩, more.trans (Width.le_bits_of_atLeast? second)⟩
    rw [fitting_of_found first, machine_contains] at held
    rw [fitting_of_found second, machine_contains]
    exact held.of_bits_le wider

end Representation

/-! ### Sufficiency -/

/-- The integer has a form of `bits` bits, in two's complement with a sign and in plain binary
without. -/
def Representable (bits : Nat) (signed : Bool) (n : Int) : Prop :=
  if signed then -2 ^ (bits - 1) ≤ n ∧ n ≤ 2 ^ (bits - 1) - 1 else 0 ≤ n ∧ n ≤ 2 ^ bits - 1

instance (bits : Nat) (signed : Bool) (n : Int) : Decidable (Representable bits signed n) :=
  inferInstanceAs (Decidable (if signed then _ else _))

/-- The bits besides the sign are one fewer, if there is a sign. -/
theorem Representable.fitsIn {bits : Nat} {signed : Bool} {n : Int}
    (h : Representable bits signed n) : FitsIn (bits - signed.toNat) signed n := by
  rw [Representable] at h
  rw [FitsIn]
  cases signed <;> exact ⟨h.1, Int.lt_of_le_sub_one h.2⟩

namespace Representation

/-- The range that is chosen holds all numbers of that form, as far as the widest one does. -/
theorem fitting_contains_of_representable {bits : Nat} {signed : Bool} {n : Int} (pos : 1 ≤ bits)
    (form : Representable bits signed n) (held : widest.Contains n) :
    (fitting bits signed).Contains n := by
  have counted := fitting_contains form.fitsIn held
  rwa [Nat.sub_add_cancel (signed.toNat_le.trans pos)] at counted

/-- **Fitting is least and monotone.**  Up to 128 bits the representation has the signedness that
was asked for, and of all widths the least that is enough.  Beyond that it is the widest one.  A
representation for more bits contains what one for fewer does, and what has a form of so many bits
is contained in it unless it lies beyond all types. -/
theorem fitting_least_and_monotone (bits : Nat) (signed : Bool) :
    (bits ≤ 128 → (fitting bits signed).signed = signed ∧
      IsLeast (Set.range Width.bits ∩ Set.Ici bits) (fitting bits signed).bits) ∧
    (128 < bits → fitting bits signed = widest) ∧
    (∀ more, bits ≤ more → ∀ w : Wide, (fitting bits signed).contains w = true →
      (fitting more signed).contains w = true) ∧
    (1 ≤ bits → ∀ n : Int, Representable bits signed n → -2 ^ 127 ≤ n → n ≤ 2 ^ 128 - 1 →
      ∃ w : Wide, w.toInt = n ∧ (fitting bits signed).contains w = true) := by
  refine ⟨fun within => ⟨signed_fitting within signed, isLeast_bits_fitting within signed⟩,
    fitting_of_beyond, fun more wider w held => ?_, fun pos n form lower upper => ?_⟩
  · exact contains_eq_true_iff.mpr ((contains_eq_true_iff.mp held).fitting_mono wider)
  · have held := fitting_contains_of_representable pos form (widest_contains.mpr ⟨lower, upper⟩)
    obtain ⟨w, rfl⟩ := held.exists_wide
    exact ⟨w, rfl, contains_eq_true_iff.mpr held⟩

/-- Of 33 bits the least width is 64.  The greatest unsigned integer of 128 bits stays in the
representation for 129, and the least signed one is still in that for 200. -/
theorem fitting_least_and_monotone_at_seam :
    (33 ≤ 128 ∧ IsLeast (Set.range Width.bits ∩ Set.Ici 33) (fitting 33 true).bits) ∧
    (128 < 129 ∧ fitting 129 false = widest) ∧
    (128 ≤ 129 ∧ (fitting 128 false).contains Wide.max = true ∧
      (fitting 129 false).contains Wide.max = true) ∧
    (1 ≤ 200 ∧ Representable 200 true (-2 ^ 127) ∧
      ∃ w : Wide, w.toInt = -2 ^ 127 ∧ (fitting 200 true).contains w = true) := by
  have held : (fitting 128 false).contains Wide.max = true := by decide
  have form : Representable 200 true (-2 ^ 127) := by decide
  obtain ⟨least, -⟩ := fitting_least_and_monotone 33 true
  obtain ⟨-, beyond, -⟩ := fitting_least_and_monotone 129 false
  obtain ⟨-, -, monotone, -⟩ := fitting_least_and_monotone 128 false
  obtain ⟨-, -, -, sufficient⟩ := fitting_least_and_monotone 200 true
  exact ⟨⟨by decide, (least (by decide)).2⟩, ⟨by decide, beyond (by decide)⟩,
    ⟨by decide, held, monotone 129 (by decide) _ held⟩, by decide, form,
    sufficient (by decide) _ form (by decide) (by decide)⟩

end Representation

end CheckedInt
