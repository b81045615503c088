import CheckedInt.SafeInt.Operators
import CheckedInt.Word.Exactness

/-!
# Admission — what comes into a safe integer

A domain accepts a word exactly if its integer lies in the range of the stored type and, if the
domain is an interval, in that as well (`Domain.accepts_iff`).  The type that the word comes in
plays no part.

* `validated_eq`, `tryCreate_eq`: a word is stored as the word of the same integer, if the domain
  accepts it.  The narrowing after the test decides alike (`Domain.narrow?_of_accepts`), so nothing
  else is refused.
* `settled_eq_ok_iff`: so is an exact result.
* `tryCreate_accepts`, `tryApply_accepts`: what is not refused is in the domain.
-/

namespace CheckedInt

/-! ### Computations that may be refused -/

section

variable {ε α β : Type} {x : Except ε α} {b : β}

theorem exists_of_map_eq_ok {g : α → β} (h : x.map g = .ok b) : ∃ a, x = .ok a ∧ g a = b := by
  cases x with
  | error e => cases h
  | ok a => exact ⟨a, rfl, Except.ok.inj h⟩

theorem exists_of_bind_eq_ok {g : α → Except ε β} (h : x >>= g = .ok b) :
    ∃ a, x = .ok a ∧ g a = .ok b := by
  cases x with
  | error e => cases h
  | ok a => exact ⟨a, rfl, h⟩

end

variable {t s : IntType} {d : Domain} {f : Fault}

/-! ### The domain's test -/

/-- Only the integer counts, not the type that it comes in. -/
theorem Domain.accepts_iff {raw : Word s} : d.accepts t raw = true ↔ d.Contains t raw.toInt := by
  cases d with
  | full => simp [accepts, Contains, IntType.canRepresent_iff]
  | ranged lower upper => simp [accepts, Contains, IntType.canRepresent_iff, Word.within_iff]

/-- Acceptance depends on the number of a word only, not on its type. -/
theorem Domain.accepts_congr {s' : IntType} {a : Word s} {b : Word s'} (h : a.toInt = b.toInt) :
    d.accepts t a = true ↔ d.accepts t b = true := by
  rw [accepts_iff, accepts_iff, h]

/-- What the domain accepts, the stored type holds. -/
theorem Domain.narrow?_of_accepts {raw : Word s} (accepted : d.accepts t raw = true) :
    Word.narrow? t raw.widen = some (Word.ofInt t raw.toInt) := by
  have value := Word.toInt_ofInt (accepts_iff.mp accepted).1
  exact Word.narrow?_eq_some_iff.mpr (value.trans raw.toInt_widen.symm)

/-! ### The paths into a safe integer -/

namespace SafeInt

/-- A word is refused by the domain's test and by nothing after it. -/
theorem validated_eq (d : Domain) (t : IntType) (f : Fault) (raw : Word s) :
    validated d t f raw =
      if d.accepts t raw then .ok (Word.ofInt t raw.toInt) else .error f := by
  rw [validated]
  split
  · rw [Domain.narrow?_of_accepts ‹_›]
  · rfl

/-- A word is let in as the word of its number, if that is in the domain. -/
theorem validated_eq_ok_iff {raw : Word s} {v : Word t} :
    validated d t f raw = .ok v ↔ v.toInt = raw.toInt ∧ d.accepts t v = true := by
  rw [validated_eq]
  refine ⟨fun given => ?_, fun ⟨value, member⟩ => ?_⟩
  · split at given
    · cases given
      have value := Word.toInt_ofInt (Domain.accepts_iff.mp ‹_›).1
      exact ⟨value, (Domain.accepts_congr value).mpr ‹_›⟩
    · cases given
  · rw [if_pos ((Domain.accepts_congr value).mp member), ← value, Word.ofInt_toInt]

/-- A word is refused with the given fault, exactly if the domain rejects it. -/
theorem validated_eq_error_iff {raw : Word s} {f' : Fault} :
    validated d t f raw = .error f' ↔ d.accepts t raw = false ∧ f' = f := by
  rw [validated_eq]
  cases d.accepts t raw <;> simp [eq_comm]

/-- An exact result is settled as the word of its number, if that is in the domain. -/
theorem settled_eq_ok_iff {exact : Wide} {v : Word t} :
    settled d t f exact = .ok v ↔ v.toInt = exact.toInt ∧ d.accepts t v = true := by
  rw [settled, ← Word.narrow?_eq_some_iff]
  cases h : (Word.narrow? t exact).filter fun u => d.accepts t u with
  | some u =>
      obtain ⟨narrowed, accepted⟩ := Option.filter_eq_some_iff.mp h
      rw [narrowed]
      refine ⟨?_, ?_⟩
      · intro hv
        cases hv
        exact ⟨rfl, accepted⟩
      · rintro ⟨hv, -⟩
        cases hv
        rfl
  | none =>
      refine ⟨?_, ?_⟩
      · intro hv
        cases hv
      · rintro ⟨narrowed, accepted⟩
        exact absurd accepted (Option.filter_eq_none_iff.mp h v narrowed)

variable {p : Policies}

/-- What is constructed without a fault is in the domain. -/
theorem tryCreate_accepts {raw : Word s} {x : SafeInt t p} (h : tryCreate p t raw = .ok x) :
    p.domain.accepts t x.value = true := by
  obtain ⟨v, hv, rfl⟩ := exists_of_map_eq_ok h
  exact (validated_eq_ok_iff.mp hv).2

/-- A construction keeps the number of a word that the domain accepts, and refuses the others. -/
theorem tryCreate_eq (p : Policies) (t : IntType) (raw : Word s) :
    tryCreate p t raw =
      if p.domain.accepts t raw then .ok ⟨Word.ofInt t raw.toInt⟩ else .error .invalidValue := by
  rw [tryCreate, validated_eq]
  exact apply_ite (Except.map SafeInt.mk) _ _ _

theorem tryCreate_eq_error_iff {raw : Word s} :
    tryCreate p t raw = .error f ↔ p.domain.accepts t raw = false ∧ f = .invalidValue := by
  rw [← validated_eq_error_iff, tryCreate]
  cases validated p.domain t .invalidValue raw <;> simp [Except.map]

/-- What a computation settles on is in the domain, whatever it computes. -/
theorem settled_accepts {result : Except Fault Wide} {y : SafeInt t p}
    (h : (result >>= fun exact => (settled p.domain t f exact).map SafeInt.mk) = .ok y) :
    p.domain.accepts t y.value = true := by
  obtain ⟨exact, -, h⟩ := exists_of_bind_eq_ok h
  obtain ⟨v, hv, rfl⟩ := exists_of_map_eq_ok h
  exact (settled_eq_ok_iff.mp hv).2

/-- What an operator gives without a fault is in the domain. -/
theorem tryApply_accepts {x y : SafeInt t p} {op : Operator} {r : Word s}
    (h : x.tryApply op r = .ok y) : p.domain.accepts t y.value = true :=
  settled_accepts h

end SafeInt

end CheckedInt
