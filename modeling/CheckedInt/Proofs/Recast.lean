import CheckedInt.Machine.Run
import CheckedInt.Word.Exactness

/-!
# Recast — the same words under other policies

Two runs of one list of steps under different policies have registers of different types.
`SafeInt.recast` takes the word of a safe integer under other policies, and so it relates them.

What is read or compared does not depend on the policies, so recasting changes none of it: operands
(`Operand.literal?_recast`), orders (`ranking_recast`), sorting (`recast_mergeSort`) and the number
of distinct registers (`size_ofList_recast`).
-/

namespace CheckedInt

variable {t : IntType} {p : Policies}

namespace SafeInt

/-- Two safe integers are equal if and only if their words are. -/
theorem beq_iff {x y : SafeInt t p} : (x == y) = true ↔ x.value = y.value :=
  Word.equal_iff.trans Word.toInt_inj

instance : LawfulBEq (SafeInt t p) where
  eq_of_beq {x y} h := by
    obtain ⟨v⟩ := x
    obtain ⟨w⟩ := y
    exact congrArg _ (beq_iff.mp h)
  rfl := beq_iff.mpr rfl

/-- The word of a safe integer under other policies. -/
def recast (q : Policies) (x : SafeInt t p) : SafeInt t q := ⟨x.value⟩

end SafeInt

namespace Machine

open SafeInt

variable {q : Policies}

theorem map_value_recast (regs : Registers t p) :
    (regs.map (recast q)).map (·.value) = regs.map (·.value) := by
  rw [List.map_map]
  rfl

/-- Storing looks at no policies. -/
theorem Target.store_recast (target : Target) (x : SafeInt t p) (regs : Registers t p) :
    target.store (x.recast q) (regs.map (recast q)) = (target.store x regs).map (recast q) := by
  cases target with
  | drop => rfl
  | replace i => exact List.map_set.symm
  | append =>
      rw [store, store, List.map_append]
      rfl

/-- The word of an operand does not depend on the policies of the registers. -/
theorem Operand.literal?_recast (regs : Registers t p) (rhs : Operand) :
    rhs.literal? (regs.map (recast q)) = rhs.literal? regs := by
  cases rhs with
  | literal v => rfl
  | safe x => rfl
  | register j =>
      rw [literal?, literal?, List.getElem?_map, Option.map_map]
      rfl

theorem Operand.register?_recast (regs : Registers t p) (rhs : Operand) :
    rhs.register? (regs.map (recast q)) = (rhs.register? regs).map (recast q) := by
  cases rhs with
  | literal v => rfl
  | safe x => rfl
  | register j => exact List.getElem?_map

/-- Safe integers rank by their words alone. -/
theorem ranking_recast (x y : SafeInt t p) :
    ranking (x.recast q) (y.recast q) = ranking x y := by
  have greater : ((x.recast q).greater (y.recast q)).value = (x.greater y).value := by
    rw [SafeInt.greater, SafeInt.greater, apply_ite value, apply_ite value]
    rfl
  have lesser : ((x.recast q).lesser (y.recast q)).value = (x.lesser y).value := by
    rw [SafeInt.lesser, SafeInt.lesser, apply_ite value, apply_ite value]
    rfl
  rw [ranking, ranking, greater, lesser]
  rfl

/-- Sorting looks at no policies. -/
theorem recast_mergeSort (regs : Registers t p) :
    (regs.map (recast q)).mergeSort (fun x y => (Ord.compare x y).isLE) =
      (regs.mergeSort fun x y => (Ord.compare x y).isLE).map (recast q) := by
  rw [List.map_mergeSort]
  exact fun _ _ _ _ => rfl

/-- Recasting takes different safe integers to different ones, so sets of them keep their size. -/
theorem size_insertMany_recast (regs : Registers t p) :
    ∀ (set : Std.HashSet (SafeInt t p)) (set' : Std.HashSet (SafeInt t q)),
      (∀ x, set'.contains (x.recast q) = set.contains x) → set'.size = set.size →
      (set'.insertMany (regs.map (recast q))).size = (set.insertMany regs).size := by
  induction regs with
  | nil => exact fun _ _ _ sizes => sizes
  | cons y regs ih =>
      intro set set' same sizes
      rw [List.map_cons, Std.HashSet.insertMany_cons, Std.HashSet.insertMany_cons]
      refine ih _ _ (fun x => ?_) ?_
      · rw [Std.HashSet.contains_insert, Std.HashSet.contains_insert, same]
        rfl
      · rw [Std.HashSet.size_insert, Std.HashSet.size_insert, sizes]
        simp only [← Std.HashSet.contains_iff_mem, same]

/-- Counting looks at no policies. -/
theorem size_ofList_recast (regs : Registers t p) :
    (Std.HashSet.ofList (regs.map (recast q))).size = (Std.HashSet.ofList regs).size := by
  rw [Std.HashSet.ofList_eq_insertMany_empty, Std.HashSet.ofList_eq_insertMany_empty]
  refine size_insertMany_recast regs ∅ ∅ (fun x => ?_) ?_
  · rw [Std.HashSet.contains_empty, Std.HashSet.contains_empty]
  · rw [Std.HashSet.size_empty, Std.HashSet.size_empty]

end Machine

end CheckedInt
