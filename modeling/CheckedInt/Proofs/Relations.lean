import Mathlib.Data.Finset.Card
import CheckedInt.Proofs.Atomicity
import CheckedInt.Proofs.Comparison
import CheckedInt.Proofs.Recast

/-!
# Relations — safe integers among each other and with words

Safe integers have two orders.  `Relations.between` compares the stored words as words of any types,
and `Ord` goes by the stored type's own order on patterns.  Both are the order of the stored
integers (`Relations.between_eq`, `SafeInt.compare_eq`), so they agree with each other.  Equality is
that of the stored words (`SafeInt.beq_iff`), and hashing goes along with it.

* `Relations.ofInts`: how two integers stand to each other; `Relations.swap` exchanges them.
* `mergeSort_perm_sorted`: sorting registers puts their integers in order and loses none.
* `size_ofList_eq_card`: a set of registers has one element for each integer that they hold.

**Coherence** (`relations_coherent`).  The relations, the order, equality and hashes of safe
integers all are those of their integers, and sorting and counting registers rest on them.
-/

namespace CheckedInt

variable {s t : IntType} {p : Policies}

/-! ### Words of any types -/

namespace Relations

/-- How two integers stand to each other. -/
def ofInts (m n : Int) : Relations where
  eq := decide (m = n)
  ne := decide (m ≠ n)
  lt := decide (m < n)
  le := decide (m ≤ n)
  gt := decide (m > n)
  ge := decide (m ≥ n)
  order := compare m n

/-- The relations of the same operands, exchanged. -/
def swap (r : Relations) : Relations where
  eq := r.eq
  ne := r.ne
  lt := r.gt
  le := r.ge
  gt := r.lt
  ge := r.le
  order := r.order.swap

/-- Words stand to each other as their integers do. -/
theorem between_eq (a : Word s) (b : Word t) : between a b = ofInts a.toInt b.toInt := by
  have equal : a.equal b = decide (a.toInt = b.toInt) :=
    Bool.eq_iff_iff.mpr (Word.equal_iff.trans decide_eq_true_iff.symm)
  rw [between, ofInts, equal, Word.compareTo_eq]
  congr 1
  · exact decide_not.symm
  · exact Bool.eq_iff_iff.mpr (Word.lessThan_iff.trans decide_eq_true_iff.symm)
  · exact Bool.eq_iff_iff.mpr (Word.lessEqual_iff.trans decide_eq_true_iff.symm)
  · exact Bool.eq_iff_iff.mpr (Word.greaterThan_iff.trans decide_eq_true_iff.symm)
  · exact Bool.eq_iff_iff.mpr (Word.greaterEqual_iff.trans decide_eq_true_iff.symm)

theorem ofInts_swap (m n : Int) : (ofInts m n).swap = ofInts n m := by
  rw [swap, ofInts, ofInts, Int.compare_swap]
  congr 1
  · exact decide_eq_decide.mpr eq_comm
  · exact decide_eq_decide.mpr ne_comm

/-- Exchanging the words reverses all their relations. -/
theorem between_swap (a : Word s) (b : Word t) : (between a b).swap = between b a := by
  rw [between_eq, between_eq, ofInts_swap]

end Relations

/-! ### Safe integers of one type -/

namespace SafeInt

variable {x y : SafeInt t p}

/-- The stored type's own order is that of the integers. -/
theorem compare_eq (x y : SafeInt t p) : compare x y = compare x.value.toInt y.value.toInt :=
  Word.order_eq x.value y.value

theorem isLE_compare_iff : (compare x y).isLE = true ↔ x.value.toInt ≤ y.value.toInt := by
  rw [compare_eq, Std.isLE_compare]

theorem isLT_compare_iff : (compare x y).isLT = true ↔ x.value.toInt < y.value.toInt := by
  rw [compare_eq, Ordering.isLT_iff_eq_lt, Std.compare_eq_lt]

/-- Equal integers are stored as equal words. -/
theorem beq_iff_toInt : (x == y) = true ↔ x.value.toInt = y.value.toInt := Word.equal_iff

/-- The greater of two safe integers has the greater number. -/
theorem toInt_greater (x y : SafeInt t p) :
    (x.greater y).value.toInt = max x.value.toInt y.value.toInt := by
  rw [greater]
  split
  · rename_i h
    exact (max_eq_left (isLT_compare_iff.mp h).le).symm
  · rename_i h
    exact (max_eq_right (not_lt.mp (mt isLT_compare_iff.mpr h))).symm

/-- The lesser of two safe integers has the lesser number. -/
theorem toInt_lesser (x y : SafeInt t p) :
    (x.lesser y).value.toInt = min x.value.toInt y.value.toInt := by
  rw [lesser]
  split
  · rename_i h
    exact (min_eq_right (isLT_compare_iff.mp h).le).symm
  · rename_i h
    exact (min_eq_left (not_lt.mp (mt isLT_compare_iff.mpr h))).symm

end SafeInt

namespace Machine

open SafeInt

/-! ### Registers -/

/-- Registers that are sorted are the same ones, with their integers in order. -/
theorem mergeSort_perm_sorted (regs : Registers t p) :
    let sorted := regs.mergeSort fun x y => (Ord.compare x y).isLE
    sorted.Perm regs ∧ sorted.Pairwise fun x y => x.value.toInt ≤ y.value.toInt := by
  intro sorted
  refine ⟨List.mergeSort_perm _ _, ?_⟩
  have ordered : sorted.Pairwise fun x y => (Ord.compare x y).isLE = true := by
    refine List.pairwise_mergeSort (fun x y z hxy hyz => ?_) (fun x y => ?_) regs
    · exact isLE_compare_iff.mpr ((isLE_compare_iff.mp hxy).trans (isLE_compare_iff.mp hyz))
    · rw [Bool.or_eq_true, isLE_compare_iff, isLE_compare_iff]
      exact le_total _ _
  exact ordered.imp isLE_compare_iff.mp

/-- A set of registers holds each of them once, and different ones hold different integers. -/
theorem size_ofList_eq_card (regs : Registers t p) :
    (Std.HashSet.ofList regs).size = (regs.map fun x => x.value.toInt).toFinset.card := by
  have toInt_inj : Function.Injective fun x : SafeInt t p => x.value.toInt := fun x y h =>
    eq_of_beq (beq_iff_toInt.mpr h)
  have distinct : ((Std.HashSet.ofList regs).toList.map fun x => x.value.toInt).Nodup := by
    refine List.Nodup.map toInt_inj (Std.HashSet.distinct_toList.imp fun differ same => ?_)
    rw [same, beq_self_eq_true] at differ
    cases differ
  have same : ((Std.HashSet.ofList regs).toList.map fun x => x.value.toInt).toFinset =
      (regs.map fun x => x.value.toInt).toFinset := by
    ext n
    simp only [List.mem_toFinset, List.mem_map, Std.HashSet.mem_toList, Std.HashSet.mem_ofList,
      List.contains_iff_mem]
  rw [← same, List.toFinset_card_of_nodup distinct, List.length_map, Std.HashSet.length_toList]

/-- Comparing a register with an operand tells how their integers stand to each other. -/
theorem run_compare {regs : Registers t p} {r : Nat} {rhs : Operand} {x : SafeInt t p} {v : Literal}
    (hx : regs[r]? = some x) (hv : rhs.literal? regs = some v) :
    (Step.compare r rhs).perform.run regs =
      ⟨.ok (.comparison (.between x.value v.word) (.between v.word x.value)
        ((rhs.register? regs).map (ranking x))), regs, []⟩ := by
  rw [Step.perform, withOperand, Action.run_read_bind, hv]
  simp only
  rw [run_onRegister_read hx, Action.run_read_bind]
  rfl

/-- **Coherence.**  Words of any types stand to each other as their integers do, and exchanging them
exchanges the relations.  So does a register to an operand, which may be a word or a safe integer of
any type and any policies.  The order of safe integers of one type is the one that words of any
types have, equality is that of the integers, equal ones have equal hashes, and the greater and the
lesser are those of the integers.  Sorting the registers gives them in ascending order, and the set
of them has one element for each integer that they hold. -/
theorem relations_coherent (regs : Registers t p) :
    (∀ {s u : IntType} (a : Word s) (b : Word u),
      Relations.between a b = Relations.ofInts a.toInt b.toInt ∧
      Relations.between b a = (Relations.between a b).swap) ∧
    (∀ (r : Nat) (rhs : Operand) (x : SafeInt t p) (v : Literal), regs[r]? = some x →
      rhs.literal? regs = some v →
      let relations := Relations.ofInts x.value.toInt v.word.toInt
      (Step.compare r rhs).perform.run regs =
        ⟨.ok (.comparison relations relations.swap ((rhs.register? regs).map (ranking x))), regs,
          []⟩) ∧
    (∀ x y : SafeInt t p,
      compare x y = (Relations.between x.value y.value).order ∧
      (compare x y = .eq ↔ (x == y) = true) ∧
      ((x == y) = true ↔ x.value.toInt = y.value.toInt) ∧
      ((x == y) = true → hash x = hash y) ∧
      (x.greater y).value.toInt = max x.value.toInt y.value.toInt ∧
      (x.lesser y).value.toInt = min x.value.toInt y.value.toInt) ∧
    (∃ sorted, Step.sort.perform.run regs = ⟨.ok .done, sorted, []⟩ ∧ sorted.Perm regs ∧
      sorted.Pairwise fun x y => x.value.toInt ≤ y.value.toInt) ∧
    Step.countDistinct.perform.run regs =
      ⟨.ok (.count (regs.map fun x => x.value.toInt).toFinset.card), regs, []⟩ := by
  refine ⟨fun a b => ⟨Relations.between_eq a b, (Relations.between_swap a b).symm⟩, ?_, ?_, ?_, ?_⟩
  · intro r rhs x v hx hv relations
    rw [run_compare hx hv, ← Relations.between_swap x.value, Relations.between_eq]
  · intro x y
    have same_order : compare x y = (Relations.between x.value y.value).order :=
      (compare_eq x y).trans (Word.compareTo_eq x.value y.value).symm
    have equal_order : compare x y = .eq ↔ (x == y) = true := by
      rw [compare_eq, Std.LawfulEqCmp.compare_eq_iff_eq, beq_iff_toInt]
    refine ⟨same_order, equal_order, beq_iff_toInt, fun equal => ?_, toInt_greater x y,
      toInt_lesser x y⟩
    rw [eq_of_beq equal]
  · exact ⟨_, rfl, mergeSort_perm_sorted regs⟩
  · rw [← size_ofList_eq_card]
    rfl

/-- Two of three registers hold 200, which their domain from 0 to 100 does not contain and which are
the low bits of 456 as well: they are equal, and both stand above a negative word.  There are two
different integers among the three. -/
theorem relations_coherent_at_200 :
    let p : Policies := ⟨.ranged (Word.ofInt .i128 0) (Word.ofInt .i128 100), .native,
      .logAndContinue⟩
    let outside : SafeInt .u8 p := ⟨Word.ofInt .u8 200⟩
    let truncated : SafeInt .u8 p := ⟨Word.truncate .u8 (Word.ofInt .i32 456).widen⟩
    let regs : Registers .u8 p := [outside, ⟨Word.ofInt .u8 7⟩, truncated]
    let rhs : Operand := .literal ⟨.i128, Word.ofInt .i128 (-1)⟩
    (regs[0]? = some outside ∧ rhs.literal? regs = some ⟨.i128, Word.ofInt .i128 (-1)⟩ ∧
      (Step.compare 0 rhs).perform.run regs =
        ⟨.ok (.comparison (.ofInts 200 (-1)) (Relations.ofInts 200 (-1)).swap none), regs, []⟩) ∧
    ((outside == truncated) = true ∧ hash outside = hash truncated) ∧
    Step.countDistinct.perform.run regs = ⟨.ok (.count 2), regs, []⟩ := by
  intro p outside truncated regs rhs
  obtain ⟨-, compared, ordered, -, counted⟩ := relations_coherent regs
  obtain ⟨-, -, -, hashed, -⟩ := ordered outside truncated
  have equal : (outside == truncated) = true := by decide
  exact ⟨⟨rfl, rfl, compared 0 rhs outside _ rfl rfl⟩, ⟨equal, hashed equal⟩, counted⟩

end Machine

end CheckedInt
