/-!
# Machine-integer types — widths, signedness and names

* `Width`: the five storage widths, in bits 8, 16, 32, 64 and 128.
* `IntType`: a width with a signedness; `IntType.min` and `IntType.max` are the ends of the
  interval of integers that the type stores.
* `IntType.ofName?`: the type a name such as `i64` stands for. The two pointer-sized names
  `isize` and `usize` are further names of the 64-bit types.
-/

namespace CheckedInt

/-- The widths that a machine integer is stored in. -/
inductive Width where
  | w8
  | w16
  | w32
  | w64
  | w128
deriving DecidableEq

namespace Width

/-- The number of bits of a width. -/
def bits : Width → Nat
  | w8 => 8
  | w16 => 16
  | w32 => 32
  | w64 => 64
  | w128 => 128

/-- Every width, narrowest first. -/
def all : List Width := [w8, w16, w32, w64, w128]

/-- The width of exactly `n` bits. -/
def ofBits? (n : Nat) : Option Width := all.find? (fun w => w.bits == n)

/-- The narrowest width of at least `n` bits. -/
def atLeast? (n : Nat) : Option Width := all.find? (fun w => decide (n ≤ w.bits))

/-- No width is missing from the list. -/
theorem mem_all (w : Width) : w ∈ all := by
  cases w <;> decide

theorem bits_pos (w : Width) : 0 < w.bits := by
  cases w <;> decide

theorem bits_le (w : Width) : w.bits ≤ 128 := by
  cases w <;> decide

end Width

/-- A machine-integer type: how many bits it has and whether it is read in two's complement. -/
structure IntType where
  width : Width
  signed : Bool
deriving DecidableEq

namespace IntType

/-- Signed, of 8 bits. -/
def i8 : IntType := ⟨.w8, true⟩

/-- Signed, of 16 bits. -/
def i16 : IntType := ⟨.w16, true⟩

/-- Signed, of 32 bits. -/
def i32 : IntType := ⟨.w32, true⟩

/-- Signed, of 64 bits. -/
def i64 : IntType := ⟨.w64, true⟩

/-- Signed, of 128 bits. -/
def i128 : IntType := ⟨.w128, true⟩

/-- Unsigned, of 8 bits. -/
def u8 : IntType := ⟨.w8, false⟩

/-- Unsigned, of 16 bits. -/
def u16 : IntType := ⟨.w16, false⟩

/-- Unsigned, of 32 bits. -/
def u32 : IntType := ⟨.w32, false⟩

/-- Unsigned, of 64 bits. -/
def u64 : IntType := ⟨.w64, false⟩

/-- Unsigned, of 128 bits. -/
def u128 : IntType := ⟨.w128, false⟩

/-- The number of bits that a type stores. -/
def bits (t : IntType) : Nat := t.width.bits

/-- The least integer of a type. -/
def min (t : IntType) : Int :=
  if t.signed then -(1 <<< (t.bits - 1) : Nat) else 0

/-- The greatest integer of a type. -/
def max (t : IntType) : Int :=
  if t.signed then (1 <<< (t.bits - 1) : Nat) - 1 else (1 <<< t.bits : Nat) - 1

/-- The integer lies between the ends of the type's range. -/
def Contains (t : IntType) (n : Int) : Prop := t.min ≤ n ∧ n ≤ t.max

instance (t : IntType) (n : Int) : Decidable (t.Contains n) :=
  inferInstanceAs (Decidable (_ ∧ _))

/-- The written name of a type: `i` or `u` and the number of bits. -/
def name (t : IntType) : String :=
  (if t.signed then "i" else "u") ++ toString t.bits

/-- The type that a name stands for. -/
def ofName? : String → Option IntType
  | "i8" => some i8
  | "i16" => some i16
  | "i32" => some i32
  | "i64" => some i64
  | "i128" => some i128
  | "isize" => some i64
  | "u8" => some u8
  | "u16" => some u16
  | "u32" => some u32
  | "u64" => some u64
  | "u128" => some u128
  | "usize" => some u64
  | _ => none

theorem bits_pos (t : IntType) : 0 < t.bits := t.width.bits_pos

theorem bits_le (t : IntType) : t.bits ≤ 128 := t.width.bits_le

end IntType

end CheckedInt
