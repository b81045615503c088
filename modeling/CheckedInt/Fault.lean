import CheckedInt.Operator
import CheckedInt.Text.Quoted

/-!
# Faults and diagnostics

* `Fault`: each cause for which an integer is refused.
* `Diagnostic`: what is told about a fault, a category and a reason. A value that is refused on its
  way in is out of *range*; a result that is refused is an *overflow*.
* `Fault.diagnostic`: the diagnostic of each cause.
-/

namespace CheckedInt

/-- Whether a value was refused on its way in or as a result. -/
inductive Category where
  | range
  | overflow
deriving DecidableEq

namespace Category

/-- The name in a line for a reader. -/
def name : Category → String
  | range => "range"
  | overflow => "overflow"

instance : ToString Category := ⟨name⟩

/-- The capitalised name, for diagnostics. -/
def label : Category → String
  | range => "Range"
  | overflow => "Overflow"

end Category

/-- What is told about a fault. -/
structure Diagnostic where
  category : Category
  reason : String
deriving DecidableEq

namespace Diagnostic

/-- One line for a reader. -/
def message (d : Diagnostic) : String := d.category.name ++ " error: " ++ d.reason

instance : ToString Diagnostic := ⟨message⟩

/-- The category applied to the quoted reason. -/
def describe (d : Diagnostic) : String := d.category.label ++ "(" ++ Text.quoted d.reason ++ ")"

end Diagnostic

/-- The causes for which a value or a result is refused. -/
inductive Fault where
  | invalidValue
  | invalidAssignment
  | divisionByZero
  | negativeShiftOperand
  | shiftAmountOutOfRange
  | overflow (op : Operator)
  | increment
  | decrement
  | complement
deriving DecidableEq

namespace Fault

/-- Constructions and assignments are refused as out of range, and results as overflows. -/
def category : Fault → Category
  | invalidValue | invalidAssignment => .range
  | _ => .overflow

/-- What went wrong, in words. A result that fits no range is told with its operator. -/
def reason : Fault → String
  | invalidValue => "Invalid value"
  | invalidAssignment => "Invalid value passed on assignment"
  | divisionByZero => "Division by zero"
  | negativeShiftOperand => "Shift of negative value"
  | shiftAmountOutOfRange => "Shift amount out of range"
  | overflow op => "Overflow on " ++ op.activity
  | increment => "Overflow on increment"
  | decrement => "Overflow on decrement"
  | complement => "Overflow on bitwise complement"

/-- What is told about the fault. -/
def diagnostic (f : Fault) : Diagnostic := ⟨f.category, f.reason⟩

end Fault

end CheckedInt
