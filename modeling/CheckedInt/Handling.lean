import CheckedInt.Fault

/-!
# Handling — what happens when a fault is raised

* `Handling`: a fault either unwinds the computation with the diagnostic, or aborts the program, or
  is logged and passed over.
* `Event`: what the log receives. Every fault that is raised is logged once, as an error if the
  computation ends there and as a warning if it goes on.
-/

namespace CheckedInt

/-- The ways to deal with a fault. -/
inductive Handling where
  | unwind
  | abort
  | logAndContinue
deriving DecidableEq

/-- The weight of a log event. -/
inductive Level where
  | error
  | warning
deriving DecidableEq

/-- How a level is written in the log. -/
def Level.name : Level → String
  | .error => "ERROR"
  | .warning => "WARN"

/-- One entry of the log. -/
structure Event where
  level : Level
  diagnostic : Diagnostic
  text : String
deriving DecidableEq

namespace Handling

/-- A fault that is passed over is logged as a warning, and one that ends something as an error. -/
def level : Handling → Level
  | unwind | abort => .error
  | logAndContinue => .warning

/-- The text of the log event. -/
def text : Handling → String
  | unwind => "safe numeric invariant violated, unwinding"
  | abort => "safe numeric invariant violated, aborting"
  | logAndContinue => "safe numeric invariant violated"

/-- The event that a diagnostic is logged with. -/
def event (h : Handling) (d : Diagnostic) : Event := ⟨h.level, d, h.text⟩

end Handling

end CheckedInt
