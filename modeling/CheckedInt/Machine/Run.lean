import CheckedInt.Machine.Step
import Std.Data.HashSet

/-!
# Runs — steps one after the other

* `Step.perform`: a step as an action on the registers.
* `Frame`: what one step of a run shows, with the registers after it and the events of this step.
* `run`: the frames of a list of steps from no registers. A fault that unwinds ends its step only;
  an abort ends the run.
-/

namespace CheckedInt.Machine

/-- The state of a run. -/
abbrev Registers (t : IntType) (p : Policies) := List (SafeInt t p)

variable {t : IntType} {p : Policies} {α : Type}

/-- Puts a result where a target says. -/
def Target.store (target : Target) (x : SafeInt t p) (regs : Registers t p) : Registers t p :=
  match target with
  | drop => regs
  | replace i => regs.set i x
  | append => regs ++ [x]

/-- Gives a result as the answer of the step. -/
def deliver (target : Target) (x : SafeInt t p) : Action (Registers t p) (Answer t) := do
  let regs ← Action.read
  Action.write (target.store x regs)
  return .value x.value

/-- Runs an action on the value `x` of register `r`. The register keeps what the action leaves, also
if it is interrupted. -/
def focus (r : Nat) (x : SafeInt t p) (m : Action (SafeInt t p) α) : Action (Registers t p) α :=
  fun regs =>
    let e := m.run x
    ⟨e.answer, regs.set r e.state, e.events⟩

/-- Runs an action on the value of register `r` and goes on with its answer. -/
def onRegister (r : Nat) (m : Action (SafeInt t p) α)
    (next : α → Action (Registers t p) (Answer t)) : Action (Registers t p) (Answer t) := do
  let regs ← Action.read
  match regs[r]? with
  | some x => focus r x m >>= next
  | none => return .noRegister

/-- The word that an operand stands for. -/
def Operand.literal? (regs : Registers t p) : Operand → Option Literal
  | literal v => some v
  | @safe s _ x => some ⟨s, x.value⟩
  | register j => regs[j]?.map fun x => ⟨t, x.value⟩

/-- The register that an operand is a copy of. -/
def Operand.register? (regs : Registers t p) : Operand → Option (SafeInt t p)
  | register j => regs[j]?
  | _ => none

/-- Goes on with the word of an operand. -/
def withOperand (rhs : Operand) (next : Literal → Action (Registers t p) (Answer t)) :
    Action (Registers t p) (Answer t) := do
  let regs ← Action.read
  match rhs.literal? regs with
  | some v => next v
  | none => return .noRegister

/-- Gives a result, or answers with the fault. -/
def deliverOrRefuse (target : Target) :
    Except Fault (SafeInt t p) → Action (Registers t p) (Answer t)
  | .ok x => deliver target x
  | .error f => return .refused f

/-- The value that an operation on the register's value gives. -/
def withValue (f : SafeInt t p → Action (SafeInt t p) α) : Action (SafeInt t p) α := do
  let x ← Action.read
  f x

/-- How the first of two registers of one type ranks with the second. -/
def ranking (x y : SafeInt t p) : Ranking t :=
  ⟨compare x y, (x.greater y).value, (x.lesser y).value⟩

/-- A step as an action on the registers. -/
def Step.perform (step : Step t) : Action (Registers t p) (Answer t) :=
  match step with
  | create v target => do
    let x ← SafeInt.create p t v.word
    deliver target x
  | tryCreate v target => deliverOrRefuse target (SafeInt.tryCreate p t v.word)
  | assign r vs => onRegister r (SafeInt.assignAll vs) fun _ => return .done
  | modify r edit => onRegister r (SafeInt.modify edit) fun _ => return .done
  | apply r op rhs target =>
    withOperand rhs fun v => onRegister r (withValue fun x => x.apply op v.word) (deliver target)
  | applyAssign r op rhs =>
    withOperand rhs fun v => onRegister r (SafeInt.applyAssign op v.word) fun _ => return .done
  | tryApply r op rhs target =>
    onRegister r Action.read fun x => deliverOrRefuse target (x.tryApply op rhs.word)
  | preStep r d target => onRegister r (SafeInt.preStep d) (deliver target)
  | postStep r d target => onRegister r (SafeInt.postStep d) (deliver target)
  | negate r target =>
    if t.signed then onRegister r (withValue SafeInt.negate) (deliver target)
    else return .unsupported
  | complement r target =>
    if t.signed then onRegister r (withValue SafeInt.complement) (deliver target)
    else return .unsupported
  | copy r target => onRegister r Action.read (deliver target)
  | compare r rhs =>
    withOperand rhs fun v => onRegister r Action.read fun x => do
      let regs ← Action.read
      return .comparison (.between x.value v.word) (.between v.word x.value)
        ((rhs.register? regs).map (ranking x))
  | read r =>
    onRegister r Action.read fun x => return .reading x.value x.describe x.describeIndented
  | sort => do
    let regs ← Action.read
    Action.write (regs.mergeSort fun x y => (Ord.compare x y).isLE)
    return .done
  | countDistinct => do
    let regs ← Action.read
    return .count (Std.HashSet.ofList regs).size

/-- What one step of a run shows. -/
structure Frame (t : IntType) where
  answer : Except Interruption (Answer t)
  registers : List (Word t)
  events : List Event

/-- The frames of a list of steps that starts with the given registers. -/
def runFrom (regs : Registers t p) : List (Step t) → List (Frame t)
  | [] => []
  | step :: rest =>
    let e := step.perform.run regs
    let frame : Frame t := ⟨e.answer, e.state.map (·.value), e.events⟩
    match e.answer with
    | .error .aborted => [frame]
    | _ => frame :: runFrom e.state rest

/-- The frames of a list of steps under the given policies. -/
def run (p : Policies) (steps : List (Step t)) : List (Frame t) :=
  runFrom (p := p) [] steps

end CheckedInt.Machine
