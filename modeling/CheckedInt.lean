import CheckedInt.Machine.Run
import CheckedInt.Wide.Exactness
import CheckedInt.Word.Exactness
import CheckedInt.Proofs.Bits
import CheckedInt.Proofs.Patterns
import CheckedInt.Proofs.WideArithmetic
import CheckedInt.Proofs.Canonical
import CheckedInt.Proofs.Fitting
import CheckedInt.Proofs.Outcome
import CheckedInt.Proofs.Automatic
import CheckedInt.Proofs.Exactness
import CheckedInt.Proofs.Admission
import CheckedInt.Proofs.Invariant
import CheckedInt.Proofs.EntryPoints
import CheckedInt.Proofs.Construction
import CheckedInt.Proofs.Narrowing
import CheckedInt.Proofs.Encoding
import CheckedInt.Proofs.Registers
import CheckedInt.Proofs.Chains
import CheckedInt.Proofs.Atomicity
import CheckedInt.Proofs.Relaxation
import CheckedInt.Proofs.FirstFault
import CheckedInt.Proofs.Comparison
import CheckedInt.Proofs.Relations
import CheckedInt.Proofs.Shifts
import CheckedInt.Proofs.Acceptance
import CheckedInt.Proofs.Unary
import CheckedInt.Proofs.Inverses
import CheckedInt.Proofs.Division
import CheckedInt.Proofs.OperandOrder
import CheckedInt.Proofs.Neighbours
import CheckedInt.Proofs.Reporting
