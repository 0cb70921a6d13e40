import Gridcalc.Formula.Expr.Printer
import Gridcalc.Main
import Gridcalc.Proofs.Dependency.Change
import Gridcalc.Proofs.Document.Gate
import Gridcalc.Proofs.Dependency.Drain
import Gridcalc.Proofs.Document.Rebuild
import Gridcalc.Proofs.Formula.Grammar
import Gridcalc.Proofs.Formula.Inquiry
import Gridcalc.Proofs.Formula.Parsing
import Gridcalc.Proofs.Document.Saved
import Gridcalc.Proofs.Document.Rejection
import Gridcalc.Proofs.Sheet.NormalForm
import Gridcalc.Proofs.Document.Frame
import Gridcalc.Proofs.Document.Preview
import Gridcalc.Proofs.Document.UpToDate
import Gridcalc.Proofs.Document.Undo
import Gridcalc.Proofs.Formula.Faults
import Gridcalc.Proofs.Formula.Inlining
import Gridcalc.Proofs.Document.Interruption
import Gridcalc.Proofs.Formula.Lexing
import Gridcalc.Proofs.Formula.Rendering
import Gridcalc.Proofs.Formula.Rereading
import Gridcalc.Proofs.Formula.Legible
import Gridcalc.Proofs.Address.Language
import Gridcalc.Proofs.Document.Naming
import Gridcalc.Proofs.Document.CellChecks
import Gridcalc.Proofs.Formula.Segmentation
import Gridcalc.Proofs.Formula.Quoting
import Gridcalc.Proofs.Formula.Descent.Safety
import Gridcalc.Proofs.Formula.Recasing
import Gridcalc.Proofs.Formula.CaseBlind
import Gridcalc.Proofs.Document.CaseBlind
import Gridcalc.Proofs.Document.Replay
import Gridcalc.Proofs.CommandLine.Arguments
import Gridcalc.Proofs.CommandLine.Outcome
import Gridcalc.Proofs.Formula.Descent.Agreement
import Gridcalc.Proofs.Formula.Bytewise
import Gridcalc.Proofs.Formula.Positions
