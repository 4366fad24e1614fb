import Reckon.Evaluate
import Reckon.Proofs.Evaluation
import Reckon.Proofs.Steps
import Reckon.Proofs.Messages
import Reckon.Proofs.LabelCheck
import Reckon.Proofs.StraightRun
import Reckon.Proofs.Generation
import Reckon.Proofs.LoweredCode
import Reckon.Proofs.CompilerCorrectness
import Reckon.Proofs.Folding
import Reckon.Proofs.NarrowedStack
import Reckon.Proofs.Replacement
import Reckon.Proofs.FoldingPreservation
import Reckon.Proofs.FrontEnd
import Reckon.Proofs.ReadBack
import Reckon.Proofs.Derivation
import Reckon.Proofs.ReaderSoundness
import Reckon.Proofs.Lexeme
import Reckon.Proofs.Partition
import Reckon.Proofs.ReaderAgreement
import Reckon.Proofs.SpanErasure
import Reckon.Proofs.Worded
import Reckon.Proofs.LayoutIndependence
import Reckon.Proofs.Sequencing
import Reckon.Proofs.LinesAndColumns
import Reckon.Proofs.FaultAgreement
import Reckon.Proofs.Refusal
import Reckon.Proofs.DiagnosticSpans
import Reckon.Proofs.LineBreaks
import Reckon.Proofs.WellFormedCode
import Reckon.Proofs.NestingLimit
import Reckon.Proofs.Rounds
import Reckon.Proofs.ViablePrefix
import Reckon.Proofs.NormalForm
import Reckon.Proofs.FoldedSpans
import Reckon.Proofs.LoweringGuard
import Reckon.Proofs.IntegerArithmetic
import Reckon.Proofs.LineTable
import Reckon.Proofs.SingleExpression
import Reckon.Proofs.StringLiterals
import Reckon.Proofs.RaisedComplaints
import Reckon.Proofs.Digits
import Reckon.Proofs.NumberLiterals
import Reckon.Proofs.RoundingIntervals
import Reckon.Proofs.FloatTexts
import Reckon.Proofs.Inspection
import Reckon.Proofs.Interning
import Reckon.Proofs.ConstantPool
import Reckon.Proofs.UniqueReadability
import Reckon.Proofs.Progress
import Reckon.Proofs.Outcome
