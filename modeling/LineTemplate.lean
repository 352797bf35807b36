import LineTemplate.Main
import LineTemplate.Proofs.Bindings
import LineTemplate.Proofs.Causes
import LineTemplate.Proofs.Concatenation
import LineTemplate.Proofs.DeadCode
import LineTemplate.Proofs.Failures
import LineTemplate.Proofs.Footprint
import LineTemplate.Proofs.Inventory
import LineTemplate.Proofs.Iterations
import LineTemplate.Proofs.KnownPatterns
import LineTemplate.Proofs.Lexemes
import LineTemplate.Proofs.Log
import LineTemplate.Proofs.LooseEquality
import LineTemplate.Proofs.Occurrences
import LineTemplate.Proofs.Orderings
import LineTemplate.Proofs.Parsing
import LineTemplate.Proofs.Placeholders
import LineTemplate.Proofs.PathText
import LineTemplate.Proofs.PlainText
import LineTemplate.Proofs.Predictions
import LineTemplate.Proofs.Records
import LineTemplate.Proofs.Rereading
import LineTemplate.Proofs.Selections
import LineTemplate.Proofs.Sequence
import LineTemplate.Proofs.SyntaxErrors
import LineTemplate.Proofs.Writing
import LineTemplate.Proofs.PathReaders
import LineTemplate.Proofs.Integers
import LineTemplate.Proofs.Matching
import LineTemplate.Proofs.Steady
import LineTemplate.Proofs.Items
import LineTemplate.Proofs.Enclosed
import LineTemplate.Proofs.WholeTexts
import LineTemplate.Proofs.CarriageReturns
import LineTemplate.Proofs.IndexKeys
import LineTemplate.Proofs.NumericTexts
import LineTemplate.Proofs.Progress
