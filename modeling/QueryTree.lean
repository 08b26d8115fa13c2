import QueryTree.Main
import QueryTree.Pass
import QueryTree.Proofs.Filter.Guards
import QueryTree.Proofs.Filter.Meaning
import QueryTree.Proofs.Json.Spelling
import QueryTree.Proofs.Json.Written
import QueryTree.Proofs.Json.Readers
import QueryTree.Proofs.Json.Records
import QueryTree.Proofs.Time.Calendar
import QueryTree.Proofs.Time.Stamp
import QueryTree.Proofs.Value.Json
import QueryTree.Proofs.Filter.Json
import QueryTree.Proofs.Query.Json
import QueryTree.Proofs.Operand.Json
import QueryTree.Proofs.Statement.Json
import QueryTree.Proofs.Query.Strict
import QueryTree.Proofs.Query.Lossless
import QueryTree.Proofs.Value.Decoded
import QueryTree.Proofs.Filter.Shape
import QueryTree.Proofs.Filter.Form
import QueryTree.Proofs.Query.Path
import QueryTree.Proofs.Query.FirstRejected
import QueryTree.Proofs.CommandLine.Outcome
import QueryTree.Proofs.Json.Whole
import QueryTree.Proofs.Query.Edited
import QueryTree.Proofs.Json.Picked
import QueryTree.Proofs.Query.Alike
import QueryTree.Proofs.Query.AlikeRecords
import QueryTree.Proofs.Query.AlikeValues
import QueryTree.Proofs.Query.Rearranged
import QueryTree.Proofs.Filter.Honored
import QueryTree.Proofs.Statement.Outline
import QueryTree.Proofs.Operand.Outline
import QueryTree.Proofs.Field.Grammar
import QueryTree.Proofs.Field.Ascii
import QueryTree.Proofs.Statement.Clauses
import QueryTree.Proofs.Value.Literal
import QueryTree.Proofs.CommandLine.Options
import QueryTree.Proofs.CommandLine.Effective
import QueryTree.Proofs.Json.WholeNumber
import QueryTree.Proofs.Json.Hole
import QueryTree.Proofs.Json.Cut
import QueryTree.Proofs.Json.Frames
import QueryTree.Proofs.Json.Inside
import QueryTree.Proofs.Filter.Slot
import QueryTree.Proofs.Statement.Shown
import QueryTree.Proofs.Query.Spot
import QueryTree.Proofs.Query.WholeNumber
import QueryTree.Proofs.Filter.Counted
import QueryTree.Proofs.CommandLine.Explained
import QueryTree.Proofs.Statement.Passes
import QueryTree.Proofs.Filter.Built
import QueryTree.Proofs.Json.Ended
import QueryTree.Proofs.Query.Interleaved
import QueryTree.Proofs.Query.Ended
import QueryTree.Proofs.Field.Settled
import QueryTree.Proofs.Text.Trim
import QueryTree.Proofs.Filter.Declared
import QueryTree.Proofs.Query.Ordered
import QueryTree.Proofs.Statement.Ordered
