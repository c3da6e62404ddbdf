import RowQuery.Main
import RowQuery.Proofs.AccessPaths
import RowQuery.Proofs.Bars
import RowQuery.Proofs.Binding
import RowQuery.Proofs.Clauses
import RowQuery.Proofs.Composition
import RowQuery.Proofs.FrontEnds
import RowQuery.Proofs.Grid
import RowQuery.Proofs.JsonRecords
import RowQuery.Proofs.NestedLoop
import RowQuery.Proofs.Sessions
import RowQuery.Proofs.ValueOrder
import RowQuery.Proofs.Pushdown
import RowQuery.Proofs.Sorting
import RowQuery.Proofs.Batch
import RowQuery.Proofs.Projection
import RowQuery.Proofs.GroupNames
import RowQuery.Proofs.Aggregates
import RowQuery.Proofs.Pages
import RowQuery.Proofs.RangeFilters
import RowQuery.Proofs.Reassembly
import RowQuery.Proofs.Grammar
import RowQuery.Proofs.Evaluation
import RowQuery.Proofs.JoinedRows
import RowQuery.Proofs.UniformJoins
import RowQuery.Proofs.CommandGrammar
import RowQuery.Proofs.TypedParameters
import RowQuery.Proofs.NumeralReading
import RowQuery.Proofs.Tables
import RowQuery.Proofs.NumericView
import RowQuery.Proofs.DistinctColumns
