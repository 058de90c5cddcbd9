import RecordGrid.Grid.Document
import RecordGrid.Main
import RecordGrid.Proofs.Expr.Completeness
import RecordGrid.Proofs.Store.Awaited
import RecordGrid.Proofs.Store.Deliveries
import RecordGrid.Proofs.Store.Derived
import RecordGrid.Proofs.Store.Entries
import RecordGrid.Proofs.Store.LateAnswers
import RecordGrid.Proofs.Store.Listeners
import RecordGrid.Proofs.Store.Pending
import RecordGrid.Proofs.Store.Undo
import RecordGrid.Proofs.Grid.Fields
import RecordGrid.Proofs.Store.Fields
import RecordGrid.Proofs.Expr.Lexeme
import RecordGrid.Proofs.Expr.Written
import RecordGrid.Proofs.Schema.Documents
import RecordGrid.Proofs.Store.UndoneAnswers
import RecordGrid.Proofs.Expr.Blanks
import RecordGrid.Proofs.Expr.Reads
import RecordGrid.Proofs.View.Formulas
import RecordGrid.Proofs.Store.HeaderOrder
import RecordGrid.Proofs.Session.Idle
import RecordGrid.Proofs.Timeline
import RecordGrid.Proofs.Store.OtherRecords
import RecordGrid.Proofs.Store.RowLimits
import RecordGrid.Proofs.Session.Snapshots
import RecordGrid.Proofs.Store.Views
import RecordGrid.Proofs.Log.Order
import RecordGrid.Proofs.Grid.Copied
import RecordGrid.Proofs.Store.ShownValues
import RecordGrid.Proofs.Expr.Missing
import RecordGrid.Proofs.View.Refreshed
import RecordGrid.Proofs.Store.NewColumns
import RecordGrid.Proofs.Layout.HeaderColumns
import RecordGrid.Proofs.Field.NumberText
import RecordGrid.Proofs.Schema.Choices
import RecordGrid.Proofs.Layout.PageCount
import RecordGrid.Proofs.Store.PageTurns
import RecordGrid.Proofs.Grid.TakenBack
import RecordGrid.Proofs.Grid.RemovedRow
import RecordGrid.Proofs.Schema.ColumnItems
import RecordGrid.Proofs.Store.Access
import RecordGrid.Proofs.Expr.Comparisons
import RecordGrid.Proofs.Expr.Levels
import RecordGrid.Proofs.Log.Sorted
import RecordGrid.Proofs.Grid.Guarded
import RecordGrid.Proofs.Session.Startup
