import SqlBuilder.Lock
import SqlBuilder.Model.Changes
import SqlBuilder.Proofs.DialectMarks
import SqlBuilder.Proofs.Parallel
import SqlBuilder.Statement
import SqlBuilder.Proofs.Parallel.Quoting
import SqlBuilder.Proofs.Parallel.Predicates
import SqlBuilder.Proofs.Parallel.Select
import SqlBuilder.Proofs.Parallel.Change
import SqlBuilder.Proofs.Parallel.Insert
import SqlBuilder.Proofs.Calls
import SqlBuilder.Proofs.Parallel.Statements
import SqlBuilder.Proofs.Injection
import SqlBuilder.Proofs.PredicateGrammar
import SqlBuilder.Proofs.BoundedChange
import SqlBuilder.Proofs.PagingReading
import SqlBuilder.Proofs.PagingWindow
import SqlBuilder.Proofs.Paging
import SqlBuilder.Proofs.FilteredChange
import SqlBuilder.Proofs.Acceptance
import SqlBuilder.Proofs.AcceptanceAcrossDialects
import SqlBuilder.Proofs.Combination
import SqlBuilder.Proofs.ShownFragments
import SqlBuilder.Proofs.EntriesOrder
import SqlBuilder.Proofs.InsertedCells
import SqlBuilder.Proofs.Exchanges
import SqlBuilder.Proofs.ModelStatements
import SqlBuilder.Proofs.UniqueChecks
import SqlBuilder.Proofs.StoredObjects
import SqlBuilder.Proofs.OwnRow
import SqlBuilder.Proofs.TextEnds
import SqlBuilder.Proofs.ReadBack
import SqlBuilder.Proofs.ReaderCalls
import SqlBuilder.Proofs.LockProtocol
import SqlBuilder.Proofs.WrittenValues
import SqlBuilder.Proofs.RowNumberWindow
import SqlBuilder.Proofs.RowBounds
import SqlBuilder.Proofs.QuotedNames
import SqlBuilder.Proofs.QueryNames
import SqlBuilder.Proofs.IdentityColumns
import SqlBuilder.Proofs.JsonMeaning
import SqlBuilder.Proofs.ConfigRoundTrip
import SqlBuilder.Proofs.LockCalls
import SqlBuilder.Proofs.NullTests
import SqlBuilder.Proofs.CombinedDialects
import SqlBuilder.Proofs.QuotedAgain
import SqlBuilder.Proofs.LiteralGrammar
import SqlBuilder.Proofs.TimestampText
import SqlBuilder.Proofs.LastValues
import SqlBuilder.Proofs.CollectedResults
import SqlBuilder.Proofs.ResolvedValues
import SqlBuilder.Proofs.HydratedRows
import SqlBuilder.Proofs.PatternMatches
import SqlBuilder.Proofs.PatternParts
import SqlBuilder.Proofs.PatternSets
import SqlBuilder.Proofs.PatternGroups
import SqlBuilder.Proofs.WholePatterns
