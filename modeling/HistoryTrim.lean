import HistoryTrim.Main
import HistoryTrim.Store.Memory
import HistoryTrim.Database.Written
import HistoryTrim.Table.Schema
import HistoryTrim.Proofs.Accounting
import HistoryTrim.Proofs.Alike
import HistoryTrim.Proofs.Attempts
import HistoryTrim.Proofs.Batch
import HistoryTrim.Proofs.BatchCounts
import HistoryTrim.Proofs.Concurrency
import HistoryTrim.Proofs.Decisions
import HistoryTrim.Proofs.Dictionaries
import HistoryTrim.Proofs.Exclusion
import HistoryTrim.Proofs.Frequencies
import HistoryTrim.Proofs.HalfTrimmed
import HistoryTrim.Proofs.IndexOrder
import HistoryTrim.Proofs.Interleaving
import HistoryTrim.Proofs.Interruption
import HistoryTrim.Proofs.Isolation
import HistoryTrim.Proofs.Losses
import HistoryTrim.Proofs.Options
import HistoryTrim.Proofs.OrderedTrim
import HistoryTrim.Proofs.Registrations
import HistoryTrim.Proofs.Registry
import HistoryTrim.Proofs.Resumption
import HistoryTrim.Proofs.Retention
import HistoryTrim.Proofs.RollbackWindow
import HistoryTrim.Proofs.Runs
import HistoryTrim.Proofs.Scan
import HistoryTrim.Proofs.ScanOrders
import HistoryTrim.Proofs.SchemaTexts
import HistoryTrim.Proofs.Services
import HistoryTrim.Proofs.Sessions
import HistoryTrim.Proofs.Settled
import HistoryTrim.Proofs.Throttling
import HistoryTrim.Proofs.Watched
import HistoryTrim.Proofs.Window
import HistoryTrim.Proofs.Database.BothTrims
import HistoryTrim.Proofs.Database.CreatedTables
import HistoryTrim.Proofs.Database.DecodedKeys
import HistoryTrim.Proofs.Database.LatestRows
import HistoryTrim.Proofs.Database.Layout
import HistoryTrim.Proofs.Database.Mirror
import HistoryTrim.Proofs.Database.MixedCells
import HistoryTrim.Proofs.Database.NumberedRows
import HistoryTrim.Proofs.Database.OrderedPath
import HistoryTrim.Proofs.Database.Renaming
import HistoryTrim.Proofs.Database.SelectedRows
import HistoryTrim.Proofs.Database.StoredVersions
import HistoryTrim.Proofs.Database.UnorderedTrim
