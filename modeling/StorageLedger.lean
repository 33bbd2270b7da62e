import StorageLedger.Command.Execution
import StorageLedger.Database.Engine
import StorageLedger.Json.Writer
import StorageLedger.Ledger.Session
import StorageLedger.Main
import StorageLedger.Proofs.Execution
import StorageLedger.Proofs.CallRun
import StorageLedger.Proofs.Session
import StorageLedger.Proofs.FailedCall
import StorageLedger.Proofs.Rollback
import StorageLedger.Proofs.ReadBack
import StorageLedger.Proofs.Projection
import StorageLedger.Proofs.Timeless
import StorageLedger.Proofs.TimelessCall
import StorageLedger.Proofs.HandleKind
import StorageLedger.Proofs.TableInvariant
import StorageLedger.Proofs.RunInvariant
import StorageLedger.Proofs.Query
import StorageLedger.Proofs.WriteHistory
import StorageLedger.Proofs.FaultTranslation
import StorageLedger.Proofs.WorkspaceIsolation
import StorageLedger.Proofs.TransactionBracket
import StorageLedger.Proofs.Markup
import StorageLedger.Proofs.Wording
import StorageLedger.Proofs.CommandEffect
import StorageLedger.Proofs.Wrapping
import StorageLedger.Proofs.StoreReport
import StorageLedger.Proofs.TextReport
import StorageLedger.Proofs.BatchInsertion
import StorageLedger.Proofs.BatchLoop
import StorageLedger.Proofs.BatchOrder
import StorageLedger.Proofs.IndependentWrites
import StorageLedger.Proofs.UsageAccounting
import StorageLedger.Proofs.BlobKey
import StorageLedger.Proofs.Utf8
import StorageLedger.Proofs.DecimalText
import StorageLedger.Proofs.NumeralReading
import StorageLedger.Proofs.SizeValidation
import StorageLedger.Proofs.JsonSpelling
import StorageLedger.Proofs.JsonToken
import StorageLedger.Proofs.JsonReader
import StorageLedger.Proofs.Manifest
import StorageLedger.Proofs.TimestampText
import StorageLedger.Proofs.HexText
import StorageLedger.Proofs.WorkspaceSpelling
import StorageLedger.Proofs.RecordText
import StorageLedger.Proofs.ImportReport
import StorageLedger.Proofs.Prompt
import StorageLedger.Proofs.ResetConfirmation
import StorageLedger.Proofs.IdListing
import StorageLedger.Proofs.UsageOfTotals
import StorageLedger.Proofs.FloatRounding
import StorageLedger.Proofs.SizeDisplay
import StorageLedger.Proofs.QuotedText
import StorageLedger.Proofs.BoundArguments
import StorageLedger.Proofs.EnvLines
import StorageLedger.Proofs.SettingLayers
