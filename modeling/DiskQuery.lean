import DiskQuery.Framework.Report
import DiskQuery.Geometry
import DiskQuery.Main
import DiskQuery.Proofs.Client.Brackets
import DiskQuery.Proofs.Store.Copy
import DiskQuery.Proofs.Store.History
import DiskQuery.Proofs.Text.Utf8
import DiskQuery.Script.Report
import DiskQuery.Proofs.Store.Description
import DiskQuery.Proofs.Store.Restore
import DiskQuery.Proofs.Store.Query
import DiskQuery.Proofs.Script.Ledger
import DiskQuery.Proofs.Script.Ownership
import DiskQuery.Proofs.Worker.Exchange
import DiskQuery.Proofs.Client.Errors
import DiskQuery.Proofs.Client.Promises
import DiskQuery.Proofs.Worker.Query
import DiskQuery.Proofs.Store.Representation
import DiskQuery.Proofs.Client.Alike
import DiskQuery.Proofs.Text.Utf16
import DiskQuery.Proofs.Framework.Shared
import DiskQuery.Proofs.Framework.Agreement
import DiskQuery.Proofs.Framework.Extraction
import DiskQuery.Proofs.Store.RoundTrip
import DiskQuery.Proofs.Store.Mirror
import DiskQuery.Proofs.Script.Sharing
import DiskQuery.Proofs.Store.RawText
import DiskQuery.Proofs.Text.Defect
import DiskQuery.Proofs.Store.Steps
import DiskQuery.Proofs.Store.Failure
import DiskQuery.Proofs.Store.Finality
import DiskQuery.Proofs.Store.Snapshot
import DiskQuery.Proofs.Script.Journal
import DiskQuery.Proofs.Command.Rows
import DiskQuery.Proofs.Store.Sizing
