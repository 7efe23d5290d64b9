import ScanAudit.Main
import ScanAudit.Note
import ScanAudit.Proofs.Nesting
import ScanAudit.Proofs.RegionBalance
import ScanAudit.Proofs.BranchSymmetry
import ScanAudit.Proofs.Duplicates
import ScanAudit.Proofs.Execution
import ScanAudit.Proofs.CleanTraversal
import ScanAudit.Proofs.Reading
import ScanAudit.Proofs.RecorderRun
import ScanAudit.Proofs.Leaves
import ScanAudit.Proofs.Indentation
import ScanAudit.Proofs.Truncation
import ScanAudit.Text.Delimited
import ScanAudit.Proofs.Listing
import ScanAudit.Proofs.PrintedLine
import ScanAudit.Proofs.PrintedPass
import ScanAudit.Json.Reader
import ScanAudit.Proofs.JsonReading
import ScanAudit.Proofs.Export
import ScanAudit.Proofs.Identifiers
import ScanAudit.Proofs.RecordedLog
import ScanAudit.Proofs.LimitedPrinting
import ScanAudit.Proofs.Messages
import ScanAudit.Proofs.Reports
import ScanAudit.Proofs.LevelBlocks
import ScanAudit.Proofs.WrongRegion
import ScanAudit.Proofs.OddEvent
import ScanAudit.Proofs.OppositeDirection
import ScanAudit.Proofs.Continuation
import ScanAudit.Proofs.BranchOrder
import ScanAudit.Proofs.Depth
import ScanAudit.Proofs.FailedLines
import ScanAudit.Proofs.Retelling
import ScanAudit.Proofs.SessionNotes
import ScanAudit.Proofs.MalformedIds
import ScanAudit.Proofs.LimitedWriting
import ScanAudit.Proofs.RecordOrder
