import ModContracts.Main
import ModContracts.Files.Tree
import ModContracts.Proofs.Results
import ModContracts.Proofs.Program.Naming
import ModContracts.Proofs.Program.Growth
import ModContracts.Proofs.Snapshot.Preorder
import ModContracts.Proofs.Snapshot.Values
import ModContracts.Proofs.Snapshot.Nodes
import ModContracts.Proofs.Snapshot.Types
import ModContracts.Proofs.Snapshot.Acceptable
import ModContracts.Proofs.Snapshot.Contents
import ModContracts.Proofs.Snapshot.Faithful
import ModContracts.Proofs.Program.WellFormed
import ModContracts.Proofs.Snapshot.Consistent
import ModContracts.Proofs.Program.Built
import ModContracts.Proofs.Program.Enclosure
import ModContracts.Proofs.Program.Carriers
import ModContracts.Proofs.Program.Representation
import ModContracts.Proofs.Program.Kinds
import ModContracts.Proofs.Program.Subtyping
import ModContracts.Proofs.Program.Order
import ModContracts.Proofs.Program.Assignability
import ModContracts.Proofs.Program.Lasting
import ModContracts.Proofs.Alike
import ModContracts.Proofs.Program.Matched
import ModContracts.Proofs.Program.Renamed
import ModContracts.Proofs.Snapshot.Built
import ModContracts.Proofs.Snapshot.Closed
import ModContracts.Proofs.Snapshot.TypeTable
import ModContracts.Proofs.Snapshot.Aligned
import ModContracts.Proofs.Snapshot.Renamed
import ModContracts.Proofs.Snapshot.Rename
import ModContracts.Proofs.Snapshot.Moved
import ModContracts.Proofs.Snapshot.Rearranged
import ModContracts.Proofs.Round.Pairs
import ModContracts.Proofs.Check
import ModContracts.Proofs.Diagnostic
import ModContracts.Proofs.Requirement
import ModContracts.Proofs.Contract
import ModContracts.Proofs.Facts
import ModContracts.Proofs.Contract.Judged
import ModContracts.Proofs.Contract.Met
import ModContracts.Proofs.Contract.Constructors
import ModContracts.Proofs.Contract.Proxies
import ModContracts.Proofs.Round.Faults
import ModContracts.Proofs.Contract.Appends
import ModContracts.Proofs.Contract.Matched
import ModContracts.Proofs.Contract.Renamed
import ModContracts.Proofs.Round.Steps
import ModContracts.Proofs.Round.Rows
import ModContracts.Proofs.Round.Matched
import ModContracts.Proofs.Round.Renamed
import ModContracts.Proofs.Round.Reordered
import ModContracts.Proofs.Round.Renaming
import ModContracts.Proofs.Round.Rearranged
import ModContracts.Proofs.Round.Attaching
import ModContracts.Proofs.Round.Listed
import ModContracts.Proofs.Round.Pinned
import ModContracts.Proofs.Json.Grammar
import ModContracts.Proofs.Json.Strings
import ModContracts.Proofs.Json.Numerals
import ModContracts.Proofs.Json.Scanned
import ModContracts.Proofs.Json.Records
import ModContracts.Proofs.Snapshot.Written
import ModContracts.Proofs.Snapshot.ReadBack
import ModContracts.Proofs.Text.Bytes
import ModContracts.Proofs.Diagnostic.Sorted
import ModContracts.Proofs.Contract.Codes
import ModContracts.Proofs.Round.Counts
import ModContracts.Proofs.Snapshot.References
import ModContracts.Proofs.Contract.Classes
import ModContracts.Proofs.Snapshot.Located
import ModContracts.Proofs.Snapshot.Literals
import ModContracts.Proofs.Framework.Apart
import ModContracts.Proofs.Report.Guarded
