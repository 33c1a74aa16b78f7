import ModContracts.Diagnostic

/-!
# Collections of diagnostics

* `Diagnostics` — what a round reported, in order;
* `Diagnostics.sorted` — errors first, then by message; the order of equals is kept;
* `Diagnostics.summary` — the closing line of a run; `Status` — how a run ends.
-/

namespace ModContracts

/-- Diagnostics in the order in which they were reported. -/
abbrev Diagnostics := List Diagnostic

namespace Diagnostics

/-- The diagnostics of one severity. -/
def ofSeverity (ds : Diagnostics) (severity : Severity) : Diagnostics :=
  ds.filter (·.severity = severity)

/-- The errors. -/
def errors (ds : Diagnostics) : Diagnostics := ofSeverity ds .error

/-- The warnings. -/
def warnings (ds : Diagnostics) : Diagnostics := ofSeverity ds .warning

/-- Whether one of them is an error. -/
def hasErrors (ds : Diagnostics) : Bool :=
  ds.any (·.severity = .error)

/-- The order of a sorted collection: by severity, then by message. -/
def precedes (a b : Diagnostic) : Bool :=
  a.severity.rank < b.severity.rank ||
    (a.severity.rank = b.severity.rank && a.message ≤ b.message)

/-- Errors first, and by message within a severity; diagnostics that agree in both keep their
order. -/
def sorted (ds : Diagnostics) : Diagnostics :=
  ds.mergeSort precedes

/-- The number of errors and warnings in words. -/
def summary (ds : Diagnostics) : String :=
  if ds.isEmpty then "No issues found"
  else s!"{(errors ds).length} errors, {(warnings ds).length} warnings"

end Diagnostics

/-- How a run ends. -/
inductive Status where
  | clean
  | failed
  | fault
  deriving DecidableEq, Repr

namespace Status

/-- A run fails if an error was reported, or anything at all when warnings are denied. -/
def ofDiagnostics (ds : Diagnostics) (denyWarnings : Bool) : Status :=
  let bad := if denyWarnings then ! ds.isEmpty else Diagnostics.hasErrors ds
  if bad then .failed else .clean

/-- The exit code of a status. -/
def exitCode : Status → UInt8
  | .clean => 0
  | .failed => 1
  | .fault => 2

end Status

end ModContracts
