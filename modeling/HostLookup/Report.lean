import HostLookup.Console
import HostLookup.Summary

/-!
# The report at the end of a run

The summary of a run for people, as rows of numbers, or for programs, as a structured document.
Quiet suppresses the first but not the second.
-/

namespace HostLookup

/-- The form of the report. -/
inductive ReportFormat where
  | text
  | json
  deriving DecidableEq, Repr

namespace ReportFormat

/-- The form that a word stands for. -/
def ofName? (name : String) : Option ReportFormat :=
  if name = "text" then some .text
  else if name = "json" then some .json
  else none

end ReportFormat

namespace RunSummary

/-- The row about one worker. -/
def workerRow (console : Console) (report : WorkerReport) : String :=
  console.detail report.worker
    (toString report.serviced ++ " serviced in " ++ Decimal.twoPlaces report.elapsed.toFloat ++ "s")

/-- The last row: how it went altogether. -/
def verdict (console : Console) (summary : RunSummary) : String :=
  if 0 < summary.itemErrors then
    console.warning (toString summary.itemErrors ++ " item error(s) reported on stderr")
  else console.success ("finished in " ++ Decimal.twoPlaces summary.elapsed.toFloat ++ "s")

/-- The report for people. -/
def rows (console : Console) (summary : RunSummary) : String :=
  console.header "Run summary" ++
    console.count "data files serviced" summary.filesServiced ++
    console.count "data files skipped" summary.filesSkipped ++
    console.count "host names resolved" summary.hostsResolved ++
    console.count "host names unresolved" summary.hostsNotResolved ++
    console.count "item errors" summary.itemErrors ++
    String.join (summary.workers.map (workerRow console)) ++
    verdict console summary

/-- The report in the form that was asked for. -/
def reportIn (summary : RunSummary) (format : ReportFormat) (console : Console) : String :=
  match format with
  | .text => summary.rows console
  | .json => summary.toDocument.indented ++ "\n"

end RunSummary

end HostLookup
