import HostLookup.Stage.Shutdown
import HostLookup.Text.Document

/-!
# The account of a run

Every worker counts for itself and hands in a report when it ends. The summary of a run adds the
reports up as they come in: what requesters serviced are files and what they produced are host names
for the resolvers; what resolvers serviced are host names, with an address or without one.
-/

namespace HostLookup

/-- A span of time. -/
structure Elapsed where
  nanoseconds : Nat := 0
  deriving DecidableEq, Repr

namespace Elapsed

/-- The nanoseconds of a second. -/
def perSecond : Nat := 1000000000

/-- A span of so many seconds and so many nanoseconds, which may be a second or more. -/
def ofParts (seconds nanoseconds : Nat) : Elapsed :=
  { nanoseconds := seconds * perSecond + nanoseconds }

/-- The whole seconds. -/
def seconds (elapsed : Elapsed) : Nat :=
  elapsed.nanoseconds / perSecond

/-- The nanoseconds behind the whole seconds. -/
def fraction (elapsed : Elapsed) : Nat :=
  elapsed.nanoseconds % perSecond

/-- A span of time in seconds. The whole seconds and the rest are rounded apart. -/
def toFloat (elapsed : Elapsed) : Float :=
  Float.ofNat elapsed.seconds + Float.ofNat elapsed.fraction / 1e9

/-- Nanoseconds that fill a second are carried into the seconds. -/
theorem seconds_ofParts (seconds nanoseconds : Nat) :
    (ofParts seconds nanoseconds).seconds = seconds + nanoseconds / perSecond := by
  simp only [ofParts, Elapsed.seconds, perSecond]
  omega

/-- Less than a second is left behind the whole seconds. -/
theorem fraction_lt (elapsed : Elapsed) : elapsed.fraction < perSecond :=
  Nat.mod_lt _ (by decide)

end Elapsed

/-- What a worker hands in when it ends. -/
structure WorkerReport where
  worker : String
  stage : Stage
  /-- The items that the worker has taken, without the sentinel. -/
  serviced : Nat
  /-- The items that the worker has put into the next queue. -/
  produced : Nat
  /-- The items for which no address was found. -/
  misses : Nat
  /-- The failures that the worker has recovered from. -/
  itemErrors : Nat
  elapsed : Elapsed
  /-- Why the worker ended before its sentinel, if it did. -/
  exit : Except Failure Unit
  deriving Repr

/-- The account of a run. -/
structure RunSummary where
  filesEnqueued : Nat := 0
  filesSkipped : Nat := 0
  filesServiced : Nat := 0
  hostsEnqueued : Nat := 0
  hostsResolved : Nat := 0
  hostsNotResolved : Nat := 0
  itemErrors : Nat := 0
  elapsed : Elapsed := {}
  /-- The reports of the workers, in the order in which they were handed in. -/
  workers : List WorkerReport := []
  deriving Repr

namespace WorkerReport

/-- The failure that ended the worker. -/
def failure? (report : WorkerReport) : Option Failure :=
  match report.exit with
  | .ok () => none
  | .error failure => some failure

/-- A report as a document. -/
def toDocument (report : WorkerReport) : Document :=
  .object
    ([("worker", .text report.worker),
      ("stage", .text report.stage.name),
      ("serviced", .natural report.serviced),
      ("produced", .natural report.produced),
      ("misses", .natural report.misses),
      ("item_errors", .natural report.itemErrors),
      ("elapsed_secs", .decimal report.elapsed.toFloat)] ++
      report.failure?.toList.map fun failure => ("error", .text failure.message))

end WorkerReport

namespace RunSummary

/-- Adds a report. -/
def record (summary : RunSummary) (report : WorkerReport) : RunSummary :=
  let summary :=
    match report.stage with
    | .requester =>
      { summary with
        filesServiced := summary.filesServiced + report.serviced
        hostsEnqueued := summary.hostsEnqueued + report.produced }
    | .resolver =>
      { summary with
        hostsResolved := summary.hostsResolved + (report.serviced - report.misses)
        hostsNotResolved := summary.hostsNotResolved + report.misses }
  { summary with
    itemErrors := summary.itemErrors + report.itemErrors
    workers := summary.workers ++ [report] }

/-- The number of workers of a stage that have reported. -/
def workerCount (summary : RunSummary) (stage : Stage) : Nat :=
  summary.workers.countP fun report => report.stage = stage

/-- The account as a document. -/
def toDocument (summary : RunSummary) : Document :=
  .object
    [("files_enqueued", .natural summary.filesEnqueued),
      ("files_skipped", .natural summary.filesSkipped),
      ("files_serviced", .natural summary.filesServiced),
      ("hosts_enqueued", .natural summary.hostsEnqueued),
      ("hosts_resolved", .natural summary.hostsResolved),
      ("hosts_not_resolved", .natural summary.hostsNotResolved),
      ("item_errors", .natural summary.itemErrors),
      ("elapsed_secs", .decimal summary.elapsed.toFloat),
      ("workers", .list (summary.workers.map WorkerReport.toDocument))]

@[simp] theorem workers_record (summary : RunSummary) (report : WorkerReport) :
    (summary.record report).workers = summary.workers ++ [report] := by
  cases h : report.stage <;> simp [record, h]

end RunSummary

end HostLookup
