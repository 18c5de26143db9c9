import HostLookup.DataFile
import HostLookup.Queue.Call
import HostLookup.Resolver
import HostLookup.Stage.Sentinel
import HostLookup.Stage.Shutdown
import HostLookup.Sink.Basic
import HostLookup.Summary

/-!
# Workers

A worker is a thread of one of the two stages. It takes items from the queue of its stage until it
meets a sentinel. A requester opens the data file that an item names, and hands every host name in
it on to the next queue and to its log; a resolver looks the host name up and logs the answer.

What the worker is about to do next is its `Activity`; everything else that it knows is in the tally
of what it has done. The world outside, which opens files, looks names up and tells the time, is an
`Environment`. Its answers may depend on the moment at which it is asked, so it can be as fickle as
one likes.
-/

namespace HostLookup

/-- What workers ask of the world outside, each at a moment. -/
structure Environment where
  /-- Opens a data file. -/
  opening : Nat → String → Opening
  /-- Looks a host name up. -/
  lookup : Nat → String → Lookup
  /-- The time since the worker, or the run, has started. -/
  elapsed : Nat → Elapsed

namespace Environment

/-- A world that gives the same answers at all times, and in which everything takes as long. -/
def steady (opening : String → Opening) (lookup : String → Lookup) (elapsed : Elapsed) :
    Environment where
  opening := fun _ => opening
  lookup := fun _ => lookup
  elapsed := fun _ => elapsed

end Environment

/-- What all workers of a run are told. -/
structure Instructions where
  sentinel : Sentinel
  /-- Logged in the place of an address that was not found. -/
  notResolved : String
  environment : Environment

/-- What a worker has counted. -/
structure Tally where
  serviced : Nat := 0
  produced : Nat := 0
  misses : Nat := 0
  itemErrors : Nat := 0
  deriving DecidableEq, Repr

/-- A data file that is being read. -/
structure Reading where
  file : String
  /-- The number of the line that comes next, counted from 1. -/
  line : Nat := 1
  rest : List LineEvent
  deriving DecidableEq, Repr

/-- How a worker that did not come to its sentinel ends. -/
inductive Ending where
  | failing (failure : Failure)
  | panicking
  deriving DecidableEq, Repr

/-- What a worker is about to do. Where a file is being read meanwhile, the worker comes back to
it. -/
inductive Activity where
  | taking (call : GetCall)
  /-- Has taken its sentinel and is about to say so. -/
  | acknowledging
  | opening (file : String)
  | reading (file : Reading)
  /-- Hands a host name on to the next stage. -/
  | offering (host : String) (call : PutCall) (file : Reading)
  | resolving (host : String)
  | logging (line : String) (file : Option Reading)
  /-- Reports a failure from which it has recovered. -/
  | reporting (failure : Failure) (file : Option Reading)
  /-- Closes the queue that it takes from. -/
  | closingSource (call : CloseCall) (ending : Ending)
  /-- Closes the queue that it hands on to. -/
  | closingTarget (call : CloseCall) (ending : Ending)
  /-- About to write its summary line. -/
  | announcing (exit : Except Failure Unit)
  | ended (report : WorkerReport)
  | panicked
  deriving Repr

/-- A thread of a stage. -/
structure Worker where
  name : String
  stage : Stage
  /-- The log that the worker writes to. -/
  output : Sink
  tally : Tally := {}
  activity : Activity := .taking .entering
  deriving Repr

/-- What a worker shares with other threads. -/
structure Desk where
  /-- The queue that the worker takes from. -/
  source : Queue
  /-- The queue that the worker hands on to, if there is a next stage. -/
  target : Option Queue
  shutdown : Shutdown
  sinks : Sinks

namespace Worker

/-- The name of a thread that was given none. -/
def unnamed : String := "worker"

/-- A worker that writes to the log of its stage and has not done anything yet. -/
def start (stage : Stage) (name : String) : Worker :=
  { name := name, stage := stage, output := stage.logSink }

/-- The name of the `i`-th worker of a stage. -/
def nameOf (stage : String) (i : Nat) : String :=
  stage ++ "-" ++ toString i

/-- The line that a worker writes when it ends. -/
def announcement (w : Worker) (elapsed : Elapsed) : String :=
  "thread " ++ w.name ++
    (match w.stage with
      | .requester => " serviced " ++ toString w.tally.serviced ++ " files in "
      | .resolver => " resolved " ++ toString w.tally.serviced ++ " hosts in ") ++
    Decimal.twoPlaces elapsed.toFloat ++ " seconds"

/-- The report that a worker hands in. -/
def report (w : Worker) (elapsed : Elapsed) (exit : Except Failure Unit) : WorkerReport where
  worker := w.name
  stage := w.stage
  serviced := w.tally.serviced
  produced := w.tally.produced
  misses := w.tally.misses
  itemErrors := w.tally.itemErrors
  elapsed := elapsed
  exit := exit

end Worker

end HostLookup
