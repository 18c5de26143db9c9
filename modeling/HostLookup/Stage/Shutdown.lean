import HostLookup.Failure.Basic
import HostLookup.Text.Record

/-!
# How a stage comes to its end

A stage runs until it is drained, which happens once: it is then given one sentinel for each of its
workers. It has stopped when every worker has taken a sentinel, or when the run says so after it
has seen all workers end. The state only moves forward.
-/

namespace HostLookup

/-- The two stages of a run. -/
inductive Stage where
  /-- Reads data files and hands on the host names in them. -/
  | requester
  /-- Looks host names up. -/
  | resolver
  deriving DecidableEq, Repr

namespace Stage

def name : Stage → String
  | .requester => "requester"
  | .resolver => "resolver"

/-- The log that the workers of a stage write to. -/
def logSink : Stage → Sink
  | .requester => .requesterLog
  | .resolver => .resolverLog

end Stage

/-- How far a stage has come. -/
inductive StageState where
  | running
  | draining
  | stopped
  deriving DecidableEq, Repr

namespace StageState

def name : StageState → String
  | .running => "Running"
  | .draining => "Draining"
  | .stopped => "Stopped"

/-- The place of a state in the order in which a stage goes through them. -/
def rank : StageState → Nat
  | .running => 0
  | .draining => 1
  | .stopped => 2

end StageState

/-- The end of one stage, as it is shared between its workers and the driver of the run. -/
structure Shutdown where
  name : String
  /-- The workers that have to be stopped. -/
  workers : Nat
  state : StageState := .running
  sentinelsSent : Nat := 0
  workersStopped : Nat := 0
  deriving DecidableEq, Repr

namespace Shutdown

/-- A running stage. -/
def start (name : String) (workers : Nat) : Shutdown :=
  { name := name, workers := workers }

/-- Gives up the workers that could not be started. Only a running stage can shrink, and none can
grow. -/
def retain (s : Shutdown) (started : Nat) : Except Failure Shutdown :=
  if s.state ≠ .running ∨ s.workers < started then
    .error (.resource (s.name ++ " stage cannot shrink from " ++ toString s.workers ++ " to " ++
      toString started ++ " workers while " ++ s.state.name))
  else .ok { s with workers := started }

/-- Claims a running stage for draining. A stage without workers has stopped at once. -/
def claim (s : Shutdown) : Except Failure Shutdown :=
  if s.state ≠ .running then
    .error (.resource (s.name ++ " stage already " ++ s.state.name ++
      "; refusing to enqueue more sentinels"))
  else .ok { s with state := if s.workers = 0 then .stopped else .draining }

/-- Counts a sentinel that is in the queue. -/
def countSentinel (s : Shutdown) : Shutdown :=
  { s with sentinelsSent := s.sentinelsSent + 1 }

/-- A worker has taken its sentinel; the last one stops the stage. -/
def workerStopped (s : Shutdown) : Shutdown :=
  { s with
    workersStopped := s.workersStopped + 1
    state := if s.workers ≤ s.workersStopped + 1 then .stopped else s.state }

/-- All workers are known to have ended, in whatever way. -/
def finish (s : Shutdown) : Shutdown :=
  { s with state := .stopped }

/-- The refusal to drain a stage while the one before it is in the given state. -/
def notYet (s before : Shutdown) : Failure :=
  .resource (s.name ++ " stage cannot drain while " ++ before.name ++ " stage is " ++
    before.state.name)

/-- The end of the stage as a record. -/
def record (s : Shutdown) : Text.Record where
  kind := "StageShutdown"
  fields := [
    ("name", Text.quoted s.name),
    ("workers", toString s.workers),
    ("state", s.state.name),
    ("sentinels_sent", toString s.sentinelsSent),
    ("workers_stopped", toString s.workersStopped)]

/-- A claimed stage was running and is so no more. -/
theorem state_of_claim {s claimed : Shutdown} (h : s.claim = .ok claimed) :
    s.state = .running ∧ claimed.state ≠ .running := by
  unfold claim at h
  split at h
  · contradiction
  · rename_i running
    cases h
    refine ⟨by simpa using running, ?_⟩
    by_cases none : s.workers = 0 <;> simp [none]

/-- Stopping a worker never takes a stage back. -/
theorem rank_le_workerStopped (s : Shutdown) : s.state.rank ≤ s.workerStopped.state.rank := by
  unfold workerStopped
  cases s.state <;> simp only <;> split <;> decide

end Shutdown

end HostLookup
