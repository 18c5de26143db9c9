import HostLookup.Queue.Call
import HostLookup.Stage.Sentinel
import HostLookup.Stage.Shutdown

/-!
# Draining a stage, step by step

A drain claims the stage and then puts one sentinel after the other into the stage's queue, counting
each as soon as it is in. It gives the stage up between these steps, so workers may already take
sentinels and stop while later ones are still to be put, and a rival may find the stage claimed.

A stage that follows another one is drained only if the other has stopped. The two looks at the
other stage, one to decide and one to word the refusal, are steps of their own.
-/

namespace HostLookup

/-- Where a drain stands. -/
inductive DrainCall where
  /-- About to look whether the stage before has stopped. -/
  | checking
  /-- Found that it has not; about to say in what state it is. -/
  | refusing
  /-- About to claim the stage. -/
  | claiming
  /-- Putting a sentinel, with so many to follow. -/
  | putting (later : Nat) (call : PutCall)
  /-- The sentinel is in and about to be counted. -/
  | counting (later : Nat)
  deriving DecidableEq, Repr

namespace DrainCall

/-- Goes on to put the sentinels that are left. -/
def proceed (sentinel : Sentinel) : Nat → Progress DrainCall (Except Failure Unit)
  | 0 => .returns (.ok ())
  | later + 1 => .goesOn (.putting later (.entering sentinel.text))

/-- The next step of a drain of `stage` through `queue`, where `before` is the stage ahead of it. -/
def step (sentinel : Sentinel) (before stage : Shutdown) (queue : Queue) :
    DrainCall → Option (Progress DrainCall (Except Failure Unit) × Shutdown × Queue)
  | .checking =>
    some (.goesOn (if before.state = .stopped then .claiming else .refusing), stage, queue)
  -- the stage ahead may have stopped since the look, and then the refusal says so
  | .refusing => some (.returns (.error (stage.notYet before)), stage, queue)
  | .claiming =>
    match stage.claim with
    | .error failure => some (.returns (.error failure), stage, queue)
    -- nobody can change the number of workers of a claimed stage
    | .ok claimed => some (proceed sentinel claimed.workers, claimed, queue)
  | .putting later call =>
    match call.step queue with
    | none => none
    | some (.goesOn call, queue) => some (.goesOn (.putting later call), stage, queue)
    | some (.returns (.ok ()), queue) => some (.goesOn (.counting later), stage, queue)
    -- the sentinels that are left are not put
    | some (.returns (.error error), queue) => some (.returns (.error (.queue error)), stage, queue)
  | .counting later => some (proceed sentinel later, stage.countSentinel, queue)

/-- The steps that suffice for a drain of so many workers. -/
def stepsFor (workers : Nat) : Nat :=
  4 * workers + 3

end DrainCall

namespace Shutdown

/-- Runs a drain by itself; `none` if it has to wait for a free slot. -/
def runDrain (sentinel : Sentinel) (before : Shutdown) (call : DrainCall) (stage : Shutdown)
    (queue : Queue) : Option (Except Failure Unit × Shutdown × Queue) :=
  Progress.alone (fun call (state : Shutdown × Queue) => call.step sentinel before state.1 state.2)
    (DrainCall.stepsFor stage.workers) call (stage, queue)

/-- Drains a stage. -/
def drain? (stage : Shutdown) (queue : Queue) (sentinel : Sentinel) :
    Option (Except Failure Unit × Shutdown × Queue) :=
  runDrain sentinel stage .claiming stage queue

/-- Drains a stage that follows another one. -/
def drainAfter? (stage before : Shutdown) (queue : Queue) (sentinel : Sentinel) :
    Option (Except Failure Unit × Shutdown × Queue) :=
  runDrain sentinel before .checking stage queue

/-- Takes `count` items while a drain goes on in another thread, and lets the drain move whenever it
can; `none` if one of the two would wait for ever. The results of the takes are in `taken`, last
first. -/
def takeDuring? (sentinel : Sentinel) (drain : Progress DrainCall (Except Failure Unit))
    (stage : Shutdown) (queue : Queue) (taken : List (Except QueueError String)) :
    Nat → Option (Except Failure Unit × List (Except QueueError String) × Shutdown × Queue)
  | 0 =>
    match advance drain with
    | (.returns result, stage, queue) => some (result, taken.reverse, stage, queue)
    | (.goesOn _, _) => none
  | count + 1 =>
    match advance drain with
    | (drain, stage, queue) =>
      match queue.get? with
      | none => none
      | some (result, queue) => takeDuring? sentinel drain stage queue (result :: taken) count
where
  /-- The drain moves on as far as it can. -/
  advance (drain : Progress DrainCall (Except Failure Unit)) :
      Progress DrainCall (Except Failure Unit) × Shutdown × Queue :=
    Progress.advance
      (fun call (state : Shutdown × Queue) => call.step sentinel state.1 state.1 state.2)
      (DrainCall.stepsFor stage.workers) drain (stage, queue)

/-- Drains a stage while another thread takes `count` items. -/
def drainTaking? (stage : Shutdown) (queue : Queue) (sentinel : Sentinel) (count : Nat) :
    Option (Except Failure Unit × List (Except QueueError String) × Shutdown × Queue) :=
  takeDuring? sentinel (.goesOn .claiming) stage queue [] count

end Shutdown

end HostLookup
