import HostLookup.Queue.Crowd
import HostLookup.Stage.Drain

/-!
# Threads around stages and queues

Any thread may shrink a stage, drain it into any queue, say that a worker of it has stopped, or
finish it, while others use the queues in every way there is. A drain is the only call that goes on
for more than one step of its stage; it holds neither the stage nor the queue between its steps.

A worker says that it has stopped only after its stage has been claimed.
-/

namespace HostLookup

/-- What a drain is to do. -/
structure DrainOrder where
  sentinel : Sentinel
  /-- The place of the stage that is drained. -/
  stage : Nat
  /-- The place of the stage that has to have stopped, if there is one. -/
  before : Option Nat
  /-- The place of the queue that the sentinels are put into. -/
  queue : Nat
  deriving DecidableEq, Repr

namespace DrainOrder

/-- Where a drain begins. -/
def start (order : DrainOrder) : DrainCall :=
  match order.before with
  | some _ => .checking
  | none => .claiming

end DrainOrder

/-- Any call of a stage or of a queue. -/
inductive StageCall where
  | retain (stage started : Nat)
  | drain (order : DrainOrder) (call : DrainCall)
  | workerStopped (stage : Nat)
  | finish (stage : Nat)
  | onQueue (queue : Nat) (call : Call)
  deriving DecidableEq, Repr

/-- What a call of a stage or of a queue returns. -/
inductive StageAnswer where
  | retain (result : Except Failure Unit)
  | drain (result : Except Failure Unit)
  | workerStopped (state : StageState)
  | finish
  | onQueue (answer : Answer)
  deriving DecidableEq

/-- The next step of a call, if it can move. -/
def StageCall.step (stages : List Shutdown) (queues : List Queue) :
    StageCall → Option (Progress StageCall StageAnswer × List Shutdown × List Queue)
  | .retain stage started => do
    let s ← stages[stage]?
    match s.retain started with
    | .error failure => some (.returns (.retain (.error failure)), stages, queues)
    | .ok s => some (.returns (.retain (.ok ())), stages.set stage s, queues)
  | .drain order call => do
    let s ← stages[order.stage]?
    let q ← queues[order.queue]?
    let before ← order.before.elim (some s) (stages[·]?)
    let (progress, s, q) ← call.step order.sentinel before s q
    some (progress.map (.drain order) .drain, stages.set order.stage s, queues.set order.queue q)
  | .workerStopped stage => do
    let s ← stages[stage]?
    if s.state = .running then none
    else
      some (.returns (.workerStopped s.workerStopped.state), stages.set stage s.workerStopped,
        queues)
  | .finish stage => do
    let s ← stages[stage]?
    some (.returns .finish, stages.set stage s.finish, queues)
  | .onQueue queue call => do
    let q ← queues[queue]?
    let (progress, q) ← call.step q
    some (progress.map (.onQueue queue) .onQueue, stages, queues.set queue q)

/-- Stages and queues, and everyone who calls them. -/
structure StageCrowd where
  stages : List Shutdown
  queues : List Queue
  callers : List (Progress StageCall StageAnswer) := []

namespace StageCrowd

/-- Running stages with these names and workers, and queues in any state. -/
def ofStages (stages : List (String × Nat)) (queues : List Queue) : StageCrowd where
  stages := stages.map fun stage => Shutdown.start stage.1 stage.2
  queues := queues

/-- Another thread starts a call. -/
def join (crowd : StageCrowd) (call : StageCall) : StageCrowd :=
  { crowd with callers := crowd.callers ++ [.goesOn call] }

/-- One step of the `i`-th caller. -/
def step (crowd : StageCrowd) (i : Nat) : Option StageCrowd :=
  match crowd.callers[i]? with
  | some (.goesOn call) =>
    match call.step crowd.stages crowd.queues with
    | none => none
    | some (progress, stages, queues) =>
      some { stages := stages, queues := queues, callers := crowd.callers.set i progress }
  | _ => none

end StageCrowd

end HostLookup
