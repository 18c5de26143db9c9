import HostLookup.Progress
import HostLookup.Sink.Basic

/-!
# Threads that share the sinks

Every sink has a lock. A thread that uses a sink holds its lock from the first chunk to the last,
or to the chunk that failed, or to the point where the thread panics; in each case the lock is free
afterwards. Releasing the sinks is a sequence of steps as well: the sinks are marked, and then each
of them is taken away under its lock and flushed without it. Other threads may move between any two
of these steps.
-/

namespace HostLookup

/-- How a use of a sink ends if none of its chunks fails. -/
inductive UseEnding where
  | returns
  /-- The user comes to an error of its own. -/
  | fails (failure : IoFailure)
  | panics
  deriving DecidableEq, Repr

/-- A use of one sink under its lock. -/
structure SinkUse where
  sink : Sink
  chunks : List Bytes
  ending : UseEnding := .returns
  deriving DecidableEq, Repr

namespace SinkUse

/-- Writing a line is a use. -/
def line (sink : Sink) (text : String) : SinkUse :=
  { sink := sink, chunks := Sinks.lineChunks text }

end SinkUse

/-- What the user of a sink is told. -/
inductive UseOutcome where
  | returned (result : Except SinkError Unit)
  | panicked
  deriving DecidableEq, Repr

/-- Where a use of a sink, or the release of all of them, stands. -/
inductive SinkCall where
  /-- About to take the lock. -/
  | entering (use : SinkUse)
  /-- Holds the lock; these chunks are left. -/
  | writing (use : SinkUse)
  /-- About to mark the sinks. -/
  | marking
  /-- About to take the first of these sinks away. -/
  | releasing (sinks : List Sink) (result : Except SinkError Unit)
  /-- Has taken this sink away and is about to flush it. -/
  | flushing (sink : Sink) (later : List Sink) (result : Except SinkError Unit)
  deriving Repr

namespace SinkCall

/-- The sink whose lock the caller holds. -/
def holds : SinkCall → Option Sink
  | .writing use => some use.sink
  | _ => none

/-- The sink whose lock the next step has to take. -/
def needs : SinkCall → Option Sink
  | .entering use => some use.sink
  | .releasing (sink :: _) _ => some sink
  | _ => none

/-- The next step of a call, if the lock that it needs is free. -/
def step (sinks : Sinks) : SinkCall → Progress SinkCall UseOutcome × Sinks
  | .entering use =>
    -- the lock is taken first, so the sink cannot go away during the use
    if (sinks.get use.sink).released then
      (.returns (.returned (.error (.destroyed use.sink))), sinks)
    else (.goesOn (.writing use), sinks)
  | .writing { sink := sink, chunks := chunk :: chunks, ending := ending } =>
    match sinks.actOn sink (Device.write · chunk) with
    | (.ok (), sinks) =>
      (.goesOn (.writing { sink := sink, chunks := chunks, ending := ending }), sinks)
    -- the chunks behind a refused one are not tried
    | (.error failure, sinks) =>
      (.returns (.returned (.error (.write sink failure))), sinks)
  -- whatever the ending, the lock is free afterwards
  | .writing { sink := sink, chunks := [], ending := ending } =>
    match ending with
    | .returns => (.returns (.returned (.ok ())), sinks)
    | .fails failure => (.returns (.returned (.error (.write sink failure))), sinks)
    | .panics => (.returns .panicked, sinks)
  | .marking =>
    match sinks.claimRelease with
    | (.error error, sinks) => (.returns (.returned (.error error)), sinks)
    | (.ok (), sinks) => (.goesOn (.releasing Sink.all (.ok ())), sinks)
  -- taken away under its lock, and flushed in the next step without it
  | .releasing (sink :: later) result =>
    (.goesOn (.flushing sink later result), sinks.release sink)
  | .releasing [] result => (.returns (.returned result), sinks)
  | .flushing sink later result =>
    match sinks.flush sink with
    | (flushed, sinks) => (.goesOn (.releasing later (Sinks.firstError result flushed)), sinks)

end SinkCall

/-- What a thread can be asked to do with the sinks. -/
inductive SinkTask where
  | uses (use : SinkUse)
  | destroys
  deriving DecidableEq, Repr

/-- The call that carries out a task. -/
def SinkTask.call : SinkTask → SinkCall
  | .uses use => .entering use
  | .destroys => .marking

/-- A thread that makes calls one after the other. -/
structure SinkUser where
  /-- The call that is going on, if any. -/
  call : Option SinkCall
  /-- The calls to come. -/
  later : List SinkCall
  /-- The outcomes of the calls that have returned, newest first. -/
  outcomes : List UseOutcome := []
  deriving Repr

namespace SinkUser

/-- A thread that is about to make these calls. -/
def ofCalls : List SinkCall → SinkUser
  | [] => { call := none, later := [] }
  | call :: later => { call := some call, later := later }

/-- The sink whose lock the thread holds. -/
def holds (user : SinkUser) : Option Sink :=
  user.call.bind SinkCall.holds

/-- The thread after a step of its call. A thread survives a panic inside a use. -/
def progress (user : SinkUser) : Progress SinkCall UseOutcome → SinkUser
  | .goesOn call => { user with call := some call }
  | .returns outcome =>
    { call := user.later.head?
      later := user.later.tail
      outcomes := outcome :: user.outcomes }

end SinkUser

/-- The sinks and the threads that share them. -/
structure Session where
  sinks : Sinks
  users : List SinkUser

namespace Session

/-- Sinks on the given devices, and one thread for each list of tasks. -/
def ofTasks (device : Sink → Device) (tasks : List (List SinkTask)) : Session where
  sinks := .ofDevices device
  users := tasks.map fun tasks => .ofCalls (tasks.map SinkTask.call)

/-- Is the lock of a sink held by a thread other than the `i`-th? -/
def isHeld (session : Session) (i : Nat) (sink : Sink) : Bool :=
  session.users.zipIdx.any fun (user, j) => j ≠ i && user.holds = some sink

/-- One step of the `i`-th thread, unless it has to wait for a lock or has made all its calls. -/
def step (i : Nat) (session : Session) : Option Session :=
  match session.users[i]? with
  | some user =>
    match user.call with
    | some call =>
      if call.needs.any (session.isHeld i) then none
      else
        match call.step session.sinks with
        | (progress, sinks) =>
          some { sinks := sinks, users := session.users.set i (user.progress progress) }
    | none => none
  | none => none

end Session

namespace Sinks

/-- The steps that suffice for one use. -/
def stepsFor (use : SinkUse) : Nat :=
  use.chunks.length + 2

/-- Uses a sink while no other thread moves. -/
def perform (sinks : Sinks) (use : SinkUse) : Option (UseOutcome × Sinks) :=
  Progress.alone (fun call sinks => some (SinkCall.step sinks call)) (stepsFor use) (.entering use)
    sinks

end Sinks

end HostLookup
