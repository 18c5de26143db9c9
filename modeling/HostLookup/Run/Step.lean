import HostLookup.Run.Basic
import HostLookup.Schedule

/-!
# How a run goes on, step by step

`Run.step` is one step of one of the threads. It is missing (`none`) while the thread waits: a `put`
at a full queue, a `get` at an empty one, and the driver for a worker that has not ended. Which
thread moves next is left open; `Run.execute` lets them take turns.
-/

namespace HostLookup.Run

/-! ## Workers -/

/-- What a worker of a stage shares with others. Requesters hand on to the second queue if there is
a resolver; resolvers hand on to nobody. -/
def desk (run : Run) : Stage → Desk
  | .requester =>
    { source := run.files
      target := if run.resolvers.isEmpty then none else some run.hosts
      shutdown := run.requesterStage
      sinks := run.sinks }
  | .resolver =>
    { source := run.hosts
      target := none
      shutdown := run.resolverStage
      sinks := run.sinks }

/-- The run after a worker of a stage has changed what is on its desk. -/
def ofDesk (run : Run) (stage : Stage) (desk : Desk) : Run :=
  match stage with
  | .requester =>
    { run with
      files := desk.source
      hosts := desk.target.getD run.hosts
      requesterStage := desk.shutdown
      sinks := desk.sinks }
  | .resolver =>
    { run with
      hosts := desk.source
      resolverStage := desk.shutdown
      sinks := desk.sinks }

/-- A step of the `i`-th worker of a stage. -/
def stepWorker (told : Instructions) (stage : Stage) (i : Nat) (run : Run) : Option Run :=
  match (run.workers stage)[i]? with
  | none => none
  | some worker =>
    (worker.step told run.moment (run.desk stage)).map fun (worker, desk) =>
      (run.ofDesk stage desk).setWorkers stage ((run.workers stage).set i worker)

/-! ## The driver -/

/-- The driver is about to do something else. -/
def turnTo (run : Run) (activity : DriverActivity) : Run :=
  { run with driver := { run.driver with activity := activity } }

/-- The account of the driver is brought up to date. -/
def update (run : Run) (change : Account → Account) : Run :=
  { run with driver := { run.driver with account := change run.driver.account } }

/-- The report of a name that fits no slot. -/
def rejection (failure : Failure) : String :=
  "Invalid file: " ++ failure.message

/-- Goes on after the queue has answered to the name of a data file. A name that does not fit is
reported; if the queue is closed the feeding is over. -/
def fed (run : Run) (file : String) (later : List String) : Except QueueError Unit → Run
  | .ok () => (run.update Account.countEnqueued).turnTo (feed later)
  | .error (.itemTooLarge length max) =>
    run.turnTo (.rejecting (.item file (QueueError.itemTooLarge length max).message) later)
  | .error error =>
    -- nobody takes from a closed queue any more, so the rest of the names is given up
    (run.update fun account => account.note Failure.queue (.error error)).turnTo (feed [])

/-- Goes on after a name was reported. If the report cannot be written the feeding is over. -/
def rejected (run : Run) (later : List String) : Except SinkError Unit → Run
  | .ok () => (run.update Account.countRejected).turnTo (feed later)
  | .error error =>
    (run.update fun account => account.note Failure.sink (.error error)).turnTo (feed [])

/-- What follows the end of a stage. -/
def afterStage : Stage → DriverActivity
  | .requester => .draining .resolver .checking
  | .resolver => .clearing .requester (.closing .marking)

/-- The answer of the run: the failure that was kept, or else one from destroying the queues, or
else the summary. -/
def conclusion (driver : Driver) (elapsed : Elapsed) : Except Failure RunSummary :=
  match driver.account.kept with
  | some failure => .error failure
  | none =>
    match driver.teardown with
    | .error error => .error (.queue error)
    | .ok () => .ok { driver.account.summary with elapsed := elapsed }

/-- The first failure to destroy a queue is kept. -/
def cleared (run : Run) (result : Except QueueError Unit) : Run :=
  let teardown :=
    match run.driver.teardown with
    | .ok () => result
    | .error error => .error error
  { run with driver := { run.driver with teardown := teardown } }

/-- A step of the driver. -/
def stepDriver (told : Instructions) (run : Run) : Option Run :=
  match run.driver.activity with
  | .feeding file call later =>
    (call.step run.files).map fun (progress, files) =>
      let run := { run with files := files }
      match progress with
      | .goesOn call => run.turnTo (.feeding file call later)
      | .returns result => run.fed file later result
  | .rejecting failure later =>
    match run.sinks.writeLine .stderr (rejection failure) with
    | (result, sinks) => some ({ run with sinks := sinks }.rejected later result)
  | .draining stage call =>
    (call.step told.sentinel run.requesterStage (run.shutdown stage) (run.queue stage)).map
      fun (progress, shutdown, queue) =>
        let run := (run.setShutdown stage shutdown).setQueue stage queue
        match progress with
        | .goesOn call => run.turnTo (.draining stage call)
        | .returns result =>
          -- workers are waited for even if the drain has failed
          (run.update fun account => account.note id result).turnTo (.joining stage 0)
  | .joining stage next =>
    match (run.workers stage)[next]? with
    | none => some (run.turnTo (.finishing stage))
    | some worker =>
      -- a worker that has not ended makes the driver wait
      worker.result?.map fun result =>
        (run.update fun account => account.join result).turnTo (.joining stage (next + 1))
  | .finishing stage =>
    some ((run.setShutdown stage (run.shutdown stage).finish).turnTo (afterStage stage))
  | .clearing stage call =>
    match call.step (run.queue stage) with
    | (progress, queue) =>
      let run := run.setQueue stage queue
      match progress with
      | .goesOn call => some (run.turnTo (.clearing stage call))
      | .returns result =>
        -- the second queue is destroyed whatever came of destroying the first
        let run := run.cleared result
        match stage with
        | .requester => some (run.turnTo (.clearing .resolver (.closing .marking)))
        | .resolver =>
          some (run.turnTo
            (.returned (conclusion run.driver (told.environment.elapsed run.moment))))
  | .returned _ => none

/-! ## All threads -/

/-- A step of somebody who releases the sinks while the run goes on. -/
def stepOutsider (run : Run) : Option Run :=
  run.outsider.map fun call =>
    match call.step run.sinks with
    | (.goesOn call, sinks) =>
      { run with
        sinks := sinks
        outsider := some call }
    | (.returns _, sinks) =>
      { run with
        sinks := sinks
        outsider := none }

/-- A step of one of the threads, before the moment is counted. -/
def move (told : Instructions) (run : Run) : Actor → Option Run
  | .driver => run.stepDriver told
  | .worker stage i => run.stepWorker told stage i
  | .outsider => run.stepOutsider

/-- A step of one of the threads. -/
def step (told : Instructions) (actor : Actor) (run : Run) : Option Run :=
  (run.move told actor).map fun run => { run with moment := run.moment + 1 }

/-- All threads of a run. -/
def actors (run : Run) : List Actor :=
  .driver :: .outsider ::
    ((List.range run.requesters.length).map (.worker .requester) ++
      (List.range run.resolvers.length).map (.worker .resolver))

/-- Is the run over? -/
def isOver (run : Run) : Bool :=
  run.result?.isSome

/-- Lets the threads take turns until the run is over, but for no more rounds than given. -/
def execute (told : Instructions) (rounds : Nat) (run : Run) : Run :=
  Schedule.run (step told) run.actors isOver rounds run

/-- Some interleaving of steps leads from one state of a run to another. -/
abbrev Reachable (told : Instructions) : Run → Run → Prop :=
  Reaches (step told)

/-- What is executed is one of the interleavings. -/
theorem reachable_execute (told : Instructions) (rounds : Nat) (run : Run) :
    Reachable told run (run.execute told rounds) :=
  Schedule.reaches_run (step told) run.actors isOver rounds .refl

end HostLookup.Run
