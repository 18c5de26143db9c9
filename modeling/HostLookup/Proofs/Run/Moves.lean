import HostLookup.Proofs.Stage.Drain
import HostLookup.Proofs.Worker.Ends
import HostLookup.Run.Step

/-!
# What a step of a run can do

A step of a run is a step of one of its workers, of the driver, or of the outsider who releases the
sinks. As for a worker, the step function is taken apart once:

* **`Run.Moves`**: the rules, a single one for all workers and one for each way in which a step of
  the driver can go.
* **`Run.moves_of_step`**: every step follows one of them.

Whatever is said about steps elsewhere is said about the rules, by cases.
-/

namespace HostLookup

namespace Run

variable {told : Instructions} {run run' : Run} {actor : Actor}

/-- The run after somebody has used the sinks. -/
def setSinks (run : Run) (sinks : Sinks) : Run :=
  { run with sinks := sinks }

/-- The run after the outsider has made a step of its call, or returned from it. -/
def setOutsider (run : Run) (outsider : Option SinkCall) : Run :=
  { run with outsider := outsider }

/-- The rules for the steps of a run. -/
inductive Moves (told : Instructions) (run : Run) : Actor → Run → Prop where
  | worker {stage : Stage} {i : Nat} {w w' : Worker} {desk : Desk}
      (hplace : (run.workers stage)[i]? = some w)
      (hmove : Worker.Moves told run.moment w (run.desk stage) w' desk) :
      Moves told run (.worker stage i)
        ((run.ofDesk stage desk).setWorkers stage ((run.workers stage).set i w'))
  /-- The `put` of a name goes on. -/
  | feed {file : String} {call call' : PutCall} {later : List String} {files : Queue}
      (hactivity : run.driver.activity = .feeding file call later)
      (hstep : call.step run.files = some (.goesOn call', files)) :
      Moves told run .driver ((run.setQueue .requester files).turnTo (.feeding file call' later))
  | fed {file : String} {call : PutCall} {later : List String} {result : Except QueueError Unit}
      {files : Queue} (hactivity : run.driver.activity = .feeding file call later)
      (hstep : call.step run.files = some (.returns result, files)) :
      Moves told run .driver ((run.setQueue .requester files).fed file later result)
  | reject {failure : Failure} {later : List String}
      (hactivity : run.driver.activity = .rejecting failure later) :
      Moves told run .driver
        ((run.setSinks (run.sinks.writeLine .stderr (rejection failure)).2).rejected later
          (run.sinks.writeLine .stderr (rejection failure)).1)
  | drain {stage : Stage} {call call' : DrainCall} {shutdown : Shutdown} {queue : Queue}
      (hactivity : run.driver.activity = .draining stage call)
      (hmove : DrainCall.Moves told.sentinel run.requesterStage (run.shutdown stage)
        (run.queue stage) call (.goesOn call') shutdown queue) :
      Moves told run .driver
        (((run.setShutdown stage shutdown).setQueue stage queue).turnTo (.draining stage call'))
  | drained {stage : Stage} {call : DrainCall} {result : Except Failure Unit}
      {shutdown : Shutdown} {queue : Queue}
      (hactivity : run.driver.activity = .draining stage call)
      (hmove : DrainCall.Moves told.sentinel run.requesterStage (run.shutdown stage)
        (run.queue stage) call (.returns result) shutdown queue) :
      Moves told run .driver
        ((((run.setShutdown stage shutdown).setQueue stage queue).update fun account =>
          account.note id result).turnTo (.joining stage 0))
  | joined {stage : Stage} {next : Nat} {w : Worker} {result : Except Failure WorkerReport}
      (hactivity : run.driver.activity = .joining stage next)
      (hplace : (run.workers stage)[next]? = some w) (hresult : w.result? = some result) :
      Moves told run .driver
        ((run.update fun account => account.join result).turnTo (.joining stage (next + 1)))
  /-- Nobody is left to wait for. -/
  | joinedAll {stage : Stage} {next : Nat} (hactivity : run.driver.activity = .joining stage next)
      (hplace : (run.workers stage)[next]? = none) :
      Moves told run .driver (run.turnTo (.finishing stage))
  | finish {stage : Stage} (hactivity : run.driver.activity = .finishing stage) :
      Moves told run .driver
        ((run.setShutdown stage (run.shutdown stage).finish).turnTo (afterStage stage))
  | clear {stage : Stage} {call call' : DestroyCall} {queue : Queue}
      (hactivity : run.driver.activity = .clearing stage call)
      (hstep : call.step (run.queue stage) = (.goesOn call', queue)) :
      Moves told run .driver ((run.setQueue stage queue).turnTo (.clearing stage call'))
  | clearedFirst {call : DestroyCall} {result : Except QueueError Unit} {queue : Queue}
      (hactivity : run.driver.activity = .clearing .requester call)
      (hstep : call.step (run.queue .requester) = (.returns result, queue)) :
      Moves told run .driver
        (((run.setQueue .requester queue).cleared result).turnTo
          (.clearing .resolver (.closing .marking)))
  | clearedSecond {call : DestroyCall} {result : Except QueueError Unit} {queue : Queue}
      (hactivity : run.driver.activity = .clearing .resolver call)
      (hstep : call.step (run.queue .resolver) = (.returns result, queue)) :
      Moves told run .driver
        (((run.setQueue .resolver queue).cleared result).turnTo
          (.returned (conclusion ((run.setQueue .resolver queue).cleared result).driver
            (told.environment.elapsed run.moment))))
  | release {call call' : SinkCall} {sinks : Sinks} (houtsider : run.outsider = some call)
      (hstep : call.step run.sinks = (.goesOn call', sinks)) :
      Moves told run .outsider ((run.setSinks sinks).setOutsider (some call'))
  | released {call : SinkCall} {outcome : UseOutcome} {sinks : Sinks}
      (houtsider : run.outsider = some call)
      (hstep : call.step run.sinks = (.returns outcome, sinks)) :
      Moves told run .outsider ((run.setSinks sinks).setOutsider none)

theorem moves_of_stepDriver (hstep : run.stepDriver told = some run') :
    Moves told run .driver run' := by
  unfold stepDriver at hstep
  split at hstep
  · next file call later hactivity =>
    obtain ⟨⟨progress, files⟩, hcall, heq⟩ := Option.map_eq_some_iff.mp hstep
    subst heq
    cases progress with
    | goesOn call' => exact .feed hactivity hcall
    | returns result => exact .fed hactivity hcall
  · next failure later hactivity =>
    obtain rfl := Option.some.inj hstep
    exact .reject hactivity
  · next stage call hactivity =>
    obtain ⟨⟨progress, shutdown, queue⟩, hcall, heq⟩ := Option.map_eq_some_iff.mp hstep
    subst heq
    cases progress with
    | goesOn call' => exact .drain hactivity (DrainCall.moves_of_step hcall)
    | returns result => exact .drained hactivity (DrainCall.moves_of_step hcall)
  · next stage next hactivity =>
    split at hstep
    · next hplace =>
      obtain rfl := Option.some.inj hstep
      exact .joinedAll hactivity hplace
    · next w hplace =>
      obtain ⟨result, hresult, heq⟩ := Option.map_eq_some_iff.mp hstep
      subst heq
      exact .joined hactivity hplace hresult
  · next stage hactivity =>
    obtain rfl := Option.some.inj hstep
    exact .finish hactivity
  · next stage call hactivity =>
    rcases hcall : call.step (run.queue stage) with ⟨call' | result, queue⟩
    · simp only [hcall, Option.some.injEq] at hstep
      subst hstep
      exact .clear hactivity hcall
    · simp only [hcall] at hstep
      cases stage with
      | requester =>
        obtain rfl := Option.some.inj hstep
        exact .clearedFirst hactivity hcall
      | resolver =>
        obtain rfl := Option.some.inj hstep
        exact .clearedSecond hactivity hcall
  · contradiction

/-- **What a step of a run can do.** -/
theorem moves_of_step (hstep : step told actor run = some run') :
    ∃ next, Moves told run actor next ∧ run' = { next with moment := next.moment + 1 } := by
  obtain ⟨next, hmove, heq⟩ := Option.map_eq_some_iff.mp hstep
  refine ⟨next, ?_, heq.symm⟩
  cases actor with
  | driver => exact moves_of_stepDriver hmove
  | worker stage i =>
    simp only [move, stepWorker] at hmove
    split at hmove
    · contradiction
    · next w hplace =>
      obtain ⟨⟨w', desk⟩, hworker, hnext⟩ := Option.map_eq_some_iff.mp hmove
      subst hnext
      exact .worker hplace (Worker.moves_of_step hworker)
  | outsider =>
    obtain ⟨call, houtsider, hnext⟩ := Option.map_eq_some_iff.mp hmove
    rcases hcall : call.step run.sinks with ⟨call' | outcome, sinks⟩
    · simp only [hcall] at hnext
      subst hnext
      exact .release houtsider hcall
    · simp only [hcall] at hnext
      subst hnext
      exact .released houtsider hcall

end Run

end HostLookup
