import HostLookup.Proofs.Run.Moves
import HostLookup.Proofs.Traces

/-!
# The threads of a run around its queues

A queue of a run sees the driver and the workers only through the calls that they are inside of.
`Run.callOn` is the call of a thread at the queue in front of a stage, if it is inside one:

* **`Run.Moves.turn`**: a step is a turn of each queue, with the call of the thread that makes it.
* **`Run.Moves.callOn_of_ne`**: the calls of all other threads stay where they are.
* **`Run.Moves.shift`**: so the numbers of calls by phase change as one thread changes its phase.
-/

namespace HostLookup

/-- The call that the driver is inside of, at the queue in front of a stage. -/
def DriverActivity.callOn : DriverActivity → Stage → Option Call
  | .feeding _ call _, .requester => some (.put call)
  | .draining stage call, at' => if stage = at' then call.putCall else none
  | .clearing stage call, at' => if stage = at' then some (.destroy call) else none
  | _, _ => none

namespace Run

variable {told : Instructions} {run run' : Run} {actor : Actor}

/-! ## What the parts of a step leave alone

A step of a run is put together from small changes: a queue, a stage or the workers of a stage are
replaced, the driver turns to something else, its account is brought up to date, the sinks are used.
Each of them changes one part of the run. The lemmas say so for the parts that are looked at from
outside (the queue, the stage and the workers of either stage, and the driver), so later proofs read
a part off a step without unfolding the step. Where both stages have the part, the lemma ending in
`_of_ne` is about the other one. -/

section Fields

variable (run) (stage other : Stage) (q : Queue) (s : Shutdown) (ws : List Worker)
  (activity : DriverActivity) (change : Account → Account)

@[simp] theorem queue_setQueue : (run.setQueue stage q).queue stage = q := by
  cases stage <;> rfl

@[simp] theorem queue_setShutdown : (run.setShutdown stage s).queue other = run.queue other := by
  cases stage <;> rfl

@[simp] theorem queue_setWorkers : (run.setWorkers stage ws).queue other = run.queue other := by
  cases stage <;> rfl

@[simp] theorem shutdown_setShutdown : (run.setShutdown stage s).shutdown stage = s := by
  cases stage <;> rfl

@[simp] theorem shutdown_setQueue : (run.setQueue stage q).shutdown other = run.shutdown other := by
  cases stage <;> rfl

@[simp] theorem shutdown_setWorkers :
    (run.setWorkers stage ws).shutdown other = run.shutdown other := by
  cases stage <;> rfl

@[simp] theorem workers_setWorkers : (run.setWorkers stage ws).workers stage = ws := by
  cases stage <;> rfl

@[simp] theorem workers_setQueue : (run.setQueue stage q).workers other = run.workers other := by
  cases stage <;> rfl

@[simp] theorem workers_setShutdown :
    (run.setShutdown stage s).workers other = run.workers other := by
  cases stage <;> rfl

@[simp] theorem driver_setQueue : (run.setQueue stage q).driver = run.driver := by
  cases stage <;> rfl

@[simp] theorem driver_setShutdown : (run.setShutdown stage s).driver = run.driver := by
  cases stage <;> rfl

@[simp] theorem driver_setWorkers : (run.setWorkers stage ws).driver = run.driver := by
  cases stage <;> rfl

@[simp] theorem queue_turnTo : (run.turnTo activity).queue stage = run.queue stage := rfl

@[simp] theorem shutdown_turnTo : (run.turnTo activity).shutdown stage = run.shutdown stage := rfl

@[simp] theorem workers_turnTo : (run.turnTo activity).workers stage = run.workers stage := rfl

@[simp] theorem activity_turnTo : (run.turnTo activity).driver.activity = activity := rfl

@[simp] theorem queue_update : (run.update change).queue stage = run.queue stage := rfl

@[simp] theorem shutdown_update : (run.update change).shutdown stage = run.shutdown stage := rfl

@[simp] theorem workers_update : (run.update change).workers stage = run.workers stage := rfl

@[simp] theorem queue_cleared (result : Except QueueError Unit) :
    (run.cleared result).queue stage = run.queue stage := rfl

@[simp] theorem shutdown_cleared (result : Except QueueError Unit) :
    (run.cleared result).shutdown stage = run.shutdown stage := rfl

@[simp] theorem workers_cleared (result : Except QueueError Unit) :
    (run.cleared result).workers stage = run.workers stage := rfl

@[simp] theorem queue_setSinks (sinks : Sinks) :
    (run.setSinks sinks).queue stage = run.queue stage := rfl

@[simp] theorem shutdown_setSinks (sinks : Sinks) :
    (run.setSinks sinks).shutdown stage = run.shutdown stage := rfl

@[simp] theorem workers_setSinks (sinks : Sinks) :
    (run.setSinks sinks).workers stage = run.workers stage := rfl

@[simp] theorem workers_ofDesk (desk : Desk) :
    (run.ofDesk stage desk).workers other = run.workers other := by
  cases stage <;> rfl

@[simp] theorem driver_ofDesk (desk : Desk) : (run.ofDesk stage desk).driver = run.driver := by
  cases stage <;> rfl

@[simp] theorem queue_ofDesk (desk : Desk) : (run.ofDesk stage desk).queue stage = desk.source := by
  cases stage <;> rfl

@[simp] theorem shutdown_ofDesk (desk : Desk) :
    (run.ofDesk stage desk).shutdown stage = desk.shutdown := by
  cases stage <;> rfl

variable {stage other}

theorem queue_setQueue_of_ne (h : other ≠ stage) :
    (run.setQueue stage q).queue other = run.queue other := by
  cases stage <;> cases other <;> first | rfl | exact absurd rfl h

theorem shutdown_setShutdown_of_ne (h : other ≠ stage) :
    (run.setShutdown stage s).shutdown other = run.shutdown other := by
  cases stage <;> cases other <;> first | rfl | exact absurd rfl h

theorem workers_setWorkers_of_ne (h : other ≠ stage) :
    (run.setWorkers stage ws).workers other = run.workers other := by
  cases stage <;> cases other <;> first | rfl | exact absurd rfl h

theorem shutdown_ofDesk_of_ne (desk : Desk) (h : other ≠ stage) :
    (run.ofDesk stage desk).shutdown other = run.shutdown other := by
  cases stage <;> cases other <;> first | rfl | exact absurd rfl h

end Fields

/-! ## Calls of the threads

Every thread is inside of one call at a time, and only some of its calls are calls at a queue. A
worker takes from the queue of its own stage and hands on to the queue of the next, so the same
worker is looked at twice, once from each queue; the driver calls whatever it feeds, drains or
destroys. -/

/-- Do the workers of a stage have somebody to hand on to? -/
def hasTarget (run : Run) : Stage → Bool
  | .requester => !run.resolvers.isEmpty
  | .resolver => false

/-- The call that a thread is inside of, at the queue in front of a stage. -/
def callOn (run : Run) : Actor → Stage → Option Call
  | .driver, stage => run.driver.activity.callOn stage
  | .worker own i, stage =>
    (run.workers own)[i]?.bind fun w =>
      if own = stage then w.activity.sourceCall
      else if run.hasTarget own then w.activity.targetCall else none
  | .outsider, _ => none

/-- The number of threads in a phase of a call at the queue in front of a stage. -/
def calls (run : Run) (stage : Stage) (p : Phase) : Nat :=
  run.actors.countP fun actor => (run.callOn actor stage).bind Call.phase? = some p

/-- At the queue of its own stage a worker is inside of the call that takes from it. -/
theorem callOn_worker_self {stage : Stage} {i : Nat} {w : Worker}
    (hplace : (run.workers stage)[i]? = some w) :
    run.callOn (.worker stage i) stage = w.activity.sourceCall := by
  simp [callOn, hplace]

/-- A driver that turns to the names that are left has not begun the `put` of the first of them. -/
theorem callOn_feed (files : List String) (stage : Stage) :
    ((feed files).callOn stage).bind Call.phase? = none := by
  cases files with
  | nil => cases stage <;> rfl
  | cons file later => cases stage <;> rfl

/-- However a `put` of the driver ends, the driver is in no phase of a call afterwards: it is at the
beginning of another call, or about to report. -/
theorem callOn_fed (run : Run) (file : String) (later : List String)
    (result : Except QueueError Unit) (stage : Stage) :
    ((run.fed file later result).driver.activity.callOn stage).bind Call.phase? = none := by
  cases result with
  | ok => exact callOn_feed later stage
  | error error =>
    cases error with
    | itemTooLarge => cases stage <;> rfl
    | destroyed | alreadyDestroyed => exact callOn_feed [] stage

/-- The same after a report, whether it could be written or not. -/
theorem callOn_rejected (run : Run) (later : List String) (result : Except SinkError Unit)
    (stage : Stage) :
    ((run.rejected later result).driver.activity.callOn stage).bind Call.phase? = none := by
  cases result with
  | ok => exact callOn_feed later stage
  | error => exact callOn_feed [] stage

@[simp] theorem queue_fed (run : Run) (file : String) (later : List String)
    (result : Except QueueError Unit) (stage : Stage) :
    (run.fed file later result).queue stage = run.queue stage := by
  cases result with
  | ok => rfl
  | error error => cases error <;> rfl

@[simp] theorem workers_fed (run : Run) (file : String) (later : List String)
    (result : Except QueueError Unit) (stage : Stage) :
    (run.fed file later result).workers stage = run.workers stage := by
  cases result with
  | ok => rfl
  | error error => cases error <;> rfl

@[simp] theorem shutdown_fed (run : Run) (file : String) (later : List String)
    (result : Except QueueError Unit) (stage : Stage) :
    (run.fed file later result).shutdown stage = run.shutdown stage := by
  cases result with
  | ok => rfl
  | error error => cases error <;> rfl

@[simp] theorem queue_rejected (run : Run) (later : List String) (result : Except SinkError Unit)
    (stage : Stage) : (run.rejected later result).queue stage = run.queue stage := by
  cases result <;> rfl

@[simp] theorem workers_rejected (run : Run) (later : List String) (result : Except SinkError Unit)
    (stage : Stage) : (run.rejected later result).workers stage = run.workers stage := by
  cases result <;> rfl

@[simp] theorem shutdown_rejected (run : Run) (later : List String) (result : Except SinkError Unit)
    (stage : Stage) : (run.rejected later result).shutdown stage = run.shutdown stage := by
  cases result <;> rfl

/-- The pools of threads stay as large as they are: a step replaces at most one worker. -/
theorem Moves.length_workers (h : Moves told run actor run') (stage : Stage) :
    (run'.workers stage).length = (run.workers stage).length := by
  cases h with
  | @worker own i w w' desk hplace hmove =>
    -- a worker is replaced in its own pool, and the other pool is not touched
    by_cases hown : stage = own
    · subst hown
      rw [workers_setWorkers, List.length_set]
    · rw [workers_setWorkers_of_ne _ _ hown, workers_ofDesk]
  | release | released => rfl
  | _ => simp

/-- No thread comes or goes. -/
theorem Moves.actors_eq (h : Moves told run actor run') : run'.actors = run.actors := by
  have hrequesters := h.length_workers .requester
  have hresolvers := h.length_workers .resolver
  simp only [workers] at hrequesters hresolvers
  rw [actors, actors, hrequesters, hresolvers]

/-- Whether there is a resolver to hand on to does not change either. -/
theorem Moves.hasTarget_eq (h : Moves told run actor run') (stage : Stage) :
    run'.hasTarget stage = run.hasTarget stage := by
  cases stage with
  | requester =>
    have hlength := h.length_workers .resolver
    simp only [workers] at hlength
    simp only [hasTarget]
    -- whether a list is empty can be told from its length
    cases hafter : run'.resolvers <;> cases hbefore : run.resolvers <;> simp_all
  | resolver => rfl

/-- A thread that makes no step stays in its calls. The outsider never calls a queue, the driver
stays where it is while others move, and of the workers only one is replaced. -/
theorem Moves.callOn_of_ne (h : Moves told run actor run') {other : Actor} (hne : other ≠ actor)
    (stage : Stage) : run'.callOn other stage = run.callOn other stage := by
  have htarget := h.hasTarget_eq
  cases other with
  | outsider => rfl
  | driver =>
    cases h with
    | worker => simp [callOn]
    | release | released => rfl
    | _ => exact absurd rfl hne
  | worker own j =>
    simp only [callOn, htarget]
    cases h with
    | @worker stage' i w w' desk hplace hmove =>
      -- another worker of the same pool keeps its place, since only the place `i` is set
      by_cases hown : own = stage'
      · subst hown
        have hij : i ≠ j := fun heq => hne (heq ▸ rfl)
        rw [workers_setWorkers, List.getElem?_set_ne hij]
      · rw [workers_setWorkers_of_ne _ _ hown, workers_ofDesk]
    | release | released => rfl
    | _ => simp

/-- A worker has a queue to hand on to on its desk if it has somebody to hand on to. -/
theorem isSome_target_desk (run : Run) (stage : Stage) :
    (run.desk stage).target.isSome = run.hasTarget stage := by
  cases stage with
  | requester => simp only [desk, hasTarget]; split <;> simp [*]
  | resolver => rfl

@[simp] theorem source_desk (run : Run) (stage : Stage) :
    (run.desk stage).source = run.queue stage := by
  cases stage <;> rfl

/-- The queue that requesters hand on to is the one in front of the resolvers. -/
theorem target_desk {run : Run} {own : Stage} {target : Queue}
    (htarget : (run.desk own).target = some target) : own = .requester ∧ target = run.hosts := by
  cases own with
  | requester =>
    simp only [desk] at htarget
    split at htarget
    · contradiction
    · exact ⟨rfl, (Option.some.inj htarget).symm⟩
  | resolver => contradiction

/-! ## A step is a turn of each queue

The lemmas below follow the rules for the steps of a run, family by family: a worker, the driver
that feeds, drains or clears, and the steps that come near no queue. Each says the same of its own
family (`Turns`), so that a new rule needs a lemma of its own and nothing else. -/

/-- A thread makes a turn of each queue: it starts with the call that it was inside of there, and
ends in the phase that it has then come to. -/
def Turns (run : Run) (actor : Actor) (run' : Run) : Prop :=
  ∀ stage : Stage, (run.queue stage).Turn (run.callOn actor stage)
    ((run'.callOn actor stage).bind Call.phase?) (run'.queue stage)

/-- A turn of one queue leaves the other idle. -/
theorem turn_setQueue (run : Run) (own stage : Stage) {call : Option Call} (call' : Option Call)
    {queue : Queue}
    (hturn : (run.queue own).Turn call (call'.bind Call.phase?) queue) :
    (run.queue stage).Turn (if own = stage then call else none)
      ((if own = stage then call' else none).bind Call.phase?)
      ((run.setQueue own queue).queue stage) := by
  by_cases hown : own = stage
  · subst hown
    simpa using hturn
  · rw [queue_setQueue_of_ne _ _ (Ne.symm hown), if_neg hown, if_neg hown]
    exact .idle rfl

/-- There are two stages. -/
theorem eq_requester_of_ne {stage : Stage} (h : Stage.resolver ≠ stage) : stage = .requester := by
  cases stage <;> first | rfl | exact absurd rfl h

theorem eq_resolver_of_ne {stage : Stage} (h : Stage.requester ≠ stage) : stage = .resolver := by
  cases stage <;> first | rfl | exact absurd rfl h

/-- A step of a requester, seen from the queue of hosts: it touches that queue only if there is a
resolver to hand on to, and then with the `put` that it is inside of. -/
theorem turn_hosts_of_moves {w w' : Worker} {desk : Desk}
    (hmove : Worker.Moves told run.moment w (run.desk .requester) w' desk) :
    run.hosts.Turn (if run.hasTarget .requester then w.activity.targetCall else none)
      ((if run.hasTarget .requester then w'.activity.targetCall else none).bind Call.phase?)
      (desk.target.getD run.hosts) := by
  have hsome := hmove.isSome_target
  rw [isSome_target_desk] at hsome
  cases hhas : run.hasTarget .requester with
  | false =>
    -- nobody to hand on to: the queue of hosts stays as it is
    rw [hhas, Option.isSome_eq_false_iff, Option.isNone_iff_eq_none] at hsome
    rw [hsome]
    exact .idle rfl
  | true =>
    -- the queue on the desk is the queue of hosts, before the step and after it
    have hbefore : (run.desk .requester).target.isSome = true :=
      (isSome_target_desk run .requester).trans hhas
    obtain ⟨target, htarget⟩ := Option.isSome_iff_exists.mp hbefore
    obtain ⟨target', hafter⟩ := Option.isSome_iff_exists.mp (hsome.trans hhas)
    rw [hafter, Option.getD_some]
    exact hmove.target_turn (htarget.trans (congrArg some (target_desk htarget).2)) hafter

/-- A worker makes a turn of the queue that it takes from and, if it is a requester, of the queue of
hosts. For the second queue it matters that there is a resolver after the step exactly if there was
one before. -/
theorem turns_worker {own : Stage} {i : Nat} {w w' : Worker} {desk : Desk}
    (hplace : (run.workers own)[i]? = some w)
    (hmove : Worker.Moves told run.moment w (run.desk own) w' desk)
    (htarget : ((run.ofDesk own desk).setWorkers own ((run.workers own).set i w')).hasTarget own =
      run.hasTarget own) :
    run.Turns (.worker own i)
      ((run.ofDesk own desk).setWorkers own ((run.workers own).set i w')) := by
  intro stage
  have hplace' : (((run.ofDesk own desk).setWorkers own
      ((run.workers own).set i w')).workers own)[i]? = some w' := by
    rw [workers_setWorkers]
    exact List.getElem?_set_self (List.getElem?_eq_some_iff.mp hplace).1
  by_cases hown : own = stage
  · -- the queue that the worker takes from
    subst hown
    rw [callOn_worker_self hplace, callOn_worker_self hplace', queue_setWorkers, queue_ofDesk,
      ← source_desk]
    exact hmove.source_turn
  · -- the other queue: only requesters come near it
    simp only [callOn, hplace, hplace', Option.bind_some, hown, ↓reduceIte, htarget]
    cases own with
    | resolver =>
      rw [eq_requester_of_ne hown]
      exact .idle rfl
    | requester =>
      rw [eq_resolver_of_ne hown]
      exact turn_hosts_of_moves hmove

/-- The `put` of a name goes on at the first queue. The second queue is out of reach. -/
theorem turns_feed {file : String} {call call' : PutCall} {later : List String} {files : Queue}
    (hactivity : run.driver.activity = .feeding file call later)
    (hstep : call.step run.files = some (.goesOn call', files)) :
    run.Turns .driver
      ((run.setQueue .requester files).turnTo (.feeding file call' later)) := by
  intro stage
  simp only [callOn, hactivity]
  cases stage with
  | requester => exact .of_put hstep
  | resolver => exact .idle rfl

/-- The `put` of a name returns. Whatever it answered, the driver has left the queue. -/
theorem turns_fed {file : String} {call : PutCall} {later : List String}
    {result : Except QueueError Unit} {files : Queue}
    (hactivity : run.driver.activity = .feeding file call later)
    (hstep : call.step run.files = some (.returns result, files)) :
    run.Turns .driver ((run.setQueue .requester files).fed file later result) := by
  intro stage
  simp only [callOn, hactivity, callOn_fed, queue_fed]
  cases stage with
  | requester => exact .of_put hstep
  | resolver => exact .idle rfl

/-- A report goes to the sinks, not to a queue. -/
theorem turns_reject {failure : Failure} {later : List String}
    (hactivity : run.driver.activity = .rejecting failure later) (sinks : Sinks)
    (result : Except SinkError Unit) :
    run.Turns .driver ((run.setSinks sinks).rejected later result) := by
  intro stage
  simp only [callOn, hactivity, callOn_rejected, queue_rejected, queue_setSinks]
  exact .idle (by cases stage <;> rfl)

/-- A drain goes on at the queue of its stage, with the `put` of a sentinel or with none. -/
theorem turns_drain {own : Stage} {call call' : DrainCall} {shutdown : Shutdown} {queue : Queue}
    (hactivity : run.driver.activity = .draining own call)
    (hmove : DrainCall.Moves told.sentinel run.requesterStage (run.shutdown own) (run.queue own)
      call (.goesOn call') shutdown queue) :
    run.Turns .driver
      (((run.setShutdown own shutdown).setQueue own queue).turnTo (.draining own call')) := by
  intro stage
  simp only [callOn, hactivity, activity_turnTo, queue_turnTo]
  have hturn := turn_setQueue (run.setShutdown own shutdown) own stage call'.putCall
    (by simpa using hmove.turn)
  rwa [queue_setShutdown] at hturn

/-- A drain returns, and the driver waits for the workers. -/
theorem turns_drained {own : Stage} {call : DrainCall} {result : Except Failure Unit}
    {shutdown : Shutdown} {queue : Queue}
    (hactivity : run.driver.activity = .draining own call)
    (hmove : DrainCall.Moves told.sentinel run.requesterStage (run.shutdown own) (run.queue own)
      call (.returns result) shutdown queue) :
    run.Turns .driver ((((run.setShutdown own shutdown).setQueue own queue).update fun account =>
      account.note id result).turnTo (.joining own 0)) := by
  intro stage
  simp only [callOn, hactivity, activity_turnTo, queue_turnTo, queue_update]
  have hturn := turn_setQueue (run.setShutdown own shutdown) own stage none
    (by simpa using hmove.turn)
  rwa [queue_setShutdown, ite_self] at hturn

/-- The driver turns from the end of a stage to a call that it has not begun. -/
theorem turns_finish {own : Stage} (hactivity : run.driver.activity = .finishing own)
    (shutdown : Shutdown) :
    run.Turns .driver ((run.setShutdown own shutdown).turnTo (afterStage own)) := by
  intro stage
  simp only [callOn, hactivity, activity_turnTo, queue_turnTo, queue_setShutdown]
  have hnone : ((afterStage own).callOn stage).bind Call.phase? = none := by
    cases own <;> cases stage <;> rfl
  rw [hnone]
  exact .idle rfl

/-- The destruction of a queue goes on. -/
theorem turns_clear {own : Stage} {call call' : DestroyCall} {queue : Queue}
    (hactivity : run.driver.activity = .clearing own call)
    (hstep : call.step (run.queue own) = (.goesOn call', queue)) :
    run.Turns .driver ((run.setQueue own queue).turnTo (.clearing own call')) := by
  intro stage
  simp only [callOn, hactivity, activity_turnTo, queue_turnTo]
  exact turn_setQueue run own stage (some (.destroy call')) (.of_destroy hstep)

/-- A queue is destroyed, and the driver turns to what has not begun. -/
theorem turns_cleared {own : Stage} {call : DestroyCall} {result : Except QueueError Unit}
    {queue : Queue} {next : DriverActivity}
    (hactivity : run.driver.activity = .clearing own call)
    (hstep : call.step (run.queue own) = (.returns result, queue))
    (hnext : ∀ stage, (next.callOn stage).bind Call.phase? = none) :
    run.Turns .driver (((run.setQueue own queue).cleared result).turnTo next) := by
  intro stage
  simp only [callOn, hactivity, activity_turnTo, queue_turnTo, queue_cleared, hnext]
  have hturn := turn_setQueue run own stage none (.of_destroy hstep)
  rwa [ite_self] at hturn

/-- **A step is a turn of each queue**, with the call of the thread that makes it. -/
theorem Moves.turn (h : Moves told run actor run') : run.Turns actor run' := by
  have htarget := h.hasTarget_eq
  cases h with
  | worker hplace hmove => exact turns_worker hplace hmove (htarget _)
  | feed hactivity hstep => exact turns_feed hactivity hstep
  | fed hactivity hstep => exact turns_fed hactivity hstep
  | reject hactivity => exact turns_reject hactivity _ _
  | drain hactivity hmove => exact turns_drain hactivity hmove
  | drained hactivity hmove => exact turns_drained hactivity hmove
  | joined hactivity | joinedAll hactivity =>
    intro stage
    simp only [callOn, hactivity]
    exact .idle rfl
  | finish hactivity => exact turns_finish hactivity _
  | clear hactivity hstep => exact turns_clear hactivity hstep
  | clearedFirst hactivity hstep =>
    exact turns_cleared hactivity hstep fun stage => by cases stage <;> rfl
  | clearedSecond hactivity hstep => exact turns_cleared hactivity hstep fun _ => rfl
  | release | released => exact fun _ => .idle rfl

/-! ## Counting the threads

Every thread is listed once (`nodup_actors`), so when one of them changes its phase, exactly one
count goes down and one goes up. This is all that the law of a queue asks of the callers. -/

/-- No thread is listed twice: the lists of the two stages are apart, and so are the places in
each. -/
theorem nodup_actors (run : Run) : run.actors.Nodup := by
  have hpool : ∀ (stage : Stage) (n : Nat), ((List.range n).map (Actor.worker stage)).Nodup :=
    fun stage n => List.pairwise_map.mpr
      (List.nodup_range.imp fun hne heq => hne (by injection heq))
  have happ := List.nodup_append.mpr
    ⟨hpool .requester run.requesters.length, hpool .resolver run.resolvers.length, ?_⟩
  · simp [actors, happ]
  -- the stage is part of the name of a worker, so the two lists have nothing in common
  intro a ha b hb heq
  subst heq
  obtain ⟨i, -, rfl⟩ := List.mem_map.mp ha
  obtain ⟨j, -, heq⟩ := List.mem_map.mp hb
  injection heq with hstage
  contradiction

/-- Every worker is listed. -/
theorem worker_mem_actors {stage : Stage} {i : Nat} {w : Worker}
    (hplace : (run.workers stage)[i]? = some w) : .worker stage i ∈ run.actors := by
  have hlt := (List.getElem?_eq_some_iff.mp hplace).1
  simp only [actors, List.mem_cons, List.mem_append, List.mem_map, List.mem_range]
  cases stage with
  | requester => exact Or.inr (Or.inr (Or.inl ⟨i, hlt, rfl⟩))
  | resolver => exact Or.inr (Or.inr (Or.inr ⟨i, hlt, rfl⟩))

/-- Whoever makes a step is listed. -/
theorem Moves.mem_actors (h : Moves told run actor run') : actor ∈ run.actors := by
  cases h with
  | worker hplace => exact worker_mem_actors hplace
  | release | released => simp [actors]
  | _ => simp [actors]

/-- **The numbers of calls by phase** change as the thread that makes the step does. -/
theorem Moves.shift (h : Moves told run actor run') (stage : Stage) :
    Phase.Shift ((run.callOn actor stage).bind Call.phase?)
      ((run'.callOn actor stage).bind Call.phase?) (run.calls stage) (run'.calls stage) := by
  -- the lists of threads agree, and so do the phases of all threads but one
  have hshift := Phase.Shift.of_update (fun a => (run.callOn a stage).bind Call.phase?)
    (fun a => (run'.callOn a stage).bind Call.phase?) run.nodup_actors h.mem_actors
    (fun other hne => by rw [h.callOn_of_ne hne stage])
  unfold calls
  rw [h.actors_eq]
  exact hshift

/-- A thread in a phase is counted there. -/
theorem calls_pos {stage : Stage} {p : Phase} (hactor : actor ∈ run.actors)
    (hphase : (run.callOn actor stage).bind Call.phase? = some p) : 0 < run.calls stage p :=
  List.countP_pos_iff.mpr ⟨actor, hactor, by simpa using hphase⟩

/-- The same, for a phase that the thread may or may not be in. -/
theorem mark_le_calls (hactor : actor ∈ run.actors) (stage : Stage) (p : Phase) :
    Phase.mark ((run.callOn actor stage).bind Call.phase?) p ≤ run.calls stage p := by
  unfold Phase.mark
  split
  · next hphase => exact calls_pos hactor hphase
  · exact Nat.zero_le _

end Run

end HostLookup
