import HostLookup.Proofs.Run.Start
import HostLookup.Proofs.Sink.Teardown
import HostLookup.Proofs.Worker.Effort
import HostLookup.Proofs.Worker.Replies
import Mathlib.Data.Prod.Lex
import Mathlib.Order.WellFounded

/-!
# No run goes on forever

The two counts of a worker become two counts of a run. Its *openings* are the data files that can
still be opened: each name and each sentinel that the driver will still put into the first queue may
lead to one, and so may each permit that stands for an item in that queue or is in the hands of a
requester. Its *effort* bounds the steps until the next opening. The driver pays for the sentinels
of both stages, for waiting for every worker, and for destroying both queues.

* **`Run.Moves.measure_lt`**: every step of every thread lowers the openings, or leaves them and
  lowers the effort.
* **`Run.wellFounded_of_launch`**: so no interleaving goes on forever, whatever the world does.
-/

namespace HostLookup

/-! ## Drains

A drain pays for every sentinel that it has still to put. A sentinel that was put is no longer owed
by the drain, but its permit is ready to be taken, so the sum of both does not grow. -/

namespace DrainCall

/-- The sentinels that a drain has still to put, of a stage with so many workers. -/
def sentinels (workers : Nat) : DrainCall → Nat
  | .checking | .claiming => workers
  | .refusing => 0
  | .putting later _ => later + 1
  | .counting later => later

/-- Each sentinel costs the driver a `put` and a count. -/
def effort (workers : Nat) : DrainCall → Nat
  | .checking => 3 + 10 * workers
  | .claiming => 2 + 10 * workers
  | .refusing => 1
  | .putting later call => 1 + 10 * later + call.effort
  | .counting later => 1 + 10 * later

variable {sentinel : Sentinel} {before stage stage' : Shutdown} {q q' : Queue} {call : DrainCall}
  {progress : Progress DrainCall (Except Failure Unit)}

/-- The drain of a running stage owes one sentinel to each worker, and then one less each time. -/
theorem sentinels_proceed (sentinel : Sentinel) (workers later : Nat) :
    (proceed sentinel later).remaining (sentinels workers) = later := by
  cases later <;> rfl

/-- Going on to the next sentinel is paid for by the sentinel. -/
theorem effort_proceed_le (sentinel : Sentinel) (workers later : Nat) :
    (proceed sentinel later).remaining (effort workers) ≤ 10 * later := by
  cases later with
  | zero => exact Nat.le_refl _
  | succ later =>
    simp only [proceed, Progress.remaining, effort, PutCall.effort]
    omega

/-- A sentinel that a drain has put is ready to be taken. -/
theorem Moves.sentinels_le (h : Moves sentinel before stage q call progress stage' q') :
    progress.remaining (sentinels stage.workers) + q'.filled.permits ≤
      call.sentinels stage.workers + q.filled.permits := by
  cases h with
  | allow => exact Nat.le_refl _
  | hold | refuse | late =>
    simp only [Progress.remaining, sentinels]
    omega
  | claim hclaim =>
    rw [sentinels_proceed, (Shutdown.eq_of_claim hclaim).1]
    exact Nat.le_refl _
  | put hstep | sent hstep | fail hstep =>
    have hfilled := (PutCall.moves_of_step hstep).filled_le
    simp only [Progress.remaining, sentinels] at hfilled ⊢
    omega
  | count =>
    rw [sentinels_proceed]
    exact Nat.le_refl _

/-- Every step of a drain costs something, the queue's own accounts included. -/
theorem Moves.effort_lt (h : Moves sentinel before stage q call progress stage' q') :
    progress.remaining (effort stage.workers) + q'.effort <
      call.effort stage.workers + q.effort := by
  cases h with
  | allow | hold | refuse | late =>
    simp only [Progress.remaining, effort]
    omega
  | claim hclaim =>
    have hproceed := effort_proceed_le sentinel stage.workers stage.workers
    rw [(Shutdown.eq_of_claim hclaim).1]
    simp only [effort]
    omega
  | put hstep | sent hstep | fail hstep =>
    have hless := (PutCall.moves_of_step hstep).effort_lt
    simp only [Progress.remaining, effort] at hless ⊢
    omega
  | @count later =>
    have hproceed := effort_proceed_le sentinel stage.workers later
    simp only [effort]
    omega

end DrainCall

/-! ## The driver

What the driver still has to do is a list that is known in advance: names, the drain of the first
stage, its end, the drain of the second, its end, both queues. Each place of it costs what it costs
itself and all that comes behind it. -/

namespace DriverActivity

/-- The items that the driver will still put into the first queue, where so many workers of the
first stage are to be stopped. -/
def openings (toStop : Nat) : DriverActivity → Nat
  | .feeding _ _ later => 1 + later.length + toStop
  | .rejecting _ later => later.length + toStop
  | .draining .requester call => call.sentinels toStop
  | _ => 0

/-- The effort of what follows the end of a stage: destroying both queues, and before that the end
of the second stage. -/
def effortAfter (toStop toJoin : Stage → Nat) : Stage → Nat
  | .resolver => 8
  | .requester => 13 + toJoin .resolver + 10 * toStop .resolver

/-- The effort of ending a stage, with its drain still to be done. -/
def effortBefore (toStop toJoin : Stage → Nat) (stage : Stage) (call : DrainCall) : Nat :=
  effortAfter toStop toJoin stage + 2 + toJoin stage + call.effort (toStop stage)

/-- A bound of the steps that the driver can still make, where so many workers of each stage are to
be stopped and to be waited for. -/
def effort (toStop toJoin : Stage → Nat) : DriverActivity → Nat
  | .feeding _ call later =>
    effortBefore toStop toJoin .requester .claiming + 10 * later.length + call.effort
  | .rejecting _ later => effortBefore toStop toJoin .requester .claiming + 10 * later.length + 1
  | .draining stage call => effortBefore toStop toJoin stage call
  | .joining stage next => effortAfter toStop toJoin stage + 2 + (toJoin stage - next)
  | .finishing stage => effortAfter toStop toJoin stage + 1
  | .clearing .requester call => 4 + call.effort
  | .clearing .resolver call => call.effort
  | .returned _ => 0

variable (toStop toJoin : Stage → Nat)

theorem openings_feeding (workers : Nat) (file : String) (call : PutCall) (later : List String) :
    (feeding file call later).openings workers = 1 + later.length + workers := rfl

theorem openings_rejecting (workers : Nat) (failure : Failure) (later : List String) :
    (rejecting failure later).openings workers = later.length + workers := rfl

theorem effort_feeding (file : String) (call : PutCall) (later : List String) :
    (feeding file call later).effort toStop toJoin =
      effortBefore toStop toJoin .requester .claiming + 10 * later.length + call.effort := rfl

theorem effort_rejecting (failure : Failure) (later : List String) :
    (rejecting failure later).effort toStop toJoin =
      effortBefore toStop toJoin .requester .claiming + 10 * later.length + 1 := rfl

theorem openings_feed (workers : Nat) (files : List String) :
    (Run.feed files).openings workers = files.length + workers := by
  cases files with
  | nil => simp [Run.feed, openings, DrainCall.sentinels]
  | cons file later => simp only [Run.feed, openings, List.length_cons]; omega

/-- Feeding names costs at most ten for each name, on top of what comes after them. -/
theorem effort_feed_le (files : List String) :
    (Run.feed files).effort toStop toJoin ≤
      effortBefore toStop toJoin .requester .claiming + 10 * files.length := by
  cases files with
  | nil => exact Nat.le_refl _
  | cons file later =>
    simp only [Run.feed, effort, PutCall.effort, List.length_cons]
    omega

/-- The end of a stage leads to exactly what `effortAfter` has put aside for it. -/
theorem effort_afterStage (stage : Stage) :
    (Run.afterStage stage).effort toStop toJoin = effortAfter toStop toJoin stage := by
  cases stage with
  | requester =>
    simp only [Run.afterStage, effort, effortBefore, effortAfter, DrainCall.effort]
    omega
  | resolver => rfl

theorem openings_afterStage (workers : Nat) (stage : Stage) :
    (Run.afterStage stage).openings workers = 0 := by
  cases stage <;> rfl

end DriverActivity

namespace Run

open DriverActivity

variable {told : Instructions} {run run' : Run} {actor : Actor}

/-- The workers of a stage that are to be stopped. -/
def toStop (run : Run) (stage : Stage) : Nat :=
  (run.shutdown stage).workers

/-- The workers of a stage that are to be waited for. -/
def toJoin (run : Run) (stage : Stage) : Nat :=
  (run.workers stage).length

/-- The data files that can still be opened. -/
def openings (run : Run) : Nat :=
  run.driver.activity.openings (run.toStop .requester) +
    (run.queue .requester).filled.permits +
    ((run.workers .requester).map fun w => w.activity.openings).sum

/-- What is left to do in the two queues, by whoever has called. -/
def queuesEffort (run : Run) : Nat :=
  (run.queue .requester).effort + (run.queue .resolver).effort

/-- What is left to do by the workers of both stages before they open another file. -/
def workersEffort (run : Run) : Nat :=
  ((run.workers .requester).map fun w => w.activity.effort).sum +
    ((run.workers .resolver).map fun w => w.activity.effort).sum

/-- A bound of the steps that can still be made without opening another file. -/
def effort (run : Run) : Nat :=
  run.driver.activity.effort run.toStop run.toJoin + run.queuesEffort + run.workersEffort +
    run.outsider.elim 0 SinkCall.work

/-- Openings weigh more than any effort. -/
def measure (run : Run) : Nat ×ₗ Nat :=
  toLex (run.openings, run.effort)

/-- Only the queue that changes is paid for. -/
theorem queuesEffort_setQueue (run : Run) (stage : Stage) (q : Queue) :
    (run.setQueue stage q).queuesEffort + (run.queue stage).effort =
      run.queuesEffort + q.effort := by
  cases stage <;> simp only [queuesEffort, queue, setQueue] <;> omega

/-! ## What a step of each thread costs

In every case the openings do not grow and the effort falls, or an opening is used up. The worker is
the one thread that uses up openings, so for all others `Lowers` says all that is needed. -/

/-- How many workers are to be stopped was settled when the stages were made. -/
theorem Moves.toStop_eq (h : Moves told run actor run') : run'.toStop = run.toStop :=
  funext h.shutdown_workers

theorem Moves.toJoin_eq (h : Moves told run actor run') : run'.toJoin = run.toJoin :=
  funext h.length_workers

/-- Nobody meddles with the call of the outsider. -/
theorem Moves.outsider_eq (h : Moves told run actor run') (hne : actor ≠ .outsider) :
    run'.outsider = run.outsider := by
  cases h with
  | @worker stage => cases stage <;> rfl
  | @fed _ _ _ result => rcases result with (_ | _) | _ <;> rfl
  | reject => simp only [rejected]; split <;> rfl
  | @drain stage | @drained stage | @finish stage | @clear stage => cases stage <;> rfl
  | release | released => exact absurd rfl hne
  | _ => rfl

/-! ### The driver

It opens no file itself, so a step of the driver has to lower the effort. The lemmas follow what it
is about to do: feeding, draining, and clearing the queues. -/

/-- A step that leaves the openings and lowers the effort. -/
def Lowers (run run' : Run) : Prop :=
  run'.openings ≤ run.openings ∧ run'.effort < run.effort

/-- What the driver does next, and what it does to the queue in front of a stage, is all that there
is to say about its effort. -/
theorem lowers_of_setQueue (activity : DriverActivity) (stage : Stage) (q : Queue)
    (hmove : Moves told run .driver run') (hactivity : run'.driver.activity = activity)
    (hqueue : run'.queue = (run.setQueue stage q).queue)
    (hopenings : activity.openings (run.toStop .requester) +
        ((run.setQueue stage q).queue .requester).filled.permits ≤
      run.driver.activity.openings (run.toStop .requester) +
        (run.queue .requester).filled.permits)
    (heffort : activity.effort run.toStop run.toJoin + q.effort <
      run.driver.activity.effort run.toStop run.toJoin + (run.queue stage).effort) :
    run.Lowers run' := by
  have hworkers : ∀ stage, run'.workers stage = run.workers stage := fun stage =>
    (hmove.ownWorker stage).elim (fun ⟨_, _, _, _, heq, _⟩ => nomatch heq) And.right
  have hqueues := queuesEffort_setQueue run stage q
  simp only [Lowers, queuesEffort, openings, effort, workersEffort, hmove.toStop_eq,
    hmove.toJoin_eq, hworkers, hmove.outsider_eq nofun, hactivity, hqueue] at hopenings hqueues ⊢
  omega

/-- The same where the driver leaves both queues alone. -/
theorem lowers_of_turnTo (activity : DriverActivity) (hmove : Moves told run .driver run')
    (hactivity : run'.driver.activity = activity) (hqueue : run'.queue = run.queue)
    (hopenings : activity.openings (run.toStop .requester) ≤
      run.driver.activity.openings (run.toStop .requester))
    (heffort : activity.effort run.toStop run.toJoin <
      run.driver.activity.effort run.toStop run.toJoin) :
    run.Lowers run' :=
  lowers_of_setQueue activity .requester (run.queue .requester) hmove hactivity hqueue
    (Nat.add_le_add_right hopenings _) (Nat.add_lt_add_right heffort _)

/-- The `put` of a name goes on. The name itself is still owed, and its bytes are paid for by the
call. -/
theorem lowers_of_feed (told : Instructions) {file : String} {call call' : PutCall}
    {later : List String} {files : Queue}
    (hactivity : run.driver.activity = .feeding file call later)
    (hstep : call.step run.files = some (.goesOn call', files)) :
    run.Lowers ((run.setQueue .requester files).turnTo (.feeding file call' later)) := by
  have hmove : Moves told run .driver _ := .feed hactivity hstep
  have hput : PutCall.Moves (run.queue .requester) call (.goesOn call') files :=
    PutCall.moves_of_step hstep
  have hfilled := hput.filled_le
  have hless := hput.effort_lt
  simp only [Progress.remaining] at hfilled hless
  apply lowers_of_setQueue (.feeding file call' later) .requester files hmove rfl rfl
  · rw [hactivity, queue_setQueue, openings_feeding, openings_feeding]
    omega
  · rw [hactivity, effort_feeding, effort_feeding]
    omega

/-- The `put` of a name returns. A name that was put is paid for by the permit that now stands for
it; a name that was refused has left the queue as it was, and was dearer than its report. -/
theorem lowers_of_fed (told : Instructions) {file : String} {call : PutCall} {later : List String}
    {result : Except QueueError Unit} {files : Queue}
    (hactivity : run.driver.activity = .feeding file call later)
    (hstep : call.step run.files = some (.returns result, files)) :
    run.Lowers ((run.setQueue .requester files).fed file later result) := by
  have hmove : Moves told run .driver _ := .fed hactivity hstep
  have hput : PutCall.Moves (run.queue .requester) call (.returns result) files :=
    PutCall.moves_of_step hstep
  have hfilled := hput.filled_le
  have hless := hput.effort_lt
  simp only [Progress.remaining] at hfilled hless
  cases result with
  | ok =>
    have heffort := effort_feed_le run.toStop run.toJoin later
    apply lowers_of_setQueue (Run.feed later) .requester files hmove rfl rfl
    · rw [hactivity, queue_setQueue, openings_feeding, openings_feed]
      omega
    · rw [hactivity, effort_feeding]
      omega
  | error error =>
    -- a `put` that fails has changed nothing in the queue
    obtain ⟨rfl, hearly⟩ := hput.eq_of_error
    cases error with
    | itemTooLarge length max =>
      apply lowers_of_setQueue
        (.rejecting (.item file (QueueError.itemTooLarge length max).message) later) .requester
        (run.queue .requester) hmove rfl rfl
      · rw [hactivity, queue_setQueue, openings_feeding, openings_rejecting]
        omega
      · rw [hactivity, effort_feeding, effort_rejecting]
        omega
    | destroyed | alreadyDestroyed =>
      -- the names that are given up cost nothing any more
      have heffort := effort_feed_le run.toStop run.toJoin []
      rw [List.length_nil] at heffort
      apply lowers_of_setQueue (Run.feed []) .requester (run.queue .requester) hmove rfl rfl
      · rw [hactivity, queue_setQueue, openings_feeding, openings_feed, List.length_nil]
        omega
      · rw [hactivity, effort_feeding]
        omega

/-- A report is written or not: the driver goes on to the names that are left, or to none. -/
theorem lowers_of_reject (told : Instructions) {failure : Failure} {later : List String}
    (hactivity : run.driver.activity = .rejecting failure later) :
    run.Lowers
      ((run.setSinks (run.sinks.writeLine .stderr (rejection failure)).2).rejected later
        (run.sinks.writeLine .stderr (rejection failure)).1) := by
  have hmove : Moves told run .driver _ := .reject hactivity
  generalize (run.sinks.writeLine .stderr (rejection failure)).1 = result at hmove ⊢
  cases result with
  | ok =>
    have heffort := effort_feed_le run.toStop run.toJoin later
    apply lowers_of_turnTo (Run.feed later) hmove rfl rfl
    · rw [hactivity, openings_rejecting, openings_feed]
    · rw [hactivity, effort_rejecting]
      omega
  | error =>
    have heffort := effort_feed_le run.toStop run.toJoin []
    rw [List.length_nil] at heffort
    apply lowers_of_turnTo (Run.feed []) hmove rfl rfl
    · rw [hactivity, openings_rejecting, openings_feed, List.length_nil]
      omega
    · rw [hactivity, effort_rejecting]
      omega

/-- A drain goes on. Only the drain of the first stage has sentinels that may open a file. -/
theorem lowers_of_drain {stage : Stage} {call call' : DrainCall} {shutdown : Shutdown} {q : Queue}
    (hactivity : run.driver.activity = .draining stage call)
    (hdrain : DrainCall.Moves told.sentinel run.requesterStage (run.shutdown stage)
      (run.queue stage) call (.goesOn call') shutdown q) :
    run.Lowers
      (((run.setShutdown stage shutdown).setQueue stage q).turnTo (.draining stage call')) := by
  have hmove : Moves told run .driver _ := .drain hactivity hdrain
  have hsentinels := hdrain.sentinels_le
  have hless := hdrain.effort_lt
  simp only [Progress.remaining] at hsentinels hless
  apply lowers_of_setQueue (.draining stage call') stage q hmove rfl
  · cases stage <;> rfl
  · -- the sentinels that it still owes, and the one that is in the queue now
    rw [hactivity]
    cases stage with
    | requester => exact hsentinels
    | resolver => exact Nat.le_refl _
  · rw [hactivity]
    simp only [DriverActivity.effort, effortBefore, toStop]
    omega

/-- A drain returns, and the driver waits for the workers next. -/
theorem lowers_of_drained {stage : Stage} {call : DrainCall} {result : Except Failure Unit}
    {shutdown : Shutdown} {q : Queue}
    (hactivity : run.driver.activity = .draining stage call)
    (hdrain : DrainCall.Moves told.sentinel run.requesterStage (run.shutdown stage)
      (run.queue stage) call (.returns result) shutdown q) :
    run.Lowers ((((run.setShutdown stage shutdown).setQueue stage q).update fun account =>
      account.note id result).turnTo (.joining stage 0)) := by
  have hmove : Moves told run .driver _ := .drained hactivity hdrain
  have hsentinels := hdrain.sentinels_le
  have hless := hdrain.effort_lt
  simp only [Progress.remaining, Nat.zero_add] at hsentinels hless
  apply lowers_of_setQueue (.joining stage 0) stage q hmove rfl
  · cases stage <;> rfl
  · rw [hactivity]
    cases stage with
    | requester => exact (Nat.zero_add _).trans_le hsentinels
    | resolver => exact Nat.le_refl _
  · rw [hactivity]
    simp only [DriverActivity.effort, effortBefore, toStop]
    omega

/-- The destruction of a queue goes on. It takes nothing out of the queue, so no opening is lost. -/
theorem lowers_of_clear (told : Instructions) {stage : Stage} {call call' : DestroyCall} {q : Queue}
    (hactivity : run.driver.activity = .clearing stage call)
    (hstep : call.step (run.queue stage) = (.goesOn call', q)) :
    run.Lowers ((run.setQueue stage q).turnTo (.clearing stage call')) := by
  have hmove : Moves told run .driver _ := .clear hactivity hstep
  have hfilled := (DestroyCall.moves_of_step hstep).filled_eq
  have hless := (DestroyCall.moves_of_step hstep).effort_lt
  simp only [Progress.remaining] at hless
  apply lowers_of_setQueue (.clearing stage call') stage q hmove rfl rfl
  · rw [hactivity]
    cases stage with
    | requester => exact Nat.le_of_eq (congrArg (0 + ·) hfilled)
    | resolver => exact Nat.le_refl _
  · rw [hactivity]
    cases stage <;> simp only [DriverActivity.effort] <;> omega

/-- The first queue is destroyed, and the driver turns to the second. -/
theorem lowers_of_clearedFirst (told : Instructions) {call : DestroyCall}
    {result : Except QueueError Unit} {q : Queue}
    (hactivity : run.driver.activity = .clearing .requester call)
    (hstep : call.step (run.queue .requester) = (.returns result, q)) :
    run.Lowers (((run.setQueue .requester q).cleared result).turnTo
      (.clearing .resolver (.closing .marking))) := by
  have hmove : Moves told run .driver _ := .clearedFirst hactivity hstep
  have hfilled := (DestroyCall.moves_of_step hstep).filled_eq
  have hless := (DestroyCall.moves_of_step hstep).effort_lt
  have hclosing : (DestroyCall.closing .marking).effort = 4 := rfl
  simp only [Progress.remaining] at hless
  apply lowers_of_setQueue (.clearing .resolver (.closing .marking)) .requester q hmove rfl rfl
  · rw [hactivity]
    exact Nat.le_of_eq (congrArg (0 + ·) hfilled)
  · rw [hactivity]
    simp only [DriverActivity.effort, hclosing]
    omega

/-- The second queue is destroyed, and the driver has returned. -/
theorem lowers_of_clearedSecond {call : DestroyCall} {result : Except QueueError Unit} {q : Queue}
    (hactivity : run.driver.activity = .clearing .resolver call)
    (hstep : call.step (run.queue .resolver) = (.returns result, q)) :
    run.Lowers (((run.setQueue .resolver q).cleared result).turnTo
      (.returned (conclusion ((run.setQueue .resolver q).cleared result).driver
        (told.environment.elapsed run.moment)))) := by
  have hmove : Moves told run .driver _ := .clearedSecond hactivity hstep
  have hless := (DestroyCall.moves_of_step hstep).effort_lt
  simp only [Progress.remaining] at hless
  apply lowers_of_setQueue (.returned _) .resolver q hmove rfl rfl
  · exact Nat.add_le_add_right (Nat.zero_le _) _
  · rw [hactivity]
    exact hless

/-- **What a step of the driver costs.** -/
theorem Moves.driver_lowers (h : Moves told run .driver run') : run.Lowers run' := by
  have hmove := h
  cases h with
  | feed hactivity hstep => exact lowers_of_feed told hactivity hstep
  | fed hactivity hstep => exact lowers_of_fed told hactivity hstep
  | reject hactivity => exact lowers_of_reject told hactivity
  | drain hactivity hdrain => exact lowers_of_drain hactivity hdrain
  | drained hactivity hdrain => exact lowers_of_drained hactivity hdrain
  | @joined stage next w result hactivity hplace =>
    have hlt : next < run.toJoin stage := (List.getElem?_eq_some_iff.mp hplace).1
    apply lowers_of_turnTo (.joining stage (next + 1)) hmove rfl rfl
    · exact Nat.zero_le _
    · rw [hactivity]
      simp only [DriverActivity.effort]
      omega
  | @joinedAll stage next hactivity =>
    apply lowers_of_turnTo (.finishing stage) hmove rfl rfl
    · exact Nat.zero_le _
    · rw [hactivity]
      simp only [DriverActivity.effort]
      omega
  | @finish stage hactivity =>
    apply lowers_of_turnTo (afterStage stage) hmove rfl (funext fun other => queue_setShutdown ..)
    · rw [openings_afterStage]
      exact Nat.zero_le _
    · rw [hactivity, effort_afterStage]
      exact Nat.lt_succ_self _
  | clear hactivity hstep => exact lowers_of_clear told hactivity hstep
  | clearedFirst hactivity hstep => exact lowers_of_clearedFirst told hactivity hstep
  | clearedSecond hactivity hstep => exact lowers_of_clearedSecond hactivity hstep

/-! ### The workers

A worker lowers its own effort (`Worker.Moves.effort_lt`) unless it opens a file, and then one
opening less is left. What it puts into the next queue, or takes from it, is paid for in the effort
of the queues. -/

/-- What changes at a desk changes in the effort of the queues. -/
theorem queuesEffort_ofDesk (run : Run) (stage : Stage) {desk : Desk}
    (hsome : desk.target.isSome = (run.desk stage).target.isSome) :
    (run.ofDesk stage desk).queuesEffort + (run.desk stage).effort =
      run.queuesEffort + desk.effort := by
  -- a requester works at both queues, a resolver at the second one only
  cases stage with
  | requester =>
    cases htarget : desk.target with
    | none =>
      have hnone : (run.desk .requester).target = none := by simpa [htarget] using hsome
      simp only [queuesEffort, Desk.effort, source_desk, queue, ofDesk, htarget, hnone,
        Option.getD_none, Option.elim_none]
      omega
    | some target =>
      obtain ⟨old, hold⟩ := Option.isSome_iff_exists.mp (hsome.symm.trans (by rw [htarget]; rfl))
      obtain ⟨-, rfl⟩ := target_desk hold
      simp only [queuesEffort, Desk.effort, source_desk, queue, ofDesk, htarget, hold,
        Option.getD_some, Option.elim_some]
      omega
  | resolver =>
    have hnone : desk.target = none := by simpa [Run.desk] using hsome
    simp only [queuesEffort, Desk.effort, queue, ofDesk, hnone, Run.desk, Option.elim_none]
    omega

/-- A worker that opens no file lowers the effort. -/
theorem effort_lt_of_worker {stage : Stage} {i : Nat} {w w' : Worker} {desk : Desk}
    (hplace : (run.workers stage)[i]? = some w)
    (hmove : Worker.Moves told run.moment w (run.desk stage) w' desk)
    (hopening : ∀ file, w.activity ≠ .opening file) :
    ((run.ofDesk stage desk).setWorkers stage ((run.workers stage).set i w')).effort <
      run.effort := by
  have h : Moves told run (.worker stage i) _ := .worker hplace hmove
  have hqueues := queuesEffort_ofDesk run stage hmove.isSome_target
  have hless := hmove.effort_lt hopening
  -- one worker is replaced in the sum, and all others stay
  have hsum := sum_map_set (fun w => w.activity.effort) w' hplace
  have hworkers : ((run.ofDesk stage desk).setWorkers stage
      ((run.workers stage).set i w')).workersEffort + w.activity.effort =
        run.workersEffort + w'.activity.effort := by
    cases stage <;> simp only [workersEffort, workers, setWorkers, ofDesk] at hsum ⊢ <;> omega
  have hdriver := h.driver_eq (by simp)
  have houtsider := h.outsider_eq (by simp)
  rw [effort, effort, h.toStop_eq, h.toJoin_eq, hdriver, houtsider]
  simp only [queuesEffort, queue_setWorkers] at hqueues ⊢
  omega

/-- Resolvers have nothing to do with data files. -/
def Staffed (run : Run) : Prop :=
  ∀ w ∈ run.workers .resolver,
    w.stage = .resolver ∧ w.output = .resolverLog ∧ w.activity.isFileless = true

theorem Staffed.not_opening (h : run.Staffed) {i : Nat} {w : Worker}
    (hplace : (run.workers .resolver)[i]? = some w) (file : String) :
    w.activity ≠ .opening file := by
  obtain ⟨-, -, hfileless⟩ := h w (List.mem_of_getElem? hplace)
  intro hactivity
  rw [hactivity] at hfileless
  cases hfileless

/-- **What a step of a worker costs.** -/
theorem Moves.worker_lowers {stage : Stage} {i : Nat} (h : Moves told run (.worker stage i) run')
    (hstaffed : run.Staffed) :
    run'.openings < run.openings ∨ run'.openings ≤ run.openings ∧ run'.effort < run.effort := by
  have hmoves := h
  cases h with
  | @worker _ _ w w' desk hplace hmove =>
  cases stage with
  | resolver =>
    -- the data files are none of its business
    refine Or.inr ⟨?_, effort_lt_of_worker hplace hmove (hstaffed.not_opening hplace)⟩
    rw [openings, openings, hmoves.toStop_eq, hmoves.driver_eq nofun]
    exact Nat.le_refl _
  | requester =>
    have hsum := sum_map_set (fun w => w.activity.openings) w' hplace
    have hle := hmove.openings_le
    rw [openings, openings, hmoves.toStop_eq, hmoves.driver_eq nofun, workers_setWorkers,
      queue_setWorkers, queue_ofDesk]
    rw [source_desk] at hle
    by_cases hopening : ∃ file, w.activity = .opening file
    · obtain ⟨file, hactivity⟩ := hopening
      have hlt := hmove.openings_lt hactivity
      rw [source_desk] at hlt
      left
      omega
    · right
      refine ⟨by omega, effort_lt_of_worker hplace hmove fun file hactivity => ?_⟩
      exact hopening ⟨file, hactivity⟩

theorem work_lt_of_step {sinks sinks' : Sinks} {call : SinkCall}
    {progress : Progress SinkCall UseOutcome} (hstep : call.step sinks = (progress, sinks')) :
    progress.remaining SinkCall.work < call.work := by
  let user : SinkUser := { call := some call, later := [] }
  have hcall : user.call = some call := rfl
  have hless := (SinkCall.moves_step sinks call).work_lt hcall
  rw [hstep] at hless
  cases progress with
  | goesOn call' => simpa [user, SinkUser.work, SinkUser.progress, Progress.remaining] using hless
  | returns outcome => exact call.work_pos

/-- **Every step of every thread lowers the measure.** -/
theorem Moves.measure_lt (h : Moves told run actor run') (hstaffed : run.Staffed) :
    run'.measure < run.measure := by
  have hlex : run'.openings < run.openings ∨
      run'.openings ≤ run.openings ∧ run'.effort < run.effort := by
    cases actor with
    | driver => exact Or.inr h.driver_lowers
    | worker stage i => exact h.worker_lowers hstaffed
    | outsider =>
      refine Or.inr ?_
      cases h with
      | release houtsider hstep | released houtsider hstep =>
        have hless := work_lt_of_step hstep
        refine ⟨Nat.le_refl _, ?_⟩
        simp only [effort, houtsider]
        exact Nat.add_lt_add_left hless _
  rw [measure, measure, Prod.Lex.toLex_lt_toLex]
  dsimp only
  omega

theorem Staffed.move (h : run.Staffed) (hmove : Moves told run actor run') : run'.Staffed := by
  intro w hmem
  rcases hmove.mem_workers hmem with hold | ⟨i, u, desk, hplace, hworker⟩
  · exact h w hold
  · obtain ⟨hstage, houtput, hfileless⟩ := h u (List.mem_of_getElem? hplace)
    have hcounts := hworker.counts fun _ host call file hactivity => by
      rw [hactivity] at hfileless
      cases hfileless
    exact ⟨hcounts.stage.trans hstage, hcounts.output.trans houtput,
      (hworker.logs hstage houtput hfileless).1⟩

section Launch

variable {plan : Plan} {request : RunRequest} {sinks : Sinks} {refusals : Refusals} {begun : Run}

theorem staffed_of_launch (hlaunch : launch plan request sinks refusals = .ok begun)
    (outsider : Option SinkCall) : Staffed { begun with outsider := outsider } := by
  obtain ⟨-, rfl⟩ := eq_of_launch hlaunch
  intro w hmem
  have hresolver : w ∈ (initial plan request sinks refusals none).workers .resolver := hmem
  obtain ⟨i, hplace⟩ := List.mem_iff_getElem?.mp hresolver
  rw [eq_start_of_initial hplace]
  exact ⟨rfl, rfl, rfl⟩

theorem staffed_of_reachable (hbegun : begun.Staffed) (hreach : Reachable told begun run) :
    run.Staffed := by
  refine hreach.invariant hbegun fun actor mid next hmid hstep => ?_
  obtain ⟨moved, hmove, rfl⟩ := moves_of_step hstep
  have hmoved : moved.Staffed := hmid.move hmove
  exact hmoved

/-! ## The end of every run

The measure falls with every step of every thread, and it is a pair of numbers. The order on states
is that of reachable ones, because only there nobody but requesters opens files. -/

/-- **No run goes on forever.** Whichever threads the system refuses, whatever the environment
answers, whatever the sinks refuse and whenever somebody releases them, and whichever thread moves
next: the steps of an accepted run are well-founded, so no sequence of states goes on with steps for
ever. A thread that waits has no step. -/
theorem wellFounded_of_launch (hlaunch : launch plan request sinks refusals = .ok begun)
    (environment : Environment) (outsider : Option SinkCall) :
    let told := plan.instructions environment
    let start := { begun with outsider := outsider }
    WellFounded (fun later earlier : { now : Run // Reachable told start now } =>
        ∃ actor, step told actor earlier.1 = some later.1) ∧
      ∀ runs : Nat → Run, runs 0 = start →
        ∃ n, ∀ actor, step told actor (runs n) ≠ some (runs (n + 1)) := by
  intro told start
  have hstart : start.Staffed := staffed_of_launch hlaunch outsider
  have hwf : WellFounded (fun later earlier : { now : Run // Reachable told start now } =>
      ∃ actor, step told actor earlier.1 = some later.1) := by
    refine Subrelation.wf ?_ (InvImage.wf (fun now => now.1.measure) wellFounded_lt)
    rintro ⟨later, hlater⟩ ⟨earlier, hreach⟩ ⟨actor, hstep⟩
    obtain ⟨next, hmove, rfl⟩ := moves_of_step hstep
    have hlt : next.measure < earlier.measure :=
      hmove.measure_lt (staffed_of_reachable hstart hreach)
    exact hlt
  refine ⟨hwf, fun runs hfirst => ?_⟩
  by_contra hendless
  push Not at hendless
  -- the states of an endless run are all reachable, and they descend
  have hreach : ∀ n, Reachable told start (runs n) := by
    intro n
    induction n with
    | zero => exact hfirst ▸ .refl
    | succ n ih =>
      obtain ⟨actor, hstep⟩ := hendless n
      exact ih.tail actor hstep
  exact (wellFounded_iff_isEmpty_descending_chain.mp hwf).false
    ⟨fun n => ⟨runs n, hreach n⟩, hendless⟩

/-- Two files for two requesters of which the second is refused, while somebody releases the
sinks. -/
theorem run_under_release_is_finite :
    let plan : Plan :=
      { settings := { queueCapacity := 1, maxNameLength := 8, maxFileNameLength := 8 }
        sentinel := .standard }
    let request : RunRequest := { requesters := 2, resolvers := 1, files := ["a", "b"] }
    let refusals : Refusals :=
      { thread := fun stage i =>
          if stage = .requester ∧ i = 1 then some "no more threads" else none }
    ∃ begun, launch plan request (.ofDevices fun _ => .memory) refusals = .ok begun ∧
      begun.requesters.length = 1 ∧
      ∀ (environment : Environment) (runs : Nat → Run),
        runs 0 = { begun with outsider := some .marking } →
        ∃ n, ∀ actor,
          step (plan.instructions environment) actor (runs n) ≠ some (runs (n + 1)) := by
  intro plan request refusals
  have hlaunch : launch plan request (.ofDevices fun _ => .memory) refusals = .ok
      (initial plan request (.ofDevices fun _ => .memory) refusals none) :=
    launch_eq_ok _ refusals rfl rfl rfl
  refine ⟨_, hlaunch, by decide +kernel, fun environment => ?_⟩
  exact (wellFounded_of_launch hlaunch environment (some .marking)).2

end Launch

end Run

end HostLookup
