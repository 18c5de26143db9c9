import HostLookup.Proofs.Run.Start

/-!
# Nobody waits for ever

A thread of a run waits at three places: the driver and the requesters at a full queue, all workers
at an empty one, and the driver for a worker that has not ended. If all threads waited at once, no
call would be under way, so both counters of an open queue would say what is in it, and an open
queue is not full and empty at the same time. Then

* the workers behind a full queue have all ended, each with a sentinel, since the queue is open; but
  whoever waits to put into that queue has not put a sentinel for each of them yet;
* a worker that the driver waits for finds its queue empty, so all sentinels have been taken, and
  there was one for each worker.

**`Run.isOver_or_moves`** is the outcome: a run that is not over goes on.
-/

namespace HostLookup

namespace Run

variable {told : Instructions} {run : Run} {history : History}

/-! ## Who waits where

A thread that cannot move waits in front of a queue, or it is the driver and waits for a worker. In
particular nobody who is stuck is inside of a section, so the queues are at rest. -/

/-- **A driver that cannot move** has returned, or waits at a full queue or for a worker. -/
theorem blocked_of_stepDriver (hstep : run.stepDriver told = none) :
    run.isOver = true ∨
    (∃ file item later, run.driver.activity = .feeding file (.entering item) later ∧
      (run.queue .requester).Full) ∨
    (∃ stage later item, run.driver.activity = .draining stage (.putting later (.entering item)) ∧
      (run.queue stage).Full) ∨
    (∃ stage next w, run.driver.activity = .joining stage next ∧
      (run.workers stage)[next]? = some w ∧ w.isOver = false) := by
  unfold stepDriver at hstep
  split at hstep
  · next file call later hactivity =>
    obtain ⟨item, rfl, -, hopen, hpermits⟩ :=
      PutCall.blocked_of_step (Option.map_eq_none_iff.mp hstep)
    exact Or.inr (Or.inl ⟨file, item, later, hactivity, hopen, hpermits⟩)
  · contradiction
  · next stage call hactivity =>
    obtain ⟨later, item, rfl, -, hopen, hpermits⟩ :=
      DrainCall.blocked_of_step (Option.map_eq_none_iff.mp hstep)
    exact Or.inr (Or.inr (Or.inl ⟨stage, later, item, hactivity, hopen, hpermits⟩))
  · next stage next hactivity =>
    split at hstep
    · contradiction
    · next w hplace =>
      have hnone := Option.map_eq_none_iff.mp hstep
      have hover : w.isOver = false := by
        rw [← Worker.isSome_result?_eq_isOver, hnone]
        rfl
      exact Or.inr (Or.inr (Or.inr ⟨stage, next, w, hactivity, hplace, hover⟩))
  · contradiction
  · next stage call hactivity =>
    rcases hcall : call.step (run.queue stage) with ⟨call' | result, queue⟩
    · simp [hcall] at hstep
    · cases stage <;> simp [hcall] at hstep
  · next result hactivity =>
    refine Or.inl ?_
    rw [isOver, result?, hactivity]
    rfl

/-- **A worker that cannot move** has ended, or waits for an item, or at the full queue of the
resolvers. -/
theorem blocked_of_stepWorker {stage : Stage} {i : Nat} {w : Worker}
    (hplace : (run.workers stage)[i]? = some w) (hstep : run.stepWorker told stage i = none) :
    w.isOver = true ∨ (w.activity = .taking .entering ∧ (run.queue stage).Empty) ∨
    (∃ host item file, w.activity = .offering host (.entering item) file ∧ stage = .requester ∧
      run.resolvers ≠ [] ∧ (run.queue .resolver).Full) := by
  simp only [stepWorker, hplace, Option.map_eq_none_iff] at hstep
  rcases Worker.blocked_of_step hstep with hover | ⟨hactivity, hempty⟩ |
    ⟨host, item, file, target, hactivity, htarget, hfull⟩
  · exact Or.inl hover
  · rw [source_desk] at hempty
    exact Or.inr (Or.inl ⟨hactivity, hempty⟩)
  · obtain ⟨rfl, rfl⟩ := target_desk htarget
    refine Or.inr (Or.inr ⟨host, item, file, hactivity, rfl, ?_, hfull⟩)
    intro hnil
    simp [desk, hnil] at htarget

/-- No thread of the run can move. -/
structure Stuck (told : Instructions) (run : Run) : Prop where
  goes_on : run.isOver = false
  driver : run.stepDriver told = none
  worker : ∀ stage i, run.stepWorker told stage i = none

namespace Stuck

/-- Nobody who is stuck is in a phase. -/
theorem phase?_callOn (h : Stuck told run) (actor : Actor) (stage : Stage) :
    (run.callOn actor stage).bind Call.phase? = none := by
  -- each thread is where `blocked_of_stepDriver` or `blocked_of_stepWorker` says
  cases actor with
  | driver =>
    simp only [callOn]
    rcases blocked_of_stepDriver h.driver with hover | ⟨file, item, later, hactivity, -⟩ |
      ⟨own, later, item, hactivity, -⟩ | ⟨own, next, w, hactivity, -⟩
    · rw [h.goes_on] at hover
      contradiction
    · rw [hactivity]
      cases stage <;> rfl
    · rw [hactivity]
      simp only [DriverActivity.callOn]
      split <;> rfl
    · rw [hactivity]
      rfl
  | worker own i =>
    simp only [callOn]
    cases hplace : (run.workers own)[i]? with
    | none => rfl
    | some w =>
      rw [Option.bind_some]
      have hphases : w.activity.sourceCall.bind Call.phase? = none ∧
          w.activity.targetCall.bind Call.phase? = none := by
        rcases blocked_of_stepWorker hplace (h.worker own i) with hover | ⟨hactivity, -⟩ |
          ⟨host, item, file, hactivity, -⟩
        · unfold Worker.isOver at hover
          split at hover
          · next hactivity => rw [hactivity]; exact ⟨rfl, rfl⟩
          · next hactivity => rw [hactivity]; exact ⟨rfl, rfl⟩
          · contradiction
        · rw [hactivity]
          exact ⟨rfl, rfl⟩
        · rw [hactivity]
          exact ⟨rfl, rfl⟩
      split
      · exact hphases.1
      · split
        · exact hphases.2
        · rfl
  | outsider => rfl

/-- So no call is under way at any queue. -/
theorem calls_eq (h : Stuck told run) (stage : Stage) (p : Phase) : run.calls stage p = 0 := by
  refine List.countP_eq_zero.mpr fun actor _ => ?_
  simp [h.phase?_callOn actor stage]

end Stuck

/-! ## Sentinels of those that have ended

The argument is about numbers. Each worker that has ended at an open queue has a sentinel, no more
sentinels are held than were put, and the driver never puts more than there are workers. -/

namespace Orderly

variable {sentinel : Sentinel}

/-- If all workers of a stage have ended at an open queue, the driver has put a sentinel for each of
them. -/
theorem length_le_of_over (h : Orderly sentinel history run) {stage : Stage}
    (hopen : (run.queue stage).ring.closed = false)
    (hover : ∀ w ∈ run.workers stage, w.isOver = true) :
    (run.workers stage).length ≤ run.sentinelsPut stage := by
  have hall : ∀ w ∈ run.workers stage, w.activity.hasSentinel sentinel = true := by
    intro w hmem
    rcases Worker.ends_of_isOver sentinel (hover w hmem) with hsentinel | hclosed
    · exact hsentinel
    · -- it cannot have closed the queue, which is open
      rw [h.closed stage w hmem hclosed] at hopen
      contradiction
  have hle := h.holding_le stage
  rwa [List.countP_eq_length.mpr hall] at hle

/-- Behind a queue that is full and at rest no worker waits for an item. -/
theorem over_of_full (h : Orderly sentinel history run) (hstuck : Stuck told run) {stage : Stage}
    (hfull : (run.queue stage).Full)
    (hnext : stage = .requester → run.resolvers ≠ [] → ¬ (run.queue .resolver).Full) :
    ∀ w ∈ run.workers stage, w.isOver = true := by
  intro w hmem
  obtain ⟨i, hplace⟩ := List.mem_iff_getElem?.mp hmem
  rcases blocked_of_stepWorker hplace (hstuck.worker stage i) with hover | ⟨-, hempty⟩ |
    ⟨-, -, -, -, hstage, hsome, hhosts⟩
  · exact hover
  · exact absurd hempty
      ((h.sound.balanced stage).not_empty_of_full (hstuck.calls_eq stage) hfull)
  · exact absurd hhosts (hnext hstage hsome)

/-- Behind the full queue of the resolvers all of them have ended. -/
theorem length_le_of_full_hosts (h : Orderly sentinel history run) (hstuck : Stuck told run)
    (hfull : (run.queue .resolver).Full) :
    (run.workers .resolver).length ≤ run.sentinelsPut .resolver :=
  h.length_le_of_over ((h.sound.balanced .resolver).open_of_full (hstuck.calls_eq _) hfull)
    (h.over_of_full hstuck hfull fun hstage => absurd hstage (by decide))

/-- **A requester that waits waits for an item.** If the queue of the resolvers were full they would
all have ended, but as long as a requester hands on no sentinel is put for them. -/
theorem waits_for_item (h : Orderly sentinel history run) (hstuck : Stuck told run) {stage : Stage}
    {i : Nat} {w : Worker} (hplace : (run.workers stage)[i]? = some w) (hover : w.isOver = false) :
    w.activity = .taking .entering ∧ (run.queue stage).Empty := by
  rcases blocked_of_stepWorker hplace (hstuck.worker stage i) with hno | htaking |
    ⟨-, -, -, -, rfl, hsome, hfull⟩
  · rw [hover] at hno
    contradiction
  · exact htaking
  · exfalso
    have hle := h.length_le_of_full_hosts hstuck hfull
    have hput : run.sentinelsPut .resolver = 0 :=
      (h.law .resolver).sent_eq_zero (h.standing_of_hands_on hplace hover)
    have hnone : run.resolvers.length = 0 := Nat.le_zero.mp (hput ▸ hle)
    exact hsome (List.eq_nil_of_length_eq_zero hnone)

/-- The same for any stage, now that no requester waits at a full queue. -/
theorem length_le_of_full (h : Orderly sentinel history run) (hstuck : Stuck told run)
    {stage : Stage} (hfull : (run.queue stage).Full) :
    (run.workers stage).length ≤ run.sentinelsPut stage := by
  have hbalanced := h.sound.balanced stage
  refine h.length_le_of_over (hbalanced.open_of_full (hstuck.calls_eq stage) hfull) ?_
  intro w hmem
  obtain ⟨i, hplace⟩ := List.mem_iff_getElem?.mp hmem
  cases hover : w.isOver with
  | true => rfl
  | false =>
    have hempty := (h.waits_for_item hstuck hplace hover).2
    exact absurd hempty (hbalanced.not_empty_of_full (hstuck.calls_eq stage) hfull)

/-- A queue that is empty and at rest holds no sentinel back. -/
theorem holding_eq_of_empty (h : Orderly sentinel history run) (hstuck : Stuck told run)
    {stage : Stage} (hempty : (run.queue stage).Empty) :
    (run.workers stage).countP (fun w => w.activity.hasSentinel sentinel) =
      run.sentinelsPut stage := by
  have hbalanced := h.sound.balanced stage
  have hquiet := hstuck.calls_eq stage
  have hlive := hbalanced.live_of_open (hbalanced.open_of_empty hquiet hempty)
  have hitems := (h.sound.ledger stage).items_eq hlive
  -- nothing is left in the ring, so all sentinels that went in have come out
  rw [hbalanced.items_of_empty hquiet hempty, List.append_nil] at hitems
  rw [h.holding, ← h.count_stored, hitems]

/-- **An orderly run is never stuck.** -/
theorem not_stuck (h : Orderly sentinel history run) : ¬ Stuck told run := by
  intro hstuck
  rcases blocked_of_stepDriver hstuck.driver with hover | ⟨file, item, later, hactivity, hfull⟩ |
    ⟨stage, later, item, hactivity, hfull⟩ | ⟨stage, next, w, hactivity, hplace, hover⟩
  · rw [hstuck.goes_on] at hover
    contradiction
  · -- the driver feeds, so there are requesters, and no sentinel is on its way to them
    have hstanding : run.driver.activity.standing .requester = .ahead := by
      rw [hactivity]
      rfl
    have hle := h.length_le_of_full hstuck hfull
    have hput : run.sentinelsPut .requester = 0 :=
      (h.law .requester).sent_eq_zero (by rw [hstanding]; rfl)
    have hnone : run.requesters.length = 0 := Nat.le_zero.mp (hput ▸ hle)
    exact h.feeding hstanding (List.eq_nil_of_length_eq_zero hnone)
  · -- the sentinel that waits is one that is missing
    have hstanding : run.driver.activity.standing stage =
        .draining (.putting later (.entering item)) := by
      rw [hactivity]
      exact Standing.seenFrom_self _ _
    have hle := h.length_le_of_full hstuck hfull
    have hlaw := h.law stage
    rw [hstanding] at hlaw
    have hcount := hlaw.1
    have hput : run.sentinelsPut stage = (run.shutdown stage).sentinelsSent := by
      rw [sentinelsPut, hstanding]
      rfl
    have hworkers := h.workers_eq stage
    omega
  · -- the worker that the driver waits for has its sentinel after all
    obtain ⟨htaking, hempty⟩ := h.waits_for_item hstuck hplace hover
    have hopen := (h.sound.balanced stage).open_of_empty (hstuck.calls_eq stage) hempty
    have hstanding : run.driver.activity.standing stage = .joining next := by
      rw [hactivity]
      exact Standing.seenFrom_self _ _
    have hlaw := h.law stage
    rw [hstanding] at hlaw
    have hsent : (run.shutdown stage).sentinelsSent = (run.shutdown stage).workers := by
      refine hlaw.resolve_right fun hclosed => ?_
      rw [hclosed] at hopen
      contradiction
    have hcount := h.holding_eq_of_empty hstuck hempty
    have hput : run.sentinelsPut stage = (run.workers stage).length := by
      rw [sentinelsPut, hstanding, hsent, h.workers_eq stage]
      rfl
    rw [hput, List.countP_eq_length] at hcount
    have hsentinel := hcount w (List.mem_of_getElem? hplace)
    rw [htaking] at hsentinel
    contradiction

end Orderly

/-- A run in which no thread of its own can move is stuck. -/
theorem stuck_of_step (hgoes : run.isOver = false)
    (hstep : ∀ actor, actor ≠ .outsider → step told actor run = none) : Stuck told run where
  goes_on := hgoes
  driver := Option.map_eq_none_iff.mp (hstep .driver (by decide))
  worker stage i := Option.map_eq_none_iff.mp (hstep (.worker stage i) (by simp))

/-- **No deadlock.** Take any settings and any request that pass their checks, no data file being
named like the sentinel. Whichever threads were refused, in whatever order those that are there have
moved, whatever the environment has answered, whichever lines the sinks have refused, and however
far an outsider has come with releasing them, the run is over or one of its own threads can move. -/
theorem isOver_or_moves {settings : Settings} {plan : Plan} {request : RunRequest} {sinks : Sinks}
    {refusals : Refusals} {environment : Environment} {outsider : Option SinkCall}
    {begun now : Run} (hplan : Plan.create settings = .ok plan)
    (hlaunch : Run.launch plan request sinks refusals = .ok begun)
    (hfiles : plan.sentinel.text ∉ request.files)
    (hreach : Reachable (plan.instructions environment) { begun with outsider := outsider } now) :
    now.isOver = true ∨ ∃ actor ∈ now.actors, actor ≠ .outsider ∧
      (step (plan.instructions environment) actor now).isSome = true := by
  obtain ⟨-, rfl⟩ := eq_of_launch hlaunch
  obtain ⟨history, htrace⟩ := hreach.traces (events (plan.instructions environment))
  have horderly := orderly_of_traces (Plan.usable_of_create hplan) hfiles htrace
  cases hover : now.isOver with
  | true => exact Or.inl rfl
  | false =>
    -- if none of the threads could move the run would be stuck
    refine Or.inr (Classical.byContradiction fun hnobody => ?_)
    have hstuck : Stuck (plan.instructions environment) now := by
      refine stuck_of_step hover fun actor hne => ?_
      rw [← Option.not_isSome_iff_eq_none]
      intro hsome
      obtain ⟨next, hnext⟩ := Option.isSome_iff_exists.mp hsome
      obtain ⟨next, hmove, -⟩ := moves_of_step hnext
      exact hnobody ⟨actor, hmove.mem_actors, hne, hsome⟩
    exact horderly.not_stuck hstuck

/-- The driver alone fills the only slot and has to wait, so somebody else can move. -/
theorem isOver_or_moves_one_slot :
    let plan : Plan := { settings := { queueCapacity := 1 }, sentinel := .standard }
    let request : RunRequest := { requesters := 1, resolvers := 1, files := ["a", "b"] }
    let told := plan.instructions (.steady (fun _ => .panicked) (fun _ => .panicked) {})
    let start := initial plan request (.ofDevices fun _ => .full) {} (some .marking)
    let now := Schedule.run (step told) [.driver] isOver 3 start
    step told .driver now = none ∧
      (now.isOver = true ∨ ∃ actor ∈ now.actors, actor ≠ .outsider ∧
        (step told actor now).isSome = true) := by
  have hplan : Plan.create { queueCapacity := 1 } =
    .ok { settings := { queueCapacity := 1 }, sentinel := .standard } := rfl
  have hlaunch := launch_eq_ok (.ofDevices fun _ => .full) {}
    (show Plan.check { settings := { queueCapacity := 1 }, sentinel := .standard }
      { requesters := 1, resolvers := 1, files := ["a", "b"] } = .ok () from rfl) rfl rfl
  intro plan request told start now
  have hwaits : (step told .driver now).isNone = true := by decide +kernel
  exact ⟨Option.isNone_iff_eq_none.mp hwaits,
    isOver_or_moves hplan hlaunch (by decide) (Schedule.reaches_run _ _ _ 3 .refl)⟩

end Run

end HostLookup
