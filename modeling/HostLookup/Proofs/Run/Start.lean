import HostLookup.Proofs.Run.Orderly
import HostLookup.Proofs.Run.Pools

/-!
# How runs begin

Settings that pass their checks leave room for the sentinel in both queues, and a request that is
accepted starts with empty queues, all workers that could be started at their places and nobody
inside of a call. A refused thread changes how many workers there are and what the driver begins
with, but nothing of this. So from there on every run is orderly, whatever was refused to it:

* **`Plan.usable_of_create`**: what the settings are good for.
* **`Run.eq_of_launch`**: every run begins with `Run.initial`, and `Run.eq_of_start` is the case in
  which nothing is refused.
* **`Run.initial_of_kept`**: a run that has kept no failure at its beginning is one of that case.
* **`Run.orderly_of_traces`**: what is known ever after.
-/

namespace HostLookup

/-- A computation that succeeds does so part by part. -/
theorem exists_of_bind_eq_ok {ε α β : Type} {first : Except ε α} {rest : α → Except ε β} {b : β}
    (h : first >>= rest = .ok b) : ∃ a, first = .ok a ∧ rest a = .ok b := by
  cases first with
  | error => contradiction
  | ok a => exact ⟨a, rfl, h⟩

/-- A queue that could be made is new, whoever has handed out the memory for it. -/
theorem Queue.eq_of_create {name : String} {capacity slotLength : Nat} {allocator : Allocator}
    {q : Queue} (hcreate : Queue.create name capacity slotLength allocator = .ok q) :
    0 < capacity ∧ 2 ≤ slotLength ∧ q = Queue.ofGeometry name capacity slotLength := by
  unfold create at hcreate
  split at hcreate
  · contradiction
  · split at hcreate
    · contradiction
    · next hcapacity hlength =>
      refine ⟨by omega, by omega, ?_⟩
      split at hcreate
      · contradiction
      · contradiction
      · exact (Except.ok.inj hcreate).symm

/-- A plan that a run can work with: a queue has a slot, and the sentinel fits all slots. -/
structure Plan.Usable (plan : Plan) : Prop where
  capacity_pos : 0 < plan.settings.queueCapacity
  sentinel_lt_name : plan.sentinel.text.utf8ByteSize < plan.settings.maxNameLength
  sentinel_lt_fileName : plan.sentinel.text.utf8ByteSize < plan.settings.maxFileNameLength

/-- Settings that pass their checks make a usable plan. -/
theorem Plan.usable_of_create {settings : Settings} {plan : Plan}
    (hcreate : Plan.create settings = .ok plan) : plan.Usable := by
  unfold Plan.create at hcreate
  obtain ⟨_, hcheck, hcreate⟩ := exists_of_bind_eq_ok hcreate
  obtain ⟨sentinel, hsentinel, hcreate⟩ := exists_of_bind_eq_ok hcreate
  obtain rfl := Except.ok.inj hcreate
  have htext := (Sentinel.create_eq_ok_iff _ _).mp hsentinel
  unfold Settings.check at hcheck
  split at hcheck
  · contradiction
  · next hcapacity =>
    obtain ⟨_, hname, hcheck⟩ := exists_of_bind_eq_ok hcheck
    obtain ⟨_, hfileName, -⟩ := exists_of_bind_eq_ok hcheck
    have h₁ := (Settings.checkSlot_eq_ok_iff _ _ _).mp hname
    have h₂ := (Settings.checkSlot_eq_ok_iff _ _ _).mp hfileName
    rw [← htext] at h₁ h₂
    exact ⟨Nat.pos_of_ne_zero hcapacity, h₁.2, h₂.2⟩

namespace Run

variable {told : Instructions} {run : Run} {history : History}

/-! ## The first state

A launch checks the request, makes the queues, and then spawns its threads, and each of these may be
refused. A run that gets through all of it begins with `Run.initial`: what is left to vary are the
threads that were refused, and with them the pools, the stages and the first activity of the driver.
Everything below is said of any such state. -/

/-- A run that is about to begin, with an outsider beside it. What is refused to it decides which
pools it has; that there is memory for its queues is known by then. -/
def initial (plan : Plan) (request : RunRequest) (sinks : Sinks) (refusals : Refusals)
    (outsider : Option SinkCall) : Run :=
  let pools := spawnPools request refusals.thread
  { files := Queue.ofGeometry "files" plan.settings.queueCapacity plan.settings.maxFileNameLength
    hosts := Queue.ofGeometry "hosts" plan.settings.queueCapacity plan.settings.maxNameLength
    requesterStage := pools.requesterStage
    resolverStage := pools.resolverStage
    sinks := sinks
    requesters := pools.requesters.members
    resolvers := pools.resolvers.members
    driver := pools.driver request.files
    outsider := outsider }

/-- **How every run begins**, whatever is refused to it. -/
theorem eq_of_launch {plan : Plan} {request : RunRequest} {sinks : Sinks} {refusals : Refusals}
    (hlaunch : launch plan request sinks refusals = .ok run) :
    plan.check request = .ok () ∧ run = initial plan request sinks refusals none := by
  unfold launch at hlaunch
  obtain ⟨_, hcheck, hlaunch⟩ := exists_of_bind_eq_ok hlaunch
  obtain ⟨files, hfiles, hlaunch⟩ := exists_of_bind_eq_ok hlaunch
  obtain ⟨hosts, hhosts, hlaunch⟩ := exists_of_bind_eq_ok hlaunch
  obtain rfl := Except.ok.inj hlaunch
  obtain ⟨-, -, rfl⟩ := Queue.eq_of_create hfiles
  obtain ⟨-, -, rfl⟩ := Queue.eq_of_create hhosts
  exact ⟨hcheck, rfl⟩

/-- With all its threads a run begins as if nothing were refused: the memory is not to be seen in
it. -/
theorem eq_of_start {plan : Plan} {request : RunRequest} {sinks : Sinks} {memory : Allocator}
    (hstart : Run.start plan request sinks memory = .ok run) :
    plan.check request = .ok () ∧ run = initial plan request sinks {} none := by
  have hlaunch : launch plan request sinks { memory := memory } = .ok run := hstart
  obtain ⟨hcheck, hrun⟩ := eq_of_launch hlaunch
  exact ⟨hcheck, hrun⟩

/-- A request that is accepted starts if there is memory for both queues. -/
theorem launch_eq_ok {plan : Plan} {request : RunRequest} {files hosts : Queue} (sinks : Sinks)
    (refusals : Refusals) (hcheck : plan.check request = .ok ())
    (hfiles : Queue.create "files" plan.settings.queueCapacity plan.settings.maxFileNameLength
      refusals.memory = .ok files)
    (hhosts : Queue.create "hosts" plan.settings.queueCapacity plan.settings.maxNameLength
      refusals.memory = .ok hosts) :
    launch plan request sinks refusals = .ok (initial plan request sinks refusals none) := by
  obtain ⟨-, -, rfl⟩ := Queue.eq_of_create hfiles
  obtain ⟨-, -, rfl⟩ := Queue.eq_of_create hhosts
  simp only [launch, bind, Except.bind, hcheck, hfiles, hhosts]
  rfl

/-- The case in which nothing is refused. -/
theorem start_eq_ok {plan : Plan} {request : RunRequest} {files hosts : Queue} (sinks : Sinks)
    (hcheck : plan.check request = .ok ())
    (hfiles : Queue.create "files" plan.settings.queueCapacity plan.settings.maxFileNameLength =
      .ok files)
    (hhosts : Queue.create "hosts" plan.settings.queueCapacity plan.settings.maxNameLength =
      .ok hosts) :
    Run.start plan request sinks = .ok (initial plan request sinks {} none) :=
  launch_eq_ok sinks {} hcheck hfiles hhosts

namespace Pools

/-- The names of data files that the driver goes through, one by one. -/
def namesToFeed (pools : Pools) (files : List String) : List String :=
  if pools.feeds then files else []

/-- The number of names that are left out at once, because nobody is to be fed with them. -/
def skippedAtOnce (pools : Pools) (files : List String) : Nat :=
  if pools.feeds then 0 else files.length

variable {pools : Pools}

/-- The driver feeds the names, if somebody is to be fed with them, or drains at once. -/
theorem activity_driver (pools : Pools) (files : List String) :
    (pools.driver files).activity = feed (pools.namesToFeed files) := by
  unfold driver namesToFeed
  split <;> rfl

/-- What a spawn has been refused for is kept from the beginning. -/
theorem kept_driver (pools : Pools) (files : List String) :
    (pools.driver files).account.kept = pools.account.kept := by
  unfold driver
  split <;> rfl

/-- Nothing is counted yet but the names that were left out. -/
theorem summary_driver (pools : Pools) (files : List String) :
    (pools.driver files).account.summary =
      { pools.account.summary with
        filesSkipped := pools.account.summary.filesSkipped + pools.skippedAtOnce files } := by
  unfold driver skippedAtOnce
  split <;> rfl

/-- The driver feeds all the names or none of them. -/
theorem sublist_namesToFeed (pools : Pools) (files : List String) :
    (pools.namesToFeed files).Sublist files := by
  unfold namesToFeed
  split
  · exact .refl _
  · exact List.nil_sublist _

/-- Only a requester that was started can be fed. -/
theorem length_ne_zero_of_feeds (hfeeds : pools.feeds = true) : pools.requesters.length ≠ 0 := by
  simp only [feeds, Bool.and_eq_true] at hfeeds
  exact of_decide_eq_true hfeeds.2

end Pools

section Initial

variable {plan : Plan} {request : RunRequest} {sinks : Sinks} {refusals : Refusals}
  {outsider : Option SinkCall}

/-- The workers of a run are the members of its pools. -/
theorem workers_initial (stage : Stage) :
    (initial plan request sinks refusals outsider).workers stage =
      ((spawnPools request refusals.thread).pool stage).members := by
  cases stage <;> rfl

/-- Every stage waits for the workers that it has. -/
theorem shutdown_initial (stage : Stage) :
    (initial plan request sinks refusals outsider).shutdown stage =
      Shutdown.start stage.name ((spawnPools request refusals.thread).pool stage).length := by
  have hpools := spawnPools_eq request refusals.thread
  cases stage with
  | requester =>
    show (spawnPools request refusals.thread).requesterStage = _
    rw [hpools]
    rfl
  | resolver =>
    show (spawnPools request refusals.thread).resolverStage = _
    rw [hpools]
    rfl

/-- No more workers are there than were requested. -/
theorem length_workers_initial_le (stage : Stage) :
    ((initial plan request sinks refusals outsider).workers stage).length ≤
      request.threads stage := by
  rw [workers_initial, Pool.length_members]
  exact length_pool_le request refusals.thread stage

/-- Each worker begins at its place, under its name. -/
theorem eq_start_of_initial {stage : Stage} {i : Nat} {w : Worker}
    (hplace : ((initial plan request sinks refusals outsider).workers stage)[i]? = some w) :
    w = Worker.start stage (Worker.nameOf stage.name i) := by
  rw [workers_initial, members_spawnPools, List.getElem?_map, Option.map_eq_some_iff] at hplace
  obtain ⟨j, hj, rfl⟩ := hplace
  obtain ⟨hlt, rfl⟩ := List.getElem?_eq_some_iff.mp hj
  rw [List.getElem_range]

/-- A worker begins in front of its first `get`. -/
theorem activity_of_mem_initial {stage : Stage} {w : Worker}
    (hmem : w ∈ (initial plan request sinks refusals outsider).workers stage) :
    w.activity = .taking .entering := by
  obtain ⟨i, hplace⟩ := List.mem_iff_getElem?.mp hmem
  rw [eq_start_of_initial hplace]
  rfl

theorem activity_initial : (initial plan request sinks refusals outsider).driver.activity =
    feed ((spawnPools request refusals.thread).namesToFeed request.files) :=
  Pools.activity_driver _ _

theorem summary_initial : (initial plan request sinks refusals outsider).driver.account.summary =
    { filesSkipped := (spawnPools request refusals.thread).skippedAtOnce request.files } := by
  refine (Pools.summary_driver _ _).trans ?_
  rw [summary_spawnPools, Nat.zero_add]

/-- A run that has kept no failure at its beginning has begun with all its threads. -/
theorem initial_of_kept
    (hkept : (initial plan request sinks refusals outsider).driver.account.kept = none) :
    initial plan request sinks refusals outsider = initial plan request sinks {} outsider := by
  rw [initial, spawnPools_of_kept ((Pools.kept_driver _ _).symm.trans hkept)]
  rfl

/-- If no thread is refused there is no failure to keep. -/
theorem kept_initial : (initial plan request sinks {} outsider).driver.account.kept = none := by
  refine (Pools.kept_driver _ _).trans ?_
  show (spawnPools request fun _ _ => none).account.kept = none
  rw [spawnPools_none]

/-- With all its threads a run has as many workers as were requested. -/
theorem length_workers_initial (stage : Stage) :
    ((initial plan request sinks {} outsider).workers stage).length = request.threads stage := by
  rw [workers_initial, Pool.length_members]
  exact length_pool_none request stage

/-- The driver is in front of the first stage, or it has nobody to feed and begins to drain. -/
theorem standing_initial (run : Run) (hrun : run = initial plan request sinks refusals outsider)
    (stage : Stage) : run.driver.activity.standing stage = .ahead ∨
      run.driver.activity.standing stage = .draining .claiming := by
  subst hrun
  rw [activity_initial]
  exact DriverActivity.standing_feed _ stage

/-- No sentinel has been put. -/
theorem sentinelsPut_initial (stage : Stage) :
    (initial plan request sinks refusals outsider).sentinelsPut stage = 0 := by
  rw [sentinelsPut, shutdown_initial]
  rcases standing_initial _ rfl stage with heq | heq <;> rw [heq] <;> rfl

/-- At the beginning nobody is inside of a call that others have to reckon with. -/
theorem phase?_initial (actor : Actor) (stage : Stage) :
    ((initial plan request sinks refusals outsider).callOn actor stage).bind Call.phase? =
      none := by
  cases actor with
  | driver =>
    show ((initial plan request sinks refusals outsider).driver.activity.callOn stage).bind
      Call.phase? = none
    rw [activity_initial]
    exact callOn_feed _ stage
  | worker own i =>
    simp only [callOn]
    cases hplace : ((initial plan request sinks refusals outsider).workers own)[i]? with
    | none => rfl
    | some w =>
      have hactivity := activity_of_mem_initial (List.mem_of_getElem? hplace)
      simp only [Option.bind_some, hactivity]
      -- about to enter its first `get`, a worker is in no phase yet
      split
      · rfl
      · split <;> rfl
  | outsider => rfl

/-- Nothing has happened yet, so there is little to check: the permits are all free, the sentinel
fits, and the driver has no name in its hands that looks like one. -/
theorem orderly_initial (husable : plan.Usable) (hfiles : plan.sentinel.text ∉ request.files) :
    Orderly plan.sentinel [] (initial plan request sinks refusals outsider) where
  sound :=
    { balanced := fun stage => by
        have hcalls : (initial plan request sinks refusals outsider).calls stage = fun _ => 0 := by
          funext p
          simp [calls, phase?_initial]
        rw [hcalls]
        cases stage <;> exact Queue.Balanced.ofGeometry _ _ husable.capacity_pos
      ledger := fun stage => by cases stage <;> exact Queue.Ledger.ofGeometry _ _ _ }
  workers_eq stage := by
    rw [shutdown_initial, workers_initial, Pool.length_members]
    rfl
  fits stage := by
    have hname := husable.sentinel_lt_name
    have hfileName := husable.sentinel_lt_fileName
    rw [Queue.fits_iff]
    cases stage
    · exact Nat.le_sub_one_of_lt hfileName
    · exact Nat.le_sub_one_of_lt hname
  offers stage w hmem := by
    rw [activity_of_mem_initial hmem]
    trivial
  names := by
    rw [activity_initial, DriverActivity.names_feed]
    exact fun hmem => hfiles ((Pools.sublist_namesToFeed _ _).subset hmem)
  feeding hahead := by
    -- a driver that is still in front of the first stage has somebody to feed
    rw [activity_initial] at hahead
    unfold Pools.namesToFeed at hahead
    split at hahead
    · next hfeeds =>
      have hsome := Pools.length_ne_zero_of_feeds hfeeds
      rw [← Pool.length_members] at hsome
      exact fun hnone => hsome (congrArg List.length hnone)
    · contradiction
  law stage := by
    refine Standing.law_of_hasBegun (standing_initial _ rfl stage) ?_
    rw [shutdown_initial]
    exact ⟨rfl, rfl⟩
  joined stage j w hplace hjoined := by
    rcases standing_initial _ rfl stage with heq | heq <;> rw [heq] at hjoined <;>
      exact hjoined.elim
  holding stage := by
    refine List.countP_eq_zero.mpr fun w hmem => ?_
    rw [activity_of_mem_initial hmem]
    exact Bool.false_ne_true
  storing stage := by
    -- nothing has been stored, and no sentinel put
    refine ⟨[], List.not_mem_nil, ?_⟩
    rw [sentinelsPut_initial]
    rfl
  closed stage w hmem hclosed := by
    rw [activity_of_mem_initial hmem] at hclosed
    contradiction

end Initial

/-- Time passes, and nothing else changes. -/
theorem Orderly.tick {sentinel : Sentinel} (h : Orderly sentinel history run) (moment : Nat) :
    Orderly sentinel history { run with moment := moment } :=
  ⟨⟨h.sound.balanced, h.sound.ledger⟩, h.workers_eq, h.fits, h.offers, h.names, h.feeding, h.law,
    h.joined, h.holding, h.storing, h.closed⟩

/-- **Every run is orderly** at every moment, whatever is refused to it at its beginning and
whatever the environment, the sinks and the outsider do to it. -/
theorem orderly_of_traces {plan : Plan} {request : RunRequest} {sinks : Sinks}
    {refusals : Refusals} {outsider : Option SinkCall} {environment : Environment}
    (husable : plan.Usable) (hfiles : plan.sentinel.text ∉ request.files)
    (htrace : Traces (step (plan.instructions environment)) (events (plan.instructions environment))
      (initial plan request sinks refusals outsider) history run) :
    Orderly plan.sentinel history run := by
  refine htrace.invariant (orderly_initial husable hfiles) ?_
  intro actor history mid next h hstep
  -- a step is a move, and then a moment has passed
  obtain ⟨next, hmove, rfl⟩ := moves_of_step hstep
  exact (Orderly.move h hmove).tick _

end Run

end HostLookup
