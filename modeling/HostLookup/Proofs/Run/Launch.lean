import HostLookup.Proofs.Config.Requirements
import HostLookup.Proofs.Run.Causes

/-!
# Checked settings never fail a run

Settings and a request that were checked are not complained about any more, whichever threads the
system refuses, whatever the world does and however the threads take turns. Above all the drains
find a slot long enough for their sentinels; otherwise no worker of the stage would ever be stopped.

* **`DrainCall.Moves.error_of_fits`**: a drain that puts a fitting sentinel fails for a closed queue
  or for the state of its stage.
* **`Run.Blameless`** is what holds at every moment, and **`Run.Blameless.move`** keeps it.
* **`Settings.check_sound_and_complete`**: the check in advance against all that comes later.
-/

namespace HostLookup

/-! ## Drains

A drain is the one place at which the sentinel meets a queue, so it is the one place where a
sentinel that is too long would come to light. A drain carries the sentinel and nothing else, and
the sentinel fits, so of the answers that a `put` can give only that of a closed queue is left. -/

namespace DrainCall

/-- A drain puts nothing but this text. -/
def PutsOnly (text : String) : DrainCall → Prop
  | .putting _ (.entering item) | .putting _ (.admitted item) => item = text
  | _ => True

variable {sentinel : Sentinel} {before stage stage' : Shutdown} {q q' : Queue} {call : DrainCall}

/-- A drain goes on with a `put` of the sentinel. -/
theorem putsOnly_proceed (sentinel : Sentinel) {later : Nat}
    (hproceed : proceed sentinel later = .goesOn call) : call.PutsOnly sentinel.text := by
  cases later with
  | zero => contradiction
  | succ later =>
    cases hproceed
    exact rfl

/-- To go on, or to be done, is no failure. -/
theorem proceed_ne_error (sentinel : Sentinel) (later : Nat) (failure : Failure) :
    proceed sentinel later ≠ .returns (.error failure) := by
  intro heq
  cases later with
  | zero => cases Progress.returns.inj heq
  | succ later => cases heq

/-- The `put` of a drain keeps its item. -/
theorem Moves.putsOnly {call' : DrainCall}
    (h : Moves sentinel before stage q call (.goesOn call') stage' q')
    (hputs : call.PutsOnly sentinel.text) : call'.PutsOnly sentinel.text := by
  generalize hprogress : Progress.goesOn call' = progress at h
  cases h with
  | allow | hold | sent =>
    cases hprogress
    exact trivial
  | claim | count => exact putsOnly_proceed sentinel hprogress.symm
  | put hstep =>
    cases hprogress
    cases PutCall.moves_of_step hstep with
    | enter => exact hputs
    | store => exact trivial
  | refuse | late | fail => contradiction

/-- **What a drain can fail for** if its sentinel fits: somebody has closed the queue, or the stage
is in no state to be drained. -/
theorem Moves.error_of_fits {failure : Failure}
    (h : Moves sentinel before stage q call (.returns (.error failure)) stage' q')
    (hputs : call.PutsOnly sentinel.text) (hfits : q.fits sentinel.text = true) :
    failure = .queue .destroyed ∨ ∃ message, failure = .resource message := by
  generalize hprogress :
    (Progress.returns (.error failure) : Progress DrainCall (Except Failure Unit)) = progress at h
  cases h with
  | refuse =>
    cases hprogress
    exact Or.inr ⟨_, rfl⟩
  | late hclaim =>
    cases hprogress
    -- a stage that is not running is refused in words about its state
    unfold Shutdown.claim at hclaim
    split at hclaim
    · exact Or.inr ⟨_, (Except.error.inj hclaim).symm⟩
    · contradiction
  | fail hstep =>
    cases hprogress
    rcases (PutCall.moves_of_step hstep).refused_for with ⟨item, rfl, hlong, -⟩ | ⟨rfl, -⟩
    · -- the item is the sentinel
      obtain rfl : item = sentinel.text := hputs
      exact absurd hfits (by rw [hlong]; decide)
    · exact Or.inl rfl
  | claim | count => exact absurd hprogress.symm (proceed_ne_error sentinel _ failure)
  | allow | hold | put | sent => contradiction

end DrainCall

/-! ## Workers

A worker may end for many reasons, but all of them lie outside of the settings: a sink, a data file,
a queue that was closed, a panic. -/

/-- No worker ends for a failure of the settings. -/
theorem Worker.Breaks.isConfig_eq_false {w : Worker} {desk : Desk} {failure : Failure}
    (h : Breaks w desk (.failing failure)) : failure.isConfig = false := by
  cases h <;> rfl

namespace Run

variable {told : Instructions} {run run' : Run} {actor : Actor} {sentinel : Sentinel}

/-- What holds at every moment of a run whose settings were checked. -/
structure Blameless (sentinel : Sentinel) (run : Run) : Prop where
  fits : ∀ stage, (run.queue stage).fits sentinel.text = true
  puts : ∀ stage call, run.driver.activity = .draining stage call → call.PutsOnly sentinel.text
  endings : ∀ stage, ∀ w ∈ run.workers stage, ∀ failure,
    w.activity.ending? = some (.failing failure) → failure.isConfig = false
  kept : ∀ failure, run.driver.account.kept = some failure → failure.isConfig = false
  returned : ∀ failure, run.driver.activity = .returned (.error failure) → failure.isConfig = false

namespace Blameless

/-- **What a driver notes on its way** is never a failure of the settings: a closed queue, a report
that was refused, a drain that came to nothing, the failure of a worker or its panic. -/
theorem noted (h : Blameless told.sentinel run) {failure : Failure}
    (hnoted : Noted told run failure) :
    failure.isConfig = false := by
  cases hnoted with
  | fed | rejected => rfl
  | @drained stage _ _ _ _ hactivity hmove =>
    obtain rfl | ⟨message, rfl⟩ := hmove.error_of_fits (h.puts _ _ hactivity) (h.fits stage) <;> rfl
  | @joined stage _ w ending _ hplace _ hending =>
    cases ending with
    | failing failure => exact h.endings stage w (List.mem_of_getElem? hplace) failure hending
    | panicking => rfl

/-- The geometry of a queue does not change, so the sentinel goes on fitting. -/
theorem fits_move (h : Blameless sentinel run) (hmove : Moves told run actor run') (stage : Stage) :
    (run'.queue stage).fits sentinel.text = true := by
  rw [Queue.fits_iff, (hmove.turn stage).geometry.2.2, ← Queue.fits_iff]
  exact h.fits stage

/-- A worker that begins to leave does so for a reason of its own. -/
theorem endings_move (h : Blameless sentinel run) (hmove : Moves told run actor run')
    (stage : Stage) (w : Worker) (hmem : w ∈ run'.workers stage) (failure : Failure)
    (hending : w.activity.ending? = some (.failing failure)) : failure.isConfig = false := by
  rcases hmove.mem_workers hmem with hold | ⟨i, u, desk, hplace, hworker⟩
  · exact h.endings stage w hold failure hending
  · rcases hworker.ending with heq | ⟨-, ending, heq, hbreaks⟩
    · exact h.endings stage u (List.mem_of_getElem? hplace) failure (heq ▸ hending)
    · obtain rfl : ending = .failing failure := Option.some.inj (heq.symm.trans hending)
      exact hbreaks.isConfig_eq_false

/-- What is kept was kept before or has been noted now. -/
theorem kept_move (h : Blameless told.sentinel run) (hmove : Moves told run actor run')
    (failure : Failure) (hkept : run'.driver.account.kept = some failure) :
    failure.isConfig = false := by
  rcases hmove.kept with heq | ⟨-, new, hnoted, heq⟩
  · exact h.kept failure (heq ▸ hkept)
  · obtain ⟨later, hlater, hfrom, -⟩ := keepFirst_some run.driver.account.kept new
    obtain rfl : later = failure := Option.some.inj (hlater.symm.trans (heq.symm.trans hkept))
    -- the rule keeps one of the two failures
    rcases hfrom with rfl | hearlier
    · exact h.noted hnoted
    · exact h.kept later hearlier

/-- A driver that turns to the names begins a drain at most, and that carries nothing yet. -/
theorem putsOnly_of_feed (files : List String) (stage : Stage) (call : DrainCall)
    (hfeed : feed files = .draining stage call) : call.PutsOnly sentinel.text := by
  cases files with
  | nil =>
    cases hfeed
    exact trivial
  | cons => contradiction

/-- A drain that goes on carries the sentinel as before, and a drain that begins carries nothing. -/
theorem puts_move (h : Blameless told.sentinel run) (hmove : Moves told run actor run')
    (stage : Stage) (call : DrainCall) (hactivity' : run'.driver.activity = .draining stage call) :
    call.PutsOnly told.sentinel.text := by
  by_cases hne : actor = .driver
  · subst hne
    cases hmove with
    | @fed file _ later result =>
      cases result with
      | ok => exact putsOnly_of_feed later stage call hactivity'
      | error error =>
        cases error with
        | itemTooLarge => contradiction
        | destroyed | alreadyDestroyed => exact putsOnly_of_feed [] stage call hactivity'
    | @reject failure later =>
      cases hwrite : (run.sinks.writeLine .stderr (rejection failure)).1 with
      | ok =>
        rw [hwrite] at hactivity'
        exact putsOnly_of_feed later stage call hactivity'
      | error =>
        rw [hwrite] at hactivity'
        exact putsOnly_of_feed [] stage call hactivity'
    | drain hactivity hdrain =>
      cases hactivity'
      exact hdrain.putsOnly (h.puts _ _ hactivity)
    -- behind the first stage comes the drain of the second, from its beginning
    | @finish own =>
      cases own with
      | requester =>
        cases hactivity'
        exact trivial
      | resolver => contradiction
    | feed | drained | joined | joinedAll | clear | clearedFirst | clearedSecond => contradiction
  · rw [hmove.driver_eq hne] at hactivity'
    exact h.puts stage call hactivity'

/-- The answer of a run is a failure that was kept, or one from destroying a queue. -/
theorem isConfig_of_conclusion {driver : Driver} {elapsed : Elapsed} {failure : Failure}
    (hkept : ∀ failure, driver.account.kept = some failure → failure.isConfig = false)
    (hconclusion : conclusion driver elapsed = .error failure) : failure.isConfig = false := by
  unfold conclusion at hconclusion
  split at hconclusion
  · next kept heq => exact Except.error.inj hconclusion ▸ hkept kept heq
  · split at hconclusion
    · exact Except.error.inj hconclusion ▸ rfl
    · contradiction

/-- Only the last step of the driver answers, and then with what was kept. -/
theorem returned_move (h : Blameless told.sentinel run) (hmove : Moves told run actor run')
    (failure : Failure) (hreturned : run'.driver.activity = .returned (.error failure)) :
    failure.isConfig = false := by
  have hfeed : ∀ files, feed files ≠ .returned (.error failure) := by
    intro files
    cases files <;> exact nofun
  by_cases hne : actor = .driver
  · subst hne
    cases hmove with
    | @fed file _ later result =>
      cases result with
      | ok => exact absurd hreturned (hfeed later)
      | error error => cases error <;> contradiction
    | @reject failure later =>
      cases hwrite : (run.sinks.writeLine .stderr (rejection failure)).1 with
      | ok =>
        rw [hwrite] at hreturned
        exact absurd hreturned (hfeed later)
      | error =>
        rw [hwrite] at hreturned
        exact absurd hreturned (hfeed [])
    | @finish own => cases own <;> contradiction
    | feed | drain | drained | joined | joinedAll | clear | clearedFirst => contradiction
    | clearedSecond =>
      refine isConfig_of_conclusion (fun failure hkept => h.kept failure ?_)
        (DriverActivity.returned.inj hreturned)
      rwa [cleared, driver_setQueue] at hkept
  · rw [hmove.driver_eq hne] at hreturned
    exact h.returned failure hreturned

/-- **Every step keeps a run blameless.** -/
theorem move (h : Blameless told.sentinel run) (hmove : Moves told run actor run') :
    Blameless told.sentinel run' where
  fits := h.fits_move hmove
  puts := h.puts_move hmove
  endings := h.endings_move hmove
  kept := h.kept_move hmove
  returned := h.returned_move hmove

theorem tick (h : Blameless sentinel run) (moment : Nat) :
    Blameless sentinel { run with moment := moment } :=
  ⟨h.fits, h.puts, h.endings, h.kept, h.returned⟩

end Blameless

/-! ## The beginning

What a run has kept before its first step are the threads that were refused to it, and of the queues
only the memory is still in question: that they have slots, and slots of a usable length, was
checked. -/

/-- A pool that could not be spawned in full is no fault of the settings. -/
theorem isConfig_of_spawned {stage : Stage} {refused : Nat → Option String} {count : Nat}
    {failure : Failure} (hspawned : (poolOf stage count refused).spawned = .error failure) :
    failure.isConfig = false := by
  rcases Pool.spawned_spawn stage.name count (fun name _ => Worker.start stage name) refused
    with ⟨-, hok⟩ | ⟨reason, -, herror⟩
  · cases hspawned.symm.trans hok
  · cases hspawned.symm.trans herror
    rfl

/-- Of two failures one is kept, and neither is a failure of the settings. -/
theorem isConfig_of_note {account : Account} {result : Except Failure Unit}
    (hkept : ∀ failure, account.kept = some failure → failure.isConfig = false)
    (hresult : ∀ failure, result = .error failure → failure.isConfig = false) (failure : Failure)
    (hnote : (account.note id result).kept = some failure) : failure.isConfig = false := by
  cases result with
  | ok => exact hkept failure hnote
  | error new =>
    obtain ⟨later, hlater, hfrom, -⟩ := keepFirst_some account.kept new
    obtain rfl : later = failure := Option.some.inj (hlater.symm.trans hnote)
    rcases hfrom with rfl | hearlier
    · exact hresult later rfl
    · exact hkept later hearlier

/-- What a run keeps after its pools were spawned are refused threads. -/
theorem isConfig_of_spawnPools (request : RunRequest) (refused : Stage → Nat → Option String)
    (failure : Failure) (hkept : (spawnPools request refused).account.kept = some failure) :
    failure.isConfig = false := by
  rw [spawnPools_eq] at hkept
  have hnothing : ∀ failure, ({} : Account).kept = some failure → failure.isConfig = false :=
    fun failure hnone => nomatch (hnone : none = some failure)
  exact isConfig_of_note (isConfig_of_note hnothing fun _ => isConfig_of_spawned)
    (fun _ => isConfig_of_spawned) failure hkept

variable {plan : Plan} {request : RunRequest} {sinks : Sinks} {refusals : Refusals}

/-- A run that is launched begins with new queues, with workers at their places and without a
failure of the settings. -/
theorem blameless_of_launch (husable : plan.Usable)
    (hlaunch : launch plan request sinks refusals = .ok run) (outsider : Option SinkCall) :
    Blameless plan.sentinel { run with outsider := outsider } := by
  obtain ⟨-, rfl⟩ := eq_of_launch hlaunch
  have hactivity : (initial plan request sinks refusals none).driver.activity = _ :=
    activity_initial
  constructor
  · intro stage
    -- the sentinel is shorter than the slots of both queues
    have hname := husable.sentinel_lt_name
    have hfileName := husable.sentinel_lt_fileName
    rw [Queue.fits_iff]
    cases stage
    · exact Nat.le_sub_one_of_lt hfileName
    · exact Nat.le_sub_one_of_lt hname
  · intro stage call heq
    exact Blameless.putsOnly_of_feed _ stage call (hactivity.symm.trans heq)
  · intro stage w hmem failure hending
    have hplace : w ∈ (initial plan request sinks refusals none).workers stage := by
      cases stage <;> exact hmem
    rw [activity_of_mem_initial hplace] at hending
    contradiction
  · intro failure heq
    exact isConfig_of_spawnPools request refusals.thread failure
      ((Pools.kept_driver _ _).symm.trans heq)
  · intro failure heq
    have hfeed : feed _ = .returned (.error failure) := hactivity.symm.trans heq
    generalize (spawnPools request refusals.thread).namesToFeed request.files = names at hfeed
    cases names <;> contradiction

/-- What a run may still fail for when it is launched is a lack of memory. -/
theorem isConfig_of_launch (husable : plan.Usable)
    (hlengths : 2 ≤ plan.settings.maxNameLength ∧ 2 ≤ plan.settings.maxFileNameLength)
    (hcheck : plan.check request = .ok ()) {failure : Failure}
    (hlaunch : launch plan request sinks refusals = .error failure) : failure.isConfig = false := by
  simp only [launch, hcheck, bind, Except.bind] at hlaunch
  split at hlaunch
  · next heq =>
    cases hlaunch
    -- the queue of file names has slots, and slots that hold something
    exact (Queue.create_isConfig_iff _ _ _ _).mpr ⟨husable.capacity_pos, hlengths.2⟩ _ heq
  · split at hlaunch
    · next heq =>
      cases hlaunch
      exact (Queue.create_isConfig_iff _ _ _ _).mpr ⟨husable.capacity_pos, hlengths.1⟩ _ heq
    · contradiction

/-- Nothing that was checked in advance fails later: neither the beginning of a run nor its answer
is a failure of the settings, and no sentinel is too long for its queue. -/
structure NoConfigFailure (plan : Plan) (request : RunRequest) (sinks : Sinks)
    (refusals : Refusals) : Prop where
  begins : ∀ failure, launch plan request sinks refusals = .error failure → failure.isConfig = false
  answers : ∀ begun, launch plan request sinks refusals = .ok begun →
    ∀ (environment : Environment) (outsider : Option SinkCall) (now : Run),
      Reachable (plan.instructions environment) { begun with outsider := outsider } now →
      ∀ failure, now.result? = some (.error failure) → failure.isConfig = false
  drains : ∀ begun, launch plan request sinks refusals = .ok begun →
    ∀ (environment : Environment) (outsider : Option SinkCall) (now : Run),
      Reachable (plan.instructions environment) { begun with outsider := outsider } now →
      ∀ stage call, now.driver.activity = .draining stage call →
        ∀ length max shutdown queue,
          call.step plan.sentinel now.requesterStage (now.shutdown stage) (now.queue stage) ≠
            some (.returns (.error (.queue (.itemTooLarge length max))), shutdown, queue)

/-- A run that begins blameless stays so. -/
theorem blameless_of_reachable {environment : Environment} {begun : Run}
    (hbegun : Blameless plan.sentinel begun)
    (hreach : Reachable (plan.instructions environment) begun run) :
    Blameless plan.sentinel run := by
  refine hreach.invariant hbegun fun actor mid next h hstep => ?_
  obtain ⟨next, hmove, rfl⟩ := moves_of_step hstep
  exact (Blameless.move h hmove).tick _

/-- **Nothing that was checked in advance fails later**, for any plan that is usable. -/
theorem noConfigFailure_of_usable (husable : plan.Usable)
    (hlengths : 2 ≤ plan.settings.maxNameLength ∧ 2 ≤ plan.settings.maxFileNameLength)
    (hcheck : plan.check request = .ok ()) (sinks : Sinks) (refusals : Refusals) :
    NoConfigFailure plan request sinks refusals where
  begins _ := isConfig_of_launch husable hlengths hcheck
  answers begun hlaunch environment outsider now hreach failure hresult := by
    have hnow := blameless_of_reachable (blameless_of_launch husable hlaunch outsider) hreach
    exact hnow.returned failure (activity_of_result? hresult)
  drains begun hlaunch environment outsider now hreach stage call hactivity length max shutdown
      queue hstep := by
    have hnow := blameless_of_reachable (blameless_of_launch husable hlaunch outsider) hreach
    have hfailure := (DrainCall.moves_of_step hstep).error_of_fits (hnow.puts _ _ hactivity)
      (hnow.fits stage)
    rcases hfailure with heq | ⟨message, heq⟩ <;> cases heq

end Run

/-- **The check of the settings in advance agrees with everything that a run checks later.** It
passes exactly where every later condition holds. Where it does not, it names a setting that takes
part in a violated one. Where it does, there is a plan, and no accepted request makes a run of it
fail for its settings, whichever threads the system refuses and whatever happens. -/
theorem Settings.check_sound_and_complete (s : Settings) :
    (s.check = .ok () ↔ ∀ r : Requirement, r.Holds s) ∧
      (∀ failure, s.check = .error failure → s.Blames failure) ∧
      (s.check = .ok () → ∃ plan : Plan, Plan.create s = .ok plan ∧ plan.settings = s ∧
        plan.sentinel.text = s.sentinel ∧
        ∀ request, plan.check request = .ok () →
          ∀ sinks refusals, Run.NoConfigFailure plan request sinks refusals) := by
  refine ⟨s.check_eq_ok_iff_holds, fun failure => violated_of_check, fun hcheck => ?_⟩
  obtain ⟨-, hname, hfileName, hsentinel, -⟩ := s.check_eq_ok_iff.mp hcheck
  -- the sentinel passes on its own as well, so there is a plan
  have hcreate : Plan.create s = .ok { settings := s, sentinel := ⟨s.sentinel, hsentinel⟩ } := by
    have htext := (Sentinel.create_eq_ok_iff s.sentinel ⟨s.sentinel, hsentinel⟩).mpr rfl
    simp only [Plan.create, hcheck, htext, bind, Except.bind]
    rfl
  refine ⟨_, hcreate, rfl, rfl, fun request haccepted sinks refusals => ?_⟩
  exact Run.noConfigFailure_of_usable (Plan.usable_of_create hcreate)
    ⟨hname.1, hfileName.1⟩ haccepted sinks refusals

/-- Settings whose slots have no byte to spare, and a run whose second requester is refused: it
begins, and whatever it answers, its settings are not to blame. -/
theorem Settings.tight_settings_no_config_failure :
    let s : Settings :=
      { queueCapacity := 1, maxNameLength := 6, maxFileNameLength := 6 }
    let plan : Plan := { settings := s, sentinel := .standard }
    let request : RunRequest := { requesters := 2, resolvers := 1, files := ["a"] }
    let refusals : Refusals :=
      { thread := fun stage i =>
          if stage = .requester ∧ i = 1 then some "no more threads" else none }
    s.check = .ok () ∧ plan.check request = .ok () ∧
      ∃ begun, Run.launch plan request (.ofDevices fun _ => .memory) refusals = .ok begun ∧
        begun.requesters.length = 1 ∧
        ∀ (environment : Environment) (now : Run),
          Run.Reachable (plan.instructions environment) { begun with outsider := none } now →
          ∀ failure, now.result? = some (.error failure) → failure.isConfig = false := by
  intro s plan request refusals
  have hcheck : s.check = .ok () := by decide
  have haccepted : plan.check request = .ok () := by decide
  obtain ⟨-, -, hsound⟩ := check_sound_and_complete s
  obtain ⟨other, hcreate, -, -, hnone⟩ := hsound hcheck
  obtain rfl : plan = other := Except.ok.inj hcreate
  have hlaunch : Run.launch plan request (.ofDevices fun _ => .memory) refusals = .ok
      (Run.initial plan request (.ofDevices fun _ => .memory) refusals none) :=
    Run.launch_eq_ok _ refusals haccepted rfl rfl
  refine ⟨hcheck, haccepted, _, hlaunch, by decide +kernel, fun environment now hreach => ?_⟩
  exact (hnone request haccepted _ refusals).answers _ hlaunch environment none now hreach

end HostLookup
