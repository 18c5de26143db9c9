import HostLookup.Proofs.Run.Shares

/-!
# A calm run from beginning to end

All that is known of a calm run at a moment is its `Chronicle`: it is orderly and calm, and its
history says what the workers and the driver have done. A run begins with an empty chronicle, every
step continues it, and when the run is over each worker has done its share.

* **`Plan.terms`**: the terms that a plan, a request and the world set.
* **`Run.chronicle_of_traces`**: the chronicle of every calm run.
* **`Run.Chronicle.ended`**: each worker at the end.
-/

namespace HostLookup

/-- The terms of a run in a world in which a data file reads the same at all times, a host name has
the same answer at all times, and nothing panics. -/
def Plan.terms (plan : Plan) (request : RunRequest) (opening : String → Opening)
    (hopening : ∀ file, (opening file).Readable) (lookup : String → Lookup)
    (hlookup : ∀ host, lookup host ≠ .panicked) : Terms where
  sentinel := plan.sentinel
  notResolved := plan.settings.notResolved
  limit := if request.resolvers = 0 then none else some (plan.settings.maxNameLength - 1)
  opening := opening
  readable := hopening
  lookup := lookup
  lookup_ne_panicked := hlookup

namespace RunRequest

/-- The names that the driver goes through, one by one. -/
def namesToFeed (request : RunRequest) : List String :=
  if request.requesters = 0 then [] else request.files

/-- The number of names that are left out at once, because nobody could take them. -/
def skippedAtOnce (request : RunRequest) : Nat :=
  if request.requesters = 0 then request.files.length else 0

end RunRequest

namespace Run

variable {told : Instructions} {run run' : Run} {actor : Actor} {history : History} {t : Terms}
  {plan : Plan} {request : RunRequest} {sinks : Sinks}

/-- All that is known of a calm run at a moment. -/
structure Chronicle (t : Terms) (plan : Plan) (request : RunRequest) (sinks : Sinks)
    (history : History) (run : Run) : Prop where
  orderly : Orderly t.sentinel history run
  calm : Calm t run
  tale : Tale t sinks history run
  roles : Roles t.sentinel history run
  books : ∃ done, Books t.sentinel (plan.settings.maxFileNameLength - 1) request.skippedAtOnce
    request.namesToFeed history run done
  threads : ∀ stage, (run.workers stage).length = request.threads stage

/-! ## The beginning

With all its threads a run begins as its request says: the driver goes through all names, or leaves
out all of them if there is no requester. The invariants that do not ask for a calm run are shown
for any refusals, since others start from them too. -/

section Initial

variable {refusals : Refusals} {outsider : Option SinkCall}

/-- With all its threads a run feeds the names that its request says. -/
theorem namesToFeed_spawnPools (request : RunRequest) :
    (spawnPools request ({} : Refusals).thread).namesToFeed request.files =
      request.namesToFeed := by
  unfold Pools.namesToFeed RunRequest.namesToFeed
  rw [feeds_none]
  by_cases hnone : request.requesters = 0 <;> simp [hnone]

/-- And it leaves out at once those that the request says. -/
theorem skippedAtOnce_spawnPools (request : RunRequest) :
    (spawnPools request ({} : Refusals).thread).skippedAtOnce request.files =
      request.skippedAtOnce := by
  unfold Pools.skippedAtOnce RunRequest.skippedAtOnce
  rw [feeds_none]
  by_cases hnone : request.requesters = 0 <;> simp [hnone]

/-- A run with all its threads begins calmly: its rings are open, no failure is kept, and the limit
of host names is that of the second queue, if there is somebody behind it. -/
theorem calm_initial (hlimit : t.limit =
      if request.resolvers = 0 then none else some (plan.settings.maxNameLength - 1))
    (hwilling : sinks.Willing) : Calm t (initial plan request sinks {} none) where
  limit := by
    have hnone : (initial plan request sinks {} none).hasTarget .requester =
        !decide (request.resolvers = 0) := by
      have hlength : ((initial plan request sinks {} none).workers .resolver).length =
          request.resolvers := length_workers_initial .resolver
      rw [← hlength, hasTarget]
      show (!List.isEmpty ((initial plan request sinks {} none).workers .resolver)) = _
      cases (initial plan request sinks {} none).workers .resolver <;> rfl
    rw [target_map_desk, hnone, hlimit]
    by_cases hcount : request.resolvers = 0 <;> simp [hcount, queue, initial, Queue.ofGeometry]
  steady stage w hmem := by
    rw [activity_of_mem_initial hmem]
    trivial
  rings _ stage := by cases stage <;> rfl
  tidy := tidy_initial
  kept := kept_initial
  willing := hwilling
  outsider := rfl

/-- At the beginning there is nothing to tell. -/
theorem tale_initial : Tale t sinks [] (initial plan request sinks refusals outsider) where
  workers stage i w hplace := by
    obtain rfl := eq_start_of_initial hplace
    exact ⟨[], [], Worker.story_start _ stage i⟩
  written _ := (List.append_nil _).symm

/-- The driver has done nothing yet, and all that it is going to do is left. -/
theorem audit_initial (sentinel : Sentinel) :
    Audit sentinel (plan.settings.maxFileNameLength - 1)
      ((spawnPools request refusals.thread).skippedAtOnce request.files)
      ((spawnPools request refusals.thread).namesToFeed request.files)
      [] (initial plan request sinks refusals outsider) [] := by
  have hleft : [] ++ (initial plan request sinks refusals outsider).driver.activity.leftToFeed
      (plan.settings.maxFileNameLength - 1) =
        ((spawnPools request refusals.thread).namesToFeed request.files).flatMap
          (feedDeeds (plan.settings.maxFileNameLength - 1)) := by
    rw [activity_initial, DriverActivity.leftToFeed_feed]
    rfl
  refine ⟨rfl, fun file call later hactivity => ?_, hleft ▸ .refl _, fun _ => hleft, rfl,
    fun _ _ => rfl, ?_⟩
  · rw [activity_initial] at hactivity
    exact Audit.carries_feed _ file call later hactivity
  · rw [joinedReports_eq_nil fun stage => standing_initial _ rfl stage]
    exact summary_initial

/-- The same for a run with all its threads, in the words of its request. -/
theorem audit_unrefused (sentinel : Sentinel) :
    Audit sentinel (plan.settings.maxFileNameLength - 1) request.skippedAtOnce request.namesToFeed
      [] (initial plan request sinks {} outsider) [] := by
  rw [← namesToFeed_spawnPools, ← skippedAtOnce_spawnPools]
  exact audit_initial sentinel

end Initial

/-! ## Every step

Each part of the chronicle is kept by a lemma of its own. They are put together here, because some
of them need others: the stories of the workers, for instance, can only go on in an orderly run. -/

/-- **Every step continues the chronicle.** -/
theorem Chronicle.move (h : Chronicle t plan request sinks history run) (hhold : t.Hold told)
    (hmove : Moves told run actor run') :
    Chronicle t plan request sinks (history ++ events told actor run) run' := by
  obtain ⟨horderly, hcalm, htale, hroles, ⟨done, hbooks⟩, hthreads⟩ := h
  -- the workers are told the sentinel of the terms
  rw [← hhold.sentinel] at horderly hroles hbooks
  obtain ⟨now, hbooks'⟩ := hbooks.move hcalm horderly hmove
  have horderly' := horderly.move hmove
  have hroles' := hroles.move horderly hmove
  rw [hhold.sentinel] at horderly' hroles' hbooks'
  exact ⟨horderly', hcalm.move hhold horderly hmove, htale.move hcalm hhold horderly hmove, hroles',
    ⟨_, hbooks'⟩, fun stage => (hmove.length_workers stage).trans (hthreads stage)⟩

theorem Chronicle.tick (h : Chronicle t plan request sinks history run) (moment : Nat) :
    Chronicle t plan request sinks history { run with moment := moment } := by
  obtain ⟨horderly, hcalm, htale, hroles, ⟨done, hbooks⟩, hthreads⟩ := h
  exact ⟨horderly.tick moment,
    ⟨hcalm.limit, hcalm.steady, hcalm.rings, hcalm.tidy.tick moment, hcalm.kept, hcalm.willing,
      hcalm.outsider⟩,
    ⟨htale.workers, htale.written⟩,
    hroles.tick moment,
    ⟨done, hbooks.limit, hbooks.carries, hbooks.left, hbooks.stored, hbooks.lines, hbooks.summary⟩,
    hthreads⟩

/-- **The chronicle of every calm run**, in whatever order its threads move. -/
theorem chronicle_of_traces {environment : Environment} (husable : plan.Usable)
    (hfiles : plan.sentinel.text ∉ request.files)
    (hhold : t.Hold (plan.instructions environment))
    (hlimit : t.limit =
      if request.resolvers = 0 then none else some (plan.settings.maxNameLength - 1))
    (hwilling : sinks.Willing)
    (htrace : Traces (step (plan.instructions environment)) (events (plan.instructions environment))
      (initial plan request sinks {} none) history run) :
    Chronicle t plan request sinks history run := by
  have hsentinel : plan.sentinel = t.sentinel := hhold.sentinel
  refine htrace.invariant ?_ ?_
  · exact ⟨hsentinel ▸ orderly_initial husable hfiles, calm_initial hlimit hwilling, tale_initial,
      Roles.start _ _, ⟨[], (audit_unrefused _).books kept_initial⟩, length_workers_initial⟩
  · intro actor history mid next h hstep
    obtain ⟨next, hmove, rfl⟩ := moves_of_step hstep
    exact (h.move hhold hmove).tick _

/-! ## The end

When all workers have ended there is nothing left in hand and nothing ahead, so the histories are
complete: they are the deeds for all that was taken, and all that was put was taken. -/

namespace Chronicle

variable {result : Except Failure RunSummary} {stage : Stage} {i : Nat} {w : Worker}

/-- **Each worker at the end**: it has handed in its report, and it has done its share. -/
theorem ended (h : Chronicle t plan request sinks history run)
    (hresult : run.driver.activity = .returned result)
    (hplace : (run.workers stage)[i]? = some w) :
    ∃ report, w.activity = .ended report ∧ report.exit = .ok () ∧
      t.sentinel.text ∈ (history.of (.worker stage i)).taken stage ∧
      Worker.Story (t.seenBy stage) (history.of (.worker stage i)) stage i w
        (history.share t.sentinel stage i)
        ((history.share t.sentinel stage i).flatMap (t.deeds stage)) := by
  have hover : w.isOver = true := by
    refine h.orderly.joined stage i w hplace ?_
    rw [hresult]
    trivial
  have hsteady := h.calm.steady stage w (List.mem_of_getElem? hplace)
  obtain ⟨items, done, hstory⟩ := h.tale.workers stage i w hplace
  cases hactivity : w.activity with
  | ended report =>
    obtain ⟨hmem, hitems, hdone⟩ := hstory.of_ended hactivity
    rw [t.sentinel_seenBy] at hmem hitems
    rw [t.deeds_seenBy] at hdone
    subst hdone
    subst hitems
    rw [hactivity] at hsteady
    exact ⟨report, rfl, hsteady, hmem, hstory⟩
  | panicked =>
    rw [hactivity] at hsteady
    exact hsteady.elim
  | _ =>
    rw [Worker.isOver, hactivity] at hover
    contradiction

/-- Whatever went into a queue came out of it again, if there is a worker to take it. -/
theorem filter_taken (h : Chronicle t plan request sinks history run)
    (hresult : run.driver.activity = .returned result) (hsome : request.threads stage ≠ 0) :
    (history.taken stage).filter (· ≠ t.sentinel.text) =
      (history.stored stage).filter (· ≠ t.sentinel.text) := by
  refine h.orderly.filter_taken ?_
  -- the first worker of the stage has taken its sentinel
  have hlt : 0 < (run.workers stage).length := by
    rw [h.threads]
    exact Nat.pos_of_ne_zero hsome
  obtain ⟨-, -, -, hmem, -⟩ := h.ended hresult (List.getElem?_eq_getElem hlt)
  rw [History.taken_eq] at hmem ⊢
  exact (List.filter_sublist.filterMap _).subset hmem

end Chronicle

end Run

end HostLookup
