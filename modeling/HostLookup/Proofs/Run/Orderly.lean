import HostLookup.Proofs.Run.Course

/-!
# Runs are orderly

Whatever the world does to a run, and in whatever order its threads move, the two stages end one
after the other in the same way: a sentinel for each worker goes into the queue behind all items,
and a worker that stops has taken its sentinel or leaves the queue closed behind it.

* **`Run.Orderly`** lists what holds at every moment, beside the laws of the two queues.
* **`Run.Orderly.move`**: every step keeps it.
-/

namespace HostLookup

namespace Run

variable {told : Instructions} {run run' : Run} {actor : Actor} {history : History}
  {sentinel : Sentinel}

/-! ## What a step does to one stage

A rule of a run speaks of one thread, and the invariant of one stage at a time. So each step is
first looked at from a stage: it is a step of one of its workers, or it leaves its workers alone;
its end is touched by the driver, or by a worker that says that it has taken its sentinel. -/

/-- A step of a worker of the stage, seen from the stage, or a step that leaves its workers
alone. -/
theorem Moves.ownWorker (h : Moves told run actor run') (stage : Stage) :
    (∃ (i : Nat) (w w' : Worker) (desk : Desk), actor = .worker stage i ∧
      (run.workers stage)[i]? = some w ∧
      Worker.Moves told run.moment w (run.desk stage) w' desk ∧
      run'.workers stage = (run.workers stage).set i w' ∧ run'.queue stage = desk.source ∧
      run'.shutdown stage = desk.shutdown) ∨
    (∀ i, actor ≠ .worker stage i) ∧ run'.workers stage = run.workers stage := by
  cases h with
  | @worker own i w w' desk hplace hmove =>
    by_cases hown : stage = own
    · subst hown
      exact Or.inl ⟨i, w, w', desk, rfl, hplace, hmove, by simp, by simp, by simp⟩
    · refine Or.inr ⟨fun j heq => hown ?_, ?_⟩
      · injection heq with hstage
        exact hstage.symm
      · rw [workers_setWorkers_of_ne _ _ hown, workers_ofDesk]
  | release | released => exact Or.inr ⟨fun i heq => by contradiction, rfl⟩
  | _ => exact Or.inr ⟨fun i heq => by contradiction, by simp⟩

/-- A worker after a step was there before, or it is the one that has moved. -/
theorem Moves.mem_workers (h : Moves told run actor run') {stage : Stage} {w : Worker}
    (hmem : w ∈ run'.workers stage) :
    w ∈ run.workers stage ∨ ∃ (i : Nat) (u : Worker) (desk : Desk),
      (run.workers stage)[i]? = some u ∧
        Worker.Moves told run.moment u (run.desk stage) w desk := by
  rcases h.ownWorker stage with ⟨i, u, u', desk, -, hplace, hworker, hset, -⟩ | ⟨-, hsame⟩
  · rw [hset] at hmem
    rcases List.mem_or_eq_of_mem_set hmem with hold | rfl
    · exact Or.inl hold
    · exact Or.inr ⟨i, u, desk, hplace, hworker⟩
  · exact Or.inl (hsame ▸ hmem)

/-- No worker begins to carry a sentinel in a `put`. -/
theorem Moves.offers (h : Moves told run actor run') {stage : Stage}
    (hoffers : ∀ w ∈ run.workers stage, Worker.Offers told.sentinel w.activity) :
    ∀ w ∈ run'.workers stage, Worker.Offers told.sentinel w.activity := by
  intro w hmem
  rcases h.mem_workers hmem with hold | ⟨i, u, desk, hplace, hworker⟩
  · exact hoffers w hold
  · exact hworker.offers (hoffers u (List.mem_of_getElem? hplace))

theorem Moves.driver_eq (h : Moves told run actor run') (hne : actor ≠ .driver) :
    run'.driver = run.driver := by
  cases h with
  | worker => simp
  | release | released => rfl
  | _ => exact absurd rfl hne

@[simp] theorem shutdown_desk (run : Run) (stage : Stage) :
    (run.desk stage).shutdown = run.shutdown stage := by
  cases stage <;> rfl

/-- Who is not the driver touches the end of a stage only as a worker that has its sentinel. -/
theorem Moves.shutdown_eq (h : Moves told run actor run') (hne : actor ≠ .driver) (stage : Stage) :
    run'.shutdown stage = run.shutdown stage ∨
      ∃ (i : Nat) (w : Worker), (run.workers stage)[i]? = some w ∧ w.activity = .acknowledging ∧
        run'.shutdown stage = (run.shutdown stage).workerStopped := by
  cases h with
  | @worker own i w w' desk hplace hmove =>
    by_cases hown : stage = own
    · subst hown
      rw [shutdown_setWorkers, shutdown_ofDesk]
      rcases hmove.shutdown with heq | ⟨hactivity, heq⟩
      · exact Or.inl (heq.trans (shutdown_desk run stage))
      · exact Or.inr ⟨i, w, hplace, hactivity, heq.trans (by rw [shutdown_desk])⟩
    · rw [shutdown_setWorkers, shutdown_ofDesk_of_ne _ _ hown]
      exact Or.inl rfl
  | release | released => exact Or.inl rfl
  | _ => exact absurd rfl hne

theorem Moves.shutdown_workers (h : Moves told run actor run') (stage : Stage) :
    (run'.shutdown stage).workers = (run.shutdown stage).workers := by
  by_cases hne : actor = .driver
  · subst hne
    cases h with
    | @drain own call call' shutdown queue hactivity hmove =>
      rw [shutdown_turnTo, shutdown_setQueue]
      by_cases hown : stage = own
      · subst hown
        rw [shutdown_setShutdown]
        exact hmove.workers_eq
      · rw [shutdown_setShutdown_of_ne _ _ hown]
    | @drained own call result shutdown queue hactivity hmove =>
      rw [shutdown_turnTo, shutdown_update, shutdown_setQueue]
      by_cases hown : stage = own
      · subst hown
        rw [shutdown_setShutdown]
        exact hmove.workers_eq
      · rw [shutdown_setShutdown_of_ne _ _ hown]
    | @finish own hactivity =>
      rw [shutdown_turnTo]
      by_cases hown : stage = own
      · subst hown
        rw [shutdown_setShutdown]
        rfl
      · rw [shutdown_setShutdown_of_ne _ _ hown]
    | _ => simp
  · rcases h.shutdown_eq hne stage with heq | ⟨i, w, -, -, heq⟩
    · rw [heq]
    · rw [heq]
      rfl

/-- Nobody but the workers of a stage takes items out of the queue in front of it. -/
theorem taken_of_other {stage : Stage} (hother : ∀ i, actor ≠ .worker stage i) :
    (run.queue stage).taken (run.callOn actor stage) = [] := by
  cases actor with
  | driver =>
    simp only [callOn]
    cases run.driver.activity with
    | feeding _ call _ => cases stage <;> simp [DriverActivity.callOn]
    | draining own call =>
      simp only [DriverActivity.callOn]
      split
      · cases call <;> simp [DrainCall.putCall]
      · rfl
    | clearing own call =>
      simp only [DriverActivity.callOn]
      split
      · exact Queue.taken_destroy _ _
      · rfl
    | _ => rfl
  | worker own i =>
    have hown : own ≠ stage := fun heq => hother i (heq ▸ rfl)
    simp only [callOn, hown, ↓reduceIte]
    cases (run.workers own)[i]? with
    | none => rfl
    | some w =>
      simp only [Option.bind_some]
      split
      · cases w.activity <;> simp [Activity.targetCall]
      · rfl
  | outsider => rfl

theorem stored_of_own {stage : Stage} {i : Nat} :
    (run.queue stage).stored (run.callOn (.worker stage i) stage) = [] := by
  simp only [callOn, ↓reduceIte]
  cases (run.workers stage)[i]? with
  | none => rfl
  | some w =>
    simp only [Option.bind_some]
    cases w.activity <;> simp [Activity.sourceCall]

/-- While the names of the data files are put into the queue, neither drain has begun. -/
theorem standing_fed (run : Run) (file : String) (later : List String)
    (result : Except QueueError Unit) (stage : Stage) :
    (run.fed file later result).driver.activity.standing stage = .ahead ∨
      (run.fed file later result).driver.activity.standing stage = .draining .claiming := by
  cases result with
  | ok => exact DriverActivity.standing_feed later stage
  | error error =>
    cases error with
    | itemTooLarge => exact Or.inl rfl
    | destroyed | alreadyDestroyed => exact DriverActivity.standing_feed [] stage

theorem standing_rejected (run : Run) (later : List String) (result : Except SinkError Unit)
    (stage : Stage) :
    (run.rejected later result).driver.activity.standing stage = .ahead ∨
      (run.rejected later result).driver.activity.standing stage = .draining .claiming := by
  cases result with
  | ok => exact DriverActivity.standing_feed later stage
  | error => exact DriverActivity.standing_feed [] stage

/-- The driver does not come back to the names of the data files. -/
theorem Moves.ahead_of_ahead (h : Moves told run actor run')
    (hahead : run'.driver.activity.standing .requester = .ahead) :
    run.driver.activity.standing .requester = .ahead := by
  by_cases hne : actor = .driver
  · subst hne
    cases h with
    | feed hactivity | fed hactivity | reject hactivity => rw [hactivity]; rfl
    | @drain own | @drained own | @joined own | @joinedAll own | @finish own =>
      cases own <;> contradiction
    | clear | clearedFirst | clearedSecond => contradiction
  · rwa [h.driver_eq hne] at hahead

/-- A worker that is over stays at its place, whoever makes a step. -/
theorem Moves.place_of_isOver (h : Moves told run actor run') {stage : Stage} {j : Nat} {w : Worker}
    (hplace : (run.workers stage)[j]? = some w) (hover : w.isOver = true) :
    (run'.workers stage)[j]? = some w := by
  rcases h.ownWorker stage with ⟨i, u, u', desk, -, hu, hworker, hset, -⟩ | ⟨-, hsame⟩
  · have hij : i ≠ j := by
      rintro rfl
      obtain rfl := Option.some.inj (hu.symm.trans hplace)
      rw [hworker.isOver_eq_false] at hover
      contradiction
    rw [hset, List.getElem?_set_ne hij]
    exact hplace
  · rw [hsame]
    exact hplace

/-- **Who has been joined**: a worker was joined before the step, or it is joined by it. -/
theorem Moves.hasJoined (h : Moves told run actor run') {stage : Stage} {j : Nat}
    (hlt : j < (run.workers stage).length)
    (hjoined : (run'.driver.activity.standing stage).HasJoined j) :
    (run.driver.activity.standing stage).HasJoined j ∨
      actor = .driver ∧ run.driver.activity = .joining stage j ∧ ∃ w result,
        (run.workers stage)[j]? = some w ∧ w.result? = some result ∧
        run'.driver.account = run.driver.account.join result := by
  by_cases hne : actor = .driver
  · subst hne
    have hnot : ∀ {standing : Standing}, standing = .ahead ∨ standing = .draining .claiming →
        standing.HasJoined j → False := by
      rintro standing (rfl | rfl) hno <;> exact hno
    cases h with
    | feed => exact hjoined.elim
    | fed => exact (hnot (standing_fed _ _ _ _ stage) hjoined).elim
    | reject => exact (hnot (standing_rejected _ _ _ stage) hjoined).elim
    | @drain own call call' shutdown queue hactivity =>
      by_cases hown : own = stage
      · subst hown
        simp [DriverActivity.standing, Standing.HasJoined] at hjoined
      · rw [hactivity]
        refine Or.inl ?_
        simpa only [activity_turnTo, DriverActivity.standing,
          Standing.seenFrom_of_ne hown (.draining call') (.draining call)] using hjoined
    | @drained own call result shutdown queue hactivity =>
      by_cases hown : own = stage
      · subst hown
        simp [DriverActivity.standing, Standing.HasJoined] at hjoined
      · rw [hactivity]
        refine Or.inl ?_
        simpa only [activity_turnTo, DriverActivity.standing,
          Standing.seenFrom_of_ne hown (.joining 0) (.draining call)] using hjoined
    | @joined own next u result hactivity hu hresult =>
      rw [hactivity]
      by_cases hown : own = stage
      · subst hown
        simp only [activity_turnTo, DriverActivity.standing, Standing.seenFrom_self,
          Standing.HasJoined] at hjoined
        by_cases hlast : j = next
        · -- the worker that has just been joined
          subst hlast
          exact Or.inr ⟨rfl, rfl, u, result, hu, hresult, rfl⟩
        · refine Or.inl ?_
          simp only [DriverActivity.standing, Standing.seenFrom_self, Standing.HasJoined]
          omega
      · refine Or.inl ?_
        simpa only [activity_turnTo, DriverActivity.standing,
          Standing.seenFrom_of_ne hown (.joining (next + 1)) (.joining next)] using hjoined
    | @joinedAll own next hactivity hnone =>
      rw [hactivity]
      refine Or.inl ?_
      by_cases hown : own = stage
      · subst hown
        have hle := List.getElem?_eq_none_iff.mp hnone
        simp only [DriverActivity.standing, Standing.seenFrom_self, Standing.HasJoined]
        omega
      · simpa only [activity_turnTo, DriverActivity.standing,
          Standing.seenFrom_of_ne hown .finishing (.joining next)] using hjoined
    | @finish own hactivity =>
      rw [hactivity]
      refine Or.inl ?_
      cases own <;> cases stage <;> trivial
    | clear hactivity | clearedFirst hactivity | clearedSecond hactivity =>
      rw [hactivity]
      exact Or.inl trivial
  · rw [h.driver_eq hne] at hjoined
    exact Or.inl hjoined

/-! ## The invariant

The fields come in three groups: sentinels, which are counted in the queue, with the workers and by
the driver; closed queues, each of which has somebody who closed it; and the place of the driver,
which settles how far the end of each stage has come. -/

/-- The sentinels that the driver has put into the queue in front of a stage. -/
def sentinelsPut (run : Run) (stage : Stage) : Nat :=
  (run.shutdown stage).sentinelsSent + (run.driver.activity.standing stage).pending

/-- What holds at every moment of a run. -/
structure Orderly (sentinel : Sentinel) (history : History) (run : Run) : Prop where
  sound : Sound history run
  workers_eq : ∀ stage, (run.shutdown stage).workers = (run.workers stage).length
  /-- The sentinel fits the slots of both queues. -/
  fits : ∀ stage, (run.queue stage).fits sentinel.text = true
  /-- Only the driver puts sentinels. -/
  offers : ∀ stage, ∀ w ∈ run.workers stage, Worker.Offers sentinel w.activity
  /-- No name of a data file is the sentinel. -/
  names : sentinel.text ∉ run.driver.activity.names
  /-- There is somebody to feed. -/
  feeding : run.driver.activity.standing .requester = .ahead → run.requesters ≠ []
  law : ∀ stage, (run.driver.activity.standing stage).Law sentinel run.requesterStage
    (run.shutdown stage) (run.queue stage)
  joined : ∀ (stage : Stage) (j : Nat) (w : Worker), (run.workers stage)[j]? = some w →
    (run.driver.activity.standing stage).HasJoined j → w.isOver = true
  /-- The sentinels that came out of a queue are those that its workers have. -/
  holding : ∀ stage, (run.workers stage).countP (fun w => w.activity.hasSentinel sentinel) =
    (history.taken stage).count sentinel.text
  /-- Sentinels went into a queue behind all items. -/
  storing : ∀ stage, ∃ items, sentinel.text ∉ items ∧
    history.stored stage = items ++ List.replicate (run.sentinelsPut stage) sentinel.text
  /-- Who stops without a sentinel leaves the queue closed. -/
  closed : ∀ stage, ∀ w ∈ run.workers stage, w.activity.hasClosed = true →
    (run.queue stage).ring.closed = true

/-- Only the driver puts sentinels and counts them. -/
theorem Moves.sentinelsPut_eq (h : Moves told run actor run') (hne : actor ≠ .driver)
    (stage : Stage) : run'.sentinelsPut stage = run.sentinelsPut stage := by
  unfold sentinelsPut
  rw [h.driver_eq hne]
  rcases h.shutdown_eq hne stage with heq | ⟨-, -, -, -, heq⟩
  · rw [heq]
  · rw [heq]
    rfl

namespace Orderly

theorem count_stored (h : Orderly sentinel history run) (stage : Stage) :
    (history.stored stage).count sentinel.text = run.sentinelsPut stage := by
  obtain ⟨items, hitems, heq⟩ := h.storing stage
  rw [heq, List.count_append, List.count_eq_zero.mpr hitems, List.count_replicate_self,
    Nat.zero_add]

/-- Workers have no more sentinels than the driver has put. -/
theorem holding_le (h : Orderly sentinel history run) (stage : Stage) :
    (run.workers stage).countP (fun w => w.activity.hasSentinel sentinel) ≤
      run.sentinelsPut stage := by
  rw [h.holding, ← h.count_stored]
  have hfront := Queue.Ledger.outs_prefix (h.sound.ledger stage)
  exact hfront.sublist.count_le _

/-- Before the drain of a stage has begun, none of its workers has a sentinel. -/
theorem hasBegun_of_hasSentinel (h : Orderly sentinel history run) {stage : Stage} {w : Worker}
    (hmem : w ∈ run.workers stage) (hsentinel : w.activity.hasSentinel sentinel = true) :
    (run.driver.activity.standing stage).hasBegun = true := by
  cases hbegun : (run.driver.activity.standing stage).hasBegun with
  | true => rfl
  | false =>
    -- no sentinel has been put, so none can have come out
    have hzero := (h.law stage).sent_eq_zero hbegun
    have hle := h.holding_le stage
    have hpos : 0 < (run.workers stage).countP fun w => w.activity.hasSentinel sentinel :=
      List.countP_pos_iff.mpr ⟨w, hmem, hsentinel⟩
    unfold sentinelsPut at hle
    omega

/-! ## Every step keeps it

One lemma for each field. The law of a drain is kept by its own steps, which are taken from
`DrainCall.Moves`, and by those of others since they only move the stage on (`Standing.Law.mono`).
That sentinels come last is shown for what is put: a worker puts none, and the driver puts them when
there is nobody left who could put anything else. -/

/-- A worker takes its sentinel out of the queue, and it keeps it. -/
theorem holding_move (h : Orderly told.sentinel history run) (hmove : Moves told run actor run')
    (stage : Stage) :
    (run'.workers stage).countP (fun w => w.activity.hasSentinel told.sentinel) =
      ((history ++ events told actor run).taken stage).count told.sentinel.text := by
  rw [History.taken_append, taken_events, List.count_append, ← h.holding]
  rcases hmove.ownWorker stage with
    ⟨i, w, w', desk, rfl, hplace, hworker, hset, -⟩ | ⟨hother, hsame⟩
  · have hstep := hworker.hasSentinel
    rw [source_desk, ← callOn_worker_self hplace] at hstep
    obtain ⟨hlt, rfl⟩ := List.getElem?_eq_some_iff.mp hplace
    have hpos : (run.workers stage)[i].activity.hasSentinel told.sentinel = true →
        0 < (run.workers stage).countP fun w => w.activity.hasSentinel told.sentinel := fun hw =>
      List.countP_pos_iff.mpr ⟨_, List.getElem_mem hlt, hw⟩
    rw [hset, List.countP_set hlt]
    -- the worker that moves takes its sentinel now, or has it already, or has none
    cases hbefore : (run.workers stage)[i].activity.hasSentinel told.sentinel with
    | true =>
      have := hpos hbefore
      rw [hbefore] at hstep
      cases hafter : w'.activity.hasSentinel told.sentinel <;> rw [hafter] at hstep <;>
        simp at hstep ⊢ <;> omega
    | false =>
      rw [hbefore] at hstep
      cases hafter : w'.activity.hasSentinel told.sentinel <;> rw [hafter] at hstep <;>
        simp at hstep ⊢ <;> omega
  · rw [hsame, taken_of_other hother, List.count_nil, Nat.add_zero]

/-- Whoever stops without a sentinel has come to the end of a `close`, and what is closed stays
closed. -/
theorem closed_move (h : Orderly told.sentinel history run) (hmove : Moves told run actor run')
    (stage : Stage) : ∀ w ∈ run'.workers stage, w.activity.hasClosed = true →
      (run'.queue stage).ring.closed = true := by
  intro w hmem hclosed
  have hmono := (hmove.turn stage).closed_mono
  rcases hmove.ownWorker stage with
    ⟨i, u, u', desk, rfl, hplace, hworker, hset, hqueue, -⟩ | ⟨-, hsame⟩
  · rw [hset] at hmem
    rcases List.mem_or_eq_of_mem_set hmem with hold | rfl
    · exact hmono (h.closed stage w hold hclosed)
    · rcases hworker.hasClosed hclosed with hbefore | ⟨call, first, hcall, hstep⟩
      · exact hmono (h.closed stage u (List.mem_of_getElem? hplace) hbefore)
      · -- the worker has just come to the end of its `close`
        rw [source_desk, ← hqueue] at hstep
        refine (h.sound.balanced stage).closed_of_close_returns (CloseCall.moves_of_step hstep) ?_
        intro p
        have hmark := mark_le_calls (worker_mem_actors hplace) stage p
        rw [callOn_worker_self hplace, hcall] at hmark
        exact hmark
  · exact hmono (h.closed stage w (hsame ▸ hmem) hclosed)

/-- Who has been joined is over, and makes no step any more. -/
theorem joined_move (h : Orderly told.sentinel history run) (hmove : Moves told run actor run')
    (stage : Stage) (j : Nat) (w : Worker) (hplace : (run'.workers stage)[j]? = some w)
    (hjoined : (run'.driver.activity.standing stage).HasJoined j) : w.isOver = true := by
  have hlt : j < (run.workers stage).length := by
    rw [← hmove.length_workers stage]
    exact (List.getElem?_eq_some_iff.mp hplace).1
  -- before the step somebody stood at this place who is over already
  obtain ⟨u, hu, hover⟩ : ∃ u, (run.workers stage)[j]? = some u ∧ u.isOver = true := by
    rcases hmove.hasJoined hlt hjoined with hbefore | ⟨-, -, u, result, hu, hresult, -⟩
    · have hu := List.getElem?_eq_getElem hlt
      exact ⟨_, hu, h.joined stage j _ hu hbefore⟩
    · refine ⟨u, hu, ?_⟩
      rw [← Worker.isSome_result?_eq_isOver, hresult]
      rfl
  obtain rfl := Option.some.inj (hplace.symm.trans (hmove.place_of_isOver hu hover))
  exact hover

/-- A refused `put` of the sentinel has met a closed queue, since the sentinel fits. -/
theorem closed_of_put_error (h : Orderly sentinel history run) {stage : Stage} {call : PutCall}
    {error : QueueError} {q' : Queue}
    (hitem : ∀ item, call.item? = some item → item = sentinel.text)
    (hmove : PutCall.Moves (run.queue stage) call (.returns (.error error)) q') :
    error = .destroyed ∧ (run.queue stage).ring.closed = true := by
  rcases hmove.refused_for with ⟨item, rfl, hsize, -⟩ | ⟨rfl, hclosed⟩
  · rw [hitem _ rfl, h.fits stage] at hsize
    contradiction
  · exact ⟨rfl, hclosed.elim (h.sound.balanced stage).closed_of_free id⟩

/-- A drain fails only at a closed queue. -/
theorem closed_of_drain_error (h : Orderly sentinel history run) {stage : Stage} {call : DrainCall}
    {failure : Failure} {before shutdown : Shutdown} {queue : Queue}
    (hlaw : (Standing.draining call).Law sentinel before (run.shutdown stage) (run.queue stage))
    (hmove : DrainCall.Moves sentinel before (run.shutdown stage) (run.queue stage) call
      (.returns (.error failure)) shutdown queue) :
    failure = .queue .destroyed ∧ (run.queue stage).ring.closed = true := by
  generalize hprogress :
    (Progress.returns (Except.error failure) : Progress DrainCall _) = progress at hmove
  have hproceed : ∀ later, Progress.returns (Except.error failure) ≠
      DrainCall.proceed sentinel later := by
    intro later
    cases later <;> nofun
  cases hmove with
  | allow | hold | put | sent => contradiction
  | refuse => exact hlaw.elim
  | late hclaim => exact absurd hclaim (Shutdown.claim_ne_error hlaw.1 _)
  | claim | count => exact absurd hprogress (hproceed _)
  | fail hstep =>
    obtain rfl := Except.error.inj (Progress.returns.inj hprogress)
    obtain ⟨rfl, hclosed⟩ := h.closed_of_put_error hlaw.2 (PutCall.moves_of_step hstep)
    exact ⟨rfl, hclosed⟩

/-- A step of a drain keeps its law. Its `put` can only fail at a closed queue. -/
theorem law_drain (h : Orderly told.sentinel history run) {own : Stage} {call : DrainCall}
    {progress : Progress DrainCall (Except Failure Unit)} {shutdown : Shutdown} {queue : Queue}
    (hactivity : run.driver.activity = .draining own call)
    (hmove : DrainCall.Moves told.sentinel run.requesterStage (run.shutdown own)
      (run.queue own) call progress shutdown queue)
    (hclosed : (run.queue own).ring.closed = true → queue.ring.closed = true) (before : Shutdown) :
    (Standing.ofDrain progress).Law told.sentinel before shutdown queue := by
  have hlaw := h.law own
  rw [hactivity] at hlaw
  simp only [DriverActivity.standing, Standing.seenFrom_self] at hlaw
  refine hlaw.ofDrain hmove ?_
  rintro later put error rfl hstep
  exact hclosed (h.closed_of_put_error hlaw.2 (PutCall.moves_of_step hstep)).2

/-- The driver moves one of its stages on, or leaves both where they were. -/
theorem law_driver (h : Orderly told.sentinel history run) (hmove : Moves told run .driver run')
    (stage : Stage) : (run'.driver.activity.standing stage).Law told.sentinel run'.requesterStage
      (run'.shutdown stage) (run'.queue stage) := by
  have hlaw := h.law stage
  have hclosed := (hmove.turn stage).closed_mono
  cases hmove with
  | feed hactivity =>
    rw [hactivity] at hlaw
    rw [shutdown_turnTo, shutdown_setQueue]
    exact hlaw
  | fed hactivity =>
    rw [hactivity] at hlaw
    rw [shutdown_fed, shutdown_setQueue]
    exact Standing.law_of_hasBegun (standing_fed _ _ _ _ stage) hlaw
  | reject hactivity =>
    rw [hactivity] at hlaw
    rw [shutdown_rejected, shutdown_setSinks]
    exact Standing.law_of_hasBegun (standing_rejected _ _ _ stage) hlaw
  -- the drain moves its own stage on, and the other stage stands where it did
  | @drain own call call' shutdown queue hactivity hdrain =>
    rw [hactivity] at hlaw
    simp only [queue_turnTo] at hclosed
    cases own with
    | requester =>
      cases stage with
      | requester => exact h.law_drain hactivity hdrain hclosed _
      | resolver => exact hlaw
    | resolver =>
      cases stage with
      | requester => exact hlaw
      | resolver => exact h.law_drain hactivity hdrain hclosed _
  | @drained own call result shutdown queue hactivity hdrain =>
    rw [hactivity] at hlaw
    simp only [queue_turnTo, queue_update] at hclosed
    cases own with
    | requester =>
      cases stage with
      | requester => exact h.law_drain hactivity hdrain hclosed _
      | resolver => exact hlaw
    | resolver =>
      cases stage with
      | requester => exact hlaw
      | resolver => exact h.law_drain hactivity hdrain hclosed _
  | @joined own next w result hactivity =>
    rw [hactivity] at hlaw
    cases own <;> cases stage <;> exact hlaw
  | @joinedAll own next hactivity =>
    rw [hactivity] at hlaw
    cases own <;> cases stage <;> exact hlaw
  | @finish own hactivity =>
    rw [hactivity] at hlaw
    cases own with
    | requester =>
      cases stage with
      | requester => exact ⟨rfl, hlaw⟩
      | resolver => exact ⟨rfl, hlaw⟩
    | resolver =>
      cases stage with
      | requester => exact hlaw
      | resolver => exact ⟨rfl, hlaw⟩
  | @clear own call call' queue hactivity =>
    rw [hactivity] at hlaw
    refine Standing.Law.mono hlaw ?_ (Or.inl (by simp)) hclosed
    cases own <;> exact id
  | clearedFirst hactivity | clearedSecond hactivity =>
    rw [hactivity] at hlaw
    refine Standing.Law.mono hlaw ?_ (Or.inl (by simp)) hclosed
    exact id

/-- Others do not touch the account of a drain. A worker can stop, but only after the drain of its
stage has begun. -/
theorem law_bystander (h : Orderly told.sentinel history run) (hmove : Moves told run actor run')
    (hne : actor ≠ .driver) (stage : Stage) :
    (run'.driver.activity.standing stage).Law told.sentinel run'.requesterStage
      (run'.shutdown stage) (run'.queue stage) := by
  rw [hmove.driver_eq hne]
  refine (h.law stage).mono ?_ ?_ (hmove.turn stage).closed_mono
  · rcases hmove.shutdown_eq hne .requester with heq | ⟨i, w, -, -, heq⟩
    · exact fun hstopped => (congrArg Shutdown.state heq).trans hstopped
    · intro hstopped
      refine (congrArg Shutdown.state heq).trans ?_
      simp [Shutdown.workerStopped, shutdown, hstopped]
  · rcases hmove.shutdown_eq hne stage with heq | ⟨i, w, hplace, hactivity, heq⟩
    · exact Or.inl heq
    · refine Or.inr ⟨h.hasBegun_of_hasSentinel (List.mem_of_getElem? hplace) ?_, heq⟩
      rw [hactivity]
      rfl

/-- **Every step keeps the law of both drains.** -/
theorem law_move (h : Orderly told.sentinel history run) (hmove : Moves told run actor run')
    (stage : Stage) : (run'.driver.activity.standing stage).Law told.sentinel run'.requesterStage
      (run'.shutdown stage) (run'.queue stage) := by
  by_cases hne : actor = .driver
  · subst hne
    exact h.law_driver hmove stage
  · exact h.law_bystander hmove hne stage

/-- The names that are still to be fed become fewer, and no sentinel gets among them. -/
theorem names_move (h : Orderly told.sentinel history run) (hmove : Moves told run actor run') :
    told.sentinel.text ∉ run'.driver.activity.names := by
  have hnames := h.names
  by_cases hne : actor = .driver
  · subst hne
    cases hmove with
    | feed hactivity hstep =>
      rw [hactivity] at hnames
      simp only [activity_turnTo, DriverActivity.names, List.mem_append, Option.mem_toList,
        not_or] at hnames ⊢
      exact ⟨fun hitem => hnames.1 ((PutCall.moves_of_step hstep).item?_of_goesOn hitem), hnames.2⟩
    | @fed file call later result files hactivity =>
      rw [hactivity] at hnames
      simp only [DriverActivity.names, List.mem_append, not_or] at hnames
      cases result with
      | ok => exact (DriverActivity.names_feed later).symm ▸ hnames.2
      | error error =>
        cases error with
        | itemTooLarge => exact hnames.2
        | destroyed | alreadyDestroyed => exact List.not_mem_nil
    | @reject failure later hactivity =>
      rw [hactivity] at hnames
      cases (run.sinks.writeLine .stderr (rejection failure)).1 with
      | ok => exact (DriverActivity.names_feed later).symm ▸ hnames
      | error => exact List.not_mem_nil
    | @finish own => cases own <;> exact List.not_mem_nil
    | _ => exact List.not_mem_nil
  · rw [hmove.driver_eq hne]
    exact hnames

theorem feeding_move (h : Orderly told.sentinel history run) (hmove : Moves told run actor run')
    (hahead : run'.driver.activity.standing .requester = .ahead) : run'.requesters ≠ [] := by
  have hlength := hmove.length_workers .requester
  have hsome := h.feeding (hmove.ahead_of_ahead hahead)
  intro hnil
  simp only [workers, hnil, List.length_nil] at hlength
  exact hsome (List.eq_nil_of_length_eq_zero hlength.symm)

theorem fits_move (h : Orderly told.sentinel history run) (hmove : Moves told run actor run')
    (stage : Stage) : (run'.queue stage).fits told.sentinel.text = true := by
  have hfits := h.fits stage
  have hlength := (hmove.turn stage).geometry.2.2
  rw [Queue.fits_iff] at hfits ⊢
  rw [hlength]
  exact hfits

/-- As long as a worker goes on, the driver is not done with both stages. -/
theorem standing_of_goes_on (h : Orderly sentinel history run) {stage : Stage} {i : Nat}
    {w : Worker} (hplace : (run.workers stage)[i]? = some w) (hover : w.isOver = false) :
    run.driver.activity.standing .resolver ≠ .done := by
  intro hdone
  -- a driver that is done with a stage has joined all its workers, this one as well
  have hstage : run.driver.activity.standing stage = .done := by
    cases stage with
    | requester => exact DriverActivity.standing_requester (by rw [hdone]; nofun)
    | resolver => exact hdone
  have hjoined := h.joined stage i w hplace (by rw [hstage]; trivial)
  rw [hover] at hjoined
  contradiction

/-- As long as a worker hands on, the drain of the next stage has not begun. -/
theorem standing_of_hands_on (h : Orderly sentinel history run) {i : Nat} {w : Worker}
    (hplace : (run.workers .requester)[i]? = some w) (hover : w.isOver = false) :
    (run.driver.activity.standing .resolver).hasBegun = false := by
  cases hbegun : (run.driver.activity.standing .resolver).hasBegun with
  | false => rfl
  | true =>
    -- the driver would have joined the worker before
    have hdone : run.driver.activity.standing .requester = .done := by
      apply DriverActivity.standing_requester
      intro hahead
      rw [hahead] at hbegun
      contradiction
    have hjoined := h.joined .requester i w hplace (by rw [hdone]; trivial)
    rw [hover] at hjoined
    contradiction

/-- What a thread other than the drain puts into a queue is no sentinel, and no sentinel is in front
of it. -/
theorem storing_of_unmarked (h : Orderly sentinel history run) {stage : Stage}
    {stored : List String} (hunmarked : sentinel.text ∉ stored)
    (hbegun : stored ≠ [] → (run.driver.activity.standing stage).hasBegun = false)
    {put : Nat} (hput : put = run.sentinelsPut stage) :
    ∃ items, sentinel.text ∉ items ∧
      history.stored stage ++ stored = items ++ List.replicate put sentinel.text := by
  obtain ⟨items, hitems, heq⟩ := h.storing stage
  subst hput
  by_cases hnil : stored = []
  · exact ⟨items, hitems, by rw [heq, hnil, List.append_nil]⟩
  · have hzero := (h.law stage).sent_eq_zero (hbegun hnil)
    have hnone : run.sentinelsPut stage = 0 := hzero
    refine ⟨items ++ stored, ?_, ?_⟩
    · simp [hitems, hunmarked]
    · rw [heq, hnone]
      simp

/-- Nothing is put into the queue. -/
theorem storing_of_nothing (h : Orderly told.sentinel history run) {stage : Stage}
    (hnothing : (run.queue stage).stored (run.callOn actor stage) = [])
    (hput : run'.sentinelsPut stage = run.sentinelsPut stage) :
    ∃ items, told.sentinel.text ∉ items ∧
      (history ++ events told actor run).stored stage =
        items ++ List.replicate (run'.sentinelsPut stage) told.sentinel.text := by
  rw [History.stored_append, stored_events]
  refine h.storing_of_unmarked ?_ ?_ hput
  · rw [hnothing]
    exact List.not_mem_nil
  · exact fun hsome => absurd hnothing hsome

/-- What a worker puts into a queue that it does not take from is what a requester hands on, and
that has been screened. -/
theorem screened_of_hands_on (h : Orderly sentinel history run) {own stage : Stage} {i : Nat}
    {w : Worker} (hplace : (run.workers own)[i]? = some w) (hown : own ≠ stage) :
    ∀ item ∈ (run.queue stage).stored (run.callOn (.worker own i) stage),
      own = .requester ∧ item ≠ sentinel.text := by
  intro item hmem
  simp only [callOn, hplace, Option.bind_some, hown, ↓reduceIte] at hmem
  cases own with
  | resolver => simp [hasTarget] at hmem
  | requester =>
    refine ⟨rfl, ?_⟩
    split at hmem
    · have hoffers := h.offers .requester w (List.mem_of_getElem? hplace)
      cases hactivity : w.activity with
      | offering host call file =>
        rw [hactivity] at hmem hoffers
        have hitem := hoffers.2 item (Queue.item?_of_mem_stored hmem)
        intro heq
        have hmarks := hoffers.1
        rw [← hitem, heq, Sentinel.marks_text] at hmarks
        contradiction
      | closingTarget call ending =>
        rw [hactivity] at hmem
        simp [Activity.targetCall] at hmem
      | _ => rw [hactivity] at hmem; simp [Activity.targetCall] at hmem
    · simp at hmem

/-- A worker puts no sentinel. What it takes from its own queue is not at issue here. -/
theorem storing_worker (h : Orderly told.sentinel history run) {own : Stage} {i : Nat}
    (hmove : Moves told run (.worker own i) run') (stage : Stage) :
    ∃ items, told.sentinel.text ∉ items ∧
      (history ++ events told (.worker own i) run).stored stage =
        items ++ List.replicate (run'.sentinelsPut stage) told.sentinel.text := by
  have hput := hmove.sentinelsPut_eq nofun stage
  cases hmove with
  | @worker _ _ w w' desk hplace hmove =>
    by_cases hown : own = stage
    · subst hown
      exact h.storing_of_nothing stored_of_own hput
    · -- a requester that hands on, which it does before the drain of the next stage
      have hstored := h.screened_of_hands_on hplace hown
      rw [History.stored_append, stored_events]
      refine h.storing_of_unmarked (fun hmem => (hstored _ hmem).2 rfl) (fun hsome => ?_) hput
      obtain ⟨item, hmem⟩ := List.exists_mem_of_ne_nil _ hsome
      obtain ⟨rfl, -⟩ := hstored item hmem
      obtain rfl : stage = .resolver := by cases stage <;> first | rfl | exact absurd rfl hown
      exact h.standing_of_hands_on hplace hmove.isOver_eq_false

/-- A drain puts sentinels and counts them. -/
theorem storing_drain (h : Orderly told.sentinel history run) {own : Stage} {call : DrainCall}
    {progress : Progress DrainCall (Except Failure Unit)} {shutdown : Shutdown} {queue : Queue}
    (hactivity : run.driver.activity = .draining own call)
    (hdrain : DrainCall.Moves told.sentinel run.requesterStage (run.shutdown own)
      (run.queue own) call progress shutdown queue) (stage : Stage) {put : Nat}
    (hput : put = if own = stage then shutdown.sentinelsSent + (Standing.ofDrain progress).pending
      else run.sentinelsPut stage) :
    ∃ items, told.sentinel.text ∉ items ∧
      (history ++ events told .driver run).stored stage =
        items ++ List.replicate put told.sentinel.text := by
  have hlaw := h.law own
  rw [hactivity] at hlaw
  simp only [DriverActivity.standing, Standing.seenFrom_self] at hlaw
  rw [History.stored_append, stored_events]
  simp only [callOn, hactivity, DriverActivity.callOn]
  by_cases hown : own = stage
  · subst hown
    obtain ⟨items, hitems, heq⟩ := h.storing own
    obtain ⟨new, hnew, hcount⟩ := Standing.sentinels_of_drain hdrain (by
      rintro later put rfl item hitem
      exact hlaw.2 item hitem)
    have hbefore : run.sentinelsPut own =
        (run.shutdown own).sentinelsSent + (Standing.draining call).pending := by
      simp [sentinelsPut, hactivity, DriverActivity.standing]
    rw [if_pos rfl] at hput ⊢
    refine ⟨items, hitems, ?_⟩
    rw [heq, hnew, hput, hcount, ← hbefore, List.append_assoc, List.replicate_append_replicate]
  · rw [if_neg hown] at hput ⊢
    exact h.storing_of_unmarked (by simp) (by simp) hput

/-- While the driver puts the name of a data file, it puts no sentinel. -/
theorem unmarked_of_feeding (h : Orderly sentinel history run) {file : String} {call : PutCall}
    {later : List String} (hactivity : run.driver.activity = .feeding file call later)
    (stage : Stage) : sentinel.text ∉ (run.queue stage).stored (run.callOn .driver stage) := by
  intro hmem
  have hnames := h.names
  rw [hactivity] at hnames
  simp only [callOn, hactivity] at hmem
  cases stage with
  | requester =>
    have hitem := Queue.item?_of_mem_stored hmem
    simp [DriverActivity.names, hitem] at hnames
  | resolver => simp [DriverActivity.callOn] at hmem

/-- To destroy a queue is to put nothing. -/
theorem stored_of_clearing {own : Stage} {call : DestroyCall}
    (hactivity : run.driver.activity = .clearing own call) (stage : Stage) :
    (run.queue stage).stored (run.callOn .driver stage) = [] := by
  simp only [callOn, hactivity, DriverActivity.callOn]
  split
  · exact Queue.stored_destroy _ _
  · rfl

/-- The driver puts names first and sentinels last, and it counts the sentinels that it puts. -/
theorem storing_driver (h : Orderly told.sentinel history run)
    (hmove : Moves told run .driver run') (stage : Stage) :
    ∃ items, told.sentinel.text ∉ items ∧
      (history ++ events told .driver run).stored stage =
        items ++ List.replicate (run'.sentinelsPut stage) told.sentinel.text := by
  -- a driver inside of no call puts nothing
  have hidle : (run.driver.activity.callOn stage).bind Call.phase? = none →
      (run.queue stage).stored (run.callOn .driver stage) = [] := fun hphase =>
    Queue.stored_of_phase hphase
  cases hmove with
  | feed hactivity =>
    rw [History.stored_append, stored_events]
    refine h.storing_of_unmarked (h.unmarked_of_feeding hactivity stage) (fun _ => ?_) ?_
    · rw [hactivity]
      rfl
    · simp [sentinelsPut, hactivity, DriverActivity.standing]
  | fed hactivity =>
    rw [History.stored_append, stored_events]
    refine h.storing_of_unmarked (h.unmarked_of_feeding hactivity stage) (fun _ => ?_) ?_
    · rw [hactivity]
      rfl
    · simp only [sentinelsPut, shutdown_fed, shutdown_setQueue, hactivity]
      rcases standing_fed _ _ _ _ stage with heq | heq <;> rw [heq] <;> rfl
  | reject hactivity =>
    refine h.storing_of_nothing (hidle (by rw [hactivity]; rfl)) ?_
    simp only [sentinelsPut, shutdown_rejected, shutdown_setSinks, hactivity]
    rcases standing_rejected _ _ _ stage with heq | heq <;> rw [heq] <;> rfl
  | @drain own call call' shutdown queue hactivity hdrain =>
    refine h.storing_drain hactivity hdrain stage ?_
    cases own <;> cases stage <;> simp [sentinelsPut, hactivity, DriverActivity.standing,
      Standing.seenFrom, Standing.ofDrain, Run.shutdown, setShutdown, setQueue, turnTo]
  | @drained own call result shutdown queue hactivity hdrain =>
    refine h.storing_drain hactivity hdrain stage ?_
    cases own <;> cases stage <;> simp [sentinelsPut, hactivity, DriverActivity.standing,
      Standing.seenFrom, Standing.ofDrain, Run.shutdown, setShutdown, setQueue, turnTo, update]
  -- from here on the driver puts nothing
  | @joined own next w result hactivity =>
    refine h.storing_of_nothing (hidle (by rw [hactivity]; rfl)) ?_
    cases own <;> cases stage <;> simp [sentinelsPut, hactivity, DriverActivity.standing,
      Standing.seenFrom, Standing.pending]
  | @joinedAll own next hactivity =>
    refine h.storing_of_nothing (hidle (by rw [hactivity]; rfl)) ?_
    cases own <;> cases stage <;> simp [sentinelsPut, hactivity, DriverActivity.standing,
      Standing.seenFrom, Standing.pending]
  | @finish own hactivity =>
    refine h.storing_of_nothing (hidle (by rw [hactivity]; rfl)) ?_
    cases own <;> cases stage <;> simp [sentinelsPut, hactivity, DriverActivity.standing,
      Standing.seenFrom, Standing.pending, afterStage, Run.shutdown, setShutdown, turnTo,
      Shutdown.finish]
  | clear hactivity =>
    refine h.storing_of_nothing (stored_of_clearing hactivity stage) ?_
    simp [sentinelsPut, hactivity, DriverActivity.standing]
  | clearedFirst hactivity | clearedSecond hactivity =>
    refine h.storing_of_nothing (stored_of_clearing hactivity stage) ?_
    simp [sentinelsPut, hactivity, DriverActivity.standing]

/-- **Every step keeps order.** -/
theorem move (h : Orderly told.sentinel history run) (hmove : Moves told run actor run') :
    Orderly told.sentinel (history ++ events told actor run) run' where
  sound := h.sound.move hmove
  workers_eq stage := by
    rw [hmove.shutdown_workers, hmove.length_workers]
    exact h.workers_eq stage
  fits := h.fits_move hmove
  offers stage := hmove.offers (h.offers stage)
  names := h.names_move hmove
  feeding := h.feeding_move hmove
  law := h.law_move hmove
  joined := h.joined_move hmove
  holding := h.holding_move hmove
  storing := by
    cases actor with
    | driver => exact h.storing_driver hmove
    | worker own i => exact h.storing_worker hmove
    | outsider =>
      exact fun stage => h.storing_of_nothing rfl (hmove.sentinelsPut_eq nofun stage)
  closed := h.closed_move hmove

end Orderly

end Run

end HostLookup
