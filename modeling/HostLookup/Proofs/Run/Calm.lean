import HostLookup.Proofs.Run.Teardown
import HostLookup.Proofs.Worker.Deeds

/-!
# Runs in a calm world

If nothing panics, no device refuses anything and nobody releases the sinks, then nothing in a run
fails but single items: no worker ends before its sentinel, the queues stay open until the driver
destroys them, and the driver has no failure to keep.

* **`Run.Moves.sinks_eq`**: in any world, a step writes one line or leaves the sinks alone, unless
  the outsider makes it.
* **`Run.Calm`** lists what holds at every moment.
* **`Run.Calm.serves`**: so whatever a worker needs for its next step is there.
* **`Run.Calm.move`**: every step keeps it.
-/

namespace HostLookup

/-- The terms as the workers of a stage see them. Resolvers hand on to nobody. -/
def Terms.seenBy (t : Terms) : Stage → Terms
  | .requester => t
  | .resolver => { t with limit := none }

/-- All workers know the same sentinel. -/
theorem Terms.sentinel_seenBy (t : Terms) (stage : Stage) :
    (t.seenBy stage).sentinel = t.sentinel := by
  cases stage <;> rfl

/-- What a resolver does is the same for all. -/
theorem Terms.deeds_seenBy (t : Terms) (stage : Stage) :
    (t.seenBy stage).deeds stage = t.deeds stage := by
  cases stage <;> rfl

/-- What the world has promised it has promised to both stages. -/
theorem Terms.hold_seenBy {t : Terms} {told : Instructions} (h : t.Hold told) (stage : Stage) :
    (t.seenBy stage).Hold told := by
  cases stage <;> exact ⟨h.sentinel, h.notResolved, h.opening, h.lookup⟩

/-- A steady worker makes no call that closes a queue. -/
theorem Terms.leavesOpen_of_steady {t : Terms} {a : Activity} (h : t.Steady a) :
    (∀ c, a.sourceCall = some c → c.leavesOpen = true) ∧
      ∀ c, a.targetCall = some c → c.leavesOpen = true := by
  cases a with
  | closingSource | closingTarget => exact h.elim
  | taking => exact ⟨fun c heq => Option.some.inj heq ▸ rfl, nofun⟩
  | offering => exact ⟨nofun, fun c heq => Option.some.inj heq ▸ rfl⟩
  | _ => exact ⟨nofun, nofun⟩

/-- A steady worker that has ended has a report, and it came to its sentinel. -/
theorem Terms.result?_of_steady {t : Terms} {w : Worker} {result : Except Failure WorkerReport}
    (h : t.Steady w.activity) (hresult : w.result? = some result) :
    ∃ report, w.activity = .ended report ∧ result = .ok report ∧ report.failure? = none := by
  unfold Worker.result? at hresult
  split at hresult
  · next report hactivity =>
    rw [hactivity] at h
    refine ⟨report, hactivity, (Option.some.inj hresult).symm, ?_⟩
    have hexit : report.exit = .ok () := h
    rw [WorkerReport.failure?, hexit]
  · next hactivity =>
    rw [hactivity] at h
    exact h.elim
  · contradiction

namespace DriverActivity

/-- Until it is done with both stages, the driver makes no call that closes a queue. -/
theorem leavesOpen_callOn {activity : DriverActivity} (h : activity.standing .resolver ≠ .done)
    (stage : Stage) : ∀ c, activity.callOn stage = some c → c.leavesOpen = true := by
  intro c hcall
  -- feeding and draining put items; only clearing closes, and that is behind both stages
  cases activity with
  | feeding =>
    cases stage with
    | requester => cases hcall; rfl
    | resolver => contradiction
  | draining own call =>
    simp only [callOn] at hcall
    split at hcall
    · cases call <;> cases hcall
      rfl
    · contradiction
  | clearing | returned => exact absurd rfl h
  | rejecting | joining | finishing => contradiction

end DriverActivity

namespace Run

variable {told : Instructions} {run run' : Run} {actor : Actor} {history : History} {t : Terms}

@[simp] theorem sinks_desk (run : Run) (stage : Stage) : (run.desk stage).sinks = run.sinks := by
  cases stage <;> rfl

/-- Once done with both stages, the driver stays so. -/
theorem Moves.done_mono (h : Moves told run actor run')
    (hdone : run.driver.activity.standing .resolver = .done) :
    run'.driver.activity.standing .resolver = .done := by
  by_cases hne : actor = .driver
  · subst hne
    cases h with
    | feed hactivity | fed hactivity | reject hactivity =>
      rw [hactivity] at hdone
      contradiction
    | @drain own _ _ _ _ hactivity | @drained own _ _ _ _ hactivity | @joined own _ _ _ hactivity
    | @joinedAll own _ hactivity | @finish own hactivity =>
      rw [hactivity] at hdone
      cases own <;> contradiction
    | clear | clearedFirst | clearedSecond => rfl
  · rw [h.driver_eq hne]
    exact hdone

/-- Nobody begins to release the sinks on the way. -/
theorem Moves.outsider_of_none (h : Moves told run actor run') (hnone : run.outsider = none) :
    run'.outsider = none := by
  cases h with
  | @worker own => cases own <;> exact hnone
  | @fed file call later result =>
    cases result with
    | ok => exact hnone
    | error error => cases error <;> exact hnone
  | @reject failure =>
    cases (run.sinks.writeLine .stderr (rejection failure)).1 <;> exact hnone
  | @drain own | @drained own | @finish own | @clear own => cases own <;> exact hnone
  | feed | joined | joinedAll | clearedFirst | clearedSecond => exact hnone
  | release houtsider | released houtsider =>
    rw [hnone] at houtsider
    contradiction

/-- Where there is no outsider, it makes no step. -/
theorem Moves.ne_outsider (h : Moves told run actor run') (hnone : run.outsider = none) :
    actor ≠ .outsider := by
  rintro rfl
  cases h with
  | release houtsider | released houtsider =>
    rw [hnone] at houtsider
    contradiction

/-- The line of a step of a worker is the line that the worker writes. -/
theorem lineOf_worker {stage : Stage} {i : Nat} {w : Worker}
    (hplace : (run.workers stage)[i]? = some w) :
    run.lineOf told (.worker stage i) = w.line? told run.moment := by
  rw [lineOf, hplace]
  rfl

/-- **What a step does to the sinks**: it writes one line, or leaves them alone. -/
theorem Moves.sinks_eq (h : Moves told run actor run') (hne : actor ≠ .outsider) :
    run'.sinks = run.sinks.receive (run.lineOf told actor) := by
  -- the worker, the report of a name, and the outsider are all that touch the sinks
  cases h with
  | @worker own i w w' desk hplace hworker =>
    rw [lineOf_worker hplace, ← sinks_desk run own, ← hworker.sinks_eq]
    cases own <;> rfl
  | @fed file call later result files hactivity =>
    rw [lineOf, hactivity]
    cases result with
    | ok => rfl
    | error error => cases error <;> rfl
  | @reject failure later hactivity =>
    rw [lineOf, hactivity]
    cases (run.sinks.writeLine .stderr (rejection failure)).1 <;> rfl
  | @drain own _ _ _ _ hactivity | @drained own _ _ _ _ hactivity | @finish own hactivity
  | @clear own _ _ _ hactivity =>
    rw [lineOf, hactivity]
    cases own <;> rfl
  | feed hactivity | joined hactivity | joinedAll hactivity | clearedFirst hactivity
  | clearedSecond hactivity =>
    rw [lineOf, hactivity]
    rfl
  | release | released => exact absurd rfl hne

/-- What a step adds to the history for a sink is the line that it writes there. -/
theorem bytes_events (told : Instructions) (actor : Actor) (run : Run) (sink : Sink) :
    ((events told actor run).lines sink).flatMap Sinks.lineBytes =
      Sinks.bytesFor sink (run.lineOf told actor) := by
  rw [lines_events]
  cases run.lineOf told actor with
  | none => rfl
  | some line => by_cases hsink : line.1 = sink <;> simp [Sinks.bytesFor, hsink]

/-- What can be handed on, told by the parts of the run that never change. -/
theorem target_map_desk (run : Run) :
    (run.desk .requester).target.map Queue.maxItemLength =
      if run.hasTarget .requester then some ((run.queue .resolver).slotLength - 1) else none := by
  by_cases hnone : run.resolvers.isEmpty = true <;>
    simp [desk, hasTarget, queue, Queue.maxItemLength, hnone]

/-- What holds at every moment of a run in a calm world. -/
structure Calm (t : Terms) (run : Run) : Prop where
  limit : (run.desk .requester).target.map Queue.maxItemLength = t.limit
  /-- No worker ends before its sentinel. -/
  steady : ∀ stage, ∀ w ∈ run.workers stage, (t.seenBy stage).Steady w.activity
  rings : run.driver.activity.standing .resolver ≠ .done →
    ∀ stage, (run.queue stage).ring.closed = false
  tidy : Tidy run
  kept : run.driver.account.kept = none
  willing : run.sinks.Willing
  outsider : run.outsider = none

namespace Calm

/-- As long as a worker goes on the queues are open. -/
theorem rings_of_worker (h : Calm t run) {sentinel : Sentinel}
    (horderly : Orderly sentinel history run) {stage : Stage} {i : Nat} {w : Worker}
    (hplace : (run.workers stage)[i]? = some w) (hover : w.isOver = false) :
    ∀ stage, (run.queue stage).ring.closed = false :=
  h.rings (horderly.standing_of_goes_on hplace hover)

/-- **All that a worker needs for its next step is there.** -/
theorem serves (h : Calm t run) {sentinel : Sentinel} (horderly : Orderly sentinel history run)
    {stage : Stage} {i : Nat} {w : Worker} (hplace : (run.workers stage)[i]? = some w)
    (hover : w.isOver = false) : Worker.Serves (t.seenBy stage) (run.desk stage) where
  limit := by
    cases stage with
    | requester => exact h.limit
    | resolver => rfl
  source_open := by
    have hring := h.rings_of_worker horderly hplace hover stage
    rw [source_desk]
    exact ⟨hring, ((horderly.sound.balanced stage).counters_open hring).2⟩
  target_open target htarget := by
    obtain ⟨-, rfl⟩ := target_desk htarget
    have hring := h.rings_of_worker horderly hplace hover .resolver
    exact ⟨hring, ((horderly.sound.balanced .resolver).counters_open hring).1⟩
  willing := by
    rw [sinks_desk]
    exact h.willing

/-- So a worker does at its next step what a steady worker does. -/
theorem does (h : Calm t run) (hhold : t.Hold told) (horderly : Orderly told.sentinel history run)
    {stage : Stage} {i : Nat} {w w' : Worker} {desk : Desk}
    (hplace : (run.workers stage)[i]? = some w)
    (hmove : Worker.Moves told run.moment w (run.desk stage) w' desk) :
    ∃ begun now,
      Worker.Does (t.seenBy stage) told run.moment w (run.desk stage) w' begun now := by
  have hmem := List.mem_of_getElem? hplace
  refine hmove.does (Terms.hold_seenBy hhold stage)
    (h.serves horderly hplace hmove.isOver_eq_false) (h.steady stage w hmem) ?_
  rw [t.sentinel_seenBy, ← hhold.sentinel]
  exact horderly.offers stage w hmem

/-! ## Every step keeps it

The parts lean on each other. The queues stay open because nobody makes a call that closes them, the
workers are steady because the queues are open and the sinks willing, and the driver keeps no
failure because neither its calls nor its workers fail. -/

/-- Until the driver is done, no thread makes a step of a call that closes a queue. -/
theorem leavesOpen (h : Calm t run) {actor : Actor}
    (hactor : actor = .driver → run.driver.activity.standing .resolver ≠ .done) (stage : Stage) :
    ∀ c, run.callOn actor stage = some c → c.leavesOpen = true := by
  cases actor with
  | driver => exact DriverActivity.leavesOpen_callOn (hactor rfl) stage
  | worker own i =>
    intro c hcall
    simp only [callOn, Option.bind_eq_some_iff] at hcall
    obtain ⟨w, hplace, hcall⟩ := hcall
    -- a worker is in a call of one of its two queues, or in none
    have hsteady := Terms.leavesOpen_of_steady (h.steady own w (List.mem_of_getElem? hplace))
    split at hcall
    · exact hsteady.1 c hcall
    · split at hcall
      · exact hsteady.2 c hcall
      · contradiction
  | outsider =>
    intro c hcall
    contradiction

/-- What can be handed on is fixed. -/
theorem limit_move (h : Calm t run) (hmove : Moves told run actor run') :
    (run'.desk .requester).target.map Queue.maxItemLength = t.limit := by
  rw [target_map_desk, hmove.hasTarget_eq, (hmove.turn .resolver).geometry.2.2, ← target_map_desk]
  exact h.limit

/-- The worker that moves stays steady, and the others have not moved. -/
theorem steady_move (h : Calm t run) (hhold : t.Hold told)
    (horderly : Orderly told.sentinel history run) (hmove : Moves told run actor run')
    (stage : Stage) : ∀ w ∈ run'.workers stage, (t.seenBy stage).Steady w.activity := by
  intro w hmem
  rcases hmove.mem_workers hmem with hold | ⟨i, u, desk, hplace, hworker⟩
  · exact h.steady stage w hold
  · obtain ⟨begun, now, hdoes⟩ := h.does hhold horderly hplace hworker
    exact hdoes.steady

/-- As long as the driver is not done, nothing closes a queue. -/
theorem rings_move (h : Calm t run) (hmove : Moves told run actor run')
    (hopen : run'.driver.activity.standing .resolver ≠ .done) (stage : Stage) :
    (run'.queue stage).ring.closed = false := by
  have hbefore : run.driver.activity.standing .resolver ≠ .done := fun hdone =>
    hopen (hmove.done_mono hdone)
  rw [(hmove.turn stage).closed_frame (h.leavesOpen (fun _ => hbefore) stage)]
  exact h.rings hbefore stage

/-- A line more makes no device unwilling. -/
theorem willing_move (h : Calm t run) (hmove : Moves told run actor run') : run'.sinks.Willing := by
  rw [hmove.sinks_eq (hmove.ne_outsider h.outsider)]
  exact (Sinks.written_receive h.willing _).1

/-- As long as the driver is not done with both stages, all queues let it in. -/
theorem driver_open (h : Calm t run) {sentinel : Sentinel} (horderly : Orderly sentinel history run)
    (hopen : run.driver.activity.standing .resolver ≠ .done) (stage : Stage) :
    (run.queue stage).ring.closed = false ∧ (run.queue stage).free.closed = false := by
  have hring := h.rings hopen stage
  exact ⟨hring, ((horderly.sound.balanced stage).counters_open hring).1⟩

/-- No step of the driver brings a failure: its puts find the queues open, its reports are taken,
its drains succeed, and the workers that it joins have come to their sentinels. -/
theorem kept_move (h : Calm t run) (horderly : Orderly told.sentinel history run)
    (hmove : Moves told run actor run') : run'.driver.account.kept = none := by
  -- only the driver keeps failures
  by_cases hne : actor = .driver
  · subst hne
    cases hmove with
    | @fed file call later result files hactivity hstep =>
      obtain ⟨hring, hfree⟩ :=
        h.driver_open horderly (by simp [hactivity, DriverActivity.standing]) .requester
      rcases (PutCall.moves_of_step hstep).returns_of_open hring hfree with
        ⟨-, rfl⟩ | ⟨item, -, -, rfl⟩
      · exact h.kept
      · -- a name that is too long is reported, which is no failure of the run
        exact h.kept
    | @reject failure later hactivity =>
      obtain ⟨sinks, hwrite, -⟩ := Sinks.written_writeLine h.willing .stderr (rejection failure)
      rw [hwrite]
      exact h.kept
    | @drained own call result shutdown queue hactivity hdrain =>
      have hlaw := horderly.law own
      rw [hactivity] at hlaw
      simp only [DriverActivity.standing, Standing.seenFrom_self] at hlaw
      obtain ⟨hring, hfree⟩ :=
        h.driver_open horderly (by
          cases own <;> simp [hactivity, DriverActivity.standing, Standing.seenFrom]) own
      obtain rfl := hdrain.returns_of_open hring hfree (horderly.fits own) hlaw
      cases own <;> exact h.kept
    | @joined own next w result hactivity hplace hresult =>
      -- the worker has come to its sentinel, so there is no failure in its report
      obtain ⟨report, -, rfl, hfailure⟩ :=
        Terms.result?_of_steady (h.steady own w (List.mem_of_getElem? hplace)) hresult
      show keepFirst run.driver.account.kept report.failure? = none
      rw [hfailure, Account.keepFirst_none]
      exact h.kept
    | @drain own | @finish own | @clear own => cases own <;> exact h.kept
    | feed | joinedAll | clearedFirst | clearedSecond => exact h.kept
  · rw [hmove.driver_eq hne]
    exact h.kept

/-- **Every step keeps calm.** -/
theorem move (h : Calm t run) (hhold : t.Hold told) (horderly : Orderly told.sentinel history run)
    (hmove : Moves told run actor run') : Calm t run' where
  limit := h.limit_move hmove
  steady := h.steady_move hhold horderly hmove
  rings := h.rings_move hmove
  tidy := h.tidy.move hmove
  kept := h.kept_move horderly hmove
  willing := h.willing_move hmove
  outsider := hmove.outsider_of_none h.outsider

/-- A calm run answers with its summary. -/
theorem answer (h : Calm t run) {result : Except Failure RunSummary}
    (hreturned : run.driver.activity = .returned result) :
    ∃ elapsed, result = .ok { run.driver.account.summary with elapsed := elapsed } := by
  obtain ⟨elapsed, heq⟩ := h.tidy.answer result hreturned
  rw [h.kept] at heq
  exact ⟨elapsed, heq⟩

end Calm

end Run

end HostLookup
