import HostLookup.Proofs.Run.Start

/-!
# How a run clears up behind itself

The driver destroys the two queues one after the other when all workers have ended, and nobody else
destroys anything. So nothing can go wrong in it, whatever has happened before, and what the run
answers depends only on the failure that was kept.

* **`DriverActivity.hasCleared`**: which queues have been destroyed.
* **`Run.Tidy`** is what holds at every moment, and **`Run.Tidy.move`** keeps it.
-/

namespace HostLookup

namespace DriverActivity

/-- Has the driver destroyed the queue in front of a stage? -/
def hasCleared : DriverActivity → Stage → Bool
  | .clearing .resolver _, .requester | .returned _, _ => true
  | _, _ => false

/-- A queue is destroyed behind both stages. -/
theorem standing_of_hasCleared {activity : DriverActivity} {stage : Stage}
    (h : activity.hasCleared stage = true) : activity.standing .resolver = .done := by
  cases activity with
  | clearing | returned => rfl
  | _ => contradiction

/-- A driver that is not done with both stages has destroyed nothing. -/
theorem hasCleared_of_standing {activity : DriverActivity}
    (h : activity.standing .resolver ≠ .done) (stage : Stage) : activity.hasCleared stage = false :=
  Bool.eq_false_iff.mpr fun hcleared => h (standing_of_hasCleared hcleared)

end DriverActivity

namespace Run

variable {told : Instructions} {run run' : Run} {actor : Actor}

/-- Only the driver destroys a queue. -/
theorem eq_driver_of_destroy {stage : Stage} {call : DestroyCall}
    (hcall : run.callOn actor stage = some (.destroy call)) :
    actor = .driver ∧ run.driver.activity = .clearing stage call := by
  cases actor with
  | driver =>
    refine ⟨rfl, ?_⟩
    -- of all places of the driver only one is a call that destroys
    cases hactivity : run.driver.activity with
    | feeding _ put _ => cases stage <;> simp [callOn, hactivity, DriverActivity.callOn] at hcall
    | draining own drain =>
      cases drain <;> simp [callOn, hactivity, DriverActivity.callOn, DrainCall.putCall] at hcall
    | clearing own destroy =>
      simp only [callOn, hactivity, DriverActivity.callOn] at hcall
      split at hcall
      · next hown =>
        subst hown
        cases hcall
        rfl
      · contradiction
    | _ => simp [callOn, hactivity, DriverActivity.callOn] at hcall
  | worker own i =>
    simp only [callOn, Option.bind_eq_some_iff] at hcall
    obtain ⟨w, -, hcall⟩ := hcall
    split at hcall
    · cases hactivity : w.activity <;> simp [hactivity, Activity.sourceCall] at hcall
    · split at hcall
      · cases hactivity : w.activity <;> simp [hactivity, Activity.targetCall] at hcall
      · contradiction
  | outsider => contradiction

/-- A run that has a result is over. -/
theorem activity_of_result? {result : Except Failure RunSummary}
    (hresult : run.result? = some result) : run.driver.activity = .returned result := by
  unfold result? at hresult
  split at hresult
  · next hactivity => rw [hactivity, Option.some.inj hresult]
  · contradiction

/-- What holds at every moment of a run about its end. -/
structure Tidy (run : Run) : Prop where
  destroyed_eq : ∀ stage, (run.queue stage).ring.destroyed = run.driver.activity.hasCleared stage
  teardown : run.driver.teardown = .ok ()
  /-- The answer is the failure that was kept, or else the summary. -/
  answer : ∀ result, run.driver.activity = .returned result →
    ∃ elapsed, result =
      match run.driver.account.kept with
      | some failure => .error failure
      | none => .ok { run.driver.account.summary with elapsed := elapsed }

namespace Tidy

/-- Destroying a queue goes well. -/
theorem clears (h : Tidy run) {stage : Stage} {call : DestroyCall}
    {result : Except QueueError Unit} {queue : Queue}
    (hactivity : run.driver.activity = .clearing stage call)
    (hstep : call.step (run.queue stage) = (.returns result, queue)) :
    result = .ok () ∧ queue.ring.destroyed = true := by
  cases DestroyCall.moves_of_step hstep with
  | late hdestroyed =>
    have hlive := h.destroyed_eq stage
    rw [hactivity, hdestroyed] at hlive
    cases stage <;> contradiction
  | release => exact ⟨rfl, rfl⟩

/-- A run that answers with its summary has kept no failure. -/
theorem kept_eq_none (h : Tidy run) {summary : RunSummary}
    (hreturned : run.driver.activity = .returned (.ok summary)) :
    run.driver.account.kept = none := by
  obtain ⟨elapsed, hanswer⟩ := h.answer _ hreturned
  cases hkept : run.driver.account.kept with
  | none => rfl
  | some failure =>
    rw [hkept] at hanswer
    contradiction

/-! ## Every step keeps it

A queue counts as destroyed from the step on in which the driver goes on to the next one. The step
of everybody else leaves it as it is, since a `destroy` is under way only where the driver says so
(`eq_driver_of_destroy`). -/

/-- A queue is destroyed when the driver has passed it, and not before. -/
theorem destroyed_move (h : Tidy run) (hmove : Moves told run actor run') (stage : Stage) :
    (run'.queue stage).ring.destroyed = run'.driver.activity.hasCleared stage := by
  -- as long as nobody destroys the queue, it is as it was
  have hframe : run.callOn actor stage ≠ some (.destroy .releasing) →
      (run'.queue stage).ring.destroyed = run.driver.activity.hasCleared stage := fun hcall =>
    ((hmove.turn stage).destroyed_frame hcall).trans (h.destroyed_eq stage)
  have hnone : run.driver.activity.standing .resolver ≠ .done →
      run'.driver.activity.hasCleared stage = false →
      (run'.queue stage).ring.destroyed = run'.driver.activity.hasCleared stage := by
    intro hopen hafter
    rw [hafter, hframe, DriverActivity.hasCleared_of_standing hopen]
    intro hcall
    rw [(eq_driver_of_destroy hcall).2] at hopen
    exact hopen rfl
  -- whatever comes of a name, the driver is still in front of the teardown
  have hfeeds : ∀ {activity : DriverActivity},
      activity.standing .resolver = .ahead ∨ activity.standing .resolver = .draining .claiming →
      activity.hasCleared stage = false := by
    rintro activity (heq | heq) <;>
      exact DriverActivity.hasCleared_of_standing (by rw [heq]; nofun) stage
  by_cases hne : actor = .driver
  · subst hne
    cases hmove with
    | feed hactivity => exact hnone (by rw [hactivity]; nofun) rfl
    | fed hactivity => exact hnone (by rw [hactivity]; nofun) (hfeeds (standing_fed _ _ _ _ _))
    | reject hactivity =>
      exact hnone (by rw [hactivity]; nofun) (hfeeds (standing_rejected _ _ _ _))
    | @drain own _ _ _ _ hactivity | @drained own _ _ _ _ hactivity | @joined own _ _ _ hactivity
    | @joinedAll own _ hactivity =>
      exact hnone (by rw [hactivity]; cases own <;> nofun) rfl
    | @finish own hactivity =>
      exact hnone (by rw [hactivity]; cases own <;> nofun) (by cases own <;> cases stage <;> rfl)
    | @clear own call call' queue hactivity hstep =>
      refine (hframe fun hcall => ?_).trans (by rw [hactivity]; cases own <;> cases stage <;> rfl)
      -- the last step of a `destroy` would have returned
      have hclearing := (eq_driver_of_destroy hcall).2
      rw [hactivity] at hclearing
      cases hclearing
      cases DestroyCall.moves_of_step hstep
    | clearedFirst hactivity hstep =>
      cases stage with
      | requester => exact (h.clears hactivity hstep).2
      | resolver => exact (h.destroyed_eq .resolver).trans (by rw [hactivity]; rfl)
    | clearedSecond hactivity hstep =>
      cases stage with
      | requester => exact (h.destroyed_eq .requester).trans (by rw [hactivity]; rfl)
      | resolver => exact (h.clears hactivity hstep).2
  · rw [hmove.driver_eq hne]
    exact hframe fun hcall => hne (eq_driver_of_destroy hcall).1

/-- No `destroy` fails, so the teardown keeps no failure. -/
theorem teardown_move (h : Tidy run) (hmove : Moves told run actor run') :
    run'.driver.teardown = .ok () := by
  by_cases hne : actor = .driver
  · subst hne
    cases hmove with
    | @fed file call later result =>
      cases result with
      | ok => exact h.teardown
      | error error => cases error <;> exact h.teardown
    | @reject failure =>
      cases (run.sinks.writeLine .stderr (rejection failure)).1 <;> exact h.teardown
    | clearedFirst hactivity hstep | clearedSecond hactivity hstep =>
      obtain ⟨rfl, -⟩ := h.clears hactivity hstep
      simp only [turnTo, cleared, driver_setQueue, h.teardown]
    | @drain own | @drained own | @finish own | @clear own => cases own <;> exact h.teardown
    | feed | joined | joinedAll => exact h.teardown
  · rw [hmove.driver_eq hne]
    exact h.teardown

/-- The answer is given once, with the second queue destroyed. -/
theorem answer_move (h : Tidy run) (hmove : Moves told run actor run')
    (result : Except Failure RunSummary) (hreturned : run'.driver.activity = .returned result) :
    ∃ elapsed, result =
      match run'.driver.account.kept with
      | some failure => .error failure
      | none => .ok { run'.driver.account.summary with elapsed := elapsed } := by
  have hfeed : ∀ files, feed files ≠ .returned result := by
    intro files
    cases files <;> exact nofun
  by_cases hne : actor = .driver
  · subst hne
    cases hmove with
    | @fed file call later result' =>
      exfalso
      cases result' with
      | ok => exact hfeed later hreturned
      | error error => cases error <;> first | exact hfeed [] hreturned | contradiction
    | @reject failure later =>
      exfalso
      cases hwrite : (run.sinks.writeLine .stderr (rejection failure)).1 with
      | ok =>
        rw [hwrite] at hreturned
        exact hfeed later hreturned
      | error =>
        rw [hwrite] at hreturned
        exact hfeed [] hreturned
    | @finish own => cases own <;> contradiction
    | feed | drain | drained | joined | joinedAll | clear | clearedFirst => contradiction
    -- only here the run returns
    | @clearedSecond call result' queue hactivity hstep =>
      obtain ⟨rfl, -⟩ := h.clears hactivity hstep
      have hanswer := DriverActivity.returned.inj hreturned
      refine ⟨told.environment.elapsed run.moment, ?_⟩
      rw [← hanswer]
      cases hkept : run.driver.account.kept <;>
        simp only [conclusion, turnTo, cleared, driver_setQueue, h.teardown, hkept]
  · rw [hmove.driver_eq hne] at hreturned ⊢
    exact h.answer result hreturned

/-- **Every step keeps a run tidy.** -/
theorem move (h : Tidy run) (hmove : Moves told run actor run') : Tidy run' where
  destroyed_eq := h.destroyed_move hmove
  teardown := h.teardown_move hmove
  answer := h.answer_move hmove

theorem tick (h : Tidy run) (moment : Nat) : Tidy { run with moment := moment } :=
  ⟨h.destroyed_eq, h.teardown, h.answer⟩

end Tidy

section Initial

variable {plan : Plan} {request : RunRequest} {sinks : Sinks} {refusals : Refusals}
  {outsider : Option SinkCall} {environment : Environment}

/-- The teardown begins without a failure. -/
theorem teardown_driver (pools : Pools) (files : List String) :
    (pools.driver files).teardown = .ok () := by
  unfold Pools.driver
  split <;> rfl

/-- In the beginning both queues are there. -/
theorem tidy_initial : Tidy (initial plan request sinks refusals outsider) := by
  have hfeed : ∀ files, (∀ stage, (feed files).hasCleared stage = false) ∧
      ∀ result, feed files ≠ .returned result := by
    intro files
    cases files with
    | nil => exact ⟨fun stage => by cases stage <;> rfl, nofun⟩
    | cons => exact ⟨fun stage => by cases stage <;> rfl, nofun⟩
  refine ⟨fun stage => ?_, teardown_driver _ _, fun result hreturned => ?_⟩
  · rw [activity_initial, (hfeed _).1 stage]
    cases stage <;> rfl
  · rw [activity_initial] at hreturned
    exact absurd hreturned ((hfeed _).2 result)

/-- **Every run is tidy** at every moment, whatever happens to it. -/
theorem tidy_of_reachable
    (hreach : Reachable (plan.instructions environment)
      (initial plan request sinks refusals outsider) run) : Tidy run := by
  refine hreach.invariant tidy_initial fun actor mid next h hstep => ?_
  obtain ⟨next, hmove, rfl⟩ := moves_of_step hstep
  exact (h.move hmove).tick _

end Initial

end Run

end HostLookup
