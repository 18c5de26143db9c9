import HostLookup.Proofs.Run.Sentinels

/-!
# What a run answers

The answer of a run is either the summary or the cause of its failure, never a failure that another
one has brought about. It is the summary only if every worker has come to its sentinel. Whatever it
is, all workers have been joined and both queues destroyed when it is given, each of them once.

* **`Run.WoundUp`**: what the steps on the way have done to end the run.
* **`Run.Concluded`** lists what is known when a run has answered, and
  **`Run.concluded_of_path`** says that it holds of every run.
-/

namespace HostLookup.Run

variable {told : Instructions} {run run' : Run} {actor : Actor} {history : History}
  {sentinel : Sentinel} {path : List (Actor × Run)}

/-! ## Ending the run step by step

Joining and clearing are done by single steps of the driver, and a path shows each of them.
`WoundUp` counts them along the path: how many were joined, in which order, and which queues were
destroyed. -/

/-- The place of the worker of a stage that is joined by the next step of a thread. -/
def joins (run : Run) (actor : Actor) (stage : Stage) : Option Nat :=
  match actor, run.driver.activity with
  | .driver, .joining own next =>
    if own = stage ∧ next < (run.workers stage).length then some next else none
  | _, _ => none

/-- How many workers of a stage the driver has joined. -/
def joinedCount (run : Run) (stage : Stage) : Nat :=
  (run.driver.activity.standing stage).joined (run.workers stage).length

/-- The driver joins one worker after the other. -/
theorem Moves.joins (h : Moves told run actor run') (stage : Stage)
    (hle : run.joinedCount stage ≤ (run.workers stage).length) :
    (run.joins actor stage = none ∧ run'.joinedCount stage = run.joinedCount stage) ∨
      (run.joins actor stage = some (run.joinedCount stage) ∧
        run.joinedCount stage < (run.workers stage).length ∧
        run'.joinedCount stage = run.joinedCount stage + 1) := by
  have hlength := h.length_workers stage
  unfold joinedCount at hle ⊢
  rw [hlength]
  have hnobody : ∀ {standing : Standing}, standing = .ahead ∨ standing = .draining .claiming →
      standing.joined (run.workers stage).length = 0 := by
    rintro standing (rfl | rfl) <;> rfl
  have hidle : (∀ own next, run.driver.activity ≠ .joining own next) →
      run.joins .driver stage = none := by
    intro hother
    unfold Run.joins
    split
    · next own next _ hactivity => exact absurd hactivity (hother own next)
    · rfl
  by_cases hne : actor = .driver
  · subst hne
    cases h with
    | feed hactivity => exact Or.inl ⟨hidle (by simp [hactivity]), by rw [hactivity]; rfl⟩
    | fed hactivity =>
      refine Or.inl ⟨hidle (by simp [hactivity]), ?_⟩
      rw [hnobody (standing_fed _ _ _ _ stage), hactivity]
      rfl
    | reject hactivity =>
      refine Or.inl ⟨hidle (by simp [hactivity]), ?_⟩
      rw [hnobody (standing_rejected _ _ _ stage), hactivity]
      rfl
    | @drain own _ _ _ _ hactivity | @drained own _ _ _ _ hactivity =>
      refine Or.inl ⟨hidle (by simp [hactivity]), ?_⟩
      rw [hactivity]
      cases own <;> cases stage <;> rfl
    | @joined own next w result hactivity hplace =>
      have hlt := (List.getElem?_eq_some_iff.mp hplace).1
      by_cases hown : own = stage
      · subst hown
        refine Or.inr ?_
        simp only [Run.joins, hactivity, activity_turnTo, DriverActivity.standing,
          Standing.seenFrom_self, Standing.joined]
        exact ⟨if_pos ⟨trivial, hlt⟩, hlt, trivial⟩
      · refine Or.inl ⟨by simp [Run.joins, hactivity, hown], ?_⟩
        rw [hactivity]
        simp only [activity_turnTo, DriverActivity.standing,
          Standing.seenFrom_of_ne hown (.joining (next + 1)) (.joining next)]
    | @joinedAll own next hactivity hplace =>
      have hall := List.getElem?_eq_none_iff.mp hplace
      refine Or.inl ?_
      rw [hactivity] at hle
      by_cases hown : own = stage
      · -- nobody is left, and no place was counted twice
        subst hown
        simp only [DriverActivity.standing, Standing.seenFrom_self, Standing.joined] at hle
        simp only [Run.joins, hactivity, activity_turnTo, DriverActivity.standing,
          Standing.seenFrom_self, Standing.joined]
        exact ⟨if_neg (by omega), by omega⟩
      · refine ⟨by simp [Run.joins, hactivity, hown], ?_⟩
        rw [hactivity]
        simp only [activity_turnTo, DriverActivity.standing,
          Standing.seenFrom_of_ne hown .finishing (.joining next)]
    | @finish own hactivity =>
      refine Or.inl ⟨hidle (by simp [hactivity]), ?_⟩
      rw [hactivity]
      cases own <;> cases stage <;> rfl
    | clear hactivity | clearedFirst hactivity | clearedSecond hactivity =>
      exact Or.inl ⟨hidle (by simp [hactivity]), by rw [hactivity]; rfl⟩
  · rw [h.driver_eq hne]
    refine Or.inl ⟨?_, rfl⟩
    cases actor with
    | driver => exact absurd rfl hne
    | worker | outsider => rfl

/-- A queue is destroyed by the last step of the call of the driver, and by no other. -/
theorem Moves.hasCleared (h : Moves told run actor run') (htidy : Tidy run) (stage : Stage) :
    (run'.driver.activity.hasCleared stage).toNat =
      (run.driver.activity.hasCleared stage).toNat +
        if run.callOn actor stage = some (.destroy .releasing) then 1 else 0 := by
  rw [← htidy.destroyed_eq, ← (htidy.move h).destroyed_eq]
  split
  · next hcall =>
    obtain ⟨rfl, hclearing⟩ := eq_driver_of_destroy hcall
    have hlive : (run.queue stage).ring.destroyed = false := by
      rw [htidy.destroyed_eq, hclearing]
      cases stage <;> rfl
    have hafter : (run'.queue stage).ring.destroyed = true := by
      rw [(htidy.move h).destroyed_eq]
      cases h with
      | feed hactivity | fed hactivity | reject hactivity | drain hactivity | drained hactivity
      | joined hactivity | joinedAll hactivity | finish hactivity =>
        rw [hactivity] at hclearing
        contradiction
      | clear hactivity hstep =>
        rw [hactivity] at hclearing
        cases hclearing
        cases DestroyCall.moves_of_step hstep
      | clearedFirst hactivity | clearedSecond hactivity =>
        rw [hactivity] at hclearing
        cases hclearing
        rfl
    rw [hlive, hafter]
    rfl
  · -- any other step leaves the slots of the queue where they are
    next hcall => rw [(h.turn stage).destroyed_frame hcall, Nat.add_zero]

/-- What the steps on the way have done to end the run. -/
structure WoundUp (start : Sinks) (path : List (Actor × Run)) (run : Run) : Prop where
  joined_le : ∀ stage, run.joinedCount stage ≤ (run.workers stage).length
  /-- The workers were joined in the order of their places. -/
  joined : ∀ stage, path.filterMap (fun p => p.2.joins p.1 stage) =
    List.range (run.joinedCount stage)
  /-- A queue was destroyed once, if at all. -/
  destroyed : ∀ stage, path.countP (fun p => p.2.callOn p.1 stage = some (.destroy .releasing)) =
    (run.driver.activity.hasCleared stage).toNat
  /-- A sink that is released was so at the beginning, or the outsider has released it. -/
  released : ∀ sink, (run.sinks.get sink).released = true →
    (start.get sink).released = true ∨ ∃ p ∈ path, p.1 = .outsider ∧
      ∃ later result, p.2.outsider = some (.releasing (sink :: later) result)

namespace WoundUp

variable {start : Sinks}

/-- **Every step keeps it.** -/
theorem move (h : WoundUp start path run) (htidy : Tidy run) (hmove : Moves told run actor run') :
    WoundUp start (path ++ [(actor, run)]) run' where
  joined_le stage := by
    rw [hmove.length_workers]
    have hle := h.joined_le stage
    rcases hmove.joins stage hle with ⟨-, heq⟩ | ⟨-, hlt, heq⟩ <;> omega
  joined stage := by
    rw [List.filterMap_append, h.joined]
    -- the place that is joined is the number of those joined before
    rcases hmove.joins stage (h.joined_le stage) with ⟨hnone, heq⟩ | ⟨hsome, -, heq⟩
    · simp [hnone, heq]
    · simp [hsome, heq, List.range_succ]
  destroyed stage := by
    rw [List.countP_append, h.destroyed, hmove.hasCleared htidy]
    simp [List.countP_singleton]
  released sink hreleased := by
    rcases hmove.released_of_outsider hreleased with hbefore | ⟨rfl, hcall⟩
    · refine (h.released sink hbefore).imp_right ?_
      rintro ⟨p, hmem, hp⟩
      exact ⟨p, List.mem_append_left _ hmem, hp⟩
    · exact Or.inr ⟨_, List.mem_append_right _ (List.mem_singleton.mpr rfl), rfl, hcall⟩

theorem tick (h : WoundUp start path run) (moment : Nat) :
    WoundUp start path { run with moment := moment } :=
  ⟨h.joined_le, h.joined, h.destroyed, h.released⟩

end WoundUp

/-! ## The answer

The driver answers at its last place, with what it has kept or else with its summary. Nothing is
kept only if no worker failed (`Rooted`), and what is kept has a cause. -/

/-- What is known when a run has answered. -/
structure Concluded (told : Instructions) (threads : Stage → Nat) (start : Sinks)
    (path : List (Actor × Run)) (now : Run) (result : Except Failure RunSummary) : Prop where
  /-- A queue fails only for something else, which is what the run answers. -/
  queue : ∀ error, result ≠ .error (.queue error)
  resource : ∀ message, result = .error (.resource message) →
    ∃ stage, ∃ w ∈ now.workers stage, w.activity = .panicked ∧
      Failure.resource message = .workerPanicked w.stage.name w.name
  released : ∀ sink, result = .error (.sink (.destroyed sink)) →
    (start.get sink).released = true ∨ ∃ p ∈ path, p.1 = .outsider ∧
      ∃ later outcome, p.2.outsider = some (.releasing (sink :: later) outcome)
  /-- The device of the standard error stream has refused the report of a name. -/
  refused : ∀ sink source, result = .error (.sink (.write sink source)) →
    sink = .stderr ∧ ∃ before failure later, (.driver, before) ∈ path ∧
      before.driver.activity = .rejecting failure later ∧
      (before.sinks.writeLine .stderr (rejection failure)).1 = .error (.write .stderr source)
  /-- No worker that has panicked or failed is passed over. -/
  failed : ∀ stage, ∀ w ∈ now.workers stage,
    (w.activity = .panicked ∨
      ∃ report failure, w.activity = .ended report ∧ report.exit = .error failure) →
    ∃ failure, result = .error failure
  /-- If the run answers with its summary, every worker has ended with its sentinel. -/
  completed : ∀ summary, result = .ok summary → ∀ stage i, i < threads stage →
    ∃ w report items, (now.workers stage)[i]? = some w ∧ w.activity = .ended report ∧
      report.exit = .ok () ∧ told.sentinel.text ∉ items ∧
      ((historyOf told path).of (.worker stage i)).taken stage = items ++ [told.sentinel.text]
  /-- All workers are over, and each of them was joined once. -/
  isOver : ∀ stage, ∀ w ∈ now.workers stage, w.isOver = true
  joined : ∀ stage, path.filterMap (fun p => p.2.joins p.1 stage) = List.range (threads stage)
  stopped : ∀ stage, (now.shutdown stage).state = .stopped
  /-- Each queue was destroyed once. -/
  destroyed : ∀ stage, (now.queue stage).ring.destroyed = true ∧
    path.countP (fun p => p.2.callOn p.1 stage = some (.destroy .releasing)) = 1
  teardown : now.driver.teardown = .ok ()

section Path

variable {plan : Plan} {request : RunRequest} {sinks : Sinks} {outsider : Option SinkCall}
  {environment : Environment} {now : Run}

/-- In the beginning nobody has been joined and nothing has been destroyed. -/
theorem woundUp_initial : WoundUp sinks [] (initial plan request sinks {} outsider) := by
  have hnobody : ∀ stage, (initial plan request sinks {} outsider).joinedCount stage = 0 := by
    intro stage
    unfold joinedCount
    rcases standing_initial _ rfl stage with heq | heq <;> rw [heq] <;> rfl
  refine ⟨fun stage => ?_, fun stage => ?_, fun stage => ?_, fun sink => Or.inl⟩
  · rw [hnobody]
    exact Nat.zero_le _
  · rw [hnobody]
    rfl
  · rw [← tidy_initial.destroyed_eq]
    cases stage <;> rfl

/-- **How a run has been ended so far** can be read off its path. -/
theorem woundUp_of_path
    (hpath : Path (step (plan.instructions environment))
      (initial plan request sinks {} outsider) path now) : WoundUp sinks path now := by
  induction hpath with
  | refl => exact woundUp_initial
  | tail actor hbefore hstep ih =>
    obtain ⟨next, hmove, rfl⟩ := moves_of_step hstep
    exact (ih.move (tidy_of_reachable hbefore.reaches) hmove).tick _

/-- A worker that is over and has its sentinel has ended without a failure. -/
theorem ended_of_hasSentinel {w : Worker} (hover : w.isOver = true)
    (hsentinel : w.activity.hasSentinel sentinel = true) :
    ∃ report, w.activity = .ended report ∧ report.exit = .ok () := by
  unfold Worker.isOver at hover
  split at hover
  · next report hactivity =>
    refine ⟨report, hactivity, ?_⟩
    rw [hactivity] at hsentinel
    cases hexit : report.exit with
    | ok => rfl
    | error => simp [Activity.hasSentinel, hexit, Except.isOk, Except.toBool] at hsentinel
  · next hactivity =>
    rw [hactivity] at hsentinel
    contradiction
  · contradiction

/-- An error that a run answers with is the failure that the driver kept, and that has a cause. -/
theorem cause_of_result (husable : plan.Usable) (hfiles : plan.sentinel.text ∉ request.files)
    (hpath : Path (step (plan.instructions environment))
      (initial plan request sinks {} outsider) path now)
    {failure : Failure} (hresult : now.result? = some (.error failure)) :
    Cause path now failure := by
  have hreturned := activity_of_result? hresult
  obtain ⟨_, hanswer⟩ := (tidy_of_reachable hpath.reaches).answer _ hreturned
  cases hkept : now.driver.account.kept with
  -- a driver that keeps nothing has no error to answer with
  | none =>
    rw [hkept] at hanswer
    contradiction
  | some kept =>
    rw [hkept] at hanswer
    obtain rfl := Except.error.inj hanswer
    refine (rooted_of_path husable hfiles hpath).cause (fun stage => ?_) hkept
    rw [hreturned]
    rfl

/-- Conversely, a worker that has panicked or failed leaves the run no summary to answer with. -/
theorem result_of_failed (husable : plan.Usable) (hfiles : plan.sentinel.text ∉ request.files)
    (hpath : Path (step (plan.instructions environment))
      (initial plan request sinks {} outsider) path now)
    {result : Except Failure RunSummary} (hresult : now.result? = some result) {stage : Stage}
    {w : Worker} (hmem : w ∈ now.workers stage) (hover : w.isOver = true)
    (hfailed : w.activity = .panicked ∨
      ∃ report failure, w.activity = .ended report ∧ report.exit = .error failure) :
    ∃ failure, result = .error failure := by
  cases result with
  | error failure => exact ⟨failure, rfl⟩
  | ok summary =>
    -- otherwise the worker has come to its sentinel
    obtain ⟨report, hended, hexit⟩ := ended_of_hasSentinel hover
      (hasSentinel_of_result husable hfiles hpath hresult stage w hmem)
    rcases hfailed with hpanicked | ⟨other, failure, hother, herror⟩
    · rw [hended] at hpanicked
      contradiction
    · rw [hended] at hother
      obtain rfl := Activity.ended.inj hother
      rw [hexit] at herror
      contradiction

/-- **What every run comes to**: it answers with the cause of its failure, or with its summary if
all workers have come to their sentinels, and it leaves nothing behind. -/
theorem concluded_of_path {settings : Settings} {start : Run} {result : Except Failure RunSummary}
    {memory : Allocator} (hplan : Plan.create settings = .ok plan)
    (hstart : Run.start plan request sinks memory = .ok start)
    (hfiles : plan.sentinel.text ∉ request.files)
    (hpath : Path (step (plan.instructions environment)) { start with outsider := outsider } path
      now)
    (hresult : now.result? = some result) :
    Concluded (plan.instructions environment) request.threads sinks path now result := by
  have husable := Plan.usable_of_create hplan
  obtain ⟨-, rfl⟩ := eq_of_start hstart
  replace hpath : Path (step (plan.instructions environment))
    (initial plan request sinks {} outsider) path now := hpath
  -- the invariants of the path, each of which has a part in the answer
  have horderly := orderly_of_path husable hfiles hpath
  have htidy := tidy_of_reachable hpath.reaches
  have hwound := woundUp_of_path hpath
  have hthreads := length_workers_of_path hpath
  have hreturned := activity_of_result? hresult
  have hdone : ∀ stage, now.driver.activity.standing stage = .done := fun stage => by
    rw [hreturned]
    rfl
  have hover : ∀ stage, ∀ w ∈ now.workers stage, w.isOver = true := by
    intro stage w hmem
    obtain ⟨j, hplace⟩ := List.mem_iff_getElem?.mp hmem
    exact horderly.joined stage j w hplace (by rw [hdone]; trivial)
  have hcause : ∀ failure, result = .error failure → Cause path now failure := by
    rintro failure rfl
    exact cause_of_result husable hfiles hpath hresult
  refine
    { queue := fun error heq => nomatch hcause _ heq
      resource := fun message heq => ?_
      released := fun sink heq => ?_
      refused := fun sink source heq => ?_
      failed := fun stage w hmem => ?_
      completed := fun summary hok stage i hlt => ?_
      isOver := hover
      joined := fun stage => ?_
      stopped := fun stage => ?_
      destroyed := fun stage => ?_
      teardown := htidy.teardown }
  · generalize hfailure : Failure.resource message = failure at heq
    cases hcause _ heq with
    | panicked hmem hpanicked => exact ⟨_, _, hmem, hpanicked, rfl⟩
    | released | refused => contradiction
  · cases hcause _ heq with
    | released hreleased => exact hwound.released sink hreleased
  · cases hcause _ heq with
    | refused hrefused =>
      obtain ⟨⟨_, before⟩, hmem, rfl, failure, later, hactivity, hwrite⟩ := hrefused
      exact ⟨rfl, before, failure, later, hmem, hactivity, hwrite⟩
  · exact result_of_failed husable hfiles hpath hresult hmem (hover stage w hmem)
  · subst hok
    have hplace := List.getElem?_eq_getElem (hthreads stage ▸ hlt)
    have hmem := List.mem_of_getElem? hplace
    obtain ⟨report, hended, hexit⟩ := ended_of_hasSentinel (hover stage _ hmem)
      (hasSentinel_of_result husable hfiles hpath hresult stage _ hmem)
    obtain ⟨items, hitems, heq⟩ := taken_of_result husable hfiles hpath hresult hplace
    exact ⟨_, report, items, hplace, hended, hexit, hitems, heq⟩
  · rw [hwound.joined, joinedCount, hdone, ← hthreads]
    rfl
  · have hlaw := horderly.law stage
    rw [hdone] at hlaw
    exact hlaw.1
  · rw [htidy.destroyed_eq, hwound.destroyed, hreturned]
    exact ⟨rfl, rfl⟩

/-- A resolver panics while the sinks are released. -/
theorem concluded_of_path_panic :
    let plan : Plan := { settings := { queueCapacity := 1 }, sentinel := .standard }
    let request : RunRequest := { requesters := 1, resolvers := 1, files := ["a"] }
    let environment := Environment.steady (fun _ => .opened [.line " b ", .line ""])
      (fun _ => .panicked) {}
    let sinks := Sinks.ofDevices fun _ => .memory
    let start := initial plan request sinks {} (some .marking)
    let now := execute (plan.instructions environment) 60 start
    ∃ failure path, now.result? = some (.error failure) ∧
      Path (step (plan.instructions environment)) start path now ∧
      Concluded (plan.instructions environment) request.threads sinks path now
        (.error failure) := by
  have hplan : Plan.create { queueCapacity := 1 } =
    .ok { settings := { queueCapacity := 1 }, sentinel := .standard } := rfl
  have hstart := start_eq_ok (.ofDevices fun _ => .memory)
    (show Plan.check { settings := { queueCapacity := 1 }, sentinel := .standard }
      { requesters := 1, resolvers := 1, files := ["a"] } = .ok () from rfl) rfl rfl
  intro plan request environment sinks start now
  have hfails : now.result?.any (fun result => !result.isOk) = true := by decide +kernel
  obtain ⟨path, hpath⟩ :=
    (reachable_execute (plan.instructions environment) 60 start).traces
      fun actor state => [(actor, state)]
  obtain ⟨failure, hresult⟩ := exists_error_of_any hfails
  exact ⟨failure, path, hresult, hpath, concluded_of_path hplan hstart (by decide) hpath hresult⟩

end Path

end HostLookup.Run
