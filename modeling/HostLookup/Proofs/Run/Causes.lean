import HostLookup.Proofs.Run.Calm
import HostLookup.Proofs.Run.Paths
import HostLookup.Proofs.Worker.Endings

/-!
# What a run fails for

One failure makes others. Whoever ends before its sentinel closes its queues, so other workers, the
feeding and the drains meet closed queues, and what they report may come to the driver first. But a
queue is never closed without a reason: somewhere there is a worker with an ending that is not a
closed queue, and when the driver joins that worker its failure takes the place of the failure that
was kept so far.

* **`Run.Noted`**: for which reasons the driver notes a failure.
* **`Run.HasRoot`**: somewhere there is a worker that did not end because of another one.
* **`Run.Refused`**: the report of a name that is too long was refused on the way.
* **`Run.Cause`**: a failure that explains itself.
* **`Run.Rooted`** is what holds at every moment, and **`Run.Rooted.move`** keeps it.
-/

namespace HostLookup

/-! ## Keeping the first failure

A closed queue is what others report of a failure that is not theirs, so it gives way to any other
failure and never replaces one. -/

/-- A failure other than a closed queue is kept for ever. -/
theorem keepFirst_of_other {failure : Failure} (h : failure.isClosedQueue = false)
    (new : Option Failure) : keepFirst (some failure) new = some failure := by
  cases new with
  | none => rfl
  | some later => simp [keepFirst, h]

/-- What is kept is the new failure or the one that was kept before, and a closed queue only if
there is nothing else. -/
theorem keepFirst_some (kept : Option Failure) (new : Failure) :
    ∃ failure, keepFirst kept (some new) = some failure ∧
      (failure = new ∨ kept = some failure) ∧
      (new.isClosedQueue = false → failure.isClosedQueue = false) ∧
      ∀ earlier, kept = some earlier → earlier.isClosedQueue = false →
        failure.isClosedQueue = false := by
  cases kept with
  | none =>
    refine ⟨new, rfl, Or.inl rfl, id, ?_⟩
    intro _ hnone
    cases hnone
  | some earlier =>
    cases hearlier : earlier.isClosedQueue with
    | false =>
      refine ⟨earlier, keepFirst_of_other hearlier _, Or.inr rfl, fun _ => hearlier, ?_⟩
      intro other heq hother
      exact Option.some.inj heq ▸ hother
    | true =>
      cases hnew : new.isClosedQueue with
      | false =>
        exact ⟨new, by simp [keepFirst, hearlier, hnew], Or.inl rfl, fun _ => hnew,
          fun _ _ _ => hnew⟩
      | true =>
        refine ⟨earlier, by simp [keepFirst, hnew], Or.inr rfl, ?_, ?_⟩
        · intro hother
          cases hother
        · intro other heq hother
          exact Option.some.inj heq ▸ hother

namespace Run

variable {told : Instructions} {run run' : Run} {actor : Actor} {history : History}
  {sentinel : Sentinel} {path : List (Actor × Run)}

/-! ## What the driver notes

The driver notes failures in four places: when it takes the result of a worker, when a put or a
drain fails, and when the report of a name cannot be written. Everywhere else a step leaves the
account alone. -/

/-- The reasons for which the driver notes a failure. -/
inductive Noted (told : Instructions) (run : Run) : Failure → Prop where
  /-- A name of a data file could not be put into the queue. -/
  | fed {file : String} {call : PutCall} {later : List String} {error : QueueError} {files : Queue}
      (hactivity : run.driver.activity = .feeding file call later)
      (hmove : PutCall.Moves (run.queue .requester) call (.returns (.error error)) files)
      (hsize : ∀ length max, error ≠ .itemTooLarge length max) : Noted told run (.queue error)
  /-- A name that is too long could not be reported. -/
  | rejected {failure : Failure} {later : List String} {error : SinkError}
      (hactivity : run.driver.activity = .rejecting failure later)
      (hwrite : (run.sinks.writeLine .stderr (rejection failure)).1 = .error error) :
      Noted told run (.sink error)
  | drained {stage : Stage} {call : DrainCall} {failure : Failure} {shutdown : Shutdown}
      {queue : Queue} (hactivity : run.driver.activity = .draining stage call)
      (hmove : DrainCall.Moves told.sentinel run.requesterStage (run.shutdown stage)
        (run.queue stage) call (.returns (.error failure)) shutdown queue) : Noted told run failure
  /-- A worker was joined that had panicked, or one with a failure in its report. -/
  | joined {stage : Stage} {next : Nat} {w : Worker} {ending : Ending}
      (hactivity : run.driver.activity = .joining stage next)
      (hplace : (run.workers stage)[next]? = some w) (hover : w.isOver = true)
      (hending : w.activity.ending? = some ending) :
      Noted told run (w.failureFor ending)

/-- The account after a worker was joined. -/
theorem kept_join {w : Worker} {result : Except Failure WorkerReport} (account : Account)
    (hresult : w.result? = some result) :
    (account.join result).kept = keepFirst account.kept (w.activity.ending?.map w.failureFor) := by
  rcases Worker.ending?_of_result? hresult with ⟨hactivity, rfl⟩ | ⟨report, -, rfl, hending⟩
  · rw [hactivity]
    rfl
  · rw [hending]
    show keepFirst account.kept report.failure? = _
    cases report.failure? <;> rfl

/-- **What the driver notes**: a step leaves the failure that is kept alone, or it is one of the
driver that notes another. -/
theorem Moves.kept (h : Moves told run actor run') :
    run'.driver.account.kept = run.driver.account.kept ∨
      actor = .driver ∧ ∃ failure, Noted told run failure ∧
        run'.driver.account.kept = keepFirst run.driver.account.kept (some failure) := by
  by_cases hne : actor = .driver
  · subst hne
    cases h with
    | @fed file call later result files hactivity hstep =>
      have hmove := PutCall.moves_of_step hstep
      cases result with
      | ok => exact Or.inl rfl
      | error error =>
        cases error with
        | itemTooLarge => exact Or.inl rfl
        | destroyed | alreadyDestroyed => exact Or.inr ⟨rfl, _, .fed hactivity hmove nofun, rfl⟩
    | @reject failure later hactivity =>
      cases hwrite : (run.sinks.writeLine .stderr (rejection failure)).1 with
      | ok => exact Or.inl rfl
      | error error => exact Or.inr ⟨rfl, _, .rejected hactivity hwrite, rfl⟩
    | @drained own call result shutdown queue hactivity hmove =>
      cases result with
      | ok => cases own <;> exact Or.inl rfl
      | error failure =>
        refine Or.inr ⟨rfl, failure, .drained hactivity hmove, ?_⟩
        cases own <;> rfl
    | @joined own next w result hactivity hplace hresult =>
      have hover : w.isOver = true := by
        rw [← Worker.isSome_result?_eq_isOver, hresult]
        rfl
      have hkept := kept_join run.driver.account hresult
      cases hending : w.activity.ending? with
      | none =>
        rw [hending] at hkept
        exact Or.inl (hkept.trans (Account.keepFirst_none _))
      | some ending =>
        rw [hending] at hkept
        exact Or.inr ⟨rfl, _, .joined hactivity hplace hover hending, hkept⟩
    | @drain own | @finish own | @clear own => cases own <;> exact Or.inl rfl
    | feed | joinedAll | clearedFirst | clearedSecond => exact Or.inl rfl
  · rw [h.driver_eq hne]
    exact Or.inl rfl

/-- Something is kept for ever, and a closed queue gives way only to something else. -/
theorem Moves.kept_mono (h : Moves told run actor run') {failure : Failure}
    (hkept : run.driver.account.kept = some failure) :
    ∃ later, run'.driver.account.kept = some later ∧
      (failure.isClosedQueue = false → later.isClosedQueue = false) := by
  rcases h.kept with hsame | ⟨-, new, -, hnew⟩
  · exact ⟨failure, hsame.trans hkept, id⟩
  · obtain ⟨later, heq, -, -, hearlier⟩ := keepFirst_some run.driver.account.kept new
    exact ⟨later, hnew.trans heq, hearlier failure hkept⟩

theorem Moves.kept_eq_none (h : Moves told run actor run')
    (hkept : run'.driver.account.kept = none) : run.driver.account.kept = none := by
  cases hbefore : run.driver.account.kept with
  | none => rfl
  | some failure =>
    obtain ⟨later, hlater, -⟩ := h.kept_mono hbefore
    exact absurd (hlater.symm.trans hkept) (Option.some_ne_none _)

/-! ## Roots

A worker whose ending was not brought about by a closed queue is a root. It stays one for ever,
since nobody takes an ending back. -/

/-- Some worker has come to an ending that no other one has brought about. -/
def HasRoot (run : Run) : Prop :=
  ∃ stage, ∃ w ∈ run.workers stage, ∃ ending, w.activity.ending? = some ending ∧
    ending.isRoot = true

/-- Nothing that a worker ends for is ever undone. -/
theorem Moves.hasRoot (h : Moves told run actor run') (hroot : run.HasRoot) : run'.HasRoot := by
  obtain ⟨stage, w, hmem, ending, hending, hisRoot⟩ := hroot
  rcases h.ownWorker stage with ⟨i, u, u', desk, -, hplace, hworker, hset, -⟩ | ⟨-, hsame⟩
  · obtain ⟨j, hj⟩ := List.mem_iff_getElem?.mp hmem
    by_cases hij : i = j
    · -- the worker itself makes the step
      subst hij
      obtain rfl := Option.some.inj (hplace.symm.trans hj)
      have hlt := (List.getElem?_eq_some_iff.mp hj).1
      refine ⟨stage, u', hset ▸ List.mem_set hlt u', ending, ?_, hisRoot⟩
      rcases hworker.ending with heq | ⟨hnone, -⟩
      · exact heq.trans hending
      · rw [hnone] at hending
        contradiction
    · refine ⟨stage, w, ?_, ending, hending, hisRoot⟩
      rw [hset]
      exact List.mem_of_getElem? ((List.getElem?_set_ne hij).trans hj)
  · exact ⟨stage, w, hsame ▸ hmem, ending, hending, hisRoot⟩

/-- Writing releases nothing, so only the outsider does. -/
theorem Moves.released_eq (h : Moves told run actor run') (hne : actor ≠ .outsider) (sink : Sink) :
    (run'.sinks.get sink).released = (run.sinks.get sink).released := by
  rw [h.sinks_eq hne]
  exact Sinks.released_receive run.sinks _ sink

/-- A sink that was released stays so. -/
theorem Moves.released_mono (h : Moves told run actor run') {sink : Sink}
    (hreleased : (run.sinks.get sink).released = true) :
    (run'.sinks.get sink).released = true := by
  by_cases hne : actor = .outsider
  · subst hne
    cases h with
    | @release call call' sinks houtsider hstep | @released call outcome sinks houtsider hstep =>
      have hmono := call.released_mono hreleased
      rw [hstep] at hmono
      exact hmono
  · exact (h.released_eq hne sink).trans hreleased

/-- **Who releases a sink** is an outsider that has come to it. -/
theorem Moves.released_of_outsider (h : Moves told run actor run') {sink : Sink}
    (hreleased : (run'.sinks.get sink).released = true) :
    (run.sinks.get sink).released = true ∨ actor = .outsider ∧
      ∃ later result, run.outsider = some (.releasing (sink :: later) result) := by
  by_cases hne : actor = .outsider
  · subst hne
    cases h with
    | @release call call' sinks houtsider hstep | @released call outcome sinks houtsider hstep =>
      have hsinks : ((call.step run.sinks).2.get sink).released = true := by
        rw [hstep]
        exact hreleased
      refine (SinkCall.released_of_step hsinks).imp_right ?_
      rintro ⟨later, result, rfl⟩
      exact ⟨rfl, later, result, houtsider⟩
  · exact Or.inl ((h.released_eq hne sink).symm.trans hreleased)

/-! ## Causes

For a failure that is kept in the end a queue that was closed is no explanation. What is left was
brought from outside: a panic, a released sink, a device that refuses. -/

/-- The next step of a thread is the report of a name that is too long, and the device behind the
standard error refuses to take it. -/
def Refuses (actor : Actor) (run : Run) (source : IoFailure) : Prop :=
  actor = .driver ∧ ∃ failure later, run.driver.activity = .rejecting failure later ∧
    (run.sinks.writeLine .stderr (rejection failure)).1 = .error (.write .stderr source)

/-- The report of a name that is too long was refused on the way. -/
def Refused (path : List (Actor × Run)) (source : IoFailure) : Prop :=
  ∃ p ∈ path, Refuses p.1 p.2 source

theorem refused_append (path : List (Actor × Run)) (p : Actor × Run) (source : IoFailure) :
    Refused (path ++ [p]) source ↔ Refused path source ∨ Refuses p.1 p.2 source := by
  simp only [Refused, List.mem_append, List.mem_singleton]
  constructor
  · rintro ⟨q, hold | rfl, hrefuses⟩
    · exact Or.inl ⟨q, hold, hrefuses⟩
    · exact Or.inr hrefuses
  · rintro (⟨q, hold, hrefuses⟩ | hrefuses)
    · exact ⟨q, Or.inl hold, hrefuses⟩
    · exact ⟨p, Or.inr rfl, hrefuses⟩

/-- A failure that explains itself: a worker has panicked, a sink was released, or a device refused
to take the report of a name that was too long. -/
inductive Cause (path : List (Actor × Run)) (run : Run) : Failure → Prop where
  | panicked {stage : Stage} {w : Worker} (hmem : w ∈ run.workers stage)
      (hpanicked : w.activity = .panicked) : Cause path run (.workerPanicked w.stage.name w.name)
  | released {sink : Sink} (hreleased : (run.sinks.get sink).released = true) :
      Cause path run (.sink (.destroyed sink))
  | refused {source : IoFailure} (hrefused : Refused path source) :
      Cause path run (.sink (.write .stderr source))

/-- A cause remains one. -/
theorem Cause.step {failure : Failure} (h : Cause path run failure)
    (hmove : Moves told run actor run') : Cause path run' failure := by
  cases h with
  | @panicked stage w hmem hpanicked =>
    -- who has panicked makes no step any more
    obtain ⟨j, hj⟩ := List.mem_iff_getElem?.mp hmem
    have hover : w.isOver = true := by rw [Worker.isOver, hpanicked]
    exact .panicked (List.mem_of_getElem? (hmove.place_of_isOver hj hover)) hpanicked
  | released hreleased => exact .released (hmove.released_mono hreleased)
  | refused hrefused => exact .refused hrefused

theorem Cause.append {failure : Failure} (h : Cause path run failure) (p : Actor × Run) :
    Cause (path ++ [p]) run failure := by
  cases h with
  | panicked hmem hpanicked => exact .panicked hmem hpanicked
  | released hreleased => exact .released hreleased
  | refused hrefused => exact .refused ((refused_append _ _ _).mpr (Or.inl hrefused))

/-! ## The invariant

The heart of it is `Rooted.closed`: before the driver destroys the queues, none is closed without a
root. The other fields carry this to what is noted and to what was joined. -/

/-- What holds at every moment of a run about its failures. -/
structure Rooted (path : List (Actor × Run)) (run : Run) : Prop where
  /-- A worker ends for a panic or a released sink, or for a closed queue. -/
  explained : ∀ stage, ∀ w ∈ run.workers stage, ∀ ending, w.activity.ending? = some ending →
    ending.isRoot = true → ending = .panicking ∨
      ∃ sink, ending = .failing (.sink (.destroyed sink)) ∧
        (run.sinks.get sink).released = true
  /-- If any worker ends before its sentinel, one ends without the doing of another. -/
  rooted : ∀ stage, ∀ w ∈ run.workers stage, w.activity.ending? ≠ none → run.HasRoot
  /-- Before the driver destroys the queues, it takes a worker to close one. -/
  closed : run.driver.activity.standing .resolver ≠ .done →
    ∀ stage, (run.queue stage).ring.closed = true → run.HasRoot
  /-- A closed queue is not the last word. -/
  kept_root : ∀ failure, run.driver.account.kept = some failure →
    failure.isClosedQueue = true → run.HasRoot
  kept_cause : ∀ failure, run.driver.account.kept = some failure →
    failure.isClosedQueue = false → Cause path run failure
  /-- The ending of a worker that was joined has been noted. -/
  joined : ∀ (stage : Stage) (j : Nat) (w : Worker) (ending : Ending),
    (run.workers stage)[j]? = some w → (run.driver.activity.standing stage).HasJoined j →
    w.activity.ending? = some ending → ∃ failure, run.driver.account.kept = some failure ∧
      (ending.isRoot = true → failure.isClosedQueue = false)

namespace Rooted

theorem start (hactivity : ∀ stage, ∀ w ∈ run.workers stage, w.activity.ending? = none)
    (hopen : ∀ stage, (run.queue stage).ring.closed = false)
    (hkept : run.driver.account.kept = none) : Rooted [] run where
  explained stage w hmem ending hending := by simp [hactivity stage w hmem] at hending
  rooted stage w hmem hending := absurd (hactivity stage w hmem) hending
  closed _ stage hclosed := by simp [hopen stage] at hclosed
  kept_root failure heq := by simp [hkept] at heq
  kept_cause failure heq := by simp [hkept] at heq
  joined stage j w ending hplace _ hending := by
    simp [hactivity stage w (List.mem_of_getElem? hplace)] at hending

/-! ## Every step keeps it

A queue in use is closed by a worker that ends before its sentinel. Either it is a root itself or it
has met a closed queue, and then there was a root before it. -/

/-- A worker that is about to end has its ending from a closed queue, and so there is a root, or it
is one. -/
theorem root_of_breaks (h : Rooted path run) (horderly : Orderly sentinel history run)
    {stage : Stage} {i : Nat} {w : Worker} {ending : Ending}
    (hplace : (run.workers stage)[i]? = some w) (hover : w.isOver = false)
    (hbreaks : Worker.Breaks w (run.desk stage) ending) :
    run.HasRoot ∨ ending.isRoot = true := by
  have hopen := horderly.standing_of_goes_on hplace hover
  cases hbreaks with
  | panicked | released => exact Or.inr rfl
  -- a closed queue: the driver has not destroyed it yet, so there is a root behind it
  | starved _ hclosed =>
    rw [source_desk] at hclosed
    have hring := hclosed.elim (horderly.sound.balanced stage).closed_of_filled id
    exact Or.inl (h.closed hopen stage hring)
  | refused htarget hclosed =>
    obtain ⟨-, rfl⟩ := target_desk htarget
    have hring := hclosed.elim (horderly.sound.balanced .resolver).closed_of_free id
    exact Or.inl (h.closed hopen .resolver hring)

/-- A root explains itself: when it comes to its end it has panicked, or it has met a released
sink. -/
theorem explained_move (h : Rooted path run) (hmove : Moves told run actor run') (stage : Stage) :
    ∀ w ∈ run'.workers stage, ∀ ending, w.activity.ending? = some ending →
      ending.isRoot = true → ending = .panicking ∨
        ∃ sink, ending = .failing (.sink (.destroyed sink)) ∧
          (run'.sinks.get sink).released = true := by
  have hold : ∀ w ∈ run.workers stage, ∀ ending, w.activity.ending? = some ending →
      ending.isRoot = true → ending = .panicking ∨
        ∃ sink, ending = .failing (.sink (.destroyed sink)) ∧
          (run'.sinks.get sink).released = true := by
    intro w hmem ending hending hroot
    refine (h.explained stage w hmem ending hending hroot).imp_right ?_
    rintro ⟨sink, heq, hreleased⟩
    exact ⟨sink, heq, hmove.released_mono hreleased⟩
  intro w hmem ending hending hroot
  rcases hmove.mem_workers hmem with hmem | ⟨i, u, desk, hplace, hworker⟩
  · exact hold w hmem ending hending hroot
  · rcases hworker.ending with heq | ⟨-, ending', hending', hbreaks⟩
    · exact hold u (List.mem_of_getElem? hplace) ending (heq.symm.trans hending) hroot
    · -- the worker comes to its end by this step
      obtain rfl := Option.some.inj (hending'.symm.trans hending)
      cases hbreaks with
      | panicked => exact Or.inl rfl
      | starved | refused => contradiction
      | released hreleased =>
        rw [sinks_desk] at hreleased
        exact Or.inr ⟨_, rfl, hmove.released_mono hreleased⟩

/-- A worker that comes to its end is a root, or it has met a queue that was closed before it, and
then there is a root already. -/
theorem rooted_move (h : Rooted path run) (horderly : Orderly sentinel history run)
    (hmove : Moves told run actor run') (stage : Stage) :
    ∀ w ∈ run'.workers stage, w.activity.ending? ≠ none → run'.HasRoot := by
  intro w hmem hending
  rcases hmove.mem_workers hmem with hold | ⟨i, u, desk, hplace, hworker⟩
  · exact hmove.hasRoot (h.rooted stage w hold hending)
  · rcases hworker.ending with heq | ⟨-, ending, hending', hbreaks⟩
    · exact hmove.hasRoot (h.rooted stage u (List.mem_of_getElem? hplace) (heq ▸ hending))
    · rcases h.root_of_breaks horderly hplace hworker.isOver_eq_false hbreaks with hroot | hroot
      · exact hmove.hasRoot hroot
      · exact ⟨stage, w, hmem, ending, hending', hroot⟩

/-- Before the driver destroys the queues, only a worker that ends makes a step of a call that
closes one. -/
theorem closed_move (h : Rooted path run) (hmove : Moves told run actor run')
    (hopen : run'.driver.activity.standing .resolver ≠ .done) (stage : Stage)
    (hclosed : (run'.queue stage).ring.closed = true) : run'.HasRoot := by
  refine hmove.hasRoot ?_
  have hbefore : run.driver.activity.standing .resolver ≠ .done := fun hdone =>
    hopen (hmove.done_mono hdone)
  have hframe : (∀ c, run.callOn actor stage = some c → c.leavesOpen = true) → run.HasRoot := by
    intro hleaves
    rw [(hmove.turn stage).closed_frame hleaves] at hclosed
    exact h.closed hbefore stage hclosed
  -- who makes no step of a `close` leaves the queue as it was, so only a worker on its way out is
  -- left
  cases actor with
  | driver => exact hframe (DriverActivity.leavesOpen_callOn hbefore stage)
  | outsider => exact hframe nofun
  | worker own i =>
    cases hplace : (run.workers own)[i]? with
    | none => exact hframe (by simp [callOn, hplace])
    | some w =>
      cases hending : w.activity.ending? with
      | some ending => exact h.rooted own w (List.mem_of_getElem? hplace) (by simp [hending])
      | none =>
        obtain ⟨hsource, htarget⟩ := Activity.leavesOpen_of_ending? hending
        refine hframe fun c hcall => ?_
        simp only [callOn, hplace, Option.bind_some] at hcall
        split at hcall
        · exact hsource c hcall
        · split at hcall
          · exact htarget c hcall
          · contradiction

/-- **What the driver notes** has a root or explains itself. -/
theorem noted (h : Rooted path run) (horderly : Orderly told.sentinel history run)
    {failure : Failure} (hnoted : Noted told run failure) :
    (failure.isClosedQueue = true → run.HasRoot) ∧
      (failure.isClosedQueue = false → Cause (path ++ [(.driver, run)]) run failure) := by
  cases hnoted with
  | @fed file call later error files hactivity hmove hsize =>
    rcases hmove.refused_for with ⟨item, -, -, rfl⟩ | ⟨rfl, hclosed⟩
    · exact absurd rfl (hsize _ _)
    · have hring := hclosed.elim (horderly.sound.balanced .requester).closed_of_free id
      have hopen : run.driver.activity.standing .resolver ≠ .done := by
        simp [hactivity, DriverActivity.standing]
      exact ⟨fun _ => h.closed hopen .requester hring, fun hother => by contradiction⟩
  -- the refusal is on the path, since this step is on it
  | rejected hactivity hwrite =>
    refine ⟨fun hclosed => by contradiction, fun _ => ?_⟩
    rcases Sinks.error_of_writeLine hwrite with ⟨rfl, hreleased⟩ | ⟨source, rfl, -⟩
    · exact .released hreleased
    · exact .refused ((refused_append _ _ _).mpr (Or.inr ⟨rfl, _, _, hactivity, hwrite⟩))
  | @drained stage call failure shutdown queue hactivity hmove =>
    have hlaw := horderly.law stage
    rw [hactivity] at hlaw
    simp only [DriverActivity.standing, Standing.seenFrom_self] at hlaw
    obtain ⟨rfl, hring⟩ := horderly.closed_of_drain_error hlaw hmove
    have hopen : run.driver.activity.standing .resolver ≠ .done := by
      cases stage <;> simp [hactivity, DriverActivity.standing, Standing.seenFrom]
    exact ⟨fun _ => h.closed hopen stage hring, fun hother => by contradiction⟩
  | @joined stage next w ending hactivity hplace hover hending =>
    have hmem := List.mem_of_getElem? hplace
    rw [w.isClosedQueue_failureFor]
    refine ⟨fun _ => h.rooted stage w hmem (by simp [hending]), fun hroot => ?_⟩
    rcases h.explained stage w hmem ending hending (by simpa using hroot) with
      rfl | ⟨sink, rfl, hreleased⟩
    · exact .panicked hmem (Worker.activity_of_panicking hover hending)
    · exact .released hreleased

/-- A closed queue is only kept if there is nothing else, and only noted where there is a root. -/
theorem kept_root_move (h : Rooted path run) (horderly : Orderly told.sentinel history run)
    (hmove : Moves told run actor run') (failure : Failure)
    (hkept : run'.driver.account.kept = some failure) (hclosed : failure.isClosedQueue = true) :
    run'.HasRoot := by
  refine hmove.hasRoot ?_
  rcases hmove.kept with hsame | ⟨-, new, hnoted, hnew⟩
  · exact h.kept_root failure (hsame.symm.trans hkept) hclosed
  · obtain ⟨kept, heq, rfl | hbefore, -⟩ := keepFirst_some run.driver.account.kept new
    · obtain rfl := Option.some.inj ((hnew.trans heq).symm.trans hkept)
      exact (h.noted horderly hnoted).1 hclosed
    · obtain rfl := Option.some.inj ((hnew.trans heq).symm.trans hkept)
      exact h.kept_root kept hbefore hclosed

/-- Whatever else is kept was noted with its cause, now or before. -/
theorem kept_cause_move (h : Rooted path run) (horderly : Orderly told.sentinel history run)
    (hmove : Moves told run actor run') (failure : Failure)
    (hkept : run'.driver.account.kept = some failure) (hclosed : failure.isClosedQueue = false) :
    Cause (path ++ [(actor, run)]) run' failure := by
  rcases hmove.kept with hsame | ⟨rfl, new, hnoted, hnew⟩
  · exact ((h.kept_cause failure (hsame.symm.trans hkept) hclosed).step hmove).append _
  · obtain ⟨kept, heq, rfl | hbefore, -⟩ := keepFirst_some run.driver.account.kept new
    · obtain rfl := Option.some.inj ((hnew.trans heq).symm.trans hkept)
      exact ((h.noted horderly hnoted).2 hclosed).step hmove
    · obtain rfl := Option.some.inj ((hnew.trans heq).symm.trans hkept)
      exact ((h.kept_cause kept hbefore hclosed).step hmove).append _

/-- Joining a worker notes its ending, and of a root something is kept that does not give way. -/
theorem joined_move (h : Rooted path run) (horderly : Orderly sentinel history run)
    (hmove : Moves told run actor run') (stage : Stage) (j : Nat) (w : Worker) (ending : Ending)
    (hplace : (run'.workers stage)[j]? = some w)
    (hjoined : (run'.driver.activity.standing stage).HasJoined j)
    (hending : w.activity.ending? = some ending) :
    ∃ failure, run'.driver.account.kept = some failure ∧
      (ending.isRoot = true → failure.isClosedQueue = false) := by
  have hlt : j < (run.workers stage).length := by
    rw [← hmove.length_workers stage]
    exact (List.getElem?_eq_some_iff.mp hplace).1
  rcases hmove.hasJoined hlt hjoined with hbefore | ⟨-, -, u, result, hu, hresult, haccount⟩
  · -- what was noted for a worker that was joined before is still kept
    have hu := List.getElem?_eq_getElem hlt
    have hover := horderly.joined stage j _ hu hbefore
    obtain heq := Option.some.inj (hplace.symm.trans (hmove.place_of_isOver hu hover))
    rw [← heq] at hu
    obtain ⟨failure, hkept, hroot⟩ := h.joined stage j w ending hu hbefore hending
    obtain ⟨later, hlater, hclosed⟩ := hmove.kept_mono hkept
    exact ⟨later, hlater, fun hisRoot => hclosed (hroot hisRoot)⟩
  · -- the worker is joined by this step
    have hover : u.isOver = true := by
      rw [← Worker.isSome_result?_eq_isOver, hresult]
      rfl
    obtain rfl := Option.some.inj (hplace.symm.trans (hmove.place_of_isOver hu hover))
    have hkept := kept_join run.driver.account hresult
    rw [← haccount, hending] at hkept
    obtain ⟨failure, heq, -, hnew, -⟩ :=
      keepFirst_some run.driver.account.kept (w.failureFor ending)
    refine ⟨failure, hkept.trans heq, fun hisRoot => hnew ?_⟩
    rw [w.isClosedQueue_failureFor, hisRoot]
    rfl

/-- **Every step leaves the failures of a run with their roots.** -/
theorem move (h : Rooted path run) (horderly : Orderly told.sentinel history run)
    (hmove : Moves told run actor run') : Rooted (path ++ [(actor, run)]) run' where
  explained := h.explained_move hmove
  rooted := h.rooted_move horderly hmove
  closed := h.closed_move hmove
  kept_root := h.kept_root_move horderly hmove
  kept_cause := h.kept_cause_move horderly hmove
  joined := h.joined_move horderly hmove

theorem tick (h : Rooted path run) (moment : Nat) : Rooted path { run with moment := moment } where
  explained := h.explained
  rooted := h.rooted
  closed := h.closed
  kept_root := h.kept_root
  kept_cause failure hkept hclosed := by
    cases h.kept_cause failure hkept hclosed with
    | panicked hmem hpanicked => exact .panicked hmem hpanicked
    | released hreleased => exact .released hreleased
    | refused hrefused => exact .refused hrefused
  joined := h.joined

/-! ## When all workers have been joined

The worker at the root was joined like all others, so its failure was noted, and it is one that does
not give way. Hence what is kept is not a closed queue. -/

/-- A run that has joined all its workers does not keep a closed queue: the worker at the root of it
would have been noted. -/
theorem isClosedQueue_eq_false (h : Rooted path run)
    (hdone : ∀ stage, run.driver.activity.standing stage = .done) {failure : Failure}
    (hkept : run.driver.account.kept = some failure) : failure.isClosedQueue = false := by
  cases hclosed : failure.isClosedQueue with
  | false => rfl
  | true =>
    obtain ⟨stage, w, hmem, ending, hending, hroot⟩ := h.kept_root failure hkept hclosed
    -- the root was joined like everybody else, and what is kept since then is no closed queue
    obtain ⟨j, hplace⟩ := List.mem_iff_getElem?.mp hmem
    obtain ⟨other, hother, hnot⟩ :=
      h.joined stage j w ending hplace (by rw [hdone]; trivial) hending
    obtain rfl := Option.some.inj (hkept.symm.trans hother)
    rw [hnot hroot] at hclosed
    contradiction

/-- **What a run keeps in the end explains itself.** -/
theorem cause (h : Rooted path run) (hdone : ∀ stage, run.driver.activity.standing stage = .done)
    {failure : Failure} (hkept : run.driver.account.kept = some failure) :
    Cause path run failure :=
  h.kept_cause failure hkept (h.isClosedQueue_eq_false hdone hkept)

/-- A run that keeps nothing has no worker that ended before its sentinel among those that were
joined. -/
theorem ending?_eq_none (h : Rooted path run) (hkept : run.driver.account.kept = none)
    {stage : Stage} {j : Nat} {w : Worker} (hplace : (run.workers stage)[j]? = some w)
    (hjoined : (run.driver.activity.standing stage).HasJoined j) : w.activity.ending? = none := by
  cases hending : w.activity.ending? with
  | none => rfl
  | some ending =>
    obtain ⟨failure, heq, -⟩ := h.joined stage j w ending hplace hjoined hending
    rw [hkept] at heq
    contradiction

end Rooted

/-- **The failures of every run have their roots.** -/
theorem rooted_of_path {plan : Plan} {request : RunRequest} {sinks : Sinks}
    {outsider : Option SinkCall} {environment : Environment} (husable : plan.Usable)
    (hfiles : plan.sentinel.text ∉ request.files)
    (hpath : Path (step (plan.instructions environment))
      (initial plan request sinks {} outsider) path run) : Rooted path run := by
  induction hpath with
  | refl =>
    refine .start (fun stage w hmem => ?_) (fun stage => by cases stage <;> rfl) kept_initial
    rw [activity_of_mem_initial hmem]
    rfl
  | tail actor hbefore hstep ih =>
    obtain ⟨next, hmove, rfl⟩ := moves_of_step hstep
    exact (ih.move (orderly_of_path husable hfiles hbefore) hmove).tick _

end Run

end HostLookup
