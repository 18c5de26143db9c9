import HostLookup.Proofs.Run.Totals

/-!
# What is made of the results of the workers

The driver joins one worker after the other. Each of them leaves a report, which may carry a
failure, or the failure of a panic. The reports are added up, and of the failures one is kept. The
rule that keeps it takes neither the first nor the last: a closed queue gives way, but only to a
failure of another kind.

* **`ComesDownTo`**: the failure that a series of failures comes down to, told without the rule.
* **`ComesDownTo.keepFirst`** and **`ComesDownTo.foldl`**: one more failure, and any number of them.
* **`Account.joinAll_eq`**: the reports and the failures are collected apart from each other.
* **`Run.account_of_joined`**: this is what the driver does with the workers of a stage, whatever
  the other threads do meanwhile.
* **`Run.account_of_pool`**: the pool that is joined is the one that was spawned.
* **`Account.joined_in_order`** puts all of it together.
-/

namespace HostLookup

/-! ## The failure that is kept

The driver sees one failure after the other and keeps one of them. What it has kept in the end is
told here without the order of looking: the first failure that explains itself, or else the fact
that there was one. -/

/-- One failure only tells of a closed queue. -/
theorem Failure.isClosedQueue_iff {failure : Failure} :
    failure.isClosedQueue = true ↔ failure = .queue .destroyed := by
  constructor
  · intro hclosed
    unfold isClosedQueue at hclosed
    split at hclosed
    · rfl
    · contradiction
  · rintro rfl
    rfl

theorem Failure.isClosedQueue_of_ne {failure : Failure} (h : failure ≠ .queue .destroyed) :
    failure.isClosedQueue = false :=
  Bool.eq_false_iff.mpr fun hclosed => h (isClosedQueue_iff.mp hclosed)

/-- The failure that a series of failures comes down to: the first that is not a closed queue, or
else a closed queue if there is any failure at all. -/
inductive ComesDownTo : List Failure → Option Failure → Prop where
  | nothing : ComesDownTo [] none
  | closedQueue {failures : List Failure} (hne : failures ≠ [])
      (hclosed : ∀ failure ∈ failures, failure = .queue .destroyed) :
      ComesDownTo failures (some (.queue .destroyed))
  | cause {before after : List Failure} {cause : Failure}
      (hclosed : ∀ failure ∈ before, failure = .queue .destroyed)
      (hcause : cause ≠ .queue .destroyed) : ComesDownTo (before ++ cause :: after) (some cause)

namespace ComesDownTo

variable {failures seen : List Failure} {kept other : Option Failure}

/-- A failure that is the only one is kept, whatever it is. -/
theorem single (kept : Option Failure) : ComesDownTo kept.toList kept := by
  cases kept with
  | none => exact .nothing
  | some failure =>
    by_cases hclosed : failure = .queue .destroyed
    · subst hclosed
      exact .closedQueue (List.cons_ne_nil _ _) fun _ hmem => List.mem_singleton.mp hmem
    · have hfirst : ∀ other ∈ ([] : List Failure), other = .queue .destroyed := nofun
      exact .cause hfirst hclosed

/-- **One more failure**: the rule keeps what the longer series comes down to. -/
theorem keepFirst (h : ComesDownTo seen kept) (new : Option Failure) :
    ComesDownTo (seen ++ new.toList) (keepFirst kept new) := by
  cases new with
  | none =>
    rw [Account.keepFirst_none, Option.toList_none, List.append_nil]
    exact h
  | some failure =>
    cases h with
    | nothing => exact single (some failure)
    | closedQueue hne hclosed =>
      by_cases hnew : failure = .queue .destroyed
      · subst hnew
        refine .closedQueue (by simp) fun other hother => ?_
        rcases List.mem_append.mp hother with hseen | hlast
        · exact hclosed other hseen
        · exact List.mem_singleton.mp hlast
      · -- the closed queue gives way
        have hkept : HostLookup.keepFirst (some (.queue .destroyed)) (some failure) =
          some failure := by
          show (if !failure.isClosedQueue then some failure else _) = _
          rw [Failure.isClosedQueue_of_ne hnew]
          rfl
        rw [hkept]
        exact .cause hclosed hnew
    | @cause before after cause hclosed hcause =>
      -- a cause is kept for ever, so the new failure is one of those behind it
      rw [keepFirst_of_other (Failure.isClosedQueue_of_ne hcause), List.append_assoc]
      exact .cause hclosed hcause

/-- **Any number of failures**, from whatever was kept before. -/
theorem foldl (h : ComesDownTo seen kept) (more : List (Option Failure)) :
    ComesDownTo (seen ++ more.filterMap id) (more.foldl HostLookup.keepFirst kept) := by
  induction more generalizing seen kept with
  | nil => simpa using h
  | cons new more ih =>
    -- the front of the series is what was seen, and it grows by one failure at a time
    have hlater := ih (h.keepFirst new)
    rw [List.append_assoc] at hlater
    cases new <;> exact hlater

/-- The first failure that is not a closed queue can be looked for. -/
theorem eq_or (h : ComesDownTo failures kept) :
    kept = (failures.find? fun failure => !failure.isClosedQueue).or failures.head? := by
  have hnone : ∀ {failures : List Failure},
      (∀ failure ∈ failures, failure = .queue .destroyed) →
      failures.find? (fun failure => !failure.isClosedQueue) = none := by
    intro failures hclosed
    rw [List.find?_eq_none]
    intro failure hmem
    rw [hclosed failure hmem]
    decide
  cases h with
  | nothing => rfl
  | closedQueue hne hclosed =>
    rw [hnone hclosed, Option.none_or]
    cases failures with
    | nil => contradiction
    | cons failure rest => rw [List.head?_cons, hclosed failure List.mem_cons_self]
  | @cause before after cause hclosed hcause =>
    rw [List.find?_append, hnone hclosed, Option.none_or, List.find?_cons,
      Failure.isClosedQueue_of_ne hcause]
    rfl

/-- A series comes down to one failure only. -/
theorem unique (h : ComesDownTo failures kept) (hother : ComesDownTo failures other) :
    kept = other :=
  h.eq_or.trans hother.eq_or.symm

end ComesDownTo

/-! ## The numbers

Entries are listed in the order of joining, but sums are not affected by it. -/

/-- A summary without its entries. -/
def RunSummary.numbers (summary : RunSummary) : RunSummary :=
  { summary with workers := [] }

theorem WorkerReport.total_hits_add_total_misses {reports : List WorkerReport}
    (hle : ∀ report ∈ reports, report.misses ≤ report.serviced) (stage : Stage) :
    total reports stage (fun report => report.serviced - report.misses) +
      total reports stage WorkerReport.misses = total reports stage WorkerReport.serviced :=
  sum_hits_add_sum_misses fun report hreport => hle report (List.mem_filter.mp hreport).1

/-- A sum over reports does not depend on their order. -/
theorem WorkerReport.total_perm {reports others : List WorkerReport} (h : reports.Perm others)
    (stage : Stage) (number : WorkerReport → Nat) : total reports stage number =
      total others stage number :=
  ((h.filter _).map number).sum_nat

/-- The order in which reports are added does not matter to the numbers. -/
theorem RunSummary.numbers_recordAll_perm (summary : RunSummary)
    {reports others : List WorkerReport} (h : reports.Perm others) :
    (summary.recordAll reports).numbers = (summary.recordAll others).numbers := by
  rw [recordAll_eq, recordAll_eq, numbers, numbers]
  simp only [WorkerReport.total_perm h, (h.map WorkerReport.itemErrors).sum_nat]

/-! ## Collecting results

Reports and failures come out of the same results, but neither has a bearing on the other. While the
driver is busy with a stage, all other threads go on; a worker that has left its result stays as it
is, so what the driver will find can be told before it has come there. -/

/-- The failure that the result of a worker brings: the one in its report, or that of a panic. -/
def failureOf : Except Failure WorkerReport → Option Failure
  | .ok report => report.failure?
  | .error failure => some failure

/-- The result of a worker is that of joining a thread that left its report, or none. -/
theorem Worker.outcome_of_result? {w : Worker} {result : Except Failure WorkerReport}
    (hresult : w.result? = some result) :
    Pool.outcome w.stage.name w.name w.report? = result := by
  unfold result? at hresult
  unfold report?
  cases hactivity : w.activity <;> rw [hactivity] at hresult <;> cases hresult <;> rfl

namespace Account

/-- **The reports and the failures are collected apart from each other.** -/
theorem joinAll_eq (account : Account) (results : List (Except Failure WorkerReport)) :
    account.joinAll results =
      { summary := account.summary.recordAll (results.filterMap Except.toOption)
        kept := (results.map failureOf).foldl keepFirst account.kept } := by
  induction results generalizing account with
  | nil => rfl
  | cons result results ih =>
    -- a result adds to the summary or to the failures, and a report with a failure to both
    refine (ih (account.join result)).trans ?_
    cases result <;> rfl

end Account

namespace Run

variable {told : Instructions} {run run' now : Run} {actor : Actor}

/-- So many workers of a stage have left these results, and since its account was `before` the
driver has collected them. -/
structure Gathered (stage : Stage) (before : Account)
    (results : List (Except Failure WorkerReport)) (count : Nat) (run : Run) : Prop where
  results_eq : ((run.workers stage).take count).map Worker.result? = results.map some
  account_eq : run.driver.account = before.joinAll results

/-- How far the driver has come with collecting the results of a stage. -/
inductive Collecting (stage : Stage) (before : Account) (run : Run) : Prop where
  | joining {next : Nat} {results : List (Except Failure WorkerReport)}
      (hactivity : run.driver.activity = .joining stage next)
      (hgathered : Gathered stage before results next run) : Collecting stage before run
  | finishing {results : List (Except Failure WorkerReport)}
      (hactivity : run.driver.activity = .finishing stage)
      (hgathered : Gathered stage before results (run.workers stage).length run) :
      Collecting stage before run
  | done (hdone : run.driver.activity.standing stage = .done) : Collecting stage before run

theorem workers_tick (run : Run) (moment : Nat) (stage : Stage) :
    workers { run with moment := moment } stage = run.workers stage := by
  cases stage <;> rfl

/-- The driver does not come back to a stage that it is done with. -/
theorem Moves.standing_eq_done {stage : Stage} (h : Moves told run actor run')
    (hdone : run.driver.activity.standing stage = .done) :
    run'.driver.activity.standing stage = .done := by
  by_cases hne : actor = .driver
  · subst hne
    cases h with
    | feed hactivity | fed hactivity | reject hactivity =>
      rw [hactivity] at hdone
      contradiction
    | @drain own _ _ _ _ hactivity | @drained own _ _ _ _ hactivity
    | @joined own _ _ _ hactivity | @joinedAll own _ hactivity | @finish own hactivity =>
      rw [hactivity] at hdone
      cases own <;> cases stage <;> first | rfl | contradiction
    | clear hactivity | clearedFirst hactivity | clearedSecond hactivity => rfl
  · rw [h.driver_eq hne]
    exact hdone

namespace Gathered

variable {stage : Stage} {before : Account} {results : List (Except Failure WorkerReport)}
  {count : Nat}

/-- A worker that has left a result makes no step any more. -/
theorem others (h : Gathered stage before results count run) (hmove : Moves told run actor run')
    (hne : actor ≠ .driver) : Gathered stage before results count run' := by
  refine ⟨?_, (congrArg Driver.account (hmove.driver_eq hne)).trans h.account_eq⟩
  rcases hmove.ownWorker stage with ⟨i, w, w', desk, -, hplace, hworker, hset, -⟩ | ⟨-, hsame⟩
  · -- the worker that moves has no result yet, so the driver has not come to it
    have hlate : count ≤ i := by
      refine Nat.not_lt.mp fun hlt => ?_
      have hmem : w.result? ∈ ((run.workers stage).take count).map Worker.result? :=
        List.mem_map_of_mem
          (List.mem_iff_getElem?.mpr ⟨i, (List.getElem?_take_of_lt hlt).trans hplace⟩)
      rw [h.results_eq] at hmem
      obtain ⟨result, -, hresult⟩ := List.mem_map.mp hmem
      have hover := w.isSome_result?_eq_isOver
      rw [← hresult, hworker.isOver_eq_false] at hover
      contradiction
    rw [hset, List.take_set_of_le hlate]
    exact h.results_eq
  · rw [hsame]
    exact h.results_eq

/-- The result of the next worker is collected after those of the workers before it. -/
theorem joined (h : Gathered stage before results count run) {w : Worker}
    {result : Except Failure WorkerReport} (hplace : (run.workers stage)[count]? = some w)
    (hresult : w.result? = some result) (activity : DriverActivity) :
    Gathered stage before (results ++ [result]) (count + 1)
      ((run.update fun account => account.join result).turnTo activity) where
  results_eq := by
    rw [workers_turnTo, workers_update, List.take_add_one, hplace, List.map_append, h.results_eq]
    show _ ++ [w.result?] = _
    rw [hresult, List.map_append]
    rfl
  account_eq := by
    show run.driver.account.join result = _
    rw [h.account_eq, Account.joinAll_append]
    rfl

theorem tick (h : Gathered stage before results count run) (moment : Nat) :
    Gathered stage before results count { run with moment := moment } where
  results_eq := by
    rw [workers_tick]
    exact h.results_eq
  account_eq := h.account_eq

end Gathered

namespace Collecting

variable {stage : Stage} {before : Account}

/-- **Every step keeps to the order of the workers.** -/
theorem move (h : Collecting stage before run) (hmove : Moves told run actor run') :
    Collecting stage before run' := by
  by_cases hne : actor = .driver
  · subst hne
    cases h with
    | @joining next results hactivity hgathered =>
      cases hmove with
      | @joined own place w result hown hplace hresult =>
        obtain ⟨rfl, rfl⟩ := DriverActivity.joining.inj (hown.symm.trans hactivity)
        exact .joining rfl (hgathered.joined hplace hresult _)
      | @joinedAll own place hown hplace =>
        obtain ⟨rfl, rfl⟩ := DriverActivity.joining.inj (hown.symm.trans hactivity)
        have hall := List.getElem?_eq_none_iff.mp hplace
        refine .finishing rfl ⟨?_, hgathered.account_eq⟩
        rw [workers_turnTo, List.take_length, ← hgathered.results_eq, List.take_of_length_le hall]
      | feed hother | fed hother | reject hother | drain hother | drained hother | finish hother
      | clear hother | clearedFirst hother | clearedSecond hother =>
        rw [hactivity] at hother
        contradiction
    | finishing hactivity =>
      cases hmove with
      | @finish own hown =>
        obtain rfl := DriverActivity.finishing.inj (hown.symm.trans hactivity)
        exact .done (by cases own <;> rfl)
      | feed hother | fed hother | reject hother | drain hother | drained hother | joined hother
      | joinedAll hother | clear hother | clearedFirst hother | clearedSecond hother =>
        rw [hactivity] at hother
        contradiction
    | done hdone => exact .done (hmove.standing_eq_done hdone)
  · have hdriver := hmove.driver_eq hne
    cases h with
    | joining hactivity hgathered =>
      exact .joining (hdriver ▸ hactivity) (hgathered.others hmove hne)
    | finishing hactivity hgathered =>
      have hothers := hgathered.others hmove hne
      rw [← hmove.length_workers stage] at hothers
      exact .finishing (hdriver ▸ hactivity) hothers
    | done hdone => exact .done (hdriver ▸ hdone)

theorem tick (h : Collecting stage before run) (moment : Nat) :
    Collecting stage before { run with moment := moment } := by
  cases h with
  | joining hactivity hgathered => exact .joining hactivity (hgathered.tick moment)
  | finishing hactivity hgathered =>
    have hticked := hgathered.tick moment
    rw [← run.workers_tick moment] at hticked
    exact .finishing hactivity hticked
  | done hdone => exact .done hdone

end Collecting

/-- **When the driver has joined the workers of a stage, it has collected the results of all of
them**, in the order in which they were started, whatever the other threads have done meanwhile. -/
theorem account_of_joined {stage : Stage} (hreach : Reachable told run now)
    (hstart : run.driver.activity = .joining stage 0)
    (hend : now.driver.activity = .finishing stage) :
    ∃ results, (now.workers stage).map Worker.result? = results.map some ∧
      now.driver.account = run.driver.account.joinAll results := by
  have hnone : Gathered stage run.driver.account [] 0 run := ⟨rfl, rfl⟩
  have hcollecting : Collecting stage run.driver.account now :=
    hreach.invariant (.joining hstart hnone) fun actor mid next hmid hstep => by
      obtain ⟨after, hmove, rfl⟩ := moves_of_step hstep
      exact (hmid.move hmove).tick _
  cases hcollecting with
  | joining hactivity =>
    rw [hend] at hactivity
    contradiction
  | finishing hactivity hgathered =>
    have hresults := hgathered.results_eq
    rw [List.take_length] at hresults
    exact ⟨_, hresults, hgathered.account_eq⟩
  | done hdone =>
    rw [hend] at hdone
    cases stage <;> contradiction

/-! ## The pool that is joined

The workers of a run were spawned as pools, and the driver joins them one by one between the steps
of all other threads. What it has collected in the end is what `Pool.join` makes of the pool at
once. -/

/-- The pool of a stage whose workers have ended. A worker that has panicked left no report. -/
def endedPool (run : Run) (stage : Stage) : Pool (Option WorkerReport) where
  stage := stage.name
  threads := (run.workers stage).map fun w => (w.name, w.report?)

/-- The results of the workers are those of joining their pool. -/
theorem join_endedPool {stage : Stage} {results : List (Except Failure WorkerReport)}
    (hstage : ∀ w ∈ run.workers stage, w.stage = stage)
    (hresults : (run.workers stage).map Worker.result? = results.map some) :
    (run.endedPool stage).join = results := by
  have hsome : (run.endedPool stage).join.map some = results.map some := by
    rw [← hresults, Pool.join, endedPool, List.map_map, List.map_map]
    refine List.map_congr_left fun w hmem => ?_
    have hresult : w.result? ∈ results.map some := hresults ▸ List.mem_map_of_mem hmem
    obtain ⟨result, -, hresult⟩ := List.mem_map.mp hresult
    have houtcome := Worker.outcome_of_result? hresult.symm
    rw [hstage w hmem] at houtcome
    rw [← hresult, ← houtcome]
    rfl
  exact (List.map_inj_right fun _ _ => Option.some.inj).mp hsome

section Launch

variable {plan : Plan} {request : RunRequest} {sinks : Sinks} {refusals : Refusals}
  {outsider : Option SinkCall}

/-- Wherever a run gets, its workers are those that were spawned: each has kept its stage and its
name. -/
theorem identity_of_reachable
    (hreach : Reachable told (initial plan request sinks refusals outsider) now) {stage : Stage}
    {i : Nat} {w : Worker} (hplace : (now.workers stage)[i]? = some w) :
    w.stage = stage ∧ w.name = Worker.nameOf stage.name i := by
  obtain ⟨path, hpath⟩ := hreach.traces fun actor state => [(actor, state)]
  have htrail := (trails_of_path hpath).workers stage i w hplace
  exact ⟨htrail.stage_eq, htrail.name⟩

/-- **The pool that is joined is the pool that was spawned**, whatever threads were refused: it has
the same names in the same order, and what the driver has collected when it is done with the stage
is what joining the pool gives. -/
theorem account_of_pool {stage : Stage}
    (hreach : Reachable told (initial plan request sinks refusals outsider) run)
    (hlater : Reachable told run now) (hstart : run.driver.activity = .joining stage 0)
    (hend : now.driver.activity = .finishing stage) :
    (now.endedPool stage).names = ((spawnPools request refusals.thread).pool stage).names ∧
      now.driver.account = run.driver.account.joinAll (now.endedPool stage).join := by
  have hnow := hreach.trans hlater
  obtain ⟨results, hresults, haccount⟩ := account_of_joined hlater hstart hend
  constructor
  · rw [names_spawnPools, ← Pool.length_members, ← workers_initial,
      ← length_workers_of_reachable hnow, Pool.names, endedPool, List.map_map]
    refine List.ext_getElem (by simp) fun i hi _ => ?_
    have hplace := List.getElem?_eq_getElem (l := now.workers stage) (by simpa using hi)
    simp [(identity_of_reachable hnow hplace).2]
  · have hstage : ∀ w ∈ now.workers stage, w.stage = stage := by
      intro w hmem
      obtain ⟨i, hplace⟩ := List.mem_iff_getElem?.mp hmem
      exact (identity_of_reachable hnow hplace).1
    rw [join_endedPool hstage hresults]
    exact haccount

end Launch

end Run

namespace Account

/-- What comes of collecting the results of workers. -/
structure Collects (account : Account) (results : List (Except Failure WorkerReport))
    (after : Account) : Prop where
  /-- All reports are entered in the order of the results, those of failed workers among them, and
  nothing else changes any number. -/
  summary : after.summary =
    { account.summary with
      filesServiced := account.summary.filesServiced +
        WorkerReport.total (results.filterMap Except.toOption) .requester WorkerReport.serviced
      hostsEnqueued := account.summary.hostsEnqueued +
        WorkerReport.total (results.filterMap Except.toOption) .requester WorkerReport.produced
      hostsResolved := account.summary.hostsResolved +
        WorkerReport.total (results.filterMap Except.toOption) .resolver
          fun report => report.serviced - report.misses
      hostsNotResolved := account.summary.hostsNotResolved +
        WorkerReport.total (results.filterMap Except.toOption) .resolver WorkerReport.misses
      itemErrors := account.summary.itemErrors +
        ((results.filterMap Except.toOption).map WorkerReport.itemErrors).sum
      workers := account.summary.workers ++ results.filterMap Except.toOption }
  /-- If no report misses more than it has serviced, no host name is lost by telling the two
  apart. -/
  hosts : (∀ report ∈ results.filterMap Except.toOption, report.misses ≤ report.serviced) →
    after.summary.hostsResolved + after.summary.hostsNotResolved =
      account.summary.hostsResolved + account.summary.hostsNotResolved +
        WorkerReport.total (results.filterMap Except.toOption) .resolver WorkerReport.serviced
  kept : after.kept = (results.map failureOf).foldl keepFirst account.kept
  comesDownTo : ComesDownTo (account.kept.toList ++ results.filterMap failureOf) after.kept

theorem collects_joinAll (account : Account) (results : List (Except Failure WorkerReport)) :
    account.Collects results (account.joinAll results) where
  summary := by rw [joinAll_eq, RunSummary.recordAll_eq]
  hosts hle := by
    have hsum := WorkerReport.total_hits_add_total_misses hle .resolver
    rw [joinAll_eq, RunSummary.recordAll_eq, ← hsum]
    exact Nat.add_add_add_comm ..
  kept := by rw [joinAll_eq]
  comesDownTo := by
    have hfold := (ComesDownTo.single account.kept).foldl (results.map failureOf)
    rw [List.filterMap_map, Function.id_comp] at hfold
    rw [joinAll_eq]
    exact hfold

/-- **Results are collected in their order, and the numbers do not depend on it.** Of any failures
the first that is not a closed queue is kept, or else a closed queue; every report is entered once;
and this is what a driver does that joins workers. -/
theorem joined_in_order :
    (∀ (failures : List (Option Failure)) (kept : Option Failure),
        failures.foldl keepFirst none = kept ↔ ComesDownTo (failures.filterMap id) kept) ∧
      (∀ (account : Account) (results : List (Except Failure WorkerReport)),
        account.Collects results (account.joinAll results)) ∧
      (∀ (account : Account) (results others : List (Except Failure WorkerReport)),
        results.Perm others →
          (account.joinAll results).summary.numbers = (account.joinAll others).summary.numbers) ∧
      ∀ (told : Instructions) (run now : Run) (stage : Stage), Run.Reachable told run now →
        run.driver.activity = .joining stage 0 → now.driver.activity = .finishing stage →
          ∃ results, (now.workers stage).map Worker.result? = results.map some ∧
            now.driver.account = run.driver.account.joinAll results := by
  refine ⟨fun failures kept => ?_, collects_joinAll, fun account results others hperm => ?_,
    fun _ _ _ _ => Run.account_of_joined⟩
  · have hfold := ComesDownTo.nothing.foldl failures
    rw [List.nil_append] at hfold
    constructor
    · rintro rfl
      exact hfold
    · exact hfold.unique
  · rw [joinAll_eq, joinAll_eq]
    exact RunSummary.numbers_recordAll_perm _ (hperm.filterMap _)

/-- The first requester has met a queue that the second one had closed when it panicked: the panic
is kept, though it comes later, and the numbers of the first are in the summary. -/
theorem joined_in_order_panic_behind_closed_queue :
    let told : Instructions :=
      { sentinel := .standard
        notResolved := "NOT_RESOLVED"
        environment := .steady (fun _ => .opened []) (fun _ => .panicked) {} }
    let report : WorkerReport :=
      { worker := "requester-0", stage := .requester, serviced := 2, produced := 5, misses := 0,
        itemErrors := 1, elapsed := {}, exit := .error (.queue .destroyed) }
    let panic := Failure.workerPanicked "requester" "requester-1"
    let results : List (Except Failure WorkerReport) := [.ok report, .error panic]
    let account : Account := { summary := { filesEnqueued := 3, itemErrors := 1 } }
    let first : Worker :=
      { Worker.start .requester "requester-0" with activity := .ended report }
    let second : Worker :=
      { Worker.start .requester "requester-1" with activity := .panicked }
    let run : Run :=
      { files := .ofGeometry "files" 8 64
        hosts := .ofGeometry "hosts" 8 64
        requesterStage := .start "requester" 2
        resolverStage := .start "resolver" 0
        sinks := .ofDevices fun _ => .memory
        requesters := [first, second]
        resolvers := []
        driver := { activity := .joining .requester 0, account := account } }
    ∃ now, Run.Reachable told run now ∧ now.driver.activity = .finishing .requester ∧
      now.driver.account = account.joinAll results ∧
      account.Collects results (account.joinAll results) ∧
      (account.joinAll results).kept = some panic ∧
      ComesDownTo [.queue .destroyed, panic] (some panic) ∧
      results.Perm results.reverse ∧
      (account.joinAll results).summary.numbers =
        (account.joinAll results.reverse).summary.numbers ∧
      (account.joinAll results).summary.itemErrors = 2 := by
  intro told report panic results account first second run
  obtain ⟨hkept, hcollects, hperm, hjoined⟩ := joined_in_order
  let last := (((run.update fun account => account.join (.ok report)).update fun account =>
    account.join (.error panic)).turnTo (.finishing .requester))
  let now : Run := { last with moment := 3 }
  have hreach : Run.Reachable told run now :=
    ((Reaches.refl.tail .driver rfl).tail .driver rfl).tail .driver rfl
  obtain ⟨found, hfound, haccount⟩ := hjoined told run now .requester hreach rfl rfl
  have hsome : results.map some = found.map some := hfound
  have hsame : results = found := (List.map_inj_right fun _ _ => Option.some.inj).mp hsome
  rw [← hsame] at haccount
  refine ⟨now, hreach, rfl, haccount, hcollects account results, rfl, ?_, ?_, ?_, rfl⟩
  · exact (hkept [some (.queue .destroyed), some panic] (some panic)).mp rfl
  · exact results.reverse_perm.symm
  · exact hperm account results results.reverse results.reverse_perm.symm

end Account

end HostLookup
