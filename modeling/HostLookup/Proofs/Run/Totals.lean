import HostLookup.Proofs.Run.Outcome
import HostLookup.Proofs.Run.Sentinels
import HostLookup.Proofs.Run.Trails
import HostLookup.Proofs.Run.Verdict

/-!
# What the numbers of a run come to

The numbers in a summary are gathered in different places: the driver counts the names that it
feeds, each worker counts for itself, and the driver adds the reports up while it joins the workers.
Between them the items go through two queues. If a run answers with its summary nothing was lost on
the way: what was put into a queue was taken out of it, so the numbers agree, whatever the world has
answered and whatever lines the sinks have refused.

* **`Run.Recorded`**: the reports that the driver has added up so far, in every run.
* **`Run.Totals`**: the laws of the summary. They follow from what is known of a run that has
  answered with it (**`Run.Answered.totals`**).
* **`Run.totals_of_path`**: they hold for every summary that a run answers with.
-/

namespace HostLookup

/-! ## Sums over reports

A sum over a summary is a sum over the entries of two stages. What is known of one report is added
up by induction on the list of them. -/

namespace RunSummary

/-- The reports of the workers of a stage. -/
def entries (summary : RunSummary) (stage : Stage) : List WorkerReport :=
  summary.workers.filter fun report => report.stage = stage

theorem workers_recordAll (summary : RunSummary) (reports : List WorkerReport) :
    (summary.recordAll reports).workers = summary.workers ++ reports := by
  rw [recordAll_eq]

end RunSummary

/-- If no report misses more than it has serviced, nothing is lost by telling the two apart. -/
theorem WorkerReport.sum_hits_add_sum_misses {reports : List WorkerReport}
    (hle : ∀ report ∈ reports, report.misses ≤ report.serviced) :
    (reports.map fun report => report.serviced - report.misses).sum +
      (reports.map WorkerReport.misses).sum = (reports.map WorkerReport.serviced).sum := by
  induction reports with
  | nil => rfl
  | cons report rest ih =>
    have hfirst := hle report List.mem_cons_self
    have hrest := ih fun other hmem => hle other (List.mem_cons_of_mem _ hmem)
    simp only [List.map_cons, List.sum_cons]
    omega

theorem Worker.activity_of_report? {w : Worker} {report : WorkerReport}
    (hreport : w.report? = some report) : w.activity = .ended report := by
  unfold Worker.report? at hreport
  split at hreport
  · next hactivity => rw [hactivity, Option.some.inj hreport]
  · contradiction

/-- Every name is fed or rejected, or it is left out at once. -/
theorem Plan.length_fedFiles_add (plan : Plan) (request : RunRequest) :
    (plan.fedFiles request).length +
      (request.skippedAtOnce + (plan.rejectedFiles request).length) = request.files.length := by
  have hsplit : request.namesToFeed.length =
      (plan.fedFiles request).length + (plan.rejectedFiles request).length := by
    rw [List.length_eq_countP_add_countP plan.fitsSlot, List.countP_eq_length_filter,
      List.countP_eq_length_filter, Plan.fedFiles, Plan.rejectedFiles]
    simp
  unfold RunRequest.namesToFeed at hsplit
  unfold RunRequest.skippedAtOnce
  split
  · next hnone =>
    rw [if_pos hnone, List.length_nil] at hsplit
    omega
  · next hsome =>
    rw [if_neg hsome] at hsplit
    omega

/-- A report agrees with what is on record for its worker. -/
structure History.Reported (own : History) (sentinel : Sentinel) (stage : Stage) (i : Nat)
    (report : WorkerReport) : Prop where
  stage_eq : report.stage = stage
  name : report.worker = Worker.nameOf stage.name i
  misses_le : report.misses ≤ report.serviced
  serviced : report.serviced = ((own.taken stage).filter (· ≠ sentinel.text)).length
  produced : (own.stored .resolver).length = report.produced

theorem Worker.Trail.report {told : Instructions} {max : Nat} {own : History}
    {replies : List Reply} {stage : Stage} {i : Nat} {w : Worker} {report : WorkerReport}
    (h : Worker.Trail told max own replies stage i w) (hended : w.activity = .ended report) :
    own.Reported told.sentinel stage i report := by
  have htaken := h.taken
  have hserviced := h.serviced
  have hproduced := h.produced
  rw [hended] at htaken hserviced hproduced
  obtain ⟨elapsed, exit, rfl⟩ := h.ended report hended
  refine ⟨h.stage_eq, h.name, h.misses_le, ?_, hproduced⟩
  -- a worker that has ended has asked about all that it has taken
  rw [htaken, List.length_append, List.length_map]
  exact hserviced

namespace Run

variable {told : Instructions} {run run' : Run} {actor : Actor} {path : List (Actor × Run)}

/-! ## What is recorded

While a run is under way its summary has the reports of the workers that were joined so far, each as
its worker left it. -/

/-- The report that the next step of a thread adds to the summary. -/
def records (run : Run) : Actor → Option WorkerReport
  | .driver =>
    match run.driver.activity with
    | .joining stage next => (run.workers stage)[next]?.bind Worker.report?
    | _ => none
  | .worker .. | .outsider => none

theorem Moves.workers_summary (h : Moves told run actor run') :
    run'.driver.account.summary.workers =
      run.driver.account.summary.workers ++ (run.records actor).toList := by
  have hnothing : run.records actor = none →
      run'.driver.account.summary.workers = run.driver.account.summary.workers →
      run'.driver.account.summary.workers =
        run.driver.account.summary.workers ++ (run.records actor).toList := by
    intro hnone hsame
    rw [hnone, hsame]
    exact (List.append_nil _).symm
  cases h with
  | @joined own next w result hactivity hplace hresult =>
    have hrecords : run.records .driver = w.report? := by
      rw [records, hactivity]
      simp only [hplace, Option.bind_some]
    rw [hrecords, ← RunSummary.workers_recordAll, ← summary_join _ hresult]
    rfl
  | joinedAll hactivity hplace =>
    refine hnothing ?_ rfl
    rw [records, hactivity]
    simp only [hplace, Option.bind_none]
  | worker => exact hnothing rfl (by simp)
  | release | released => exact hnothing rfl rfl
  | @fed file call later result files hactivity =>
    refine hnothing (by rw [records, hactivity]) ?_
    cases result with
    | ok => rfl
    | error error => cases error <;> rfl
  | @reject failure later hactivity =>
    refine hnothing (by rw [records, hactivity]) ?_
    cases (run.sinks.writeLine .stderr (rejection failure)).1 <;> rfl
  | @drained own call result shutdown queue hactivity =>
    refine hnothing (by rw [records, hactivity]) ?_
    cases own <;> cases result <;> rfl
  | @drain own call call' shutdown queue hactivity | @finish own hactivity
  | @clear own call call' queue hactivity =>
    refine hnothing (by rw [records, hactivity]) ?_
    cases own <;> rfl
  | feed hactivity | clearedFirst hactivity | clearedSecond hactivity =>
    exact hnothing (by rw [records, hactivity]) rfl

/-- What is known of the reports that were added to the summary so far. -/
structure Recorded (path : List (Actor × Run)) (now : Run) : Prop where
  workers : now.driver.account.summary.workers = path.filterMap fun p => p.2.records p.1
  /-- What is left of the serviced items without the misses is never cut off at zero. -/
  misses_le : ∀ report ∈ now.driver.account.summary.workers, report.misses ≤ report.serviced

/-- The laws of the summary of a run. -/
structure Totals (plan : Plan) (request : RunRequest) (summary : RunSummary) : Prop where
  /-- Every data file was put into the queue or left out. -/
  files : summary.filesEnqueued + summary.filesSkipped = request.files.length
  filesServiced_eq : summary.filesServiced = summary.filesEnqueued
  hosts : summary.hostsResolved + summary.hostsNotResolved = summary.hostsEnqueued
  unresolved : request.resolvers = 0 →
    summary.hostsEnqueued = 0 ∧ summary.hostsResolved = 0 ∧ summary.hostsNotResolved = 0
  /-- The names that do not fit a slot count as failures, beside those of the workers. -/
  itemErrors : summary.itemErrors =
    (plan.rejectedFiles request).length + (summary.workers.map WorkerReport.itemErrors).sum
  filesServiced : summary.filesServiced =
    ((summary.entries .requester).map WorkerReport.serviced).sum
  hostsEnqueued : summary.hostsEnqueued =
    ((summary.entries .requester).map WorkerReport.produced).sum
  hostsResolved : summary.hostsResolved =
    ((summary.entries .resolver).map fun report => report.serviced - report.misses).sum
  hostsNotResolved : summary.hostsNotResolved =
    ((summary.entries .resolver).map WorkerReport.misses).sum
  /-- All workers have reported, in the order in which they were started. -/
  workers : summary.workers.map (fun report => (report.stage, report.worker)) =
    [Stage.requester, Stage.resolver].flatMap fun stage =>
      (List.range (request.threads stage)).map fun i => (stage, Worker.nameOf stage.name i)
  /-- None of them has failed. -/
  exits : ∀ report ∈ summary.workers, report.exit = .ok ()

/-! ## Runs that answer with their summary

A run that answers with its summary has kept no failure and has left no worker behind, so all
reports are there and no worker has ended before its sentinel. The items that went through a queue
are then counted the same on both sides. -/

/-- What is known of a run that has answered with its summary. -/
structure Answered (plan : Plan) (request : RunRequest) (history : History) (now : Run)
    (summary : RunSummary) : Prop where
  returned : now.driver.activity = .returned (.ok summary)
  answer : ∃ elapsed, summary = { now.driver.account.summary with elapsed := elapsed }
  /-- The driver has fed every name that fits, and it has reported every other. -/
  audit : Audit plan.sentinel (plan.settings.maxFileNameLength - 1) request.skippedAtOnce
    request.namesToFeed history now
    (request.namesToFeed.flatMap (feedDeeds (plan.settings.maxFileNameLength - 1)))
  roles : Roles plan.sentinel history now
  threads : ∀ stage, (now.workers stage).length = request.threads stage
  /-- What was put into a queue was taken out of it. -/
  taken : ∀ stage, history.taken stage = history.stored stage
  stored : ((history.stored .resolver).filter (· ≠ plan.sentinel.text)).Perm
    ((List.range (now.workers .requester).length).flatMap fun i =>
      (history.of (.worker .requester i)).stored .resolver)
  workers : ∀ (stage : Stage) (i : Nat) (w : Worker), (now.workers stage)[i]? = some w →
    ∃ report, w.activity = .ended report ∧ report.exit = .ok () ∧
      (history.of (.worker stage i)).Reported plan.sentinel stage i report

namespace Answered

variable {plan : Plan} {request : RunRequest} {history : History} {now : Run}
  {summary : RunSummary} {stage : Stage}

/-- A sum over the reports of a stage, told by what each worker has on record. -/
theorem sum_reports (h : Answered plan request history now summary) (f : WorkerReport → Nat)
    (g : Nat → Nat)
    (hreport : ∀ i report, (history.of (.worker stage i)).Reported plan.sentinel stage i report →
      f report = g i) :
    ((now.reports stage).map f).sum = ((List.range (now.workers stage).length).map g).sum := by
  refine congrArg List.sum (map_filterMap_report _ _ fun i w hplace => ?_)
  obtain ⟨report, hended, -, hreported⟩ := h.workers stage i w hplace
  exact ⟨report, hended, hreport i report hreported⟩

theorem sum_serviced (h : Answered plan request history now summary) (stage : Stage) :
    ((now.reports stage).map WorkerReport.serviced).sum =
      ((history.stored stage).filter (· ≠ plan.sentinel.text)).length := by
  -- each worker has serviced its share, and the shares make up what was taken
  have hshares := (h.roles.shares_interleave stage).perm.length_eq
  rw [h.taken, List.length_flatten, List.map_map] at hshares
  exact (h.sum_reports _ _ fun i report hreported => hreported.serviced).trans hshares.symm

theorem sum_produced (h : Answered plan request history now summary) :
    ((now.reports .requester).map WorkerReport.produced).sum =
      ((history.stored .resolver).filter (· ≠ plan.sentinel.text)).length := by
  rw [h.stored.length_eq, List.length_flatMap]
  exact h.sum_reports _ _ fun i report hreported => hreported.produced.symm

theorem sum_serviced_requester (h : Answered plan request history now summary) :
    ((now.reports .requester).map WorkerReport.serviced).sum = (plan.fedFiles request).length := by
  rw [h.sum_serviced, h.audit.stored, filterMap_put_feed]
  rfl

theorem of_mem_reports (h : Answered plan request history now summary) {report : WorkerReport}
    (hmem : report ∈ now.reports stage) :
    report.stage = stage ∧ report.exit = .ok () ∧ report.misses ≤ report.serviced := by
  obtain ⟨w, hw, hreport⟩ := List.mem_filterMap.mp hmem
  obtain ⟨i, hplace⟩ := List.mem_iff_getElem?.mp hw
  obtain ⟨other, hended, hexit, hreported⟩ := h.workers stage i w hplace
  rw [Worker.activity_of_report? hreport] at hended
  obtain rfl := Activity.ended.inj hended
  exact ⟨hreported.stage_eq, hexit, hreported.misses_le⟩

/-- All reports stand at the places of their workers. -/
theorem map_places (h : Answered plan request history now summary) (stage : Stage) :
    (now.reports stage).map (fun report => (report.stage, report.worker)) =
      (List.range (request.threads stage)).map fun i => (stage, Worker.nameOf stage.name i) := by
  rw [← h.threads]
  refine map_filterMap_report _ _ fun i w hplace => ?_
  obtain ⟨report, hended, -, hreported⟩ := h.workers stage i w hplace
  exact ⟨report, hended, by rw [hreported.stage_eq, hreported.name]⟩

/-- The numbers of the driver before it has joined anybody, and the sums of the reports. -/
theorem summary_eq (h : Answered plan request history now summary) : ∃ elapsed, summary =
    { filesEnqueued := (plan.fedFiles request).length
      filesSkipped := request.skippedAtOnce + (plan.rejectedFiles request).length
      filesServiced := ((now.reports .requester).map WorkerReport.serviced).sum
      hostsEnqueued := ((now.reports .requester).map WorkerReport.produced).sum
      hostsResolved :=
        ((now.reports .resolver).map fun report => report.serviced - report.misses).sum
      hostsNotResolved := ((now.reports .resolver).map WorkerReport.misses).sum
      itemErrors := (plan.rejectedFiles request).length +
        ((now.reports .requester ++ now.reports .resolver).map WorkerReport.itemErrors).sum
      elapsed := elapsed
      workers := now.reports .requester ++ now.reports .resolver } := by
  have hstage : ∀ stage, ∀ report ∈ now.reports stage, report.stage = stage := fun _ _ hmem =>
    (h.of_mem_reports hmem).1
  obtain ⟨elapsed, hanswer⟩ := h.answer
  refine ⟨elapsed, hanswer.trans ?_⟩
  -- the requesters are joined first: their reports change the numbers of the first stage
  rw [h.audit.summary, joinedReports_eq h.returned, RunSummary.recordAll_append,
    RunSummary.recordAll_requesters _ (hstage .requester),
    RunSummary.recordAll_resolvers _ (hstage .resolver)]
  simp only [fedSummary, count_produced_feed, count_erred_feed, Nat.zero_add, List.nil_append,
    List.map_append, List.sum_append, Nat.add_assoc]
  rfl

theorem entries_eq (h : Answered plan request history now summary) (stage : Stage) :
    summary.entries stage = now.reports stage := by
  obtain ⟨elapsed, hsummary⟩ := h.summary_eq
  rw [RunSummary.entries, hsummary]
  exact filter_stages WorkerReport.stage (fun stage report hmem => (h.of_mem_reports hmem).1) stage

/-- The resolvers have an answer for each host name that was produced, or have missed it. -/
theorem sum_hosts (h : Answered plan request history now summary) :
    ((now.reports .resolver).map fun report => report.serviced - report.misses).sum +
      ((now.reports .resolver).map WorkerReport.misses).sum =
        ((now.reports .requester).map WorkerReport.produced).sum := by
  rw [WorkerReport.sum_hits_add_sum_misses fun report hmem => (h.of_mem_reports hmem).2.2,
    h.sum_serviced, h.sum_produced]

/-- **The laws hold** for a summary that a run answers with. -/
theorem totals (h : Answered plan request history now summary) : Totals plan request summary := by
  have hentries := h.entries_eq
  obtain ⟨elapsed, hsummary⟩ := h.summary_eq
  refine
    { files := ?_
      filesServiced_eq := ?_
      hosts := ?_
      unresolved := fun hnone => ?_
      itemErrors := ?_
      filesServiced := ?_
      hostsEnqueued := ?_
      hostsResolved := ?_
      hostsNotResolved := ?_
      workers := ?_
      exits := fun report hreport => ?_ }
  · rw [hsummary]
    exact plan.length_fedFiles_add request
  · rw [hsummary]
    exact h.sum_serviced_requester
  · rw [hsummary]
    exact h.sum_hosts
  · -- nobody has reported, so nothing was produced either
    have hnobody : now.reports .resolver = [] := by
      rw [reports, List.eq_nil_of_length_eq_zero ((h.threads .resolver).trans hnone)]
      rfl
    have hhosts := h.sum_hosts
    rw [hnobody] at hhosts
    rw [hsummary, hnobody]
    exact ⟨hhosts.symm, rfl, rfl⟩
  · rw [hsummary]
  · rw [hentries, hsummary]
  · rw [hentries, hsummary]
  · rw [hentries, hsummary]
  · rw [hentries, hsummary]
  · rw [hsummary, List.map_append, h.map_places, h.map_places]
    simp
  · rw [hsummary] at hreport
    rcases List.mem_append.mp hreport with hmem | hmem <;> exact (h.of_mem_reports hmem).2.1

end Answered

/-! ## Every run

The record of joins on the path gives the entries, and the laws hold for them without anything being
asked of the environment. -/

section Path

variable {plan : Plan} {request : RunRequest} {sinks : Sinks} {refusals : Refusals}
  {outsider : Option SinkCall} {environment : Environment} {now : Run} {summary : RunSummary}

/-- The summary has the reports of the workers that were joined on the way, in that order. -/
theorem workers_eq_of_path
    (hpath : Path (step told) (initial plan request sinks refusals outsider) path now) :
    now.driver.account.summary.workers = path.filterMap fun p => p.2.records p.1 := by
  induction hpath with
  | refl => exact congrArg RunSummary.workers summary_initial
  | tail actor _ hstep ih =>
    obtain ⟨next, hmove, rfl⟩ := moves_of_step hstep
    refine hmove.workers_summary.trans ?_
    rw [ih, List.filterMap_append]
    refine congrArg _ ?_
    cases hrecords : records _ actor <;> simp [hrecords]

theorem recorded_of_path (husable : plan.Usable) (hfiles : plan.sentinel.text ∉ request.files)
    (hpath : Path (step (plan.instructions environment))
      (initial plan request sinks refusals outsider) path now) : Recorded path now where
  workers := workers_eq_of_path hpath
  misses_le report hmem := by
    obtain ⟨done, haudit⟩ := audit_of_path husable hfiles hpath
    rw [haudit.summary, RunSummary.workers_recordAll] at hmem
    -- only workers that were joined have reported
    obtain ⟨w, hw, hreport⟩ := List.mem_filterMap.mp hmem
    obtain ⟨stage, hw⟩ : ∃ stage, w ∈ now.workers stage := by
      rcases List.mem_append.mp hw with hw | hw <;> exact ⟨_, List.mem_of_mem_take hw⟩
    obtain ⟨i, hplace⟩ := List.mem_iff_getElem?.mp hw
    have htrail := (trails_of_path hpath).workers stage i w hplace
    exact (htrail.report (Worker.activity_of_report? hreport)).misses_le

/-- A run that answers with its summary has lost nothing. -/
theorem answered_of_path (husable : plan.Usable) (hfiles : plan.sentinel.text ∉ request.files)
    (hpath : Path (step (plan.instructions environment))
      (initial plan request sinks {} outsider) path now)
    (hresult : now.result? = some (.ok summary)) :
    Answered plan request (historyOf (plan.instructions environment) path) now summary := by
  have hreturned := activity_of_result? hresult
  have horderly := orderly_of_path husable hfiles hpath
  have htidy := tidy_of_reachable hpath.reaches
  have htrails := trails_of_path hpath
  have hroles := roles_of_path husable hfiles hpath
  have hkept := htidy.kept_eq_none hreturned
  have hall := hasSentinel_of_result husable hfiles hpath hresult
  refine
    { returned := hreturned
      answer := ?_
      audit := ?_
      roles := hroles
      threads := length_workers_of_path hpath
      taken := fun stage =>
        ((allotted_of_path husable hfiles hpath).taken_eq horderly (hall stage)).2
      stored := htrails.stored_perm hroles
      workers := fun stage i w hplace => ?_ }
  · obtain ⟨elapsed, hanswer⟩ := htidy.answer _ hreturned
    rw [hkept] at hanswer
    exact ⟨elapsed, Except.ok.inj hanswer⟩
  · -- the driver keeps no failure, so it has done everything, and nothing is left to do
    obtain ⟨done, haudit⟩ := audit_of_path husable hfiles hpath
    rw [namesToFeed_spawnPools, skippedAtOnce_spawnPools] at haudit
    have hleft := haudit.left hkept
    rw [hreturned] at hleft
    obtain rfl : done = _ := (List.append_nil done).symm.trans hleft
    exact haudit
  · have hover : w.isOver = true := by
      refine horderly.joined stage i w hplace ?_
      rw [hreturned]
      trivial
    obtain ⟨report, hended, hexit⟩ :=
      ended_of_hasSentinel hover (hall stage w (List.mem_of_getElem? hplace))
    exact ⟨report, hended, hexit, (htrails.workers stage i w hplace).report hended⟩

/-- **The numbers of every run**, whichever threads were refused to it. No report that is added up
misses more than it has serviced, and the summary that a run answers with keeps to the laws: a run
with a refused thread answers with none. -/
theorem totals_of_path {settings : Settings} {begun : Run}
    (hplan : Plan.create settings = .ok plan)
    (hlaunch : Run.launch plan request sinks refusals = .ok begun)
    (hfiles : plan.sentinel.text ∉ request.files)
    (hpath : Path (step (plan.instructions environment)) { begun with outsider := outsider } path
      now) :
    Recorded path now ∧
      ∀ summary, now.result? = some (.ok summary) → Totals plan request summary := by
  have husable := Plan.usable_of_create hplan
  obtain ⟨-, rfl⟩ := eq_of_launch hlaunch
  replace hpath : Path (step (plan.instructions environment))
    (initial plan request sinks refusals outsider) path now := hpath
  refine ⟨recorded_of_path husable hfiles hpath, fun summary hresult => ?_⟩
  rw [initial_of_result hpath hresult] at hpath
  exact (answered_of_path husable hfiles hpath hresult).totals

/-- Two requesters and a resolver with a name that does not fit, a file that cannot be opened, a
host name without an address, and a log that refuses every line. -/
theorem totals_of_path_mixed :
    let plan : Plan :=
      { settings := { queueCapacity := 1, maxFileNameLength := 6 }, sentinel := .standard }
    let request : RunRequest :=
      { requesters := 2, resolvers := 1, files := ["a", "too long", "b"] }
    let environment := Environment.steady
      (fun file => if file = "a" then .opened [.line " c ", .line "d"] else .refused (.system 2))
      (fun host => if host = "c" then .found "::" else .failed (.noAddress host)) {}
    let sinks := Sinks.ofDevices fun sink =>
      if sink = .resolverLog then { refuses := fun _ _ => some (.system 28) } else .memory
    let start := initial plan request sinks {} none
    let now := execute (plan.instructions environment) 80 start
    ∃ summary path, now.result? = some (.ok summary) ∧
      Path (step (plan.instructions environment)) start path now ∧ Recorded path now ∧
        Totals plan request summary := by
  have hplan : Plan.create { queueCapacity := 1, maxFileNameLength := 6 } =
    .ok { settings := { queueCapacity := 1, maxFileNameLength := 6 }, sentinel := .standard } := rfl
  have hstart := start_eq_ok
    (.ofDevices fun sink =>
      if sink = .resolverLog then { refuses := fun _ _ => some (.system 28) } else .memory)
    (show Plan.check
      { settings := { queueCapacity := 1, maxFileNameLength := 6 }, sentinel := .standard }
      { requesters := 2, resolvers := 1, files := ["a", "too long", "b"] } = .ok () from rfl)
    rfl rfl
  intro plan request environment sinks start now
  have hover : now.result?.any Except.isOk = true := by decide +kernel
  obtain ⟨path, hpath⟩ :=
    (reachable_execute (plan.instructions environment) 80 start).traces
      fun actor state => [(actor, state)]
  obtain ⟨hrecorded, htotals⟩ := totals_of_path hplan hstart (by decide) hpath
  obtain ⟨summary, hsummary⟩ := exists_ok_of_any hover
  exact ⟨summary, path, hsummary, hpath, hrecorded, htotals summary hsummary⟩

end Path

end Run

end HostLookup
