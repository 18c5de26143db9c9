import HostLookup.Proofs.Run.Chronicle
import Mathlib.Algebra.GroupWithZero.Nat

/-!
# What a run delivers

When a calm run is over, what it has delivered does not depend on the order in which its threads
moved, apart from the order of lines that different threads wrote. Every name that fits was serviced
by one requester, every host name that was handed on was answered by one resolver, every failure was
reported once, and the summary adds all this up.

* **`Run.Delivered`** lists what was delivered.
* **`Run.Chronicle.shared_requester`**, **`Run.Chronicle.shared_resolver`**: nothing gets lost
  between the threads, and nothing is done twice.
* **`Run.delivered_of_reachable`**: every calm run that is over has delivered it.
-/

namespace HostLookup

namespace Plan

variable (plan : Plan) (request : RunRequest)

/-- Does the name of a data file leave a byte of its slot free? -/
def fitsSlot (file : String) : Bool :=
  file.utf8ByteSize ≤ plan.settings.maxFileNameLength - 1

/-- The data files that are put in front of the requesters. -/
def fedFiles : List String :=
  request.namesToFeed.filter plan.fitsSlot

/-- The names that are reported instead. -/
def rejectedFiles : List String :=
  request.namesToFeed.filter fun file => !plan.fitsSlot file

end Plan

/-- What a run has delivered when it is over. -/
structure Run.Delivered (t : Terms) (plan : Plan) (request : RunRequest)
    (lines : Sink → List String) (summary : RunSummary) : Prop where
  /-- The files are shared out among the requesters, and each of them logs the host names in its
  files in order. -/
  requesterLog : ∃ shares : List (List String), shares.length = request.requesters ∧
    Interleaves (plan.fedFiles request) shares ∧
    Interleaves (lines .requesterLog) (shares.map fun share => share.flatMap t.hostsIn)
  /-- Each host name that was handed on is answered once. -/
  resolverLog : (lines .resolverLog).Perm ((t.handedOn (plan.fedFiles request)).map t.answer)
  /-- Each name that does not fit, and each failure in a file, is reported once. -/
  stderr : (lines .stderr).Perm
    ((plan.rejectedFiles request).map (Run.rejectionOf (plan.settings.maxFileNameLength - 1)) ++
      ((plan.fedFiles request).flatMap t.faultsIn).map Failure.report)
  /-- Each worker has written its summary line. -/
  stdout : (lines .stdout).Perm (summary.workers.map WorkerReport.announcement)
  /-- All workers have reported, in the order in which they were started. -/
  workers : summary.workers.map (fun report => (report.stage, report.worker)) =
    [Stage.requester, Stage.resolver].flatMap fun stage =>
      (List.range (request.threads stage)).map fun i => (stage, Worker.nameOf stage.name i)
  /-- None of them has failed. -/
  exits : ∀ report ∈ summary.workers, report.exit = .ok ()
  filesEnqueued : summary.filesEnqueued = (plan.fedFiles request).length
  filesServiced : summary.filesServiced = (plan.fedFiles request).length
  filesSkipped : summary.filesSkipped =
    request.skippedAtOnce + (plan.rejectedFiles request).length
  hostsEnqueued : summary.hostsEnqueued = (t.handedOn (plan.fedFiles request)).length
  hostsResolved : summary.hostsResolved =
    (t.handedOn (plan.fedFiles request)).countP fun host => !t.misses host
  hostsNotResolved : summary.hostsNotResolved =
    (t.handedOn (plan.fedFiles request)).countP t.misses
  itemErrors : summary.itemErrors =
    (plan.rejectedFiles request).length + ((plan.fedFiles request).flatMap t.faultsIn).length

/-! ## Adding reports up

Each number of a summary is a sum over reports in which only the workers of one stage have a share.
When all workers have been joined, the reports stand at the places of their workers, and by the
audit each says what its worker has on record. -/

namespace WorkerReport

variable {reports : List WorkerReport} {stage : Stage}

/-- What the reports of a stage come to in one of their numbers. -/
def total (reports : List WorkerReport) (stage : Stage) (number : WorkerReport → Nat) : Nat :=
  ((reports.filter fun report => report.stage = stage).map number).sum

theorem total_of_stage (hstage : ∀ report ∈ reports, report.stage = stage)
    (number : WorkerReport → Nat) : total reports stage number = (reports.map number).sum := by
  rw [total, List.filter_eq_self.mpr fun report hmem => decide_eq_true (hstage report hmem)]

theorem total_of_other (hstage : ∀ report ∈ reports, report.stage ≠ stage)
    (number : WorkerReport → Nat) : total reports stage number = 0 := by
  have hnone : reports.filter (fun report => report.stage = stage) = [] :=
    List.filter_eq_nil_iff.mpr fun report hmem => by simpa using hstage report hmem
  rw [total, hnone]
  rfl

end WorkerReport

namespace RunSummary

variable {reports : List WorkerReport}

/-- **What each number of a summary grows by** when reports are added. -/
theorem recordAll_eq (summary : RunSummary) (reports : List WorkerReport) :
    summary.recordAll reports =
      { summary with
        filesServiced :=
          summary.filesServiced + WorkerReport.total reports .requester WorkerReport.serviced
        hostsEnqueued :=
          summary.hostsEnqueued + WorkerReport.total reports .requester WorkerReport.produced
        hostsResolved :=
          summary.hostsResolved +
            WorkerReport.total reports .resolver fun report => report.serviced - report.misses
        hostsNotResolved :=
          summary.hostsNotResolved + WorkerReport.total reports .resolver WorkerReport.misses
        itemErrors := summary.itemErrors + (reports.map WorkerReport.itemErrors).sum
        workers := summary.workers ++ reports } := by
  induction reports generalizing summary with
  | nil => simp [recordAll, WorkerReport.total]
  | cons report rest ih =>
    refine (ih (summary.record report)).trans ?_
    cases hstage : report.stage <;>
      simp [record, hstage, WorkerReport.total, Nat.add_assoc]

/-- What requesters have serviced are files, and what they have produced are host names. -/
theorem recordAll_requesters (summary : RunSummary)
    (hstage : ∀ report ∈ reports, report.stage = .requester) :
    summary.recordAll reports =
      { summary with
        filesServiced := summary.filesServiced + (reports.map WorkerReport.serviced).sum
        hostsEnqueued := summary.hostsEnqueued + (reports.map WorkerReport.produced).sum
        itemErrors := summary.itemErrors + (reports.map WorkerReport.itemErrors).sum
        workers := summary.workers ++ reports } := by
  have hother : ∀ report ∈ reports, report.stage ≠ .resolver := by
    intro report hmem
    rw [hstage report hmem]
    decide
  rw [recordAll_eq]
  simp only [WorkerReport.total_of_stage hstage, WorkerReport.total_of_other hother, Nat.add_zero]

theorem recordAll_append (summary : RunSummary) (first second : List WorkerReport) :
    summary.recordAll (first ++ second) = (summary.recordAll first).recordAll second :=
  List.foldl_append

/-- What resolvers have serviced are host names, with an address or without one. -/
theorem recordAll_resolvers (summary : RunSummary)
    (hstage : ∀ report ∈ reports, report.stage = .resolver) :
    summary.recordAll reports =
      { summary with
        hostsResolved := summary.hostsResolved +
          (reports.map fun report => report.serviced - report.misses).sum
        hostsNotResolved := summary.hostsNotResolved + (reports.map WorkerReport.misses).sum
        itemErrors := summary.itemErrors + (reports.map WorkerReport.itemErrors).sum
        workers := summary.workers ++ reports } := by
  have hother : ∀ report ∈ reports, report.stage ≠ .requester := by
    intro report hmem
    rw [hstage report hmem]
    decide
  rw [recordAll_eq]
  simp only [WorkerReport.total_of_stage hstage, WorkerReport.total_of_other hother, Nat.add_zero]

end RunSummary

namespace Run

variable {told : Instructions} {run : Run} {history : History} {t : Terms} {plan : Plan}
  {request : RunRequest} {sinks : Sinks} {result : Except Failure RunSummary}

/-- The reports of the workers of a stage that have ended. -/
def reports (run : Run) (stage : Stage) : List WorkerReport :=
  (run.workers stage).filterMap Worker.report?

/-- When a run is over all workers have been joined. -/
theorem joinedReports_eq (hresult : run.driver.activity = .returned result) :
    run.joinedReports = run.reports .requester ++ run.reports .resolver := by
  have hall : ∀ stage, run.joinedOf stage = run.workers stage := by
    intro stage
    rw [joinedOf, hresult]
    exact List.take_length
  rw [joinedReports, hall, hall, List.filterMap_append, reports, reports]

/-- A list of reports, told by what is known of each worker at its place. -/
theorem map_filterMap_report {α : Type} {workers : List Worker} (f : WorkerReport → α) (g : Nat → α)
    (h : ∀ i w, workers[i]? = some w → ∃ report, w.activity = .ended report ∧ f report = g i) :
    (workers.filterMap Worker.report?).map f = (List.range workers.length).map g := by
  induction workers generalizing g with
  | nil => rfl
  | cons w rest ih =>
    obtain ⟨report, hended, hf⟩ := h 0 w rfl
    have hreport : w.report? = some report := by rw [Worker.report?, hended]
    have hrest := ih (fun i => g (i + 1)) fun i w' hplace => h (i + 1) w' hplace
    rw [List.filterMap_cons_some hreport, List.map_cons, hrest, hf, List.length_cons,
      List.range_succ_eq_map, List.map_cons, List.map_map]
    rfl

namespace Chronicle

variable {stage : Stage}

/-- The report of each worker counts the deeds for its share. -/
theorem report (h : Chronicle t plan request sinks history run)
    (hresult : run.driver.activity = .returned result) {i : Nat} {w : Worker}
    (hplace : (run.workers stage)[i]? = some w) :
    ∃ report, w.activity = .ended report ∧
      (report.stage = stage ∧ report.worker = Worker.nameOf stage.name i ∧ report.exit = .ok ()) ∧
      (report.serviced = (history.share t.sentinel stage i).length ∧
        report.produced = ((history.share t.sentinel stage i).flatMap (t.deeds stage)).count
          .produced ∧
        report.misses = ((history.share t.sentinel stage i).flatMap (t.deeds stage)).count
          .missed ∧
        report.itemErrors = ((history.share t.sentinel stage i).flatMap (t.deeds stage)).count
          .erred) ∧
      (history.of (.worker stage i)).lines .stdout = [report.announcement] := by
  obtain ⟨report, hended, hexit, -, hstory⟩ := h.ended hresult hplace
  have hannounced := hstory.announced
  rw [hended] at hannounced
  obtain ⟨elapsed, exit, rfl⟩ := hstory.ended report hended
  exact ⟨_, hended, ⟨hstory.stage_eq, hstory.name, hexit⟩,
    ⟨hstory.serviced, hstory.produced, hstory.misses, hstory.itemErrors⟩, hannounced⟩

theorem map_reports {α : Type} (h : Chronicle t plan request sinks history run)
    (f : WorkerReport → α) (g : Nat → α)
    (hworker : ∀ i w, (run.workers stage)[i]? = some w →
      ∃ report, w.activity = .ended report ∧ f report = g i) :
    (run.reports stage).map f = (List.range (request.threads stage)).map g := by
  rw [← h.threads]
  exact map_filterMap_report f g hworker

/-! ## Shares

What the workers of a stage have done together is, up to order, what went into the queue in front of
them without the sentinels: each of them has stopped at its own sentinel, and a queue is left empty
behind. -/

/-- The files that fit are shared out among the requesters. -/
theorem shares_requester (h : Chronicle t plan request sinks history run)
    (hresult : run.driver.activity = .returned result) :
    Interleaves (plan.fedFiles request)
      ((List.range request.requesters).map (history.share t.sentinel .requester)) := by
  by_cases hnone : request.requesters = 0
  · -- without requesters no name was fed
    rw [Plan.fedFiles, RunRequest.namesToFeed, if_pos hnone, hnone]
    exact .nil nofun
  · obtain ⟨done, hbooks⟩ := h.books
    have hdone : done = request.namesToFeed.flatMap
        (feedDeeds (plan.settings.maxFileNameLength - 1)) := by
      rw [← hbooks.left, hresult]
      exact (List.append_nil done).symm
    have hsome : request.threads .requester ≠ 0 := hnone
    -- what they took is what was put, and that are the names that fit
    have hshares := h.roles.shares_interleave .requester
    rw [h.filter_taken hresult hsome, hbooks.stored, hdone, filterMap_put_feed, h.threads]
      at hshares
    exact hshares

theorem shared_requester (h : Chronicle t plan request sinks history run)
    (hresult : run.driver.activity = .returned result) :
    (history.shared t.sentinel .requester request.requesters).Perm (plan.fedFiles request) := by
  rw [History.shared, List.flatMap_def]
  exact (h.shares_requester hresult).perm.symm

/-- What the workers of a stage have on record, as far as it is told by deeds. -/
theorem flatMap_of_worker {α : Type} (h : Chronicle t plan request sinks history run)
    (hresult : run.driver.activity = .returned result) (stage : Stage) (part : History → List α)
    (f : Deed → Option α)
    (hpart : ∀ {own i w items done}, Worker.Story (t.seenBy stage) own stage i w items done →
      part own = done.filterMap f) :
    (List.range (run.workers stage).length).flatMap (fun i => part (history.of (.worker stage i))) =
      ((history.shared t.sentinel stage (request.threads stage)).flatMap (t.deeds stage)).filterMap
        f := by
  rw [History.shared, List.flatMap_assoc, List.filterMap_flatMap, ← h.threads, List.flatMap_def,
    List.flatMap_def]
  refine congrArg List.flatten (List.map_congr_left fun i hmem => ?_)
  have hlt := List.mem_range.mp hmem
  obtain ⟨-, -, -, -, hstory⟩ := h.ended hresult (List.getElem?_eq_getElem hlt)
  exact hpart hstory

/-- What went into the queue in front of the resolvers are the host names that were handed on. -/
theorem filter_stored_resolver (h : Chronicle t plan request sinks history run)
    (hresult : run.driver.activity = .returned result) :
    ((history.stored .resolver).filter (· ≠ t.sentinel.text)).Perm
      (t.handedOn (plan.fedFiles request)) := by
  have hrequesters := h.flatMap_of_worker hresult .requester (fun own => own.stored .resolver)
    Deed.put? fun hstory => hstory.stored
  have hresolvers := h.flatMap_of_worker hresult .resolver (fun own => own.stored .resolver)
    Deed.put? fun hstory => hstory.stored
  rw [t.filterMap_put_requester] at hrequesters
  rw [t.filterMap_put_resolver] at hresolvers
  -- beside the sentinels the driver has put nothing there, and the resolvers put nothing at all
  have hperm := (h.roles.stored_perm .resolver).filter (· ≠ t.sentinel.text)
  rw [hrequesters, hresolvers, List.append_nil, List.filter_append, h.roles.sentinels,
    List.nil_append, t.filter_handedOn] at hperm
  exact hperm.trans (t.handedOn_perm (h.shared_requester hresult))

/-- The host names that were handed on are shared out among the resolvers. -/
theorem shared_resolver (h : Chronicle t plan request sinks history run)
    (hresult : run.driver.activity = .returned result)
    (hlimit : request.resolvers = 0 → t.limit = none) :
    (history.shared t.sentinel .resolver request.resolvers).Perm
      (t.handedOn (plan.fedFiles request)) := by
  by_cases hnone : request.resolvers = 0
  · -- without resolvers no host name was handed on
    rw [hnone, Terms.handedOn, hlimit hnone]
    exact .refl _
  · have hsome : request.threads .resolver ≠ 0 := hnone
    have hshares := (h.roles.shares_interleave .resolver).perm
    rw [h.filter_taken hresult hsome, h.threads, ← List.flatMap_def] at hshares
    exact hshares.symm.trans (h.filter_stored_resolver hresult)

/-! ## What the reports add up to

Every sum over reports becomes a count over the items that were shared out. Who got which item is
forgotten by the sum, so the result does not depend on the schedule. -/

theorem sum_serviced (h : Chronicle t plan request sinks history run)
    (hresult : run.driver.activity = .returned result) (stage : Stage) :
    ((run.reports stage).map WorkerReport.serviced).sum =
      (history.shared t.sentinel stage (request.threads stage)).length := by
  rw [History.shared, List.length_flatMap]
  refine congrArg List.sum (h.map_reports _ _ fun i w hplace => ?_)
  obtain ⟨report, hended, -, ⟨hserviced, -⟩, -⟩ := h.report hresult hplace
  exact ⟨report, hended, hserviced⟩

/-- A number in the reports that counts deeds of one kind. -/
theorem sum_count (h : Chronicle t plan request sinks history run)
    (stage : Stage) (f : WorkerReport → Nat) (deed : Deed)
    (hworker : ∀ i w, (run.workers stage)[i]? = some w →
      ∃ report, w.activity = .ended report ∧ f report =
        ((history.share t.sentinel stage i).flatMap (t.deeds stage)).count deed) :
    ((run.reports stage).map f).sum =
      ((history.shared t.sentinel stage (request.threads stage)).flatMap (t.deeds stage)).count
        deed := by
  rw [History.shared, List.flatMap_assoc, List.count_flatMap]
  exact congrArg List.sum (h.map_reports _ _ hworker)

theorem sum_produced (h : Chronicle t plan request sinks history run)
    (hresult : run.driver.activity = .returned result) :
    ((run.reports .requester).map WorkerReport.produced).sum =
      (t.handedOn (plan.fedFiles request)).length := by
  rw [h.sum_count .requester WorkerReport.produced .produced fun i w hplace => ?_,
    t.count_produced_requester]
  · exact (t.handedOn_perm (h.shared_requester hresult)).length_eq
  · obtain ⟨report, hended, -, ⟨-, hproduced, -⟩, -⟩ := h.report hresult hplace
    exact ⟨report, hended, hproduced⟩

theorem sum_itemErrors (h : Chronicle t plan request sinks history run)
    (hresult : run.driver.activity = .returned result) (stage : Stage) :
    ((run.reports stage).map WorkerReport.itemErrors).sum =
      ((history.shared t.sentinel stage (request.threads stage)).flatMap (t.deeds stage)).count
        .erred := by
  refine h.sum_count stage WorkerReport.itemErrors .erred fun i w hplace => ?_
  obtain ⟨report, hended, -, ⟨-, -, -, herrors⟩, -⟩ := h.report hresult hplace
  exact ⟨report, hended, herrors⟩

theorem sum_misses (h : Chronicle t plan request sinks history run)
    (hresult : run.driver.activity = .returned result)
    (hlimit : request.resolvers = 0 → t.limit = none) :
    ((run.reports .resolver).map WorkerReport.misses).sum =
      (t.handedOn (plan.fedFiles request)).countP t.misses := by
  rw [h.sum_count .resolver WorkerReport.misses .missed fun i w hplace => ?_,
    t.count_missed_resolver]
  · exact (h.shared_resolver hresult hlimit).countP_eq _
  · obtain ⟨report, hended, -, ⟨-, -, hmisses, -⟩, -⟩ := h.report hresult hplace
    exact ⟨report, hended, hmisses⟩

theorem sum_hits (h : Chronicle t plan request sinks history run)
    (hresult : run.driver.activity = .returned result)
    (hlimit : request.resolvers = 0 → t.limit = none) :
    ((run.reports .resolver).map fun report => report.serviced - report.misses).sum =
      (t.handedOn (plan.fedFiles request)).countP fun host => !t.misses host := by
  rw [← (h.shared_resolver hresult hlimit).countP_eq, History.shared, List.countP_flatMap]
  refine congrArg List.sum (h.map_reports _ _ fun i w hplace => ?_)
  obtain ⟨report, hended, -, ⟨hserviced, -, hmisses, -⟩, -⟩ := h.report hresult hplace
  refine ⟨report, hended, ?_⟩
  -- each host name is missed or not
  have hall : (history.share t.sentinel .resolver i).length =
      (history.share t.sentinel .resolver i).countP t.misses +
        (history.share t.sentinel .resolver i).countP fun host => !t.misses host := by
    rw [List.length_eq_countP_add_countP t.misses]
    simp
  rw [t.count_missed_resolver] at hmisses
  rw [Function.comp_apply, hserviced, hmisses, hall]
  omega

/-! ## What was delivered

The numbers that the driver has counted itself are added to those of the workers. -/

theorem of_mem_reports (h : Chronicle t plan request sinks history run)
    (hresult : run.driver.activity = .returned result) {report : WorkerReport}
    (hmem : report ∈ run.reports stage) : report.stage = stage ∧ report.exit = .ok () := by
  obtain ⟨w, hw, hreport⟩ := List.mem_filterMap.mp hmem
  obtain ⟨i, hplace⟩ := List.mem_iff_getElem?.mp hw
  obtain ⟨report', hended, ⟨hstage, -, hexit⟩, -⟩ := h.report hresult hplace
  rw [Worker.report?, hended] at hreport
  obtain rfl := Option.some.inj hreport
  exact ⟨hstage, hexit⟩

theorem books_done (h : Chronicle t plan request sinks history run)
    (hresult : run.driver.activity = .returned result) :
    Books t.sentinel (plan.settings.maxFileNameLength - 1) request.skippedAtOnce
      request.namesToFeed history run
      (request.namesToFeed.flatMap (feedDeeds (plan.settings.maxFileNameLength - 1))) := by
  obtain ⟨done, hbooks⟩ := h.books
  have hleft := hbooks.left
  rw [hresult] at hleft
  obtain rfl : done = _ := (List.append_nil done).symm.trans hleft
  exact hbooks

/-- **What the summary says.** -/
theorem summary_eq (h : Chronicle t plan request sinks history run)
    (hresult : run.driver.activity = .returned result)
    (hlimit : request.resolvers = 0 → t.limit = none) :
    run.driver.account.summary =
      { filesEnqueued := (plan.fedFiles request).length
        filesSkipped := request.skippedAtOnce + (plan.rejectedFiles request).length
        filesServiced := (plan.fedFiles request).length
        hostsEnqueued := (t.handedOn (plan.fedFiles request)).length
        hostsResolved :=
          (t.handedOn (plan.fedFiles request)).countP fun host => !t.misses host
        hostsNotResolved := (t.handedOn (plan.fedFiles request)).countP t.misses
        itemErrors := (plan.rejectedFiles request).length +
          ((plan.fedFiles request).flatMap t.faultsIn).length
        workers := run.reports .requester ++ run.reports .resolver } := by
  have hrequesters : ∀ report ∈ run.reports .requester, report.stage = .requester :=
    fun _ hmem => (h.of_mem_reports hresult hmem).1
  have hresolvers : ∀ report ∈ run.reports .resolver, report.stage = .resolver :=
    fun _ hmem => (h.of_mem_reports hresult hmem).1
  have hserviced : ((run.reports .requester).map WorkerReport.serviced).sum =
      (plan.fedFiles request).length :=
    (h.sum_serviced hresult .requester).trans (h.shared_requester hresult).length_eq
  have hfaults : ((run.reports .requester).map WorkerReport.itemErrors).sum =
      ((plan.fedFiles request).flatMap t.faultsIn).length := by
    rw [h.sum_itemErrors hresult .requester, t.count_erred_requester]
    exact ((h.shared_requester hresult).flatMap_right _).length_eq
  have hnone : ((run.reports .resolver).map WorkerReport.itemErrors).sum = 0 := by
    rw [h.sum_itemErrors hresult .resolver, t.count_erred_resolver]
  -- first the names, then the reports of the requesters, then those of the resolvers
  rw [(h.books_done hresult).summary, joinedReports_eq hresult, RunSummary.recordAll_append,
    RunSummary.recordAll_requesters _ hrequesters, RunSummary.recordAll_resolvers _ hresolvers]
  simp only [fedSummary, count_produced_feed, count_erred_feed, hserviced, hfaults, hnone,
    h.sum_produced hresult, h.sum_hits hresult hlimit, h.sum_misses hresult hlimit, Nat.zero_add,
    Nat.add_zero, List.nil_append]
  rfl

/-! ## What was written

A log is an interleaving of what its writers wrote, and each writer wrote the lines that its deeds
ask for. For the log of the requesters each file keeps its order; the others are known up to the
order of their lines. -/

theorem lines_of_workers (h : Chronicle t plan request sinks history run)
    (hresult : run.driver.activity = .returned result) (stage : Stage) {sink : Sink}
    (hsink : sink ≠ .stdout) :
    (List.range (run.workers stage).length).flatMap
        (fun i => (history.of (.worker stage i)).lines sink) =
      ((history.shared t.sentinel stage (request.threads stage)).flatMap (t.deeds stage)).filterMap
        (Deed.lineTo stage.logSink sink) :=
  h.flatMap_of_worker hresult stage (fun own => own.lines sink) _ fun hstory =>
    hstory.lines sink hsink

/-- Nobody but the workers of a stage writes to its log. -/
theorem lines_of_other (h : Chronicle t plan request sinks history run)
    (hresult : run.driver.activity = .returned result) (actor : Actor)
    (hactor : actor ∉ run.pool stage) : (history.of actor).lines stage.logSink = [] := by
  refine h.roles.forall_of
    (P := fun actor own => actor ∉ run.pool stage → own.lines stage.logSink = [])
    (fun _ _ => rfl) (fun _ => ?_) (fun own i w hplace hnot => ?_) actor hactor
  · -- the driver writes reports only
    rw [(h.books_done hresult).lines]
    cases stage <;> exact filterMap_other_feed _ _ (by decide)
  · obtain ⟨-, -, -, -, hstory⟩ := h.ended hresult hplace
    have hlt := (List.getElem?_eq_some_iff.mp hplace).1
    have hne : own ≠ stage := fun heq => hnot (mem_pool.mpr ⟨heq, heq ▸ hlt⟩)
    cases own <;> cases stage
    · exact absurd rfl hne
    · rw [hstory.lines _ (by decide)]
      exact t.filterMap_other_requester _
    · rw [hstory.lines _ (by decide)]
      exact t.filterMap_other_resolver _ (by decide)
    · exact absurd rfl hne

theorem requesterLog_interleaves (h : Chronicle t plan request sinks history run)
    (hresult : run.driver.activity = .returned result) :
    Interleaves (history.lines .requesterLog)
      (((List.range request.requesters).map (history.share t.sentinel .requester)).map
        fun share => share.flatMap t.hostsIn) := by
  have hlines := History.lines_interleaves .requesterLog (run.nodup_pool .requester)
    (h.lines_of_other hresult)
  have hparts : (run.pool .requester).map (fun actor => (history.of actor).lines .requesterLog) =
      ((List.range request.requesters).map (history.share t.sentinel .requester)).map
        fun share => share.flatMap t.hostsIn := by
    rw [pool, h.threads, List.map_map, List.map_map]
    refine List.map_congr_left fun i hmem => ?_
    have hlt : i < (run.workers .requester).length := by
      rw [h.threads]
      exact List.mem_range.mp hmem
    obtain ⟨-, -, -, -, hstory⟩ := h.ended hresult (List.getElem?_eq_getElem hlt)
    exact (hstory.lines _ (by decide)).trans (t.filterMap_log_requester _)
  rwa [hparts] at hlines

theorem resolverLog_perm (h : Chronicle t plan request sinks history run)
    (hresult : run.driver.activity = .returned result)
    (hlimit : request.resolvers = 0 → t.limit = none) :
    (history.lines .resolverLog).Perm ((t.handedOn (plan.fedFiles request)).map t.answer) := by
  have hperm := h.roles.lines_perm .resolverLog
  rw [(h.books_done hresult).lines, filterMap_other_feed _ _ (by decide),
    h.lines_of_workers hresult .requester (by decide),
    h.lines_of_workers hresult .resolver (by decide)] at hperm
  refine hperm.trans ?_
  have hrequesters := t.filterMap_other_requester
    (history.shared t.sentinel .requester (request.threads .requester))
  have hresolvers := t.filterMap_log_resolver
    (history.shared t.sentinel .resolver (request.threads .resolver))
  rw [Stage.logSink, Stage.logSink, hrequesters, hresolvers]
  exact (h.shared_resolver hresult hlimit).map _

theorem stderr_perm (h : Chronicle t plan request sinks history run)
    (hresult : run.driver.activity = .returned result) :
    (history.lines .stderr).Perm
      ((plan.rejectedFiles request).map (rejectionOf (plan.settings.maxFileNameLength - 1)) ++
        ((plan.fedFiles request).flatMap t.faultsIn).map Failure.report) := by
  have hperm := h.roles.lines_perm .stderr
  rw [(h.books_done hresult).lines, filterMap_report_feed,
    h.lines_of_workers hresult .requester (by decide),
    h.lines_of_workers hresult .resolver (by decide)] at hperm
  have hrequesters := t.filterMap_report_requester
    (history.shared t.sentinel .requester (request.threads .requester))
  have hresolvers : _ = [] := t.filterMap_other_resolver
    (history.shared t.sentinel .resolver (request.threads .resolver))
    (by decide : Sink.stderr ≠ .resolverLog)
  rw [Stage.logSink, Stage.logSink, hrequesters, hresolvers, List.append_nil] at hperm
  exact hperm.trans (((h.shared_requester hresult).flatMap_right _ |>.map _).append_left _)

theorem stdout_of_workers (h : Chronicle t plan request sinks history run)
    (hresult : run.driver.activity = .returned result) (stage : Stage) :
    (List.range (run.workers stage).length).flatMap
        (fun i => (history.of (.worker stage i)).lines .stdout) =
      (run.reports stage).map WorkerReport.announcement := by
  have hlines : (run.reports stage).map (fun report => [report.announcement]) =
      (List.range (request.threads stage)).map
        fun i => (history.of (.worker stage i)).lines .stdout := by
    refine h.map_reports _ _ fun i w hplace => ?_
    obtain ⟨report, hended, -, -, hannounced⟩ := h.report hresult hplace
    exact ⟨report, hended, hannounced.symm⟩
  rw [h.threads, List.flatMap_def, ← hlines, ← List.flatMap_def, List.map_eq_flatMap]

theorem stdout_perm (h : Chronicle t plan request sinks history run)
    (hresult : run.driver.activity = .returned result) :
    (history.lines .stdout).Perm
      ((run.reports .requester ++ run.reports .resolver).map WorkerReport.announcement) := by
  have hperm := h.roles.lines_perm .stdout
  rwa [(h.books_done hresult).lines, filterMap_other_feed _ _ (by decide), List.nil_append,
    h.stdout_of_workers hresult, h.stdout_of_workers hresult, ← List.map_append] at hperm

/-- **All has been delivered.** -/
theorem delivered (h : Chronicle t plan request sinks history run)
    (hresult : run.driver.activity = .returned result)
    (hlimit : request.resolvers = 0 → t.limit = none) :
    ∃ summary, result = .ok summary ∧ Delivered t plan request history.lines summary := by
  obtain ⟨elapsed, rfl⟩ := h.calm.answer hresult
  rw [h.summary_eq hresult hlimit]
  have hnames : ∀ stage, (run.reports stage).map (fun report => (report.stage, report.worker)) =
      (List.range (request.threads stage)).map fun i => (stage, Worker.nameOf stage.name i) := by
    intro stage
    refine h.map_reports _ _ fun i w hplace => ?_
    obtain ⟨report, hended, ⟨rfl, hname, -⟩, -⟩ := h.report hresult hplace
    exact ⟨report, hended, by rw [hname]⟩
  refine ⟨_, rfl, ?_⟩
  exact
    { requesterLog := ⟨_, by simp, h.shares_requester hresult, h.requesterLog_interleaves hresult⟩
      resolverLog := h.resolverLog_perm hresult hlimit
      stderr := h.stderr_perm hresult
      stdout := h.stdout_perm hresult
      workers := by
        rw [List.map_append, hnames, hnames]
        simp
      exits := fun report hmem => by
        rcases List.mem_append.mp hmem with hrequester | hresolver
        · exact (h.of_mem_reports hresult hrequester).2
        · exact (h.of_mem_reports hresult hresolver).2
      filesEnqueued := rfl
      filesServiced := rfl
      filesSkipped := rfl
      hostsEnqueued := rfl
      hostsResolved := rfl
      hostsNotResolved := rfl
      itemErrors := rfl }

end Chronicle

/-- **Every calm run that is over has delivered** what its plan and its request ask for, whatever
order its threads moved in and whatever time it took. -/
theorem delivered_of_reachable {settings : Settings} {start now : Run} {opening : String → Opening}
    {lookup : String → Lookup} {elapsed : Nat → Elapsed} {memory : Allocator}
    (hplan : Plan.create settings = .ok plan)
    (hstart : Run.start plan request sinks memory = .ok start)
    (hfiles : plan.sentinel.text ∉ request.files)
    (hopening : ∀ file, (opening file).Readable) (hlookup : ∀ host, lookup host ≠ .panicked)
    (hsinks : sinks.Willing)
    (hreach : Reachable (plan.instructions
      { opening := fun _ => opening, lookup := fun _ => lookup, elapsed := elapsed }) start now)
    (hresult : now.result? = some result) :
    ∃ (summary : RunSummary) (lines : Sink → List String),
      result = .ok summary ∧
        (∀ sink, now.sinks.written sink =
          sinks.written sink ++ (lines sink).flatMap Sinks.lineBytes) ∧
        Delivered (plan.terms request opening hopening lookup hlookup) plan request lines
          summary := by
  obtain ⟨-, rfl⟩ := eq_of_start hstart
  -- the history is no part of the run: it is read off the way that led to its end
  obtain ⟨history, htrace⟩ := hreach.traces (events _)
  have hchronicle := chronicle_of_traces
    (t := plan.terms request opening hopening lookup hlookup) (Plan.usable_of_create hplan) hfiles
    ⟨rfl, rfl, fun _ => rfl, fun _ => rfl⟩ rfl hsinks htrace
  obtain ⟨summary, hok, hdelivered⟩ :=
    hchronicle.delivered (activity_of_result? hresult) fun hnone => if_pos hnone
  exact ⟨summary, History.lines history, hok, hchronicle.tale.written, hdelivered⟩

/-- One data file with one host name, through two queues with a single slot each. -/
theorem delivered_of_reachable_one_file :
    let plan : Plan := { settings := { queueCapacity := 1 }, sentinel := .standard }
    let request : RunRequest := { requesters := 1, resolvers := 1, files := ["a"] }
    let opening : String → Opening := fun _ => .opened [.line " b ", .line ""]
    let lookup : String → Lookup := fun _ => .found "::"
    let told := plan.instructions
      { opening := fun _ => opening, lookup := fun _ => lookup, elapsed := fun _ => {} }
    let now := execute told 50 (initial plan request (.ofDevices fun _ => .memory) {} none)
    ∃ result, now.result? = some result ∧
      ∃ (summary : RunSummary) (lines : Sink → List String),
        result = .ok summary ∧
          (∀ sink, now.sinks.written sink =
            (Sinks.ofDevices fun _ => .memory).written sink ++
              (lines sink).flatMap Sinks.lineBytes) ∧
          Delivered (plan.terms request opening (fun _ => by decide) lookup (fun _ => nofun)) plan
            request lines summary := by
  have hplan : Plan.create { queueCapacity := 1 } =
    .ok { settings := { queueCapacity := 1 }, sentinel := .standard } := rfl
  have hstart := start_eq_ok (.ofDevices fun _ => .memory)
    (show Plan.check { settings := { queueCapacity := 1 }, sentinel := .standard }
      { requesters := 1, resolvers := 1, files := ["a"] } = .ok () from rfl) rfl rfl
  have hsinks : (Sinks.ofDevices fun _ => .memory).Willing := by
    intro sink
    cases sink <;> exact ⟨rfl, fun _ _ => rfl⟩
  intro plan request opening lookup told now
  have hover : now.result?.isSome = true := by decide +kernel
  have hopening : ∀ file, (opening file).Readable := fun _ => by decide
  have hlookup : ∀ host, lookup host ≠ .panicked := fun _ => nofun
  have hreach : Reachable told _ now := reachable_execute told 50 _
  exact ⟨_, (Option.some_get hover).symm,
    delivered_of_reachable hplan hstart (by decide) hopening hlookup hsinks hreach
      (Option.some_get hover).symm⟩

end Run

end HostLookup
