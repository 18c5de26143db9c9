import HostLookup.Proofs.Run.Causes
import HostLookup.Proofs.Run.Chronicle
import HostLookup.Proofs.Worker.Alike

/-!
# Runs whose lines are refused

A run whose logs refuse lines goes the same way as a run with sinks that refuse nothing. It makes
more steps than the other one, the reports of the refusals, and it counts more failures; its queues
see no difference. The one exception is the report of a name that is too long, which the driver
cannot do without.

* **`Run.Alike`** relates a run to the one that it would be with sinks that refuse nothing.
* **`Run.Moves.alike`**: a step of the first is a step of the second as well, or a report that the
  second need not make.
* **`Run.Mirrored`**: so there is a calm run beside it, in which the same has gone through the
  queues.
-/

namespace HostLookup

/-- Two summaries with the same numbers of files and of host names. -/
structure RunSummary.Alike (summary calm : RunSummary) : Prop where
  filesEnqueued : calm.filesEnqueued = summary.filesEnqueued
  filesSkipped : calm.filesSkipped = summary.filesSkipped
  filesServiced : calm.filesServiced = summary.filesServiced
  hostsEnqueued : calm.hostsEnqueued = summary.hostsEnqueued
  hostsResolved : calm.hostsResolved = summary.hostsResolved
  hostsNotResolved : calm.hostsNotResolved = summary.hostsNotResolved

/-- Two accounts with alike summaries, in which the same failure is kept. -/
structure Account.Alike (account calm : Account) : Prop where
  summary : account.summary.Alike calm.summary
  kept : calm.kept = account.kept

/-- The driver is at the same place in both runs, or it is done in both. -/
inductive DriverActivity.Alike (activity calm : DriverActivity) : Prop where
  | same (heq : calm = activity)
  | returned {result result' : Except Failure RunSummary} (hactivity : activity = .returned result)
      (hcalm : calm = .returned result')

namespace RunSummary.Alike

variable {summary calm : RunSummary}

theorem refl (summary : RunSummary) : summary.Alike summary :=
  ⟨rfl, rfl, rfl, rfl, rfl, rfl⟩

theorem trans {other : RunSummary} (h : summary.Alike calm) (h' : calm.Alike other) :
    summary.Alike other :=
  ⟨h'.1.trans h.1, h'.2.trans h.2, h'.3.trans h.3, h'.4.trans h.4, h'.5.trans h.5, h'.6.trans h.6⟩

/-- Two reports that differ only in the failures counted are recorded alike. -/
theorem record (h : summary.Alike calm) {report report' : WorkerReport}
    (hreport : report.Alike report') : (summary.record report).Alike (calm.record report') := by
  obtain ⟨itemErrors, rfl⟩ := hreport
  obtain ⟨h₁, h₂, h₃, h₄, h₅, h₆⟩ := h
  -- a report goes to the numbers of its own stage
  cases hstage : report.stage <;>
    constructor <;> simp only [RunSummary.record, hstage, h₁, h₂, h₃, h₄, h₅, h₆]

end RunSummary.Alike

namespace Account.Alike

variable {account calm : Account}

theorem refl (account : Account) : account.Alike account :=
  ⟨.refl _, rfl⟩

/-- The same failure, or none, is noted in both. -/
theorem note {ε : Type} (h : account.Alike calm) (failure : ε → Failure) (result : Except ε Unit) :
    (account.note failure result).Alike (calm.note failure result) := by
  cases result with
  | ok => exact h
  | error error => exact ⟨h.summary, congrArg (keepFirst · (some (failure error))) h.kept⟩

/-- One more name has gone into the queue in both runs. -/
theorem countEnqueued (h : account.Alike calm) : account.countEnqueued.Alike calm.countEnqueued :=
  ⟨{ h.summary with filesEnqueued := congrArg (· + 1) h.summary.filesEnqueued }, h.kept⟩

/-- One more name is left out in both runs. -/
theorem countRejected (h : account.Alike calm) : account.countRejected.Alike calm.countRejected :=
  ⟨{ h.summary with filesSkipped := congrArg (· + 1) h.summary.filesSkipped }, h.kept⟩

/-- The same result is joined in both. -/
theorem join (h : account.Alike calm) (result : Except Failure WorkerReport) :
    (account.join result).Alike (calm.join result) := by
  cases result with
  | ok report => exact ⟨h.summary.record ⟨_, rfl⟩, congrArg (keepFirst · report.failure?) h.kept⟩
  | error failure => exact ⟨h.summary, congrArg (keepFirst · (some failure)) h.kept⟩

/-- Two reports of a worker that has counted more failures in the one run than in the other are
joined alike: the number of failures is not compared, and the reports have ended alike. -/
theorem join_report (h : account.Alike calm) {report report' : WorkerReport}
    (hreport : report.Alike report') :
    (account.join (.ok report)).Alike (calm.join (.ok report')) := by
  obtain ⟨itemErrors, rfl⟩ := hreport
  exact ⟨h.summary.record ⟨_, rfl⟩, congrArg (keepFirst · report.failure?) h.kept⟩

end Account.Alike

namespace Run

variable {told : Instructions} {run run' calm : Run} {actor : Actor} {history : History} {t : Terms}
  {plan : Plan} {request : RunRequest}

/-- A run, and the run that it would be if no sink had refused anything. -/
structure Alike (run calm : Run) : Prop where
  files : calm.files = run.files
  hosts : calm.hosts = run.hosts
  requesterStage : calm.requesterStage = run.requesterStage
  resolverStage : calm.resolverStage = run.resolverStage
  workers : ∀ stage, Worker.AllAlike (run.workers stage) (calm.workers stage)
  activity : run.driver.activity.Alike calm.driver.activity
  account : run.driver.account.Alike calm.driver.account
  moment : calm.moment = run.moment

namespace Alike

/-! ## What the parts of a step do alike

Steps are put together from the same small changes in both runs (`Run.setQueue`, `Run.turnTo` and so
on), and each of them keeps two runs alike. A step of one run is then matched by putting the same
parts together in the other. -/

section Parts

variable (h : run.Alike calm)
include h

/-- The queues see no difference. -/
theorem queue (stage : Stage) : calm.queue stage = run.queue stage := by
  cases stage with
  | requester => exact h.files
  | resolver => exact h.hosts

theorem shutdown (stage : Stage) : calm.shutdown stage = run.shutdown stage := by
  cases stage with
  | requester => exact h.requesterStage
  | resolver => exact h.resolverStage

/-- What a worker finds on its desk is the same in both, the sinks apart. There is a queue to hand
on to in both or in neither, because there are as many resolvers. -/
theorem desk (stage : Stage) : (run.desk stage).Alike (calm.desk stage) := by
  cases stage with
  | requester =>
    refine ⟨h.files, ?_, h.requesterStage⟩
    have hresolvers : calm.resolvers.isEmpty = run.resolvers.isEmpty :=
      (h.workers .resolver).isEmpty_eq
    simp only [Run.desk, hresolvers, h.hosts]
  | resolver => exact ⟨h.hosts, rfl, h.resolverStage⟩

/-- There is somebody to hand on to in both runs or in neither. -/
theorem hasTarget (stage : Stage) : calm.hasTarget stage = run.hasTarget stage := by
  cases stage with
  | requester => exact congrArg (! ·) (h.workers .resolver).isEmpty_eq
  | resolver => rfl

theorem turnTo (activity : DriverActivity) : (run.turnTo activity).Alike (calm.turnTo activity) :=
  { h with activity := .same rfl }

theorem update {change change' : Account → Account}
    (hchange : (change run.driver.account).Alike (change' calm.driver.account)) :
    (run.update change).Alike (calm.update change') :=
  { h with account := hchange }

theorem setQueue (stage : Stage) (queue : Queue) :
    (run.setQueue stage queue).Alike (calm.setQueue stage queue) := by
  cases stage with
  | requester => exact { h with files := rfl }
  | resolver => exact { h with hosts := rfl }

theorem setShutdown (stage : Stage) (shutdown : Shutdown) :
    (run.setShutdown stage shutdown).Alike (calm.setShutdown stage shutdown) := by
  cases stage with
  | requester => exact { h with requesterStage := rfl }
  | resolver => exact { h with resolverStage := rfl }

theorem setSinks (sinks sinks' : Sinks) : (run.setSinks sinks).Alike (calm.setSinks sinks') :=
  { h with }

theorem cleared (result result' : Except QueueError Unit) :
    (run.cleared result).Alike (calm.cleared result') :=
  { h with }

/-- The workers of one stage are replaced, and those of the other stay as they are. -/
theorem setWorkers (stage : Stage) {workers workers' : List Worker}
    (hworkers : Worker.AllAlike workers workers') :
    (run.setWorkers stage workers).Alike (calm.setWorkers stage workers') := by
  cases stage with
  | requester =>
    refine { h with workers := fun own => ?_ }
    cases own with
    | requester => exact hworkers
    | resolver => exact h.workers .resolver
  | resolver =>
    refine { h with workers := fun own => ?_ }
    cases own with
    | requester => exact h.workers .requester
    | resolver => exact hworkers

/-- A worker leaves its desk alike in both. -/
theorem ofDesk (stage : Stage) {desk desk' : Desk} (hdesk : desk.Alike desk') :
    (run.ofDesk stage desk).Alike (calm.ofDesk stage desk') := by
  cases stage with
  | requester =>
    refine { h with files := hdesk.source, hosts := ?_, requesterStage := hdesk.shutdown }
    show desk'.target.getD calm.hosts = desk.target.getD run.hosts
    rw [hdesk.target, h.hosts]
  | resolver => exact { h with hosts := hdesk.source, resolverStage := hdesk.shutdown }

theorem tick (moment : Nat) :
    Alike { run with moment := moment } { calm with moment := moment } :=
  { h with moment := rfl }

/-- The driver goes on after the same answer of the queue. -/
theorem fed (file : String) (later : List String) (result : Except QueueError Unit) :
    (run.fed file later result).Alike (calm.fed file later result) := by
  cases result with
  | ok => exact (h.update h.account.countEnqueued).turnTo _
  | error error =>
    cases error with
    | itemTooLarge => exact h.turnTo _
    | destroyed | alreadyDestroyed => exact (h.update (h.account.note _ _)).turnTo _

/-- The driver goes on after the same answer of a sink. -/
theorem rejected (later : List String) (result : Except SinkError Unit) :
    (run.rejected later result).Alike (calm.rejected later result) := by
  cases result with
  | ok => exact (h.update h.account.countRejected).turnTo _
  | error => exact (h.update (h.account.note _ _)).turnTo _

end Parts

end Alike

/-! ## Reports that are refused

The calm run takes every report. So the two runs part where a report of the driver is refused, and
that is a step at which the run keeps a failure and gives up the feeding (`Refuses.kept`). What a
released sink answers does not count here: nobody releases the sinks (`Unreleased`). -/

/-- Nobody has released a sink, or is about to. -/
structure Unreleased (run : Run) : Prop where
  live : run.sinks.Live
  outsider : run.outsider = none

/-- A sink is released only by the outsider, and there is none. No step brings one in. -/
theorem Unreleased.move (h : Unreleased run) (hmove : Moves told run actor run') :
    Unreleased run' where
  live sink := by
    rw [Bool.eq_false_iff]
    intro hreleased
    rcases hmove.released_of_outsider hreleased with hbefore | ⟨-, later, result, houtsider⟩
    · rw [h.live] at hbefore
      contradiction
    · rw [h.outsider] at houtsider
      contradiction
  outsider := hmove.outsider_of_none h.outsider

/-- The driver notes that a report is refused, and the feeding is over. -/
theorem Refuses.kept {source : IoFailure} (h : Refuses actor run source)
    (hmove : Moves told run actor run') (hkept : run.driver.account.kept = none) :
    run'.driver.account.kept = some (.sink (.write .stderr source)) ∧
      run'.driver.activity = feed [] := by
  obtain ⟨rfl, failure, later, hactivity, hwrite⟩ := h
  cases hmove with
  | @reject failure' later' hrejecting =>
    obtain ⟨rfl, rfl⟩ := DriverActivity.rejecting.inj (hactivity.symm.trans hrejecting)
    rw [hwrite]
    refine ⟨?_, rfl⟩
    show keepFirst run.driver.account.kept _ = _
    rw [hkept]
    rfl
  | feed hother | fed hother | drain hother | drained hother | joined hother | joinedAll hother
  | finish hother | clear hother | clearedFirst hother | clearedSecond hother =>
    rw [hactivity] at hother
    contradiction

/-! ## Every step

The other run makes the same step, or none. It makes none where a worker reports that its line was
refused, because there its own line was written. In particular it has the same calls at the
queues. -/

/-- A worker that leaves everything as it was. -/
theorem setWorkers_ofDesk_desk (run : Run) (stage : Stage) :
    (run.ofDesk stage (run.desk stage)).setWorkers stage (run.workers stage) = run := by
  cases stage with
  | requester =>
    cases hnone : run.resolvers.isEmpty <;> simp [ofDesk, desk, setWorkers, workers, hnone]
  | resolver => rfl

/-- A step of a worker. The worker beside it is at the same place or has no report to make, so it
makes the same step or is spared one. -/
theorem Moves.alike_worker {stage : Stage} {i : Nat} {w w' : Worker} {desk : Desk}
    (hplace : (run.workers stage)[i]? = some w)
    (hmove : Worker.Moves told run.moment w (run.desk stage) w' desk) (halike : run.Alike calm)
    (hlive : run.sinks.Live) (hwilling : calm.sinks.Willing) :
    ((∀ own, run.callOn (.worker stage i) own = none) ∧
      Alike ((run.ofDesk stage desk).setWorkers stage ((run.workers stage).set i w')) calm) ∨
    ∃ next, Moves told calm (.worker stage i) next ∧
      (∀ own, calm.callOn (.worker stage i) own = run.callOn (.worker stage i) own) ∧
      Alike ((run.ofDesk stage desk).setWorkers stage ((run.workers stage).set i w')) next := by
  have hworkers := halike.workers stage
  obtain ⟨v, hplace', hw⟩ := hworkers.exists_place hplace
  have hlive' : (run.desk stage).sinks.Live := by rwa [sinks_desk]
  have hwilling' : (calm.desk stage).sinks.Willing := by rwa [sinks_desk]
  rcases hmove.alike hw (halike.desk stage) hlive' hwilling' with
    ⟨⟨failure, file, hactivity⟩, hw', hdesk⟩ | ⟨next, nextDesk, hnext, hsame, hw', hdesk⟩
  · -- the report of a refusal, which the other run need not make
    left
    refine ⟨fun own => ?_, ?_⟩
    · simp [callOn, hplace, hactivity, Activity.sourceCall, Activity.targetCall]
    · have hparts := (halike.ofDesk stage hdesk).setWorkers stage (hworkers.set_left hplace' hw')
      rwa [setWorkers_ofDesk_desk] at hparts
  · right
    -- both workers make the same step
    refine ⟨_, .worker hplace' (halike.moment ▸ hnext), fun own => ?_, ?_⟩
    · simp [callOn, hplace, hplace', hsame, halike.hasTarget stage]
    · exact (halike.ofDesk stage hdesk).setWorkers stage (hworkers.set hw')

/-- A step of the driver that is not the report of a name that is refused. -/
theorem Moves.alike_driver (h : Moves told run .driver run') (halike : run.Alike calm)
    (hlive : run.sinks.Live) (hwilling : calm.sinks.Willing)
    (hnone : ∀ source, ¬ Refuses .driver run source) :
    ∃ next, Moves told calm .driver next ∧ calm.driver.activity = run.driver.activity ∧
      run'.Alike next := by
  -- as long as the driver makes steps it is not done, so it is at the same place in both runs
  have hsame : calm.driver.activity = run.driver.activity := by
    cases halike.activity with
    | same heq => exact heq
    | returned hreturned =>
      cases h with
      | feed hother | fed hother | reject hother | drain hother | drained hother | joined hother
      | joinedAll hother | finish hother | clear hother | clearedFirst hother
      | clearedSecond hother =>
        rw [hreturned] at hother
        contradiction
  cases h with
  | feed hactivity hstep =>
    exact ⟨_, .feed (hsame.trans hactivity) (halike.files ▸ hstep), hsame,
      (halike.setQueue _ _).turnTo _⟩
  | fed hactivity hstep =>
    exact ⟨_, .fed (hsame.trans hactivity) (halike.files ▸ hstep), hsame,
      (halike.setQueue _ _).fed _ _ _⟩
  | @reject failure later hactivity =>
    -- both reports are taken
    have hwrite : (run.sinks.writeLine .stderr (rejection failure)).1 = .ok () := by
      cases hwrite : (run.sinks.writeLine .stderr (rejection failure)).1 with
      | ok => rfl
      | error error =>
        -- a live sink that refuses is what `hnone` excludes
        exfalso
        rcases Sinks.error_of_writeLine hwrite with ⟨-, hreleased⟩ | ⟨source, rfl, -⟩
        · rw [hlive] at hreleased
          contradiction
        · exact hnone source ⟨rfl, failure, later, hactivity, hwrite⟩
    obtain ⟨sinks, hwrite', -⟩ := Sinks.written_writeLine hwilling .stderr (rejection failure)
    refine ⟨_, .reject (hsame.trans hactivity), hsame, ?_⟩
    rw [hwrite, hwrite']
    exact (halike.setSinks _ sinks).rejected later (.ok ())
  | @drain own call call' shutdown queue hactivity hmove =>
    rw [← halike.requesterStage, ← halike.shutdown, ← halike.queue] at hmove
    exact ⟨_, .drain (hsame.trans hactivity) hmove, hsame,
      ((halike.setShutdown _ _).setQueue _ _).turnTo _⟩
  | @drained own call result shutdown queue hactivity hmove =>
    rw [← halike.requesterStage, ← halike.shutdown, ← halike.queue] at hmove
    have hparts := (halike.setShutdown own shutdown).setQueue own queue
    exact ⟨_, .drained (hsame.trans hactivity) hmove, hsame,
      (hparts.update (hparts.account.note _ _)).turnTo _⟩
  | @joined own next w result hactivity hplace hresult =>
    obtain ⟨v, hplace', hw⟩ := (halike.workers own).exists_place hplace
    -- the worker has ended alike: with the same result, or with reports that count differently
    rcases hw.result? with heq | ⟨report, report', hreport, hreport', hreports⟩
    · exact ⟨_, .joined (hsame.trans hactivity) hplace' (heq ▸ hresult), hsame,
        (halike.update (halike.account.join _)).turnTo _⟩
    · obtain rfl := Option.some.inj (hresult.symm.trans hreport)
      exact ⟨_, .joined (hsame.trans hactivity) hplace' hreport', hsame,
        (halike.update (halike.account.join_report hreports)).turnTo _⟩
  | joinedAll hactivity hplace =>
    exact ⟨_, .joinedAll (hsame.trans hactivity) ((halike.workers _).place_eq_none hplace), hsame,
      halike.turnTo _⟩
  | finish hactivity =>
    refine ⟨_, .finish (hsame.trans hactivity), hsame, ?_⟩
    rw [halike.shutdown]
    exact (halike.setShutdown _ _).turnTo _
  | clear hactivity hstep =>
    exact ⟨_, .clear (hsame.trans hactivity) ((halike.queue _).symm ▸ hstep), hsame,
      (halike.setQueue _ _).turnTo _⟩
  | clearedFirst hactivity hstep =>
    exact ⟨_, .clearedFirst (hsame.trans hactivity) ((halike.queue _).symm ▸ hstep), hsame,
      ((halike.setQueue _ _).cleared _ _).turnTo _⟩
  | @clearedSecond call result queue hactivity hstep =>
    -- here the two part, since their summaries need not be equal
    rw [← halike.queue] at hstep
    have hparts := (halike.setQueue .resolver queue).cleared result result
    exact ⟨_, .clearedSecond (hsame.trans hactivity) hstep, hsame,
      { hparts with activity := .returned rfl rfl }⟩

/-- **A step of a run is a step of the run beside it as well**, through the same sections of the
queues, or it is a report that the other need not make. -/
theorem Moves.alike (h : Moves told run actor run') (halike : run.Alike calm)
    (hunreleased : Unreleased run) (hwilling : calm.sinks.Willing)
    (hnone : ∀ source, ¬ Refuses actor run source) :
    ((∀ stage, run.callOn actor stage = none) ∧ run'.Alike calm) ∨
    ∃ next, Moves told calm actor next ∧
      (∀ stage, calm.callOn actor stage = run.callOn actor stage) ∧ run'.Alike next := by
  cases actor with
  | driver =>
    obtain ⟨next, hnext, hsame, hafter⟩ := h.alike_driver halike hunreleased.live hwilling hnone
    exact Or.inr ⟨next, hnext, fun stage => congrArg (·.callOn stage) hsame, hafter⟩
  | worker stage i =>
    cases h with
    | worker hplace hmove => exact alike_worker hplace hmove halike hunreleased.live hwilling
  | outsider =>
    cases h with
    | release houtsider | released houtsider =>
      rw [hunreleased.outsider] at houtsider
      contradiction

/-! ## The run beside it

The calm run is not given from the outside. It is built step by step beside the run that is looked
at, with sinks that take everything, and it has a chronicle of its own. -/

/-- Beside a run there is a calm one, in which the same came out of the queues. -/
def Mirrored (t : Terms) (plan : Plan) (request : RunRequest) (history : History) (run : Run) :
    Prop :=
  ∃ sinks calmHistory calm, Chronicle t plan request sinks calmHistory calm ∧ run.Alike calm ∧
    ∀ stage, calmHistory.taken stage = history.taken stage

theorem Mirrored.move (h : Mirrored t plan request history run) (hhold : t.Hold told)
    (hmove : Moves told run actor run') (hunreleased : Unreleased run)
    (hnone : ∀ source, ¬ Refuses actor run source) :
    Mirrored t plan request (history ++ events told actor run) run' := by
  obtain ⟨sinks, calmHistory, calm, hchronicle, halike, htaken⟩ := h
  rcases hmove.alike halike hunreleased hchronicle.calm.willing hnone with
    ⟨hidle, hafter⟩ | ⟨next, hnext, hcalls, hafter⟩
  · -- the calm run waits
    refine ⟨sinks, calmHistory, calm, hchronicle, hafter, fun stage => ?_⟩
    rw [History.taken_append, taken_events, hidle, htaken]
    exact (List.append_nil _).symm
  · -- both make the step, through the same sections of the queues
    refine ⟨sinks, _, next, hchronicle.move hhold hnext, hafter, fun stage => ?_⟩
    rw [History.taken_append, History.taken_append, taken_events, taken_events, htaken,
      hcalls, halike.queue]

theorem Mirrored.tick (h : Mirrored t plan request history run) (moment : Nat) :
    Mirrored t plan request history { run with moment := moment } := by
  obtain ⟨sinks, calmHistory, calm, hchronicle, halike, htaken⟩ := h
  exact ⟨sinks, calmHistory, _, hchronicle.tick moment, halike.tick moment, htaken⟩

end Run

end HostLookup
