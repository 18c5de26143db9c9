import HostLookup.Proofs.Sink.Released
import HostLookup.Proofs.Worker.Ends
import HostLookup.Run.Pool

/-!
# Workers whose lines are refused

A worker whose log refuses a line has one thing more to do than it would have had otherwise: it
reports the refusal, and then it goes on where it would have gone on at once. All else that it does
is the same, and only the failures that it counts are more.

* **`Worker.Alike`** relates such a worker to one that writes to sinks that refuse nothing.
* **`Worker.Moves.alike`**: whatever the first does the second can do as well, or it is the report
  of a refusal, which the second need not make.
-/

namespace HostLookup

/-- Two reports that differ in nothing but the failures counted. -/
def WorkerReport.Alike (report calm : WorkerReport) : Prop :=
  ∃ itemErrors, calm = { report with itemErrors := itemErrors }

/-- What a worker is about to do, and what it would be about to do if no line had been refused. -/
inductive Activity.Alike (a calm : Activity) : Prop where
  | same (heq : calm = a)
  /-- A line was refused, which is to be reported. -/
  | hitch {sink : Sink} {source : IoFailure} {file : Option Reading}
      (hactivity : a = .reporting (.sink (.write sink source)) file)
      (hcalm : calm = Worker.resume file)
  | ended {report report' : WorkerReport} (hactivity : a = .ended report)
      (hcalm : calm = .ended report') (hreport : report.Alike report')

/-- Two desks that differ in nothing but the sinks. -/
structure Desk.Alike (desk calm : Desk) : Prop where
  source : calm.source = desk.source
  target : calm.target = desk.target
  shutdown : calm.shutdown = desk.shutdown

namespace Worker

/-- A worker, and the worker that it would be if no line had been refused. -/
structure Alike (w calm : Worker) : Prop where
  name : calm.name = w.name
  stage : calm.stage = w.stage
  output : calm.output = w.output
  serviced : calm.tally.serviced = w.tally.serviced
  produced : calm.tally.produced = w.tally.produced
  misses : calm.tally.misses = w.tally.misses
  activity : w.activity.Alike calm.activity

variable {told : Instructions} {moment : Nat} {w w' calm : Worker} {desk desk' calmDesk : Desk}

namespace Alike

/-! ## What two such workers do alike

Whatever a worker goes on to (`Worker.raise`, `Worker.begin`, `Worker.read` and the like), it goes
on to the same place if it is at the same place, and its counts stay equal, the count of failures
apart. The lemmas below say so for each of these continuations; only `logged` lets the two workers
part. -/

theorem refl (w : Worker) : w.Alike w :=
  ⟨rfl, rfl, rfl, rfl, rfl, rfl, .same rfl⟩

/-- Both go on in the same way, whatever they were about to do. -/
theorem goesTo (h : w.Alike calm) (a : Activity) :
    Alike { w with activity := a } { calm with activity := a } :=
  ⟨h.name, h.stage, h.output, h.serviced, h.produced, h.misses, .same rfl⟩

/-- Both report the same failure, or both leave because of it, and the failure is not compared. -/
theorem raise (h : w.Alike calm) (failure : Failure) (file : Option Reading) :
    (w.raise failure file).Alike (calm.raise failure file) := by
  unfold Worker.raise
  split
  · exact ⟨h.name, h.stage, h.output, h.serviced, h.produced, h.misses, .same rfl⟩
  · exact h.goesTo _

/-- Both count an item as serviced, or both have met the sentinel. -/
theorem begin (h : w.Alike calm) (sentinel : Sentinel) (item : String) :
    (w.begin sentinel item).Alike (calm.begin sentinel item) := by
  unfold Worker.begin
  split
  · exact h.goesTo _
  · exact ⟨h.name, h.stage, h.output, congrArg (· + 1) h.serviced, h.produced, h.misses,
      .same (by simp only [h.stage])⟩

/-- Both get the same answer when they open a data file. -/
theorem takeUp (h : w.Alike calm) (file : String) (opening : Opening) :
    (w.takeUp file opening).Alike (calm.takeUp file opening) := by
  cases opening with
  | refused failure => exact h.raise _ _
  | opened | panicked => exact h.goesTo _

/-- A host name is offered, kept for the log or rejected by both. -/
theorem handOn (h : w.Alike calm) (sentinel : Sentinel) (hasTarget : Bool) (host : String)
    (file : Reading) :
    (w.handOn sentinel hasTarget host file).Alike (calm.handOn sentinel hasTarget host file) := by
  unfold Worker.handOn
  split
  · exact h.raise _ _
  · split <;> exact h.goesTo _

/-- Both read the same next line. -/
theorem read (h : w.Alike calm) (sentinel : Sentinel) (hasTarget : Bool) (file : Reading) :
    (w.read sentinel hasTarget file).Alike (calm.read sentinel hasTarget file) := by
  unfold Worker.read
  split
  · exact h.goesTo _
  · split
    · split
      · exact h.goesTo _
      · exact h.handOn _ _ _ _
    · split <;> exact h.raise _ _
    · exact h.goesTo _

/-- Both count a host name that went into the queue. -/
theorem offered (h : w.Alike calm) (host : String) (file : Reading)
    (result : Except QueueError Unit) :
    (w.offered host file result).Alike (calm.offered host file result) := by
  cases result with
  | ok =>
    exact ⟨h.name, h.stage, h.output, h.serviced, congrArg (· + 1) h.produced, h.misses, .same rfl⟩
  | error => exact h.raise _ _

/-- Both count a host name that was not found. -/
theorem lookedUp (h : w.Alike calm) (notResolved host : String) (answer : Lookup) :
    (w.lookedUp notResolved host answer).Alike (calm.lookedUp notResolved host answer) := by
  cases answer with
  | failed =>
    exact ⟨h.name, h.stage, h.output, h.serviced, h.produced, congrArg (· + 1) h.misses, .same rfl⟩
  | found | panicked => exact h.goesTo _

theorem conclude (h : w.Alike calm) (ending : Ending) :
    (w.conclude ending).Alike (calm.conclude ending) := by
  cases ending <;> exact h.goesTo _

/-- Both end, with reports that differ in the number of failures only. -/
theorem announce (h : w.Alike calm) (elapsed : Elapsed) (exit : Except Failure Unit) :
    Alike { w with activity := .ended (w.report elapsed exit) }
      { calm with activity := .ended (calm.report elapsed exit) } where
  name := h.name
  stage := h.stage
  output := h.output
  serviced := h.serviced
  produced := h.produced
  misses := h.misses
  activity := by
    refine .ended rfl rfl ⟨calm.tally.itemErrors, ?_⟩
    simp only [Worker.report, h.name, h.stage, h.serviced, h.produced, h.misses]

/-- A line that a device has refused is a hitch; a line that was written is none. -/
theorem logged (h : w.Alike calm) (file : Option Reading) {result : Except SinkError Unit}
    (hresult : ∀ error, result = .error error → ∃ sink source, error = .write sink source) :
    (w.logged file result).Alike (calm.logged file (.ok ())) := by
  cases result with
  | ok => exact h.goesTo _
  | error error =>
    obtain ⟨sink, source, rfl⟩ := hresult error rfl
    exact ⟨h.name, h.stage, h.output, h.serviced, h.produced, h.misses, .hitch rfl rfl⟩

/-- Two such workers have ended together, with results alike. -/
theorem result? (h : w.Alike calm) : w.result? = calm.result? ∨
    ∃ report report', w.result? = some (.ok report) ∧ calm.result? = some (.ok report') ∧
      WorkerReport.Alike report report' := by
  unfold Worker.result?
  cases h.activity with
  | same heq =>
    rw [heq, h.name, h.stage]
    exact Or.inl rfl
  | @hitch _ _ file hactivity hcalm =>
    -- neither has ended: one is about to report, the other to go on
    rw [hactivity, hcalm]
    cases file <;> exact Or.inl rfl
  | ended hactivity hcalm hreport =>
    rw [hactivity, hcalm]
    exact Or.inr ⟨_, _, rfl, rfl, hreport⟩

end Alike

/-! ## Every step

The step function is taken apart once more by its rules. A worker that is about to report a refusal
is one place behind, so it makes the step alone. In all other places the two workers read the same
from desks that agree, and they make the same step. -/

/-- **What a worker does whose lines are refused**, the other can do as well, unless it is the
report of a refusal. Then the other has gone on already. -/
theorem Moves.alike (h : Moves told moment w desk w' desk') (halike : w.Alike calm)
    (hdesk : desk.Alike calmDesk) (hlive : desk.sinks.Live) (hwilling : calmDesk.sinks.Willing) :
    ((∃ failure file, w.activity = .reporting failure file) ∧ w'.Alike calm ∧
      desk'.Alike calmDesk) ∨
    ∃ next nextDesk, Moves told moment calm calmDesk next nextDesk ∧ calm.activity = w.activity ∧
      w'.Alike next ∧ desk'.Alike nextDesk := by
  cases halike.activity with
  | ended hactivity =>
    -- a worker that has ended makes no step
    have hover := h.isOver_eq_false
    rw [isOver, hactivity] at hover
    contradiction
  | @hitch sink source file hactivity hcalm =>
    cases h with
    | report hreporting =>
      -- the report is made, and with it the worker is where the other one is already
      obtain ⟨-, rfl⟩ := Activity.reporting.inj (hreporting.symm.trans hactivity)
      refine Or.inl ⟨⟨_, _, hactivity⟩, ?_, hdesk.source, hdesk.target, hdesk.shutdown⟩
      exact ⟨halike.name, halike.stage, halike.output, halike.serviced, halike.produced,
        halike.misses, .same hcalm⟩
    | take hother | receive hother | starve hother | acknowledge hother | openFile hother
    | read hother | keep hother | offer hother | offered hother | lookUp hother | log hother
    | closeSource hother | closedSource hother | conclude hother | closeTarget hother
    | closedTarget hother | announce hother =>
      rw [hactivity] at hother
      contradiction
  | same heq =>
    -- both are at the same place, and what the step reads is the same on both desks
    right
    obtain ⟨hsource, htarget, hshutdown⟩ := hdesk
    cases h with
    | take hactivity hstep =>
      exact ⟨_, _, .take (heq.trans hactivity) (hsource ▸ hstep), heq, halike.goesTo _,
        rfl, htarget, hshutdown⟩
    | receive hactivity hstep =>
      exact ⟨_, _, .receive (heq.trans hactivity) (hsource ▸ hstep), heq, halike.begin _ _, rfl,
        htarget, hshutdown⟩
    | starve hactivity hstep =>
      exact ⟨_, _, .starve (heq.trans hactivity) (hsource ▸ hstep), heq, halike.goesTo _, rfl,
        htarget, hshutdown⟩
    | acknowledge hactivity =>
      exact ⟨_, _, .acknowledge (heq.trans hactivity), heq, halike.goesTo _, hsource, htarget,
        congrArg Shutdown.workerStopped hshutdown⟩
    | openFile hactivity =>
      exact ⟨_, _, .openFile (heq.trans hactivity), heq, halike.takeUp _ _, hsource, htarget,
        hshutdown⟩
    | read hactivity =>
      refine ⟨_, _, .read (heq.trans hactivity), heq, ?_, hsource, htarget, hshutdown⟩
      -- both see whether there is a queue to hand on to
      rw [htarget]
      exact halike.read _ _ _
    | keep hactivity hnone =>
      exact ⟨_, _, .keep (heq.trans hactivity) (htarget.trans hnone), heq, halike.goesTo _, hsource,
        htarget, hshutdown⟩
    | offer hactivity hsome hstep =>
      exact ⟨_, _, .offer (heq.trans hactivity) (htarget.trans hsome) hstep, heq, halike.goesTo _,
        hsource, rfl, hshutdown⟩
    | offered hactivity hsome hstep =>
      exact ⟨_, _, .offered (heq.trans hactivity) (htarget.trans hsome) hstep, heq,
        halike.offered _ _ _, hsource, rfl, hshutdown⟩
    | lookUp hactivity =>
      exact ⟨_, _, .lookUp (heq.trans hactivity), heq, halike.lookedUp _ _ _, hsource, htarget,
        hshutdown⟩
    | @log line file hactivity =>
      -- the sink of the other worker takes the line
      obtain ⟨sinks, hwrite, -⟩ := Sinks.written_writeLine hwilling calm.output line
      refine ⟨_, _, .log (heq.trans hactivity), heq, ?_, hsource, htarget, hshutdown⟩
      rw [hwrite]
      refine halike.logged file fun error herror => ?_
      -- nobody has released the log, so its device has refused the line
      rcases Sinks.error_of_writeLine herror with ⟨-, hreleased⟩ | ⟨failure, rfl, -⟩
      · rw [hlive] at hreleased
        contradiction
      · exact ⟨_, _, rfl⟩
    | report hactivity =>
      exact ⟨_, _, .report (heq.trans hactivity), heq, halike.goesTo _, hsource, htarget, hshutdown⟩
    | closeSource hactivity hstep =>
      exact ⟨_, _, .closeSource (heq.trans hactivity) (hsource ▸ hstep), heq, halike.goesTo _, rfl,
        htarget, hshutdown⟩
    | closedSource hactivity hstep =>
      exact ⟨_, _, .closedSource (heq.trans hactivity) (hsource ▸ hstep), heq, halike.goesTo _, rfl,
        htarget, hshutdown⟩
    | conclude hactivity hnone =>
      exact ⟨_, _, .conclude (heq.trans hactivity) (htarget.trans hnone), heq, halike.conclude _,
        hsource, htarget, hshutdown⟩
    | closeTarget hactivity hsome hstep =>
      exact ⟨_, _, .closeTarget (heq.trans hactivity) (htarget.trans hsome) hstep, heq,
        halike.goesTo _, hsource, rfl, hshutdown⟩
    | closedTarget hactivity hsome hstep =>
      exact ⟨_, _, .closedTarget (heq.trans hactivity) (htarget.trans hsome) hstep, heq,
        halike.conclude _, hsource, rfl, hshutdown⟩
    | announce hactivity =>
      exact ⟨_, _, .announce (heq.trans hactivity), heq, halike.announce _ _, hsource, htarget,
        hshutdown⟩

/-! ## All workers of a stage

Workers are compared place by place, so the lemmas are about lists: a worker of one list has one at
its place in the other, and when one of them or both move the lists stay alike. -/

/-- Workers that are alike one by one. -/
structure AllAlike (workers others : List Worker) : Prop where
  length_eq : others.length = workers.length
  alike : ∀ (i : Nat) (w w' : Worker), workers[i]? = some w → others[i]? = some w' → w.Alike w'

namespace AllAlike

variable {workers others : List Worker}

theorem refl (workers : List Worker) : AllAlike workers workers where
  length_eq := rfl
  alike _ w _ hplace hplace' := Option.some.inj (hplace.symm.trans hplace') ▸ .refl w

/-- The worker at the same place of the other list. -/
theorem exists_place (h : AllAlike workers others) {i : Nat} {w : Worker}
    (hplace : workers[i]? = some w) : ∃ w', others[i]? = some w' ∧ w.Alike w' := by
  have hlt : i < others.length := h.length_eq ▸ (List.getElem?_eq_some_iff.mp hplace).1
  have hplace' := List.getElem?_eq_getElem hlt
  exact ⟨_, hplace', h.alike i w _ hplace hplace'⟩

theorem place_eq_none (h : AllAlike workers others) {i : Nat} (hplace : workers[i]? = none) :
    others[i]? = none := by
  rw [List.getElem?_eq_none_iff] at hplace ⊢
  exact h.length_eq ▸ hplace

/-- Alike lists are empty together. -/
theorem isEmpty_eq (h : AllAlike workers others) : others.isEmpty = workers.isEmpty := by
  rw [Bool.eq_iff_iff, List.isEmpty_iff_length_eq_zero, List.isEmpty_iff_length_eq_zero,
    h.length_eq]

/-- One worker of the stage moves on, and perhaps the other one at its place does. -/
theorem set_of_place (h : AllAlike workers others) {others' : List Worker} {i : Nat} {w : Worker}
    (hlength : others'.length = others.length) (hne : ∀ j, i ≠ j → others'[j]? = others[j]?)
    (hw : ∀ w', others'[i]? = some w' → w.Alike w') : AllAlike (workers.set i w) others' where
  length_eq := by rw [List.length_set, hlength, h.length_eq]
  alike j u u' hplace hplace' := by
    by_cases hij : i = j
    · subst hij
      have hlt := (List.getElem?_eq_some_iff.mp hplace).1
      rw [List.length_set] at hlt
      rw [List.getElem?_set_self hlt] at hplace
      exact Option.some.inj hplace ▸ hw u' hplace'
    · rw [List.getElem?_set_ne hij] at hplace
      rw [hne j hij] at hplace'
      exact h.alike j u u' hplace hplace'

/-- Both workers at a place move on. -/
theorem set (h : AllAlike workers others) {i : Nat} {w w' : Worker} (hw : w.Alike w') :
    AllAlike (workers.set i w) (others.set i w') := by
  refine h.set_of_place List.length_set (fun j hij => List.getElem?_set_ne hij) fun u hplace => ?_
  have hlt := (List.getElem?_eq_some_iff.mp hplace).1
  rw [List.length_set] at hlt
  rw [List.getElem?_set_self hlt] at hplace
  exact Option.some.inj hplace ▸ hw

/-- The first of two workers moves on, and the second is there already. -/
theorem set_left (h : AllAlike workers others) {i : Nat} {w w' : Worker}
    (hplace : others[i]? = some w') (hw : w.Alike w') : AllAlike (workers.set i w) others :=
  h.set_of_place rfl (fun _ _ => rfl) fun _ hu => Option.some.inj (hplace.symm.trans hu) ▸ hw

end AllAlike

end Worker

end HostLookup
