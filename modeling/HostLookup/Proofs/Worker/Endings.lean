import HostLookup.Proofs.Sink.Released
import HostLookup.Proofs.Worker.Ends
import HostLookup.Run.Pool

/-!
# Why workers end before their sentinel

A bad item, an unreadable file or a line that a device refused is no reason for a worker to end.
There are four: something panicked, the queue that it takes from or the one that it hands on to was
closed, or its log was released. Once a worker has a reason it keeps it.

* **`Activity.ending?`**: the reason for which a worker ends.
* **`Worker.Breaks`**: how a worker comes to one.
* **`Worker.Moves.ending`**: a step gives a worker no other.
-/

namespace HostLookup

/-- How a worker ends that will not come to its sentinel any more. -/
def Activity.ending? : Activity → Option Ending
  | .closingSource _ ending | .closingTarget _ ending => some ending
  | .announcing (.error failure) => some (.failing failure)
  | .ended report => report.failure?.map .failing
  | .panicked => some .panicking
  | _ => none

/-- A worker that is not about to end closes no queue. -/
theorem Activity.leavesOpen_of_ending? {a : Activity} (h : a.ending? = none) :
    (∀ c, a.sourceCall = some c → c.leavesOpen = true) ∧
      ∀ c, a.targetCall = some c → c.leavesOpen = true := by
  cases a with
  | closingSource | closingTarget => contradiction
  | taking => exact ⟨fun c heq => Option.some.inj heq ▸ rfl, nofun⟩
  | offering => exact ⟨nofun, fun c heq => Option.some.inj heq ▸ rfl⟩
  | _ => exact ⟨nofun, nofun⟩

/-- Is this an ending that no other worker has brought about? A closed queue is the work of somebody
else. -/
def Ending.isRoot : Ending → Bool
  | .failing failure => !failure.isClosedQueue
  | .panicking => true

namespace Worker

variable {told : Instructions} {moment : Nat} {w w' : Worker} {desk desk' : Desk}

/-- What brings a worker to its end. -/
inductive Breaks (w : Worker) (desk : Desk) : Ending → Prop where
  | panicked : Breaks w desk .panicking
  /-- Nothing can be taken any more. -/
  | starved {call : GetCall} (hactivity : w.activity = .taking call)
      (hclosed : desk.source.filled.closed = true ∨ desk.source.ring.closed = true) :
      Breaks w desk (.failing (.queue .destroyed))
  /-- Nothing can be handed on any more. -/
  | refused {target : Queue} (htarget : desk.target = some target)
      (hclosed : target.free.closed = true ∨ target.ring.closed = true) :
      Breaks w desk (.failing (.queue .destroyed))
  /-- Nothing can be logged any more. -/
  | released (hreleased : (desk.sinks.get w.output).released = true) :
      Breaks w desk (.failing (.sink (.destroyed w.output)))

/-! ## Where a worker goes on or ends

The steps that do not depend on a queue or on a sink: they end a worker with a panic or not at all.
Every failure of theirs is one from which it recovers. -/

/-- A failure ends a worker unless it is one to recover from. -/
theorem ending?_raise (w : Worker) (failure : Failure) (file : Option Reading) :
    (w.raise failure file).activity.ending? =
      if failure.isRecoverable then none else some (.failing failure) := by
  unfold raise
  split <;> rfl

theorem ending?_resume (file : Option Reading) : (resume file).ending? = none := by
  cases file <;> rfl

theorem ending?_begin (w : Worker) (sentinel : Sentinel) (item : String) :
    (w.begin sentinel item).activity.ending? = none := by
  unfold begin
  split
  · rfl
  · cases w.stage <;> rfl

/-- A file that cannot be opened is no reason to end, but a panic is. -/
theorem ending?_takeUp (w : Worker) (file : String) (opening : Opening) :
    (w.takeUp file opening).activity.ending? = none ∨
      (w.takeUp file opening).activity.ending? = some .panicking := by
  cases opening with
  | refused failure => exact Or.inl (ending?_raise w _ none)
  | opened events => exact Or.inl rfl
  | panicked => exact Or.inr rfl

/-- Nor is a line that cannot be read, or a host name that is reserved. -/
theorem ending?_read (w : Worker) (sentinel : Sentinel) (hasTarget : Bool) (file : Reading) :
    (w.read sentinel hasTarget file).activity.ending? = none ∨
      (w.read sentinel hasTarget file).activity.ending? = some .panicking := by
  unfold read
  split
  · exact Or.inl rfl
  · split
    · split
      · exact Or.inl rfl
      · unfold handOn
        split
        · exact Or.inl (ending?_raise w _ _)
        · split <;> exact Or.inl rfl
    · split <;> exact Or.inl (ending?_raise w _ _)
    · exact Or.inr rfl

/-- A lookup that fails is an answer. -/
theorem ending?_lookedUp (w : Worker) (notResolved host : String) (answer : Lookup) :
    (w.lookedUp notResolved host answer).activity.ending? = none ∨
      (w.lookedUp notResolved host answer).activity.ending? = some .panicking := by
  cases answer with
  | found | failed => exact Or.inl rfl
  | panicked => exact Or.inr rfl

/-- Nothing changes the ending once the queues are closed. -/
theorem ending?_conclude (w : Worker) (ending : Ending) :
    (w.conclude ending).activity.ending? = some ending := by
  cases ending <;> rfl

/-! ## How a worker comes to its end

A `get` or a `put` ends a worker if the queue is closed, and logging does if the log is released.
Whatever else may fail, the worker goes on. -/

/-- **A worker keeps its ending**, and comes to one only for a reason. -/
theorem Moves.ending (h : Moves told moment w desk w' desk') :
    w'.activity.ending? = w.activity.ending? ∨
      w.activity.ending? = none ∧
        ∃ ending, w'.activity.ending? = some ending ∧ Breaks w desk ending := by
  -- going on without an ending, or with a panic
  have hpanics : w.activity.ending? = none →
      (w'.activity.ending? = none ∨ w'.activity.ending? = some .panicking) →
      w'.activity.ending? = w.activity.ending? ∨ w.activity.ending? = none ∧
        ∃ ending, w'.activity.ending? = some ending ∧ Breaks w desk ending := by
    rintro hnone (hgoes | hpanic)
    · exact Or.inl (hgoes.trans hnone.symm)
    · exact Or.inr ⟨hnone, _, hpanic, .panicked⟩
  cases h with
  | take hactivity | acknowledge hactivity | keep hactivity | offer hactivity =>
    rw [hactivity]
    exact Or.inl rfl
  | receive hactivity => exact hpanics (by rw [hactivity]; rfl) (Or.inl (ending?_begin w _ _))
  -- a `get` fails only at a closed queue
  | starve hactivity hstep =>
    refine Or.inr ⟨by rw [hactivity]; rfl, _, rfl, ?_⟩
    cases GetCall.moves_of_step hstep with
    | refused hclosed => exact .starved hactivity (Or.inl hclosed)
    | bounce hclosed => exact .starved hactivity (Or.inr hclosed)
  | openFile hactivity => exact hpanics (by rw [hactivity]; rfl) (ending?_takeUp w _ _)
  | read hactivity => exact hpanics (by rw [hactivity]; rfl) (ending?_read w _ _ _)
  | offered hactivity htarget hstep =>
    cases PutCall.moves_of_step hstep with
    | finish | tooLarge => exact hpanics (by rw [hactivity]; rfl) (Or.inl rfl)
    | refused hclosed =>
      exact Or.inr ⟨by rw [hactivity]; rfl, _, rfl, .refused htarget (Or.inl hclosed)⟩
    | bounce hclosed =>
      exact Or.inr ⟨by rw [hactivity]; rfl, _, rfl, .refused htarget (Or.inr hclosed)⟩
  | lookUp hactivity => exact hpanics (by rw [hactivity]; rfl) (ending?_lookedUp w _ _ _)
  -- the log may be gone, or it may refuse the line, which is reported
  | @log line file hactivity =>
    have hnone : w.activity.ending? = none := by rw [hactivity]; rfl
    generalize hwrite : (desk.sinks.writeLine w.output line).1 = result at hpanics ⊢
    cases result with
    | ok => exact hpanics hnone (Or.inl (ending?_resume file))
    | error error =>
      rcases Sinks.error_of_writeLine hwrite with ⟨rfl, hreleased⟩ | ⟨failure, rfl, -⟩
      · exact Or.inr ⟨hnone, _, rfl, .released hreleased⟩
      · exact hpanics hnone (Or.inl rfl)
  | @report failure file hactivity =>
    exact hpanics (by rw [hactivity]; rfl) (Or.inl (ending?_resume file))
  | closeSource hactivity | closedSource hactivity | closeTarget hactivity =>
    rw [hactivity]
    exact Or.inl rfl
  | conclude hactivity | closedTarget hactivity =>
    rw [hactivity]
    exact Or.inl (ending?_conclude w _)
  | @announce exit hactivity =>
    rw [hactivity]
    cases exit <;> exact Or.inl rfl

/-- Who has panicked hands in no report. -/
theorem activity_of_panicking (hover : w.isOver = true)
    (hending : w.activity.ending? = some .panicking) : w.activity = .panicked := by
  unfold isOver at hover
  split at hover
  · next report hactivity =>
    rw [hactivity] at hending
    obtain ⟨failure, -, heq⟩ := Option.map_eq_some_iff.mp hending
    contradiction
  · assumption
  · contradiction

/-- The failure that the ending of a worker counts as. -/
def failureFor (w : Worker) : Ending → Failure
  | .failing failure => failure
  | .panicking => .workerPanicked w.stage.name w.name

/-- A closed queue is the one failure that is not a root. -/
theorem isClosedQueue_failureFor (w : Worker) (ending : Ending) :
    (w.failureFor ending).isClosedQueue = !ending.isRoot := by
  cases ending with
  | failing failure => exact (Bool.not_not _).symm
  | panicking => rfl

/-- The result of a worker that was joined tells its ending. -/
theorem ending?_of_result? {result : Except Failure WorkerReport}
    (hresult : w.result? = some result) :
    (w.activity = .panicked ∧ result = .error (.workerPanicked w.stage.name w.name)) ∨
      ∃ report, w.activity = .ended report ∧ result = .ok report ∧
        w.activity.ending? = report.failure?.map .failing := by
  unfold result? at hresult
  split at hresult
  · next report hactivity =>
    exact Or.inr ⟨report, hactivity, (Option.some.inj hresult).symm, by rw [hactivity]; rfl⟩
  · next hactivity => exact Or.inl ⟨hactivity, (Option.some.inj hresult).symm⟩
  · contradiction

end Worker

end HostLookup
