import HostLookup.Proofs.Worker.Endings

/-!
# The way out of a worker

A worker goes from one item to the next until it takes its sentinel, until it meets a failure from
which it cannot recover, or until somebody whom it asks panics. From there on nothing can turn it
aside: it says that it has its sentinel, or it closes both of its queues, and then it announces its
end unless it has panicked.

* **`WayOut`**: the places on this way, and **`WayOut.Next`**: how one follows another.
* **`Worker.Moves.wayOut`**: every step goes this way. So whatever is to be said about the end of a
  worker is said about its ten rules.
* **`Worker.Moves.isShut`**: a worker that leaves without its sentinel has closed what is behind it.
* **`Worker.Moves.recovers`**: from all other failures it recovers, and counts them one by one.
-/

namespace HostLookup

/-- How far a worker is on its way out. -/
inductive WayOut where
  /-- It deals with items. -/
  | inside
  | acknowledging
  | closingSource (ending : Ending)
  | closingTarget (ending : Ending)
  | announcing (exit : Except Failure Unit)
  | ended (exit : Except Failure Unit)
  | panicked

namespace Activity

/-- How far a worker is on its way out. -/
def wayOut : Activity → WayOut
  | .acknowledging => .acknowledging
  | .closingSource _ ending => .closingSource ending
  | .closingTarget _ ending => .closingTarget ending
  | .announcing exit => .announcing exit
  | .ended report => .ended report.exit
  | .panicked => .panicked
  | _ => .inside

/-- Is the worker about to report a failure from which it has recovered? -/
def isReporting : Activity → Bool
  | .reporting .. => true
  | _ => false

end Activity

/-- Does somebody whom the worker asks by its next step panic? -/
def Worker.isLetDown (told : Instructions) (moment : Nat) (w : Worker) : Bool :=
  match w.activity with
  | .opening file => told.environment.opening moment file = .panicked
  | .reading file => file.rest.head? = some .panicked
  | .resolving host => told.environment.lookup moment host = .panicked
  | _ => false

/-! ## The rules of the way

The places on the way out are few, and a step leads from one of them to the next or stays. This is
read off the rules of `Worker.Moves` once. -/

/-- How one place on the way out follows another. -/
inductive WayOut.Next (letDown : Bool) : WayOut → WayOut → Prop where
  | goOn (h : letDown = false) : Next letDown .inside .inside
  /-- An item was taken, and it is the sentinel. -/
  | stop (h : letDown = false) : Next letDown .inside .acknowledging
  | fail {failure : Failure} (h : letDown = false) (hfinal : failure.isRecoverable = false) :
      Next letDown .inside (.closingSource (.failing failure))
  | panic (h : letDown = true) : Next letDown .inside (.closingSource .panicking)
  | acknowledge : Next letDown .acknowledging (.announcing (.ok ()))
  | closeSource {ending : Ending} : Next letDown (.closingSource ending) (.closingSource ending)
  | closedSource {ending : Ending} : Next letDown (.closingSource ending) (.closingTarget ending)
  | closeTarget {ending : Ending} : Next letDown (.closingTarget ending) (.closingTarget ending)
  | closedTarget {failure : Failure} :
      Next letDown (.closingTarget (.failing failure)) (.announcing (.error failure))
  | unwind : Next letDown (.closingTarget .panicking) .panicked
  | announce {exit : Except Failure Unit} : Next letDown (.announcing exit) (.ended exit)

namespace Worker

variable {told : Instructions} {moment : Nat} {w w' : Worker} {desk desk' : Desk}

/-- A failure is recovered from, or it ends the worker. -/
theorem next_raise {letDown : Bool} (w : Worker) (failure : Failure) (file : Option Reading)
    (h : letDown = false) :
    WayOut.Next letDown .inside (w.raise failure file).activity.wayOut := by
  unfold raise
  split
  · exact .goOn h
  · next hfinal => exact .fail h (by simpa using hfinal)

/-- The sentinel leads to the way out, any other item does not. -/
theorem next_begin {letDown : Bool} (w : Worker) (sentinel : Sentinel) (item : String)
    (h : letDown = false) :
    WayOut.Next letDown .inside (w.begin sentinel item).activity.wayOut := by
  unfold begin
  split
  · exact .stop h
  · cases w.stage <;> exact .goOn h

/-- Handing on is dealing with items, whatever comes of it. -/
theorem next_handOn {letDown : Bool} (w : Worker) (sentinel : Sentinel) (hasTarget : Bool)
    (host : String) (file : Reading) (h : letDown = false) :
    WayOut.Next letDown .inside (w.handOn sentinel hasTarget host file).activity.wayOut := by
  unfold handOn
  split
  · exact next_raise w _ _ h
  · split <;> exact .goOn h

theorem wayOut_resume (file : Option Reading) : (resume file).wayOut = .inside := by
  cases file <;> rfl

/-- Who reads a line may meet a failure, and may be let down. -/
theorem next_read (hactivity : w.activity = .reading file) (sentinel : Sentinel)
    (hasTarget : Bool) :
    WayOut.Next (w.isLetDown told moment) .inside
      (w.read sentinel hasTarget file).activity.wayOut := by
  have hletDown : w.isLetDown told moment = decide (file.rest.head? = some .panicked) := by
    rw [isLetDown, hactivity]
  rw [hletDown]
  unfold read
  cases hrest : file.rest with
  | nil => exact .goOn rfl
  | cons event rest =>
    cases event with
    | line text =>
      simp only
      split
      · exact .goOn rfl
      · exact next_handOn w _ _ _ _ rfl
    | failed failure =>
      simp only
      split <;> exact next_raise w _ _ rfl
    -- the one way to be let down in the middle of a file
    | panicked => exact .panic rfl

/-- **Every step goes the way out**, one place at a time. -/
theorem Moves.wayOut (h : Moves told moment w desk w' desk') :
    WayOut.Next (w.isLetDown told moment) w.activity.wayOut w'.activity.wayOut := by
  cases h with
  | take hactivity | keep hactivity | offer hactivity =>
    rw [isLetDown, hactivity]
    exact .goOn rfl
  | receive hactivity =>
    rw [isLetDown, hactivity]
    exact next_begin w _ _ rfl
  | starve hactivity hstep =>
    rw [isLetDown, hactivity]
    -- a `get` is refused for a closed queue alone, and from that no worker recovers
    cases GetCall.moves_of_step hstep <;> exact .fail rfl rfl
  | acknowledge hactivity =>
    rw [hactivity]
    exact .acknowledge
  | @openFile file hactivity =>
    rw [isLetDown, hactivity]
    cases hopening : told.environment.opening moment file with
    | refused failure => exact next_raise w (.io file failure) none (by simp [hopening])
    | opened events => exact .goOn (by simp [hopening])
    | panicked => exact .panic (by simp [hopening])
  | read hactivity =>
    have hinside : w.activity.wayOut = .inside := by rw [hactivity]; rfl
    rw [hinside]
    exact next_read hactivity _ _
  | @offered host call file result target target' hactivity =>
    rw [isLetDown, hactivity]
    cases result with
    | ok => exact .goOn rfl
    | error => exact next_raise w _ _ rfl
  | @lookUp host hactivity =>
    rw [isLetDown, hactivity]
    cases hlookup : told.environment.lookup moment host with
    | found | failed => exact .goOn (by simp [hlookup])
    | panicked => exact .panic (by simp [hlookup])
  | @log line file hactivity =>
    rw [isLetDown, hactivity]
    cases (desk.sinks.writeLine w.output line).1 with
    | ok =>
      show WayOut.Next _ _ (resume file).wayOut
      rw [wayOut_resume]
      exact .goOn rfl
    | error => exact next_raise w _ _ rfl
  | @report failure file hactivity =>
    rw [isLetDown, hactivity]
    show WayOut.Next _ _ (resume file).wayOut
    rw [wayOut_resume]
    exact .goOn rfl
  | closeSource hactivity =>
    rw [hactivity]
    exact .closeSource
  | closedSource hactivity =>
    rw [hactivity]
    exact .closedSource
  | closeTarget hactivity =>
    rw [hactivity]
    exact .closeTarget
  | @conclude call ending hactivity | @closedTarget call first ending target target' hactivity =>
    rw [hactivity]
    cases ending with
    | failing => exact .closedTarget
    | panicking => exact .unwind
  | announce hactivity =>
    rw [hactivity]
    exact .announce

/-- A worker is let down only while it deals with items. -/
theorem isLetDown_eq_false (told : Instructions) (moment : Nat)
    (hway : w.activity.wayOut ≠ .inside) : w.isLetDown told moment = false := by
  unfold isLetDown
  cases hactivity : w.activity with
  | opening | reading | resolving =>
    rw [hactivity] at hway
    exact absurd rfl hway
  | _ => rfl

/-- **The last step of a worker** that has not panicked hands in its report. It tries to write one
line, and neither the report nor anything else on the desk depends on whether the line is
written. -/
theorem step_announcing (told : Instructions) (moment : Nat) {exit : Except Failure Unit}
    (hactivity : w.activity = .announcing exit) (desk : Desk) :
    w.step told moment desk =
      some ({ w with activity := .ended (w.report (told.environment.elapsed moment) exit) },
        { desk with
          sinks := (desk.sinks.writeLine .stdout
            (w.announcement (told.environment.elapsed moment))).2 }) := by
  unfold step
  rw [hactivity]

end Worker

/-! ## What the rules come to

Once a worker has an ending it keeps it to its last place, and what it hands in there is settled by
the ending. -/

namespace WayOut

/-- How a worker ends that will not come to its sentinel any more. -/
def ending? : WayOut → Option Ending
  | .closingSource ending | .closingTarget ending => some ending
  | .announcing (.error failure) | .ended (.error failure) => some (.failing failure)
  | .panicked => some .panicking
  | _ => none

/-- Is the worker about to say that it has taken its sentinel? -/
def isAcknowledging : WayOut → Bool
  | .acknowledging => true
  | _ => false

/-- Is the worker inside of a call that closes one of its queues? -/
def isClosing : WayOut → Bool
  | .closingSource _ | .closingTarget _ => true
  | _ => false

/-- Is the worker about to write its summary line? -/
def isAnnouncing : WayOut → Bool
  | .announcing _ => true
  | _ => false

/-- Has the worker said that it has taken its sentinel? -/
def hasAcknowledged : WayOut → Bool
  | .announcing (.ok ()) | .ended (.ok ()) => true
  | _ => false

variable {letDown : Bool} {before after : WayOut}

/-- A worker says once that it has taken its sentinel. -/
theorem Next.hasAcknowledged (h : Next letDown before after) :
    after.hasAcknowledged.toNat =
      before.hasAcknowledged.toNat + before.isAcknowledging.toNat := by
  cases h with
  | @announce exit => cases exit <;> rfl
  | _ => rfl

/-- **A worker keeps its ending**, and comes to one for a panic or for a failure from which it
cannot recover. -/
theorem Next.ending (h : Next letDown before after) :
    after.ending? = before.ending? ∧ (before = .inside → letDown = false) ∨
      before = .inside ∧ (letDown = true ∧ after.ending? = some .panicking ∨
        letDown = false ∧ ∃ failure, after.ending? = some (.failing failure) ∧
          failure.isRecoverable = false) := by
  cases h with
  | goOn h | stop h => exact Or.inl ⟨rfl, fun _ => h⟩
  | fail h hfinal => exact Or.inr ⟨rfl, Or.inr ⟨h, _, rfl, hfinal⟩⟩
  | panic h => exact Or.inr ⟨rfl, Or.inl ⟨h, rfl⟩⟩
  -- the ending was settled when the queues had been closed, and is handed on
  | @announce exit => cases exit <;> exact Or.inl ⟨rfl, nofun⟩
  | _ => exact Or.inl ⟨rfl, nofun⟩

/-- A worker that hands in its report was about to write its summary line. -/
theorem Next.eq_of_ended {exit : Except Failure Unit} (h : Next letDown before (.ended exit)) :
    before = .announcing exit := by
  cases h
  rfl

end WayOut

/-! ## Closed queues

A worker that leaves for an ending closes first the queue that it takes from and then the one that
it hands on to. Since queues stay closed, both are closed in the end, whatever others do. -/

namespace Desk

/-- The queue that is handed on to is closed, if there is one. -/
def IsTargetClosed (desk : Desk) : Prop :=
  ∀ target, desk.target = some target → target.ring.closed = true

/-- Both queues are closed. -/
structure IsShut (desk : Desk) : Prop where
  source : desk.source.ring.closed = true
  target : desk.IsTargetClosed

end Desk

/-- What is closed behind a worker on its way out. -/
def Activity.IsShut (desk : Desk) : Activity → Prop
  | .closingSource call _ => call ≠ .marking → desk.source.ring.closed = true
  | .closingTarget call _ =>
    desk.source.ring.closed = true ∧ (call ≠ .marking → desk.IsTargetClosed)
  | .announcing (.error _) | .panicked => desk.IsShut
  | .ended report => report.exit ≠ .ok () → desk.IsShut
  | _ => True

namespace Activity

variable {desk desk' : Desk} {a : Activity}

theorem isShut_of_isPlain (desk : Desk) (hplain : a.isPlain = true) : a.IsShut desk := by
  cases a with
  | closingSource call =>
    cases call with
    | marking => exact fun hne => absurd rfl hne
    | closingFree | closingFilled => contradiction
  | closingTarget | announcing | ended | panicked => contradiction
  | _ => trivial

/-- What is closed stays closed. -/
theorem IsShut.mono (h : a.IsShut desk)
    (hsource : desk.source.ring.closed = true → desk'.source.ring.closed = true)
    (htarget : desk.IsTargetClosed → desk'.IsTargetClosed) : a.IsShut desk' := by
  have hshut : desk.IsShut → desk'.IsShut := fun h => ⟨hsource h.source, htarget h.target⟩
  cases a with
  | closingSource => exact fun hne => hsource (h hne)
  | closingTarget => exact ⟨hsource h.1, fun hne => htarget (h.2 hne)⟩
  | announcing exit =>
    cases exit with
    | ok => trivial
    | error => exact hshut h
  | ended => exact fun hne => hshut (h hne)
  | panicked => exact hshut h
  | _ => trivial

end Activity

/-- A `close` that goes on has marked the ring. -/
theorem CloseCall.Moves.closed_of_goesOn {q q' : Queue} {call call' : CloseCall}
    (h : CloseCall.Moves q call (.goesOn call') q')
    (hmarked : call ≠ .marking → q.ring.closed = true) : q'.ring.closed = true := by
  cases h with
  | mark => rfl
  | closeFree => exact hmarked nofun

/-- A `close` that returns leaves a closed ring. -/
theorem CloseCall.Moves.closed_of_returns {q q' : Queue} {call : CloseCall} {first : Bool}
    (h : CloseCall.Moves q call (.returns first) q')
    (hmarked : call ≠ .marking → q.ring.closed = true) : q'.ring.closed = true := by
  cases h with
  | late hclosed => exact hclosed
  | closeFilled => exact hmarked nofun

namespace Worker

variable {told : Instructions} {moment : Nat} {w w' : Worker} {desk desk' : Desk}

theorem isShut_conclude (w : Worker) (ending : Ending) (h : desk.IsShut) :
    (w.conclude ending).activity.IsShut desk := by
  cases ending <;> exact h

/-- **What is behind a worker on its way out is closed.** -/
theorem Moves.isShut (h : Moves told moment w desk w' desk') (hshut : w.activity.IsShut desk) :
    w'.activity.IsShut desk' := by
  have hplain : ∀ {w' : Worker} (desk' : Desk), GoesOn w w' → w'.activity.IsShut desk' :=
    fun desk' hgo => Activity.isShut_of_isPlain desk' hgo.isPlain
  cases h with
  | take | acknowledge | keep | offer => trivial
  | @receive call item source hactivity =>
    cases hmarks : told.sentinel.marks item with
    | true =>
      unfold begin
      rw [hmarks]
      trivial
    | false => exact hplain _ (goesOn_begin w hmarks)
  | starve => exact hplain _ (goesOn_leave w _)
  | openFile => exact hplain _ (goesOn_takeUp w _ _)
  | read => exact hplain _ (goesOn_read w _ _ _)
  | offered => exact hplain _ (goesOn_offered w _ _ _)
  | lookUp => exact hplain _ (goesOn_lookedUp w _ _ _)
  | log => exact hplain _ (goesOn_logged w _ _)
  | report => exact Activity.isShut_of_isPlain _ (isPlain_resume _)
  | closeSource hactivity hstep =>
    rw [hactivity] at hshut
    exact fun _ => (CloseCall.moves_of_step hstep).closed_of_goesOn hshut
  | closedSource hactivity hstep =>
    rw [hactivity] at hshut
    exact ⟨(CloseCall.moves_of_step hstep).closed_of_returns hshut, fun hne => absurd rfl hne⟩
  | conclude hactivity htarget =>
    rw [hactivity] at hshut
    refine isShut_conclude w _ ⟨hshut.1, fun target heq => ?_⟩
    rw [htarget] at heq
    contradiction
  | closeTarget hactivity htarget hstep =>
    rw [hactivity] at hshut
    refine ⟨hshut.1, fun _ target heq => ?_⟩
    obtain rfl := Option.some.inj heq
    exact (CloseCall.moves_of_step hstep).closed_of_goesOn fun hne => hshut.2 hne _ htarget
  | closedTarget hactivity htarget hstep =>
    rw [hactivity] at hshut
    refine isShut_conclude w _ ⟨hshut.1, fun target heq => ?_⟩
    obtain rfl := Option.some.inj heq
    exact (CloseCall.moves_of_step hstep).closed_of_returns fun hne => hshut.2 hne _ htarget
  | @announce exit hactivity =>
    rw [hactivity] at hshut
    cases exit with
    | ok => exact fun hne => absurd rfl hne
    | error => exact fun _ => ⟨hshut.source, hshut.target⟩

/-! ## Recovering

A failure from which a worker recovers is counted once, in the step before it is reported. -/

/-- A failure from which the worker recovers is counted when the worker is about to report it. -/
def Recovers (w w' : Worker) : Prop :=
  w'.tally.itemErrors = w.tally.itemErrors + w'.activity.isReporting.toNat

theorem recovers_raise (w : Worker) (failure : Failure) (file : Option Reading) :
    Recovers w (w.raise failure file) := by
  unfold raise
  split <;> rfl

theorem isReporting_resume (file : Option Reading) : (resume file).isReporting = false := by
  cases file <;> rfl

theorem recovers_read (w : Worker) (sentinel : Sentinel) (hasTarget : Bool) (file : Reading) :
    Recovers w (w.read sentinel hasTarget file) := by
  unfold read
  split
  · rfl
  · split
    · split
      · rfl
      · unfold handOn
        split
        · exact recovers_raise w _ _
        · split <;> rfl
    · split <;> exact recovers_raise w _ _
    · rfl

/-- **A step counts the failure that it recovers from**, and no other. -/
theorem Moves.recovers (h : Moves told moment w desk w' desk') : Recovers w w' := by
  cases h with
  | receive =>
    unfold begin
    split
    · rfl
    · cases hstage : w.stage <;> simp [Recovers, Activity.isReporting]
  | @openFile file =>
    cases told.environment.opening moment file with
    | refused => exact recovers_raise w _ _
    | opened | panicked => rfl
  | read => exact recovers_read w _ _ _
  | @offered host call file result =>
    cases result with
    | ok => rfl
    | error => exact recovers_raise w _ _
  | @lookUp host => cases told.environment.lookup moment host <;> rfl
  | @log line file =>
    cases (desk.sinks.writeLine w.output line).1 with
    | ok => simp [Recovers, logged, isReporting_resume]
    | error => exact recovers_raise w _ _
  | report => simp [Recovers, isReporting_resume]
  | @conclude call ending | @closedTarget call first ending => cases ending <;> rfl
  | take | starve | acknowledge | keep | offer | closeSource | closedSource | closeTarget
  | announce => rfl

end Worker

end HostLookup
