import HostLookup.Proofs.Run.Sentinels
import HostLookup.Proofs.Worker.Replies
import HostLookup.Proofs.Worker.WayOut
import HostLookup.Worker.Among
import Mathlib.Logic.ExistsUnique

/-!
# How workers leave

A worker leaves in one of three ways, whoever else is at its desk meanwhile and whatever whom it
asks has answered. It has taken its sentinel: then it takes nothing after it, says so once and
closes nothing. It has met a failure from which it cannot recover: then it leaves both queues
closed, and says nothing. Or it was let down by a panic: then it leaves both queues closed as well,
and does not even announce its end. Failures from which it recovers never make it leave.

* **`Worker.Recorded`**: what the worker has on record at every moment, and
  **`Worker.Recorded.own`** and **`Worker.Recorded.others`**: each step keeps to it.
* **`Worker.Departure`** lists the ways, with all that is to be said about each, and
  **`Worker.departs_of_path`** says that a worker that is over has left in exactly one of them.
-/

namespace HostLookup

/-! ## What others do at a desk

Others may put and take, close queues, release sinks and stop at their sentinels. They open nothing
that was closed. -/

namespace Desk

variable {desk desk' : Desk} {disturbance : Disturbance}

theorem closed_of_step {q q' : Queue} {call : Call} {progress : Progress Call Answer}
    (hstep : call.step q = some (progress, q')) (hclosed : q.ring.closed = true) :
    q'.ring.closed = true := by
  have hturn : q.Turn (some call) _ q' := .step rfl hstep
  exact hturn.closed_mono hclosed

/-- Nobody opens a queue again or takes the target away. -/
theorem mono_of_disturb (h : desk.disturb disturbance = some desk') :
    (desk.source.ring.closed = true → desk'.source.ring.closed = true) ∧
      (desk.IsTargetClosed → desk'.IsTargetClosed) ∧
      desk'.target.isSome = desk.target.isSome := by
  cases disturbance with
  | onSource call =>
    obtain ⟨⟨progress, source⟩, hstep, rfl⟩ := Option.map_eq_some_iff.mp h
    exact ⟨closed_of_step hstep, id, rfl⟩
  | onTarget call =>
    obtain ⟨target, htarget, h⟩ := Option.bind_eq_some_iff.mp h
    obtain ⟨⟨progress, target'⟩, hstep, rfl⟩ := Option.map_eq_some_iff.mp h
    refine ⟨id, fun hclosed other heq => ?_, by rw [htarget]; rfl⟩
    obtain rfl := Option.some.inj heq
    exact closed_of_step hstep (hclosed target htarget)
  | onStage | onSinks =>
    cases h
    exact ⟨id, id, rfl⟩

end Desk

namespace Worker

variable {told : Instructions} {path : List (Beat × Worker × Desk)} {moment : Nat}
  {w w' : Worker} {desk desk' : Desk}

/-! ## The record of a worker

The path holds the steps of others as well; what counts is picked out of it for the worker itself.
`Recorded` relates it to what the worker has counted and to how it stands. -/

/-- The worker's own steps, each with its moment. -/
def ownSteps (path : List (Beat × Worker × Desk)) : List (Nat × Worker × Desk) :=
  path.filterMap fun p =>
    match p.1 with
    | .own moment => some (moment, p.2)
    | .others _ => none

/-- How many of the worker's own steps were of a kind. -/
def countOn (path : List (Beat × Worker × Desk)) (kind : Activity → Bool) : Nat :=
  (ownSteps path).countP fun s => kind s.2.1.activity

/-- The items that the worker has taken. -/
def tookOn (path : List (Beat × Worker × Desk)) : List String :=
  (ownSteps path).flatMap fun s => s.2.2.source.taken s.2.1.activity.sourceCall

theorem ownSteps_own (path : List (Beat × Worker × Desk)) (moment : Nat) (w : Worker)
    (desk : Desk) : ownSteps (path ++ [(.own moment, w, desk)]) =
      ownSteps path ++ [(moment, w, desk)] :=
  List.filterMap_append

theorem ownSteps_others (path : List (Beat × Worker × Desk)) (disturbance : Disturbance)
    (w : Worker) (desk : Desk) :
    ownSteps (path ++ [(.others disturbance, w, desk)]) = ownSteps path := by
  rw [ownSteps, List.filterMap_append]
  exact List.append_nil _

theorem countOn_own (path : List (Beat × Worker × Desk)) (moment : Nat) (w : Worker) (desk : Desk)
    (kind : Activity → Bool) : countOn (path ++ [(.own moment, w, desk)]) kind =
      countOn path kind + (kind w.activity).toNat := by
  rw [countOn, ownSteps_own, List.countP_append, List.countP_singleton]
  cases kind w.activity <;> rfl

theorem tookOn_own (path : List (Beat × Worker × Desk)) (moment : Nat) (w : Worker) (desk : Desk) :
    tookOn (path ++ [(.own moment, w, desk)]) =
      tookOn path ++ desk.source.taken w.activity.sourceCall := by
  rw [tookOn, ownSteps_own, List.flatMap_append, List.flatMap_singleton]
  rfl

/-- The steps at which the worker writes its summary line. -/
def announcingSteps (path : List (Beat × Worker × Desk)) : List (Nat × Worker × Desk) :=
  (ownSteps path).filter fun s => s.2.1.activity.wayOut.isAnnouncing

/-- A worker that has handed in its report has come from writing its summary line, and has written
it once. -/
def Announced (told : Instructions) (path : List (Beat × Worker × Desk)) (w : Worker) : Prop :=
  match w.activity with
  | .ended report => ∃ moment before desk, announcingSteps path = [(moment, before, desk)] ∧
      before.activity = .announcing report.exit ∧
      w = { before with
        activity := .ended (before.report (told.environment.elapsed moment) report.exit) }
  | _ => announcingSteps path = []

/-- What a worker has on record. -/
structure Recorded (told : Instructions) (path : List (Beat × Worker × Desk)) (w : Worker)
    (desk : Desk) : Prop where
  /-- It has taken items, and behind them the sentinel if it has it. -/
  taken : ∃ items, told.sentinel.text ∉ items ∧ tookOn path =
    items ++ List.replicate (w.activity.hasSentinel told.sentinel).toNat told.sentinel.text
  /-- It has counted each item that it has begun with. -/
  serviced : ((tookOn path).filter (· ≠ told.sentinel.text)).length +
      w.activity.asker.toList.length =
    w.tally.serviced + (w.activity.inHand told.sentinel).length
  itemErrors : w.tally.itemErrors =
    countOn path Activity.isReporting + w.activity.isReporting.toNat
  acknowledged : countOn path (·.wayOut.isAcknowledging) = w.activity.wayOut.hasAcknowledged.toNat
  closing : w.activity.wayOut.ending? = none → countOn path (·.wayOut.isClosing) = 0
  announced : Announced told path w
  letDown : (∃ s ∈ ownSteps path, s.2.1.isLetDown told s.1 = true) ↔
    w.activity.wayOut.ending? = some .panicking
  final : ∀ failure, w.activity.wayOut.ending? = some (.failing failure) →
    failure.isRecoverable = false
  shut : w.activity.IsShut desk
  offers : ∀ host call file, w.activity = .offering host call file → desk.target.isSome = true

namespace Recorded

theorem start (told : Instructions) (name : String) (stage : Stage) (output : Sink) (desk : Desk) :
    Recorded told [] { name := name, stage := stage, output := output } desk where
  taken := ⟨[], List.not_mem_nil, rfl⟩
  serviced := rfl
  itemErrors := rfl
  acknowledged := rfl
  closing _ := rfl
  announced := rfl
  letDown := ⟨fun ⟨_, hmem, _⟩ => absurd hmem List.not_mem_nil, nofun⟩
  final _ := nofun
  shut := trivial
  offers _ _ _ := nofun

/-! ### Steps of the worker

One lemma for each field of the record, by the rules of `Worker.Moves` that matter to it. -/

theorem serviced_own (h : Recorded told path w desk) (hmove : Moves told moment w desk w' desk') :
    ((tookOn (path ++ [(.own moment, w, desk)])).filter (· ≠ told.sentinel.text)).length +
        w'.activity.asker.toList.length =
      w'.tally.serviced + (w'.activity.inHand told.sentinel).length := by
  have hcounts := hmove.counts fun hnone host call file hoffering => by
    have hsome := h.offers host call file hoffering
    rw [hnone] at hsome
    contradiction
  have hserviced := h.serviced
  have htaken := congrArg List.length hcounts.taken
  have hasker : (w.reply? told moment).toList.length = w.activity.asker.toList.length := by
    rw [← map_stage_reply? told moment w]
    cases w.reply? told moment <;> rfl
  rw [List.length_append, List.length_append, List.length_map, hasker] at htaken
  rw [tookOn_own, List.filter_append, List.length_append, hcounts.serviced]
  omega

theorem announced_own (h : Recorded told path w desk)
    (hmove : Moves told moment w desk w' desk') :
    Announced told (path ++ [(.own moment, w, desk)]) w' := by
  have hsteps : announcingSteps (path ++ [(.own moment, w, desk)]) =
      announcingSteps path ++
        if w.activity.wayOut.isAnnouncing then [(moment, w, desk)] else [] := by
    rw [announcingSteps, ownSteps_own, List.filter_append]
    cases hkind : w.activity.wayOut.isAnnouncing <;> simp [announcingSteps, hkind]
  -- before the last step nothing was announced
  have hnone : announcingSteps path = [] := by
    have hannounced := h.announced
    have hover := hmove.isOver_eq_false
    unfold Announced at hannounced
    unfold isOver at hover
    cases hactivity : w.activity <;> rw [hactivity] at hannounced hover <;>
      first | exact hannounced | contradiction
  rw [hnone, List.nil_append] at hsteps
  -- only the step that writes the line ends the worker
  have hquiet : w.activity.wayOut.isAnnouncing = false →
      Announced told (path ++ [(.own moment, w, desk)]) w' := by
    intro hkind
    have hway := hmove.wayOut
    rw [hkind] at hsteps
    unfold Announced
    cases hactivity : w'.activity with
    | ended report =>
      rw [hactivity] at hway
      rw [WayOut.Next.eq_of_ended hway] at hkind
      contradiction
    | _ => exact hsteps
  cases hmove with
  | @announce exit hactivity =>
    rw [hactivity] at hsteps
    exact ⟨moment, w, desk, hsteps, hactivity, rfl⟩
  | take hactivity | receive hactivity | starve hactivity | acknowledge hactivity
  | openFile hactivity | read hactivity | keep hactivity | offer hactivity | offered hactivity
  | lookUp hactivity | log hactivity | report hactivity | closeSource hactivity
  | closedSource hactivity | conclude hactivity | closeTarget hactivity | closedTarget hactivity =>
    exact hquiet (by rw [hactivity]; rfl)

theorem closing_own (h : Recorded told path w desk) (hmove : Moves told moment w desk w' desk')
    (hnone : w'.activity.wayOut.ending? = none) :
    countOn (path ++ [(.own moment, w, desk)]) (·.wayOut.isClosing) = 0 := by
  -- a worker that has no ending afterwards has had none before, so it was not closing anything
  have hbefore : w.activity.wayOut.ending? = none := by
    rcases hmove.wayOut.ending with ⟨heq, -⟩ | ⟨-, ⟨-, hsome⟩ | ⟨-, failure, hsome, -⟩⟩
    · exact heq ▸ hnone
    · exact absurd (hsome.symm.trans hnone) (Option.some_ne_none _)
    · exact absurd (hsome.symm.trans hnone) (Option.some_ne_none _)
  have hkind : w.activity.wayOut.isClosing = false := by
    generalize w.activity.wayOut = way at hbefore
    cases way <;> first | rfl | contradiction
  rw [countOn_own, h.closing hbefore, hkind]
  rfl

theorem letDown_own (h : Recorded told path w desk) (hmove : Moves told moment w desk w' desk') :
    (∃ s ∈ ownSteps (path ++ [(.own moment, w, desk)]), s.2.1.isLetDown told s.1 = true) ↔
      w'.activity.wayOut.ending? = some .panicking := by
  have hsplit : (∃ s ∈ ownSteps (path ++ [(.own moment, w, desk)]),
        s.2.1.isLetDown told s.1 = true) ↔
      w.activity.wayOut.ending? = some .panicking ∨ w.isLetDown told moment = true := by
    rw [ownSteps_own, ← h.letDown]
    simp only [List.mem_append, List.mem_singleton]
    constructor
    · rintro ⟨s, hold | rfl, hs⟩
      · exact Or.inl ⟨s, hold, hs⟩
      · exact Or.inr hs
    · rintro (⟨s, hold, hs⟩ | hs)
      · exact ⟨s, Or.inl hold, hs⟩
      · exact ⟨_, Or.inr rfl, hs⟩
  rw [hsplit]
  rcases hmove.wayOut.ending with
    ⟨heq, hcalm⟩ | ⟨hinside, ⟨hletDown, hsome⟩ | ⟨hcalm, failure, hsome, -⟩⟩
  · -- no new ending: nobody has panicked by this step
    have hfalse : w.isLetDown told moment = false := by
      by_cases hinside : w.activity.wayOut = .inside
      · exact hcalm hinside
      · exact isLetDown_eq_false told moment hinside
    rw [heq, hfalse]
    simp
  · simp [hsome, hletDown]
  · rw [hinside, hcalm, hsome]
    simp [WayOut.ending?]

theorem final_own (h : Recorded told path w desk) (hmove : Moves told moment w desk w' desk')
    (failure : Failure) (hending : w'.activity.wayOut.ending? = some (.failing failure)) :
    failure.isRecoverable = false := by
  rcases hmove.wayOut.ending with ⟨heq, -⟩ | ⟨-, ⟨-, hsome⟩ | ⟨-, other, hsome, hfinal⟩⟩
  · exact h.final failure (heq ▸ hending)
  · cases hsome.symm.trans hending
  · cases hsome.symm.trans hending
    exact hfinal

/-- **Every step of the worker is on record.** -/
theorem own (h : Recorded told path w desk) (hmove : Moves told moment w desk w' desk') :
    Recorded told (path ++ [(.own moment, w, desk)]) w' desk' where
  taken := by
    obtain ⟨items, hitems, heq⟩ := h.taken
    rw [tookOn_own, heq]
    exact hmove.taken_append hitems
  serviced := h.serviced_own hmove
  itemErrors := by
    rw [countOn_own, ← h.itemErrors]
    exact hmove.recovers
  acknowledged := by
    rw [countOn_own, h.acknowledged]
    exact hmove.wayOut.hasAcknowledged.symm
  closing := h.closing_own hmove
  announced := h.announced_own hmove
  letDown := h.letDown_own hmove
  final := h.final_own hmove
  shut := hmove.isShut h.shut
  offers host call file hoffering := by
    rw [hmove.isSome_target]
    exact hmove.isSome_of_offering hoffering

/-- **What others do is not.** -/
theorem others (h : Recorded told path w desk) {disturbance : Disturbance}
    (hdisturb : desk.disturb disturbance = some desk') :
    Recorded told (path ++ [(.others disturbance, w, desk)]) w desk' := by
  obtain ⟨hsource, htarget, hsome⟩ := Desk.mono_of_disturb hdisturb
  have hsteps := ownSteps_others path disturbance w desk
  have htook : tookOn (path ++ [(.others disturbance, w, desk)]) = tookOn path := by
    rw [tookOn, hsteps]
    rfl
  have hcount : ∀ kind, countOn (path ++ [(.others disturbance, w, desk)]) kind =
      countOn path kind := by
    intro kind
    rw [countOn, hsteps]
    rfl
  constructor
  · rw [htook]
    exact h.taken
  · rw [htook]
    exact h.serviced
  · rw [hcount]
    exact h.itemErrors
  · rw [hcount]
    exact h.acknowledged
  · rw [hcount]
    exact h.closing
  · have hannounced := h.announced
    unfold Announced at hannounced ⊢
    rw [announcingSteps, hsteps]
    exact hannounced
  · rw [hsteps]
    exact h.letDown
  · exact h.final
  · exact h.shut.mono hsource htarget
  · intro host call file hoffering
    rw [hsome]
    exact h.offers host call file hoffering

end Recorded

/-! ## Paths

A worker that is alone at its queue is a special case in which the queue itself can be followed:
what is left in it is what it has not taken. -/

section Path

variable {name : String} {stage : Stage} {output : Sink} {start : Desk}

theorem recorded_of_path
    (hpath : Path (stepAmong told) ({ name := name, stage := stage, output := output }, start) path
      (w, desk)) : Recorded told path w desk := by
  generalize hlast : (w, desk) = last at hpath
  induction hpath generalizing w desk with
  | refl =>
    cases hlast
    exact .start told name stage output start
  | @tail path mid next beat _ hstep ih =>
    obtain ⟨u, before⟩ := mid
    subst hlast
    cases beat with
    | own moment => exact (ih rfl).own (moves_of_step hstep)
    | others disturbance =>
      obtain ⟨after, hdisturb, heq⟩ := Option.map_eq_some_iff.mp hstep
      cases heq
      exact (ih rfl).others hdisturb

/-- Taking and closing never give the slots up. -/
theorem Moves.destroyed_eq (h : Moves told moment w desk w' desk') :
    desk'.source.ring.destroyed = desk.source.ring.destroyed := by
  have hclose : ∀ {call : CloseCall} {progress : Progress CloseCall Bool} {source : Queue},
      call.step desk.source = (progress, source) →
      source.ring.destroyed = desk.source.ring.destroyed := by
    intro call progress source hstep
    cases CloseCall.moves_of_step hstep <;> rfl
  cases h with
  | take _ hstep =>
    cases GetCall.moves_of_step hstep with
    | enter => rfl
    | take hring => exact (Ring.take_frame hring).2.2.2
  | receive _ hstep | starve _ hstep => cases GetCall.moves_of_step hstep <;> rfl
  | closeSource _ hstep | closedSource _ hstep => exact hclose hstep
  | _ => rfl

/-- A worker stores nothing in the queue that it takes from. -/
theorem stored_sourceCall (a : Activity) (q : Queue) : q.stored a.sourceCall = [] := by
  cases a <;> simp [Activity.sourceCall]

/-- What holds of the queue that a worker takes from, as long as it is alone there with calls that
stand still. -/
structure Alone (calls : Phase → Nat) (start : Queue) (path : List (Beat × Worker × Desk))
    (w : Worker) (desk : Desk) : Prop where
  balanced : desk.source.Balanced fun p =>
    calls p + Phase.mark (w.activity.sourceCall.bind Call.phase?) p
  ledger : desk.source.Ledger start.items (tookOn path)
  destroyed : desk.source.ring.destroyed = start.ring.destroyed

theorem Alone.own {calls : Phase → Nat} {start : Queue} (h : Alone calls start path w desk)
    (hmove : Moves told moment w desk w' desk') :
    Alone calls start (path ++ [(.own moment, w, desk)]) w' desk' := by
  have hshift : Phase.Shift (w.activity.sourceCall.bind Call.phase?)
      (w'.activity.sourceCall.bind Call.phase?)
      (fun p => calls p + Phase.mark (w.activity.sourceCall.bind Call.phase?) p)
      (fun p => calls p + Phase.mark (w'.activity.sourceCall.bind Call.phase?) p) :=
    fun p => Nat.add_right_comm _ _ _
  refine ⟨h.balanced.turn hmove.source_turn hshift, ?_, hmove.destroyed_eq.trans h.destroyed⟩
  have hledger := h.ledger.turn h.balanced hmove.source_turn hshift
  rwa [stored_sourceCall, List.append_nil, ← tookOn_own] at hledger

theorem alone_of_path {calls : Phase → Nat} (hbalanced : start.source.Balanced calls)
    (hpath : Path (stepAmong told) ({ name := name, stage := stage, output := output }, start) path
      (w, desk)) (hown : ∀ p ∈ path, ∃ moment, p.1 = .own moment) :
    Alone calls start.source path w desk := by
  generalize hlast : (w, desk) = last at hpath
  induction hpath generalizing w desk with
  | refl =>
    cases hlast
    exact ⟨hbalanced, ⟨List.nil_prefix, fun _ => rfl⟩, rfl⟩
  | @tail path mid next beat _ hstep ih =>
    obtain ⟨u, before⟩ := mid
    subst hlast
    obtain ⟨moment, rfl⟩ := hown _ (List.mem_append_right _ List.mem_cons_self)
    exact (ih (fun p hmem => hown p (List.mem_append_left _ hmem)) rfl).own (moves_of_step hstep)

/-- A worker that was alone and has taken something has left the rest as it was. -/
theorem Alone.items_eq {calls : Phase → Nat} {start : Queue} (h : Alone calls start path w desk)
    (hbalanced : start.Balanced calls) (htook : tookOn path ≠ []) :
    start.items = tookOn path ++ desk.source.items := by
  refine h.ledger.items_eq ?_
  rw [h.destroyed]
  cases hdestroyed : start.ring.destroyed with
  | false => rfl
  | true =>
    -- a queue without slots has no items to take
    have hnone : start.items = [] :=
      List.eq_nil_of_length_eq_zero
        ((Ring.length_items _ _).trans (hbalanced.count_destroyed hdestroyed))
    exact absurd (List.prefix_nil.mp (hnone ▸ h.ledger.outs_prefix)) htook

/-! ## The three ways

The ending tells which of the three it was. Each has its list of what was taken, what was counted
and what was closed, and no two of them fit the same worker. -/

/-- A worker announces its end: by its last step it tries to write its summary line once, and what
it hands in is the same whether or not the line is written. -/
def Announces (told : Instructions) (path : List (Beat × Worker × Desk)) (w : Worker) : Prop :=
  ∃ moment before desk, announcingSteps path = [(moment, before, desk)] ∧
    ∀ sinks, before.step told moment { desk with sinks := sinks } =
      some (w, { desk with
        sinks := (sinks.writeLine .stdout
          (before.announcement (told.environment.elapsed moment))).2 })

/-- A worker that stopped at its sentinel. -/
structure Stops (told : Instructions) (start : Desk) (path : List (Beat × Worker × Desk))
    (w : Worker) (desk : Desk) (report : WorkerReport) : Prop where
  handedIn : w.activity = .ended report
  exit : report.exit = .ok ()
  /-- The sentinel is the last thing that it has taken, and everything else is counted. -/
  taken : ∃ items, told.sentinel.text ∉ items ∧ tookOn path = items ++ [told.sentinel.text] ∧
    report.serviced = items.length
  acknowledged : countOn path (·.wayOut.isAcknowledging) = 1
  /-- It has closed nothing. -/
  closing : countOn path (·.wayOut.isClosing) = 0
  calm : ∀ s ∈ ownSteps path, s.2.1.isLetDown told s.1 = false
  announces : Announces told path w
  /-- Each failure that it has counted is one that it has reported and recovered from. -/
  itemErrors : report.itemErrors = countOn path Activity.isReporting
  /-- Alone at its queue, it leaves everything behind the sentinel as it was. -/
  leaves : (∀ p ∈ path, ∃ moment, p.1 = .own moment) →
    ∀ calls, start.source.Balanced calls → start.source.items = tookOn path ++ desk.source.items

/-- A worker that a failure has brought to its end. -/
structure Fails (told : Instructions) (path : List (Beat × Worker × Desk)) (w : Worker)
    (desk : Desk) (report : WorkerReport) (failure : Failure) : Prop where
  handedIn : w.activity = .ended report
  exit : report.exit = .error failure
  final : failure.isRecoverable = false
  acknowledged : countOn path (·.wayOut.isAcknowledging) = 0
  /-- Both queues are closed. -/
  shut : desk.IsShut
  taken : told.sentinel.text ∉ tookOn path ∧ report.serviced = (tookOn path).length
  calm : ∀ s ∈ ownSteps path, s.2.1.isLetDown told s.1 = false
  announces : Announces told path w
  itemErrors : report.itemErrors = countOn path Activity.isReporting

/-- A worker that a panic has brought to its end. -/
structure Unwinds (told : Instructions) (path : List (Beat × Worker × Desk)) (w : Worker)
    (desk : Desk) : Prop where
  panicked : w.activity = .panicked
  /-- Somebody whom it has asked has panicked. -/
  letDown : ∃ s ∈ ownSteps path, s.2.1.isLetDown told s.1 = true
  acknowledged : countOn path (·.wayOut.isAcknowledging) = 0
  shut : desk.IsShut
  taken : told.sentinel.text ∉ tookOn path
  announces : announcingSteps path = []

/-- The ways in which a worker can leave. -/
inductive Departure where
  | stopped (report : WorkerReport)
  | failed (report : WorkerReport) (failure : Failure)
  | unwound

/-- Is this the way in which a worker has left that is now at this desk? -/
def Departure.Describes (told : Instructions) (start : Desk)
    (path : List (Beat × Worker × Desk)) (w : Worker) (desk : Desk) : Departure → Prop
  | .stopped report => Stops told start path w desk report
  | .failed report failure => Fails told path w desk report failure
  | .unwound => Unwinds told path w desk

/-- No two ways describe the same end. -/
theorem Departure.eq_of_describes {way way' : Departure}
    (h : way.Describes told start path w desk) (h' : way'.Describes told start path w desk) :
    way = way' := by
  -- what was handed in, and the exit in it, tell the way
  have hreport : ∀ {report report' : WorkerReport}, w.activity = .ended report →
      w.activity = .ended report' → report = report' :=
    fun heq heq' => Activity.ended.inj (heq.symm.trans heq')
  cases way with
  | stopped report =>
    cases way' with
    | stopped report' => rw [hreport h.handedIn h'.handedIn]
    | failed report' failure' =>
      obtain rfl := hreport h.handedIn h'.handedIn
      cases h.exit.symm.trans h'.exit
    | unwound => cases h.handedIn.symm.trans h'.panicked
  | failed report failure =>
    cases way' with
    | stopped report' =>
      obtain rfl := hreport h.handedIn h'.handedIn
      cases h.exit.symm.trans h'.exit
    | failed report' failure' =>
      obtain rfl := hreport h.handedIn h'.handedIn
      cases h.exit.symm.trans h'.exit
      rfl
    | unwound => cases h.handedIn.symm.trans h'.panicked
  | unwound =>
    cases way' with
    | stopped | failed => cases h'.handedIn.symm.trans h.panicked
    | unwound => rfl

namespace Recorded

variable {report : WorkerReport}

/-- What a worker has handed in is what it has on record. -/
theorem report_eq (h : Recorded told path w desk) (hactivity : w.activity = .ended report) :
    Announces told path w ∧ report.serviced = w.tally.serviced ∧
      report.itemErrors = w.tally.itemErrors := by
  have hannounced := h.announced
  unfold Announced at hannounced
  rw [hactivity] at hannounced
  obtain ⟨moment, before, desk₀, hsteps, hbefore, hw⟩ := hannounced
  have hreport : before.report (told.environment.elapsed moment) report.exit = report := by
    have hended := hactivity
    rw [hw] at hended
    exact Activity.ended.inj hended
  refine ⟨⟨moment, before, desk₀, hsteps, fun sinks => ?_⟩, ?_, ?_⟩
  · rw [step_announcing told moment hbefore, ← hw]
  · rw [← hreport, hw]
    rfl
  · rw [← hreport, hw]
    rfl

/-- A worker that has handed in its report has counted all that it has taken but the sentinel. -/
theorem serviced_eq (h : Recorded told path w desk) (hactivity : w.activity = .ended report) :
    report.serviced = ((tookOn path).filter (· ≠ told.sentinel.text)).length := by
  have hserviced := h.serviced
  rw [hactivity] at hserviced
  rw [(h.report_eq hactivity).2.1]
  exact hserviced.symm

theorem itemErrors_eq (h : Recorded told path w desk) (hactivity : w.activity = .ended report) :
    report.itemErrors = countOn path Activity.isReporting := by
  have herrors := h.itemErrors
  rw [hactivity] at herrors
  rw [(h.report_eq hactivity).2.2]
  exact herrors

/-- A worker that does not end in a panic was not let down. -/
theorem calm (h : Recorded told path w desk)
    (hending : w.activity.wayOut.ending? ≠ some .panicking) :
    ∀ s ∈ ownSteps path, s.2.1.isLetDown told s.1 = false := by
  intro s hs
  cases hletDown : s.2.1.isLetDown told s.1 with
  | false => rfl
  | true => exact absurd (h.letDown.mp ⟨s, hs, hletDown⟩) hending

theorem filter_items {sentinel : Sentinel} {items : List String} (hitems : sentinel.text ∉ items) :
    items.filter (· ≠ sentinel.text) = items :=
  List.filter_eq_self.mpr fun item hmem =>
    decide_eq_true fun heq : item = sentinel.text => hitems (heq ▸ hmem)

theorem stops (h : Recorded told path w desk) (hactivity : w.activity = .ended report)
    (hexit : report.exit = .ok ())
    (hleaves : (∀ p ∈ path, ∃ moment, p.1 = .own moment) →
      ∀ calls, start.source.Balanced calls → Alone calls start.source path w desk) :
    Stops told start path w desk report := by
  have hway : w.activity.wayOut = .ended (.ok ()) := by
    rw [hactivity, ← hexit]
    rfl
  have hending : w.activity.wayOut.ending? = none := by rw [hway]; rfl
  obtain ⟨items, hitems, htook⟩ := h.taken
  have hsentinel : w.activity.hasSentinel told.sentinel = true := by
    rw [hactivity, Activity.hasSentinel, hexit]
    rfl
  rw [hsentinel] at htook
  replace htook : tookOn path = items ++ [told.sentinel.text] := htook
  refine ⟨hactivity, hexit, ⟨items, hitems, htook, ?_⟩, ?_, h.closing hending,
    h.calm (by simp [hending]), (h.report_eq hactivity).1, h.itemErrors_eq hactivity, ?_⟩
  · rw [h.serviced_eq hactivity, htook, List.filter_append, filter_items hitems]
    simp
  · rw [h.acknowledged, hway]
    rfl
  · intro hown calls hbalanced
    exact (hleaves hown calls hbalanced).items_eq hbalanced (by rw [htook]; simp)

theorem fails (h : Recorded told path w desk) (hactivity : w.activity = .ended report)
    {failure : Failure} (hexit : report.exit = .error failure) :
    Fails told path w desk report failure := by
  have hway : w.activity.wayOut = .ended (.error failure) := by
    rw [hactivity, ← hexit]
    rfl
  have hending : w.activity.wayOut.ending? = some (.failing failure) := by rw [hway]; rfl
  obtain ⟨items, hitems, htook⟩ := h.taken
  have hsentinel : w.activity.hasSentinel told.sentinel = false := by
    rw [hactivity, Activity.hasSentinel, hexit]
    rfl
  rw [hsentinel] at htook
  replace htook : tookOn path = items := htook.trans (List.append_nil _)
  have hshut := h.shut
  rw [hactivity] at hshut
  refine ⟨hactivity, hexit, h.final failure hending, ?_, hshut (by simp [hexit]),
    ⟨htook ▸ hitems, ?_⟩, h.calm (by simp [hending]), (h.report_eq hactivity).1,
    h.itemErrors_eq hactivity⟩
  · rw [h.acknowledged, hway]
    rfl
  · rw [h.serviced_eq hactivity, htook, filter_items hitems]

theorem unwinds (h : Recorded told path w desk) (hactivity : w.activity = .panicked) :
    Unwinds told path w desk := by
  obtain ⟨items, hitems, htook⟩ := h.taken
  have hannounced := h.announced
  have hacknowledged := h.acknowledged
  have hshut := h.shut
  unfold Announced at hannounced
  rw [hactivity] at hannounced hacknowledged hshut htook
  refine ⟨hactivity, h.letDown.mpr (by rw [hactivity]; rfl), hacknowledged, hshut, ?_, hannounced⟩
  rw [htook]
  simpa [Activity.hasSentinel] using hitems

end Recorded

/-- **A worker leaves in exactly one of three ways.** It begins at any desk, with queues, stage and
sinks in whatever state; others may do there what they like between any two of its steps, and whom
it asks may answer as they like. -/
theorem departs_of_path
    (hpath : Path (stepAmong told) ({ name := name, stage := stage, output := output }, start) path
      (w, desk)) (hover : w.isOver = true) :
    ∃! way : Departure, way.Describes told start path w desk := by
  have hrecorded := recorded_of_path hpath
  refine existsUnique_of_exists_of_unique ?_ fun way way' => Departure.eq_of_describes
  unfold isOver at hover
  split at hover
  · next report hactivity =>
    cases hexit : report.exit with
    | ok =>
      exact ⟨.stopped report, hrecorded.stops hactivity hexit fun hown calls hbalanced =>
        alone_of_path hbalanced hpath hown⟩
    | error failure => exact ⟨.failed report failure, hrecorded.fails hactivity hexit⟩
  · next hactivity => exact ⟨.unwound, hrecorded.unwinds hactivity⟩
  · contradiction

/-- A requester that nobody follows takes a file, its sentinel and nothing behind it. Meanwhile a
third item is put, and before the summary line is written the device behind the sinks is full. -/
theorem departs_of_path_disk_full :
    let told : Instructions :=
      { sentinel := .standard
        notResolved := "-"
        environment := .steady (fun _ => .opened [.line " x ", .failed .notUtf8])
          (fun _ => .panicked) {} }
    let source : Queue :=
      { Queue.ofGeometry "files" 4 8 with
        ring := { slots := ["a", Sentinel.standard.text, "", ""], tail := 2, count := 2 }
        free := { permits := 2 }
        filled := { permits := 2 } }
    let start : Desk :=
      { source := source
        target := none
        shutdown := Shutdown.start "requester" 1
        sinks := .ofDevices fun _ => .memory }
    ∃ path w desk, Path (stepAmong told)
        ({ name := "requester-0", stage := .requester, output := .requesterLog }, start) path
        (w, desk) ∧
      desk.source.items = ["b"] ∧ w.tally = { serviced := 1, itemErrors := 1 } ∧
      ∃! way : Departure, way.Describes told start path w desk := by
  intro told source start
  let full : Sinks := .ofDevices fun _ => { refuses := fun _ _ => some (.system 28) }
  let put : PutCall → Beat := fun call => .others (.onSource (.put call))
  have hfollow : (Path.follow (stepAmong told)
      ((List.range 9).map Beat.own ++
        [put (.entering "b"), put (.admitted "b"), put .stored] ++
        (List.range 4).map Beat.own ++ [.others (.onSinks full), .own 13])
      ({ name := "requester-0", stage := .requester, output := .requesterLog }, start)).map
        (fun s => (s.1.isOver, s.2.source.items, s.1.tally)) =
      some (true, ["b"], { serviced := 1, itemErrors := 1 }) := by
    decide +kernel
  obtain ⟨⟨w, desk⟩, hend, hall⟩ := Option.map_eq_some_iff.mp hfollow
  obtain ⟨hover, hrest⟩ := Prod.mk.inj hall
  obtain ⟨hitems, htally⟩ := Prod.mk.inj hrest
  obtain ⟨path, hpath⟩ := Path.of_follow hend
  exact ⟨path, w, desk, hpath, hitems, htally, departs_of_path hpath hover⟩

end Path

end Worker

end HostLookup
