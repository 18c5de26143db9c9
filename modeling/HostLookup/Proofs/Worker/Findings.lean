import HostLookup.Proofs.Worker.Departures
import Mathlib.Algebra.GroupWithZero.Nat

/-!
# What a worker deals with, line by line

A requester turns the answer to its question into findings: host names that it hands on and logs,
and failures that it reports. It deals with them in the order in which they stand in the file, each
of them once, whether or not the sinks take its lines. A line that its log refuses makes one more
report, and nothing else; a report that is refused makes nothing at all.

* **`Activity.ahead`**: what a worker has been answered and not dealt with yet.
* **`Worker.Moves.deals`**: a step deals with the first of it, and only an answer adds to it.
* **`Worker.Dealt`** is what a path comes to, from whatever worker it starts, and
  **`Worker.dealt_of_path`** says that every path keeps to it.
-/

namespace HostLookup

/-! ## Answers and findings

What is ahead of a worker is told by the place at which it stands: the finding that it has at hand,
and those in the rest of the file. A refused line is reported as well, but it is no finding of the
file. -/

namespace Reply

/-- Has nobody who was asked panicked, on the spot or later on in the file? -/
def Calm : Reply → Prop
  | .opened _ opening => opening.Readable
  | .lookedUp _ answer => answer ≠ .panicked

instance : DecidablePred Calm
  | .opened _ opening => inferInstanceAs (Decidable opening.Readable)
  | .lookedUp _ answer => inferInstanceAs (Decidable (answer ≠ .panicked))

/-- What a requester finds in an answer. -/
def findings (t : Terms) : Reply → List Finding
  | .opened file (.refused failure) => [.fault (.io file failure)]
  | .opened file (.opened events) => t.findings file 1 events
  | .opened _ .panicked | .lookedUp .. => []

end Reply

/-- Has a sink refused a line? -/
def Failure.isRefusal : Failure → Bool
  | .sink _ => true
  | _ => false

/-- What is ahead in a data file that is being read. -/
def Reading.ahead (t : Terms) (file : Reading) : List Finding :=
  t.findings file.file file.line file.rest

namespace Activity

/-- What a worker has been answered and not dealt with yet. -/
def ahead (t : Terms) : Activity → List Finding
  | .reading file => file.ahead t
  | .offering host (.entering _) file => t.screen host :: file.ahead t
  | .offering host _ file => .host host :: file.ahead t
  | .logging line (some file) => .host line :: file.ahead t
  | .reporting failure file =>
    (if failure.isRefusal then [] else [.fault failure]) ++ file.toList.flatMap (Reading.ahead t)
  | _ => []

/-- What a worker deals with by its next step: the host name that it logs, or the failure that it
reports, unless that is the refusal of another line. -/
def dealing : Activity → List Finding
  | .logging line (some _) => [.host line]
  | .reporting failure _ => if failure.isRefusal then [] else [.fault failure]
  | _ => []

/-- The host name that was put and is not logged yet. -/
def pending : Activity → List String
  | .offering host .stored _ => [host]
  | .logging line (some _) => [line]
  | _ => []

/-- Is the worker about to report that its log has refused a line? -/
def isComplaint : Activity → Bool
  | .reporting failure _ => failure.isRefusal
  | _ => false

/-- A report is about one thing that the worker deals with, or about a refused line. -/
theorem isReporting_toNat (a : Activity) :
    a.isReporting.toNat =
      (a.dealing.filterMap Finding.fault?).length + a.isComplaint.toNat := by
  cases a with
  | logging line file => cases file <;> rfl
  | reporting failure file =>
    cases hrefusal : failure.isRefusal <;>
      simp [isReporting, dealing, isComplaint, hrefusal, Finding.fault?]
  | _ => rfl

end Activity

namespace Desk

/-- The queue that is handed on to is open, if there is one. -/
def IsTargetOpen (desk : Desk) : Prop :=
  ∀ target, desk.target = some target → target.ring.closed = false ∧ target.free.closed = false

instance : DecidablePred IsTargetOpen := fun desk =>
  inferInstanceAs (Decidable (∀ target ∈ desk.target, _))

/-- The queues that a worker may use by its next step are open. -/
structure IsOpenTo (desk : Desk) (a : Activity) : Prop where
  source : a.sourceCall.isSome = true →
    desk.source.ring.closed = false ∧ desk.source.filled.closed = false
  target : desk.IsTargetOpen

/-- Nobody else changes the size of the slots that a worker hands on to. -/
theorem limit_of_disturb {desk desk' : Desk} {disturbance : Disturbance}
    (h : desk.disturb disturbance = some desk') :
    desk'.target.map Queue.maxItemLength = desk.target.map Queue.maxItemLength := by
  cases disturbance with
  | onSource call =>
    obtain ⟨⟨progress, source⟩, -, rfl⟩ := Option.map_eq_some_iff.mp h
    rfl
  | onTarget call =>
    obtain ⟨target, htarget, h⟩ := Option.bind_eq_some_iff.mp h
    obtain ⟨⟨progress, target'⟩, hstep, rfl⟩ := Option.map_eq_some_iff.mp h
    have hturn : target.Turn (some call) _ target' := .step rfl hstep
    rw [htarget, Option.map_some, Option.map_some, Queue.maxItemLength, Queue.maxItemLength,
      hturn.geometry.2.2]
  | onStage | onSinks =>
    cases h
    rfl

end Desk

namespace Worker

variable {told : Instructions} {moment : Nat} {w w' : Worker} {desk desk' : Desk} {t : Terms}

/-! ## Dealing with findings, step by step

One lemma for each way of going on, as in the loop of the worker. Each says that what is dealt with
now and what is ahead then make up what was ahead before. -/

/-- Has the log refused the line of this step? -/
def isRefused (w : Worker) (desk : Desk) : Bool :=
  match w.activity with
  | .logging line _ => !(desk.sinks.writeLine w.output line).1.isOk
  | _ => false

/-- Back at its file, a worker has the rest of it ahead. -/
theorem ahead_resume (t : Terms) (file : Option Reading) :
    (resume file).ahead t = file.toList.flatMap (Reading.ahead t) := by
  cases file with
  | none => rfl
  | some file => exact (List.flatMap_singleton ..).symm

/-- Where a step of a worker leads, as far as its findings go. -/
structure Deals (t : Terms) (found : List Finding) (w w' : Worker) : Prop where
  steady : t.Steady w'.activity
  findings : w.activity.dealing ++ w'.activity.ahead t = w.activity.ahead t ++ found

/-- A failure is ahead until it is reported; a refused line was none of the findings. -/
theorem deals_raise {failure : Failure} {file : Option Reading} {found : List Finding}
    (hrecoverable : failure.isRecoverable = true)
    (hsteady : ∀ reading ∈ file, .panicked ∉ reading.rest)
    (hahead : w.activity.ahead t ++ found = w.activity.dealing ++
      ((if failure.isRefusal then [] else [.fault failure]) ++
        file.toList.flatMap (Reading.ahead t))) :
    Deals t found w (w.raise failure file) := by
  unfold raise
  rw [if_pos hrecoverable]
  exact ⟨hsteady, hahead.symm⟩

/-- The answer to an open file is what is ahead from then on. -/
theorem deals_takeUp {file : String} {opening : Opening} (hactivity : w.activity = .opening file)
    (hreadable : opening.Readable) :
    Deals t ((Reply.opened file opening).findings t) w (w.takeUp file opening) := by
  cases opening with
  | refused failure =>
    refine deals_raise rfl (by simp) ?_
    rw [hactivity]
    rfl
  | opened events =>
    refine ⟨hreadable, ?_⟩
    rw [hactivity]
    rfl
  | panicked => exact hreadable.elim

/-- A host name that can be handed on stays ahead, and one that cannot becomes a failure. -/
theorem deals_handOn {host : String} {file : Reading} {hasTarget : Bool}
    (htarget : hasTarget = t.limit.isSome) (hreadable : .panicked ∉ file.rest)
    (hdealing : w.activity.dealing = [])
    (hahead : w.activity.ahead t = t.screen host :: file.ahead t) :
    Deals t [] w (w.handOn t.sentinel hasTarget host file) := by
  unfold handOn
  split
  · next hmarks =>
    refine deals_raise rfl (by simpa using hreadable) ?_
    rw [hahead, hdealing, t.screen_of_marks hmarks]
    simp [reserved, Failure.isRefusal]
  · next hmarks =>
    split
    · next hsome =>
      refine ⟨⟨htarget ▸ hsome, hreadable⟩, ?_⟩
      rw [hahead, hdealing, List.append_nil]
      rfl
    · next hnone =>
      have hlimit : t.limit = none := by simpa [htarget] using hnone
      refine ⟨by simpa [Terms.Steady] using hreadable, ?_⟩
      rw [hahead, hdealing, t.screen_of_limit_none (by simpa using hmarks) hlimit, List.append_nil]
      rfl

/-- To read a line is to turn it into a finding, or into none. -/
theorem deals_read {file : Reading} {hasTarget : Bool} (hactivity : w.activity = .reading file)
    (htarget : hasTarget = t.limit.isSome) (hreadable : .panicked ∉ file.rest) :
    Deals t [] w (w.read t.sentinel hasTarget file) := by
  have hahead : w.activity.ahead t = t.findings file.file file.line file.rest := by
    rw [hactivity]
    rfl
  have hdealing : w.activity.dealing = [] := by rw [hactivity]; rfl
  unfold read
  split
  · next hrest =>
    refine ⟨trivial, ?_⟩
    rw [hahead, hrest, hdealing]
    rfl
  · -- one line more: text, or a failure that ends the line or the file
    next event rest hrest =>
    rw [hrest] at hreadable hahead
    have hlater : .panicked ∉ rest := fun hmem => hreadable (List.mem_cons_of_mem _ hmem)
    split
    · next text =>
      split
      · next hblank =>
        refine ⟨hlater, ?_⟩
        rw [hahead, Terms.findings, hblank, hdealing, List.append_nil]
        rfl
      · next host hhost =>
        refine deals_handOn htarget hlater hdealing ?_
        rw [hahead, Terms.findings, hhost]
        rfl
    · next failure =>
      split
      · next hkind =>
        refine deals_raise rfl (by simpa using hlater) ?_
        rw [hahead, Terms.findings, if_pos hkind, hdealing]
        simp [Failure.isRefusal, Reading.ahead]
      · next hkind =>
        -- a failure that ends the file: nothing else is ahead in it
        refine deals_raise rfl (by simp) ?_
        rw [hahead, Terms.findings, if_neg hkind, hdealing]
        rfl
    · exact absurd List.mem_cons_self hreadable

/-- While its `put` goes on the host name is still ahead. -/
theorem deals_offer {host : String} {call call' : PutCall} {file : Reading} {target target' : Queue}
    (hactivity : w.activity = .offering host call file)
    (hmove : PutCall.Moves target call (.goesOn call') target')
    (hlimit : t.limit = some target.maxItemLength)
    (hsteady : t.Steady w.activity) (hoffers : Offers t.sentinel w.activity) :
    Deals t [] w { w with activity := .offering host call' file } := by
  rw [hactivity] at hoffers hsteady
  refine ⟨hsteady, ?_⟩
  rw [hactivity, List.append_nil]
  cases hmove with
  | @enter item left hfits =>
    -- only now it is certain that the host name is not too long
    obtain rfl := hoffers.2 item rfl
    simp only [Activity.ahead, Activity.dealing, List.nil_append]
    rw [t.screen_of_le hoffers.1 hlimit ((Queue.fits_iff _ _).mp hfits)]
  | store => rfl

/-- A `put` at an open queue returns with the host name put, or with its length refused. -/
theorem deals_offered {host : String} {call : PutCall} {file : Reading}
    {result : Except QueueError Unit} {target target' : Queue}
    (hactivity : w.activity = .offering host call file)
    (hmove : PutCall.Moves target call (.returns result) target')
    (hopen : target.ring.closed = false ∧ target.free.closed = false)
    (hlimit : t.limit = some target.maxItemLength)
    (hsteady : t.Steady w.activity) (hoffers : Offers t.sentinel w.activity) :
    Deals t [] w (w.offered host file result) := by
  rw [hactivity] at hoffers hsteady
  cases hmove with
  | @tooLarge item hsize =>
    obtain rfl := hoffers.2 item rfl
    have hlt : target.maxItemLength < item.utf8ByteSize := by simpa [Queue.fits] using hsize
    refine deals_raise rfl (by simpa using hsteady.2) ?_
    rw [hactivity]
    simp only [Activity.ahead, Activity.dealing]
    rw [t.screen_of_lt hoffers.1 hlimit hlt]
    simp [refusal, Failure.isRefusal]
  | refused hclosed => simp [hopen.2] at hclosed
  | bounce hclosed => simp [hopen.1] at hclosed
  | finish =>
    refine ⟨by simpa [offered, Terms.Steady] using hsteady.2, ?_⟩
    rw [hactivity, List.append_nil]
    rfl

/-- A resolver finds nothing in an answer. -/
theorem deals_lookedUp {host : String} {answer : Lookup} (hactivity : w.activity = .resolving host)
    (hcalm : answer ≠ .panicked) (notResolved : String) :
    Deals t [] w (w.lookedUp notResolved host answer) := by
  cases answer with
  | found | failed =>
    refine ⟨by simp [lookedUp, Terms.Steady], ?_⟩
    rw [hactivity]
    rfl
  | panicked => exact absurd rfl hcalm

/-- Whether or not the log takes the line, the worker is done with it. -/
theorem deals_logged {line : String} {file : Option Reading} {result : Except SinkError Unit}
    (hactivity : w.activity = .logging line file)
    (hresult : ∀ error, result = .error error → ∃ sink source, error = .write sink source)
    (hsteady : ∀ reading ∈ file, .panicked ∉ reading.rest) :
    Deals t [] w (w.logged file result) := by
  have hahead : w.activity.ahead t =
      w.activity.dealing ++ file.toList.flatMap (Reading.ahead t) := by
    rw [hactivity]
    cases file with
    | none => rfl
    | some file => simp [Activity.ahead, Activity.dealing]
  cases result with
  | ok =>
    refine ⟨?_, ?_⟩
    · cases file with
      | none => trivial
      | some file => exact hsteady file rfl
    · rw [hahead, List.append_nil]
      exact congrArg _ (ahead_resume t file)
  | error error =>
    obtain ⟨sink, source, rfl⟩ := hresult error rfl
    refine deals_raise rfl hsteady ?_
    rw [hahead, List.append_nil]
    rfl

/-- A report deals with the failure. -/
theorem deals_report {failure : Failure} {file : Option Reading}
    (hactivity : w.activity = .reporting failure file)
    (hsteady : ∀ reading ∈ file, .panicked ∉ reading.rest) :
    Deals t [] w { w with activity := resume file } := by
  refine ⟨?_, ?_⟩
  · cases file with
    | none => trivial
    | some file => exact hsteady file rfl
  · dsimp only
    rw [hactivity, ahead_resume, List.append_nil]
    rfl

/-- A step at which a worker has nothing ahead. -/
theorem deals_nothing (hsteady : t.Steady w'.activity) (hdealing : w.activity.dealing = [])
    (hbefore : w.activity.ahead t = []) (hafter : w'.activity.ahead t = []) : Deals t [] w w' :=
  ⟨hsteady, by rw [hdealing, hbefore, hafter]⟩

/-- A line that is refused while no sink is released was refused by a device. -/
theorem write_of_live {sinks : Sinks} {sink : Sink} {line : String} (hlive : sinks.Live)
    (error : SinkError) (herror : (sinks.writeLine sink line).1 = .error error) :
    ∃ other source, error = .write other source := by
  rcases Sinks.error_of_writeLine herror with ⟨-, hreleased⟩ | ⟨failure, rfl, -⟩
  · rw [hlive] at hreleased
    contradiction
  · exact ⟨sink, failure, rfl⟩

/-- **A step deals with the first thing that is ahead**, if it deals with anything. Nothing but an
answer adds to what is ahead. -/
theorem Moves.deals (h : Moves told moment w desk w' desk') (hsentinel : told.sentinel = t.sentinel)
    (hlimit : desk.target.map Queue.maxItemLength = t.limit) (hopen : desk.IsOpenTo w.activity)
    (hlive : desk.sinks.Live) (hcalm : ∀ reply ∈ w.reply? told moment, reply.Calm)
    (hsteady : t.Steady w.activity) (hoffers : Offers t.sentinel w.activity) :
    Deals t ((w.reply? told moment).toList.flatMap (Reply.findings t)) w w' := by
  have hfits : ∀ {target : Queue}, desk.target = some target →
      t.limit = some target.maxItemLength := by
    intro target htarget
    rw [← hlimit, htarget]
    rfl
  -- most steps are answered nothing
  have hquiet : ∀ {w' : Worker}, w.reply? told moment = none → Deals t [] w w' →
      Deals t ((w.reply? told moment).toList.flatMap (Reply.findings t)) w w' := by
    intro w' hreply hdeals
    rw [hreply]
    exact hdeals
  -- one case for each kind of step, with its lemma from above
  cases h with
  | take hactivity =>
    exact hquiet (by rw [reply?, hactivity])
      (deals_nothing trivial (by rw [hactivity]; rfl) (by rw [hactivity]; rfl) rfl)
  | @receive call item source hactivity =>
    refine hquiet (by rw [reply?, hactivity])
      (deals_nothing ?_ (by rw [hactivity]; rfl) (by rw [hactivity]; rfl) ?_)
    · unfold begin
      split
      · trivial
      · cases w.stage <;> trivial
    · unfold begin
      split
      · rfl
      · cases w.stage <;> rfl
  | starve hactivity hstep =>
    -- the queue would have to be closed
    exfalso
    obtain ⟨hring, hfilled⟩ := hopen.source (by rw [hactivity]; rfl)
    cases GetCall.moves_of_step hstep with
    | refused hclosed => simp [hfilled] at hclosed
    | bounce hclosed => simp [hring] at hclosed
  | acknowledge hactivity =>
    exact hquiet (by rw [reply?, hactivity])
      (deals_nothing rfl (by rw [hactivity]; rfl) (by rw [hactivity]; rfl) rfl)
  | @openFile file hactivity =>
    have hreply : w.reply? told moment =
        some (.opened file (told.environment.opening moment file)) := by rw [reply?, hactivity]
    rw [hreply, Option.toList_some, List.flatMap_singleton]
    exact deals_takeUp hactivity (hcalm _ hreply)
  | read hactivity =>
    rw [hactivity] at hsteady
    rw [hsentinel]
    exact hquiet (by rw [reply?, hactivity])
      (deals_read hactivity (by rw [← hlimit, Option.isSome_map]) hsteady)
  | keep hactivity htarget =>
    -- a host name is only offered where there is somebody to take it
    exfalso
    rw [hactivity] at hsteady
    have hsome := hsteady.1
    rw [← hlimit, htarget] at hsome
    contradiction
  | offer hactivity htarget hstep =>
    exact hquiet (by rw [reply?, hactivity])
      (deals_offer hactivity (PutCall.moves_of_step hstep) (hfits htarget) hsteady hoffers)
  | offered hactivity htarget hstep =>
    exact hquiet (by rw [reply?, hactivity])
      (deals_offered hactivity (PutCall.moves_of_step hstep) (hopen.target _ htarget)
        (hfits htarget) hsteady hoffers)
  | @lookUp host hactivity =>
    have hreply : w.reply? told moment =
        some (.lookedUp host (told.environment.lookup moment host)) := by rw [reply?, hactivity]
    have hanswer : told.environment.lookup moment host ≠ .panicked := hcalm _ hreply
    rw [hreply, Option.toList_some, List.flatMap_singleton]
    exact deals_lookedUp hactivity hanswer _
  | log hactivity =>
    rw [hactivity] at hsteady
    exact hquiet (by rw [reply?, hactivity]) (deals_logged hactivity (write_of_live hlive) hsteady)
  | report hactivity =>
    rw [hactivity] at hsteady
    exact hquiet (by rw [reply?, hactivity]) (deals_report hactivity hsteady)
  | closeSource hactivity | closedSource hactivity | conclude hactivity | closeTarget hactivity
  | closedTarget hactivity =>
    -- a steady worker closes nothing
    rw [hactivity] at hsteady
    exact hsteady.elim
  | announce hactivity =>
    rw [hactivity] at hsteady
    obtain rfl := hsteady
    exact hquiet (by rw [reply?, hactivity])
      (deals_nothing rfl (by rw [hactivity]; rfl) (by rw [hactivity]; rfl) rfl)

/-! ## Puts and complaints

A host name is put before it is logged, and between the two the worker does nothing else. A refused
line is reported in the step after, before anything ahead is dealt with. -/

theorem pending_raise (w : Worker) (failure : Failure) (file : Option Reading) :
    (w.raise failure file).activity.pending = [] := by
  unfold raise
  split <;> rfl

theorem pending_refused (w : Worker) (host : String) (file : Reading) (error : QueueError) :
    (w.offered host file (.error error)).activity.pending = [] :=
  pending_raise w (refusal host error) (some file)

theorem pending_resume (file : Option Reading) : (resume file).pending = [] := by
  cases file <;> rfl

theorem pending_begin (w : Worker) (sentinel : Sentinel) (item : String) :
    (w.begin sentinel item).activity.pending = [] := by
  unfold begin
  split
  · rfl
  · cases w.stage <;> rfl

/-- A host name that is read is to be put before anything else. -/
theorem pending_read (w : Worker) (sentinel : Sentinel) (file : Reading) :
    (w.read sentinel true file).activity.pending = [] := by
  unfold read handOn
  repeat' split
  all_goals first | rfl | exact pending_raise w _ _ | contradiction

/-- **Host names are logged in the order in which they are put.** -/
theorem Moves.pending (h : Moves told moment w desk w' desk') (hsome : desk.target.isSome = true)
    (hoffers : Offers told.sentinel w.activity) :
    w.activity.pending ++ w.puts desk =
      w.activity.dealing.filterMap Finding.host? ++ w'.activity.pending := by
  -- most steps put nothing and log nothing
  have hquiet : ∀ {w' : Worker}, w.activity.targetCall = none → w.activity.pending = [] →
      w.activity.dealing = [] → w'.activity.pending = [] →
      w.activity.pending ++ w.puts desk =
        w.activity.dealing.filterMap Finding.host? ++ w'.activity.pending := by
    intro w' hidle hbefore hdealing hafter
    rw [hbefore, hdealing, hafter, puts_of_phase w desk (by rw [hidle]; rfl)]
    rfl
  have hclose : ∀ {call : CloseCall} {ending : Ending} {w' : Worker},
      w.activity = .closingTarget call ending → w'.activity.pending = [] →
      w.activity.pending ++ w.puts desk =
        w.activity.dealing.filterMap Finding.host? ++ w'.activity.pending := by
    intro call ending w' hactivity hafter
    have hputs : w.puts desk = [] := by
      unfold puts
      rw [hactivity]
      cases desk.target <;> rfl
    rw [hputs, hafter, hactivity]
    rfl
  cases h with
  | take hactivity | starve hactivity | acknowledge hactivity | closeSource hactivity
  | closedSource hactivity | announce hactivity =>
    exact hquiet (by rw [hactivity]; rfl) (by rw [hactivity]; rfl) (by rw [hactivity]; rfl) rfl
  | receive hactivity =>
    exact hquiet (by rw [hactivity]; rfl) (by rw [hactivity]; rfl) (by rw [hactivity]; rfl)
      (pending_begin w _ _)
  | @openFile file hactivity =>
    refine hquiet (by rw [hactivity]; rfl) (by rw [hactivity]; rfl) (by rw [hactivity]; rfl) ?_
    cases told.environment.opening moment file with
    | refused => exact pending_raise w _ _
    | opened | panicked => rfl
  | read hactivity =>
    rw [hsome]
    exact hquiet (by rw [hactivity]; rfl) (by rw [hactivity]; rfl) (by rw [hactivity]; rfl)
      (pending_read w _ _)
  | keep hactivity hnone =>
    rw [hnone] at hsome
    contradiction
  | @offer host call call' file target target' hactivity htarget hstep =>
    have hmove := PutCall.moves_of_step hstep
    rw [hactivity] at hoffers
    rw [puts_of_target w htarget, hactivity]
    refine (congrArg _ hmove.stored).trans ?_
    cases hmove with
    | enter => rfl
    | @store item ring =>
      obtain rfl := hoffers.2 item rfl
      rfl
  | @offered host call file result target target' hactivity htarget hstep =>
    have hmove := PutCall.moves_of_step hstep
    rw [puts_of_target w htarget, hactivity]
    refine (congrArg _ hmove.stored).trans ?_
    cases hmove with
    | tooLarge | refused | bounce =>
      rw [pending_refused]
      rfl
    | finish => rfl
  | @lookUp host hactivity =>
    refine hquiet (by rw [hactivity]; rfl) (by rw [hactivity]; rfl) (by rw [hactivity]; rfl) ?_
    cases told.environment.lookup moment host <;> rfl
  | @log line file hactivity =>
    have hafter : (w.logged file (desk.sinks.writeLine w.output line).1).activity.pending = [] := by
      cases (desk.sinks.writeLine w.output line).1 with
      | ok => exact pending_resume file
      | error => exact pending_raise w _ _
    rw [hafter, puts_of_phase w desk (by rw [hactivity]; rfl), hactivity]
    cases file <;> rfl
  | @report failure file hactivity =>
    have hdealing : w.activity.dealing.filterMap Finding.host? = [] := by
      rw [hactivity, Activity.dealing]
      split <;> rfl
    dsimp only
    rw [hdealing, pending_resume, puts_of_phase w desk (by rw [hactivity]; rfl), hactivity]
    rfl
  | @conclude call ending hactivity | @closedTarget call first ending target target' hactivity =>
    refine hclose hactivity ?_
    cases ending <;> rfl
  | closeTarget hactivity => exact hclose hactivity rfl

/-- A failure other than a refusal is not complained about. -/
theorem isComplaint_raise (w : Worker) {failure : Failure} (file : Option Reading)
    (hrefusal : failure.isRefusal = false) :
    (w.raise failure file).activity.isComplaint = false := by
  unfold raise
  split
  · exact hrefusal
  · rfl

theorem isComplaint_resume (file : Option Reading) : (resume file).isComplaint = false := by
  cases file <;> rfl

/-- Nothing in a file is a complaint. -/
theorem isComplaint_read (w : Worker) (sentinel : Sentinel) (hasTarget : Bool) (file : Reading) :
    (w.read sentinel hasTarget file).activity.isComplaint = false := by
  unfold read handOn
  repeat' split
  all_goals rfl

/-- **A worker complains about a line right after the log has refused it**, and never else. -/
theorem Moves.isComplaint (h : Moves told moment w desk w' desk') (hlive : desk.sinks.Live) :
    w'.activity.isComplaint = w.isRefused desk := by
  cases h with
  | @log line file hactivity =>
    rw [isRefused, hactivity]
    dsimp only
    cases hresult : (desk.sinks.writeLine w.output line).1 with
    | ok => exact isComplaint_resume file
    | error error =>
      obtain ⟨sink, source, rfl⟩ := write_of_live hlive error hresult
      rfl
  | @receive call item source hactivity =>
    rw [isRefused, hactivity]
    unfold begin
    split
    · rfl
    · cases w.stage <;> rfl
  | @openFile file hactivity =>
    rw [isRefused, hactivity]
    cases told.environment.opening moment file with
    | refused => exact isComplaint_raise w _ rfl
    | opened | panicked => rfl
  | read hactivity =>
    rw [isRefused, hactivity]
    exact isComplaint_read w _ _ _
  | @offered host call file result target target' hactivity =>
    rw [isRefused, hactivity]
    cases result with
    | ok => rfl
    | error error => cases error <;> exact isComplaint_raise w _ rfl
  | @lookUp host hactivity =>
    rw [isRefused, hactivity]
    cases told.environment.lookup moment host <;> rfl
  | @report failure file hactivity =>
    rw [isRefused, hactivity]
    exact isComplaint_resume file
  | @conclude call ending hactivity | @closedTarget call first ending target target' hactivity =>
    rw [isRefused, hactivity]
    cases ending <;> rfl
  | take hactivity | starve hactivity | acknowledge hactivity | keep hactivity | offer hactivity
  | closeSource hactivity | closedSource hactivity | closeTarget hactivity | announce hactivity =>
    rw [isRefused, hactivity]
    rfl

/-- Nor does the worker itself. -/
theorem Moves.limit_eq (h : Moves told moment w desk w' desk') :
    desk'.target.map Queue.maxItemLength = desk.target.map Queue.maxItemLength := by
  have hsome := h.isSome_target
  cases htarget : desk.target with
  | none =>
    rw [htarget] at hsome
    rw [Option.isNone_iff_eq_none.mp (Option.isSome_eq_false_iff.mp hsome)]
  | some target =>
    rw [htarget] at hsome
    obtain ⟨target', htarget'⟩ := Option.isSome_iff_exists.mp hsome
    have hslot := (h.target_turn htarget htarget').geometry.2.2
    rw [htarget', Option.map_some, Option.map_some, Queue.maxItemLength, Queue.maxItemLength, hslot]

/-! ## What a path comes to

The steps of the worker itself are picked out of a path, and whatever others do to its desk between
them does not count. -/

variable {path : List (Beat × Worker × Desk)} {w₀ : Worker}

/-- A step of the worker is a step of the path. -/
theorem mem_of_mem_ownSteps {s : Nat × Worker × Desk} (h : s ∈ ownSteps path) :
    (.own s.1, s.2) ∈ path := by
  obtain ⟨p, hmem, hown⟩ := List.mem_filterMap.mp h
  obtain ⟨beat, at_⟩ := p
  cases beat with
  | own moment => exact Option.some.inj hown ▸ hmem
  | others => contradiction

/-- What the world has answered to the worker. -/
def repliesOn (told : Instructions) (path : List (Beat × Worker × Desk)) : List Reply :=
  (ownSteps path).flatMap fun s => (s.2.1.reply? told s.1).toList

/-- The host names that the worker has put. -/
def putsOn (path : List (Beat × Worker × Desk)) : List String :=
  (ownSteps path).flatMap fun s => s.2.1.puts s.2.2

/-- The findings that the worker has dealt with. -/
def dealtOn (path : List (Beat × Worker × Desk)) : List Finding :=
  (ownSteps path).flatMap fun s => s.2.1.activity.dealing

/-- How many lines the log has refused. -/
def refusedOn (path : List (Beat × Worker × Desk)) : Nat :=
  (ownSteps path).countP fun s => s.2.1.isRefused s.2.2

/-- A step of the worker adds the answer that it is given. -/
theorem repliesOn_own (told : Instructions) (path : List (Beat × Worker × Desk)) (moment : Nat)
    (w : Worker) (desk : Desk) : repliesOn told (path ++ [(.own moment, w, desk)]) =
      repliesOn told path ++ (w.reply? told moment).toList := by
  rw [repliesOn, ownSteps_own, List.flatMap_append, List.flatMap_singleton]
  rfl

/-- It adds the host name that it puts. -/
theorem putsOn_own (path : List (Beat × Worker × Desk)) (moment : Nat) (w : Worker) (desk : Desk) :
    putsOn (path ++ [(.own moment, w, desk)]) = putsOn path ++ w.puts desk := by
  rw [putsOn, ownSteps_own, List.flatMap_append, List.flatMap_singleton]
  rfl

/-- It adds the finding that it deals with. -/
theorem dealtOn_own (path : List (Beat × Worker × Desk)) (moment : Nat) (w : Worker)
    (desk : Desk) :
    dealtOn (path ++ [(.own moment, w, desk)]) = dealtOn path ++ w.activity.dealing := by
  rw [dealtOn, ownSteps_own, List.flatMap_append, List.flatMap_singleton]
  rfl

/-- It adds a refusal, if the log refuses its line. -/
theorem refusedOn_own (path : List (Beat × Worker × Desk)) (moment : Nat) (w : Worker)
    (desk : Desk) : refusedOn (path ++ [(.own moment, w, desk)]) =
      refusedOn path + (w.isRefused desk).toNat := by
  rw [refusedOn, ownSteps_own, List.countP_append, List.countP_singleton]
  cases w.isRefused desk <;> rfl

/-- What a worker has come to that has started as `w₀`. -/
structure Dealt (t : Terms) (told : Instructions) (w₀ : Worker)
    (path : List (Beat × Worker × Desk)) (w : Worker) (desk : Desk) : Prop where
  stage : w.stage = w₀.stage
  limit : desk.target.map Queue.maxItemLength = t.limit
  steady : t.Steady w.activity
  offers : Offers t.sentinel w.activity
  asker : ∀ own, w.activity.asker = some own → own = w.stage
  /-- It has dealt with what was ahead and with what it was answered, up to what is ahead now. -/
  findings : dealtOn path ++ w.activity.ahead t =
    w₀.activity.ahead t ++ (repliesOn told path).flatMap (Reply.findings t)
  /-- It has asked about what it had in hand and what it has taken, up to what it has in
  hand now. -/
  items : w₀.activity.inHand told.sentinel ++
      (tookOn path).filter (· ≠ told.sentinel.text) =
    (repliesOn told path).map Reply.item ++ w.activity.inHand told.sentinel
  asked : ∀ reply ∈ repliesOn told path, reply.stage = w₀.stage
  /-- It has put what it has logged, and what it is about to log. -/
  puts : t.limit.isSome = true → w₀.activity.pending ++ putsOn path =
    (dealtOn path).filterMap Finding.host? ++ w.activity.pending
  noPuts : t.limit = none → putsOn path = []
  serviced : w.tally.serviced + w₀.activity.asker.toList.length =
    w₀.tally.serviced + (repliesOn told path).length + w.activity.asker.toList.length
  produced : w₀.tally.produced + w₀.activity.uncounted + (putsOn path).length =
    w.tally.produced + w.activity.uncounted
  misses : w.tally.misses = w₀.tally.misses + (repliesOn told path).countP Reply.isMiss
  /-- It has complained about each line that its log has refused. -/
  complaints : countOn path Activity.isComplaint + w.activity.isComplaint.toNat =
    w₀.activity.isComplaint.toNat + refusedOn path

namespace Dealt

/-- In the beginning nothing has been answered, and all that is ahead is ahead from the start. -/
theorem start (told : Instructions) (hlimit : desk.target.map Queue.maxItemLength = t.limit)
    (hsteady : t.Steady w₀.activity) (hoffers : Offers t.sentinel w₀.activity)
    (hasker : ∀ own, w₀.activity.asker = some own → own = w₀.stage) :
    Dealt t told w₀ [] w₀ desk where
  stage := rfl
  limit := hlimit
  steady := hsteady
  offers := hoffers
  asker := hasker
  findings := (List.append_nil _).symm
  items := List.append_nil _
  asked _ hmem := absurd hmem List.not_mem_nil
  puts _ := List.append_nil _
  noPuts _ := rfl
  serviced := rfl
  produced := rfl
  misses := rfl
  complaints := Nat.zero_add _

/-- **Every step of the worker keeps to the account**, as long as its desk is open and nobody
panics. -/
theorem own (h : Dealt t told w₀ path w desk) (hmove : Moves told moment w desk w' desk')
    (hsentinel : told.sentinel = t.sentinel) (hopen : desk.IsOpenTo w.activity)
    (hlive : desk.sinks.Live)
    (hcalm : ∀ reply ∈ w.reply? told moment, reply.Calm) :
    Dealt t told w₀ (path ++ [(.own moment, w, desk)]) w' desk' := by
  have hdeals := hmove.deals hsentinel h.limit hopen hlive hcalm h.steady h.offers
  have hsome : desk.target.isSome = t.limit.isSome := by rw [← h.limit, Option.isSome_map]
  have hcounts := hmove.counts fun hnone host call file hoffering => by
    have hsteady := h.steady
    rw [hoffering] at hsteady
    have hlimit := hsteady.1
    rw [← hsome, hnone] at hlimit
    contradiction
  have hasked : (w.reply? told moment).toList.length = w.activity.asker.toList.length := by
    rw [← map_stage_reply? told moment w]
    cases w.reply? told moment <;> rfl
  constructor
  · exact hcounts.stage.trans h.stage
  · rw [hmove.limit_eq, h.limit]
  · exact hdeals.steady
  · exact hsentinel ▸ hmove.offers (hsentinel ▸ h.offers)
  · exact fun own hown => (hcounts.asker own hown).trans hcounts.stage.symm
  · rw [dealtOn_own, repliesOn_own, List.append_assoc, hdeals.findings, ← List.append_assoc,
      h.findings, List.flatMap_append, List.append_assoc]
  · rw [tookOn_own, repliesOn_own, List.filter_append, ← List.append_assoc, h.items,
      List.append_assoc, hcounts.taken, ← List.append_assoc, List.map_append]
  · intro reply hmem
    rw [repliesOn_own] at hmem
    rcases List.mem_append.mp hmem with hold | hnew
    · exact h.asked reply hold
    · refine (h.asker reply.stage ?_).trans h.stage
      rw [← map_stage_reply? told moment, Option.mem_toList.mp hnew]
      rfl
  · intro hlimit
    have hpending := hmove.pending (hsome.trans hlimit) (hsentinel ▸ h.offers)
    rw [putsOn_own, dealtOn_own, List.filterMap_append, ← List.append_assoc, h.puts hlimit,
      List.append_assoc, hpending, List.append_assoc]
  · intro hlimit
    have hnone : desk.target = none := by
      rw [hlimit] at hsome
      exact Option.isNone_iff_eq_none.mp (Option.isSome_eq_false_iff.mp hsome)
    rw [putsOn_own, h.noPuts hlimit, List.nil_append, Worker.puts, hnone]
  · have hserviced := h.serviced
    rw [repliesOn_own, List.length_append, hasked, hcounts.serviced]
    omega
  · have hproduced := hcounts.produced
    have hbefore := h.produced
    rw [putsOn_own, List.length_append]
    omega
  · rw [repliesOn_own, List.countP_append, hcounts.misses, h.misses, Nat.add_assoc]
  · have hbefore := h.complaints
    rw [countOn_own, refusedOn_own, hmove.isComplaint hlive]
    omega

/-- **What others do is not on the account.** -/
theorem others (h : Dealt t told w₀ path w desk) {disturbance : Disturbance}
    (hdisturb : desk.disturb disturbance = some desk') :
    Dealt t told w₀ (path ++ [(.others disturbance, w, desk)]) w desk' := by
  have hsteps := ownSteps_others path disturbance w desk
  constructor
  · exact h.stage
  · rw [Desk.limit_of_disturb hdisturb, h.limit]
  · exact h.steady
  · exact h.offers
  · exact h.asker
  all_goals
    simp only [dealtOn, repliesOn, tookOn, putsOn, refusedOn, countOn, hsteps]
  · exact h.findings
  · exact h.items
  · exact h.asked
  · exact h.puts
  · exact h.noPuts
  · exact h.serviced
  · exact h.produced
  · exact h.misses
  · exact h.complaints

end Dealt

/-- **What a path comes to**, from whatever worker it starts. -/
theorem dealt_of_path {start : Desk}
    (hpath : Path (stepAmong told) (w₀, start) path (w, desk))
    (hsentinel : told.sentinel = t.sentinel)
    (hstart : Dealt t told w₀ [] w₀ start)
    (hopen : ∀ s ∈ ownSteps path, s.2.2.IsOpenTo s.2.1.activity)
    (hlive : ∀ s ∈ ownSteps path, s.2.2.sinks.Live)
    (hcalm : ∀ reply ∈ repliesOn told path, reply.Calm) : Dealt t told w₀ path w desk := by
  generalize hlast : (w, desk) = last at hpath
  -- induction on the path, with its steps added at the end
  induction hpath generalizing w desk with
  | refl =>
    cases hlast
    exact hstart
  | @tail path mid next beat _ hstep ih =>
    obtain ⟨u, before⟩ := mid
    subst hlast
    cases beat with
    | own moment =>
      rw [ownSteps_own] at hopen hlive
      rw [repliesOn_own] at hcalm
      have hlast : (moment, u, before) ∈ ownSteps path ++ [(moment, u, before)] :=
        List.mem_append_right _ List.mem_cons_self
      have hbefore := ih (fun s hmem => hopen s (List.mem_append_left _ hmem))
        (fun s hmem => hlive s (List.mem_append_left _ hmem))
        (fun reply hmem => hcalm reply (List.mem_append_left _ hmem)) rfl
      refine hbefore.own (moves_of_step hstep) hsentinel (hopen _ hlast) (hlive _ hlast) ?_
      exact fun reply hmem =>
        hcalm reply (List.mem_append_right _ (Option.mem_toList.mpr hmem))
    | others disturbance =>
      rw [ownSteps_others] at hopen hlive
      rw [repliesOn, ownSteps_others] at hcalm
      obtain ⟨after, hdisturb, heq⟩ := Option.map_eq_some_iff.mp hstep
      cases heq
      exact (ih hopen hlive hcalm rfl).others hdisturb

end Worker

end HostLookup
