import HostLookup.Proofs.Worker.Moves

/-!
# What is left to do for a worker

Every step of a worker brings it nearer to its end, except one: a data file that is opened brings as
many lines as it has. So two things are counted. The *openings* of a worker are the files that it is
about to open. Its *effort* bounds the steps that it can still make without opening another file.

An item in a queue is work for whoever takes it, so its permit counts as effort as well, and a
worker that puts an item in has to pay for it.

* **`Worker.Moves.openings_le`**, **`Worker.Moves.openings_lt`**: a worker opens no more files than
  it takes permits for, and an opening is used up.
* **`Worker.Moves.effort_lt`**: every step but an opening lowers the effort of the worker and of the
  queues on its desk.
-/

namespace HostLookup

/-! ## Calls of a queue

Each step of a call lowers the effort of the call, together with the effort that stands behind the
items in the queue. The two are counted together because a `put` makes work for somebody else: what
its last step adds to the queue is what the call has carried until then. -/

/-- Each item that is ready to be taken costs its taker six steps at most: three of the `get`, then
the lookup, the log and a report. -/
def Queue.effort (q : Queue) : Nat :=
  6 * q.filled.permits

/-- The last step of a `put` makes an item ready to be taken. -/
def PutCall.effort : PutCall → Nat
  | .entering _ => 9
  | .admitted _ => 8
  | .stored => 7

/-- The first step of a `get` uses up what stands for its item. -/
def GetCall.effort : GetCall → Nat
  | .entering => 0
  | .admitted => 5
  | .taken _ => 4

/-- A close marks the queue and then closes both counters. -/
def CloseCall.effort : CloseCall → Nat
  | .marking => 3
  | .closingFree => 2
  | .closingFilled => 1

/-- A destruction closes the queue first, and gives up its slots at last. -/
def DestroyCall.effort : DestroyCall → Nat
  | .closing call => 1 + call.effort
  | .releasing => 1

/-- A call that is not over has a step left. -/
theorem PutCall.effort_pos (call : PutCall) : 0 < call.effort := by
  cases call <;> simp [effort]

theorem CloseCall.effort_pos (call : CloseCall) : 0 < call.effort := by
  cases call <;> simp [effort]

/-- What remains of a call by some measure: nothing once it has returned. -/
def Progress.remaining {κ ρ : Type} (measure : κ → Nat) : Progress κ ρ → Nat
  | .goesOn call => measure call
  | .returns _ => 0

section Calls

variable {q q' : Queue}

/-- Six of the steps of a `put` are those of whoever takes its item, so they go over to the queue
with its last step. -/
theorem PutCall.Moves.effort_lt {call : PutCall}
    {progress : Progress PutCall (Except QueueError Unit)} (h : PutCall.Moves q call progress q') :
    progress.remaining PutCall.effort + q'.effort < call.effort + q.effort := by
  cases h <;> simp only [Progress.remaining, PutCall.effort, Queue.effort, Permits.release] <;>
    omega

/-- Only the last step of a `put` makes an item ready. -/
theorem PutCall.Moves.filled_le {call : PutCall}
    {progress : Progress PutCall (Except QueueError Unit)} (h : PutCall.Moves q call progress q') :
    progress.remaining (fun _ => 1) + q'.filled.permits ≤ 1 + q.filled.permits := by
  cases h <;> simp only [Progress.remaining, Permits.release] <;> omega

/-- A refused `put` has not come far. -/
theorem PutCall.Moves.eq_of_error {call : PutCall} {error : QueueError}
    (h : PutCall.Moves q call (.returns (.error error)) q') : q' = q ∧ 8 ≤ call.effort := by
  cases h <;> exact ⟨rfl, by simp only [PutCall.effort]; omega⟩

/-- A `get` takes over the steps that the queue has kept for it when it gets its permit. -/
theorem GetCall.Moves.effort_lt {call call' : GetCall}
    (h : GetCall.Moves q call (.goesOn call') q') :
    call'.effort + q'.effort < call.effort + q.effort := by
  cases h <;> simp only [GetCall.effort, Queue.effort, *] <;> omega

/-- A `get` has its permit long before it returns, or it never gets one. -/
theorem GetCall.Moves.filled_eq {call : GetCall} {result : Except QueueError String}
    (h : GetCall.Moves q call (.returns result) q') : q'.filled = q.filled := by
  cases h <;> rfl

/-- A close makes no item ready and takes none. -/
theorem CloseCall.Moves.filled_eq {call : CloseCall} {progress : Progress CloseCall Bool}
    (h : CloseCall.Moves q call progress q') : q'.filled.permits = q.filled.permits := by
  cases h <;> rfl

theorem CloseCall.Moves.effort_lt {call : CloseCall} {progress : Progress CloseCall Bool}
    (h : CloseCall.Moves q call progress q') :
    progress.remaining CloseCall.effort + q'.effort < call.effort + q.effort := by
  have hfilled : q'.effort = q.effort := congrArg (6 * ·) h.filled_eq
  rw [hfilled]
  cases h <;> simp only [Progress.remaining, CloseCall.effort] <;> omega

/-- Neither does a destruction. -/
theorem DestroyCall.Moves.filled_eq {call : DestroyCall}
    {progress : Progress DestroyCall (Except QueueError Unit)}
    (h : DestroyCall.Moves q call progress q') : q'.filled.permits = q.filled.permits := by
  cases h with
  | close hmove | closed hmove => exact hmove.filled_eq
  | late | release => rfl

theorem DestroyCall.Moves.effort_lt {call : DestroyCall}
    {progress : Progress DestroyCall (Except QueueError Unit)}
    (h : DestroyCall.Moves q call progress q') :
    progress.remaining DestroyCall.effort + q'.effort < call.effort + q.effort := by
  have hfilled := h.filled_eq
  cases h with
  | close hmove | closed hmove =>
    have hless := hmove.effort_lt
    simp only [Progress.remaining, DestroyCall.effort, Queue.effort, hfilled] at hless ⊢
    omega
  | late | release =>
    simp only [Progress.remaining, DestroyCall.effort, Queue.effort]
    omega

end Calls

/-! ## Workers

A worker is far from its end while it has lines to read: each of them may cost a `put` into the next
queue or a line of the log, and the report of a failure besides. The numbers below are chosen so
that every place costs more than any place that a step can lead to, and not as low as possible. -/

/-- Each line of a data file may have to be put into the next queue and logged. -/
def Reading.effort (file : Reading) : Nat :=
  9 + 12 * file.rest.length

namespace Activity

/-- The files that a worker is about to open: one if it has a permit for the item that names it. -/
def openings : Activity → Nat
  | .taking .admitted | .taking (.taken _) | .opening _ => 1
  | _ => 0

/-- The effort of going on with a file, or with the next item. -/
def effortAfter : Option Reading → Nat
  | none => 8
  | some file => file.effort

/-- A bound of the steps that a worker can still make without taking another item or opening
another file. -/
def effort : Activity → Nat
  | .taking call => 8 + call.effort
  | .acknowledging => 2
  | .opening _ | .resolving _ => 11
  | .reading file => file.effort
  | .offering _ call file => file.effort + 2 + call.effort
  | .logging _ file => effortAfter file + 2
  | .reporting _ file => effortAfter file + 1
  | .closingSource call _ => 4 + call.effort
  | .closingTarget call _ => 1 + call.effort
  | .announcing _ => 1
  | .ended _ | .panicked => 0

theorem le_effortAfter (file : Option Reading) : 8 ≤ effortAfter file := by
  cases file <;> simp only [effortAfter, Reading.effort] <;> omega

end Activity

/-- The effort that stands behind the items in the queues on a desk. -/
def Desk.effort (desk : Desk) : Nat :=
  desk.source.effort + desk.target.elim 0 Queue.effort

namespace Worker

variable {told : Instructions} {moment : Nat} {w w' : Worker} {desk desk' : Desk}

/-! ## Openings

A worker becomes one that is about to open a file by taking a permit, and the permits are counted in
the queue. So the sum of both cannot grow, and an opening uses one up. -/

/-- A worker that reports or leaves has no file to open. -/
theorem openings_raise (w : Worker) (failure : Failure) (file : Option Reading) :
    (w.raise failure file).activity.openings = 0 := by
  unfold raise
  split <;> rfl

theorem openings_resume (file : Option Reading) : (resume file).openings = 0 := by
  cases file <;> rfl

/-- An item leads to at most one file, and for a resolver to none. -/
theorem openings_begin_le (w : Worker) (sentinel : Sentinel) (item : String) :
    (w.begin sentinel item).activity.openings ≤ 1 := by
  unfold begin
  split
  · exact Nat.zero_le _
  · cases w.stage with
    | requester => exact Nat.le_refl _
    | resolver => exact Nat.zero_le _

theorem openings_takeUp (w : Worker) (file : String) (opening : Opening) :
    (w.takeUp file opening).activity.openings = 0 := by
  cases opening with
  | refused => exact openings_raise w _ _
  | opened | panicked => rfl

theorem openings_read (w : Worker) (sentinel : Sentinel) (hasTarget : Bool) (file : Reading) :
    (w.read sentinel hasTarget file).activity.openings = 0 := by
  unfold read handOn
  repeat' split
  all_goals rfl

theorem openings_offered (w : Worker) (host : String) (file : Reading)
    (result : Except QueueError Unit) : (w.offered host file result).activity.openings = 0 := by
  cases result with
  | ok => rfl
  | error => exact openings_raise w _ _

theorem openings_lookedUp (w : Worker) (notResolved host : String) (answer : Lookup) :
    (w.lookedUp notResolved host answer).activity.openings = 0 := by
  cases answer <;> rfl

theorem openings_logged (w : Worker) (file : Option Reading) (result : Except SinkError Unit) :
    (w.logged file result).activity.openings = 0 := by
  cases result with
  | ok => exact openings_resume file
  | error => exact openings_raise w _ _

theorem openings_conclude (w : Worker) (ending : Ending) :
    (w.conclude ending).activity.openings = 0 := by
  cases ending <;> rfl

/-- **A worker opens no more files than it takes permits for.** -/
theorem Moves.openings_le (h : Moves told moment w desk w' desk') :
    w'.activity.openings + desk'.source.filled.permits ≤
      w.activity.openings + desk.source.filled.permits := by
  -- most places that a worker goes to have nothing to open
  have hquiet : desk'.source.filled.permits = desk.source.filled.permits →
      w'.activity.openings = 0 → w'.activity.openings + desk'.source.filled.permits ≤
        w.activity.openings + desk.source.filled.permits := by
    intro hfilled hnone
    omega
  cases h with
  | take hactivity hstep =>
    -- the permit passes from the counter to the worker
    rw [hactivity]
    have hmove := GetCall.moves_of_step hstep
    cases hmove with
    | enter _ hleft =>
      simp only [Activity.openings, hleft]
      omega
    | take => exact Nat.le_refl _
  | @receive call item source hactivity hstep =>
    rw [hactivity]
    have hmove := GetCall.moves_of_step hstep
    cases hmove
    exact Nat.add_le_add_right (openings_begin_le w _ _) _
  | starve hactivity hstep =>
    exact hquiet (congrArg Permits.permits (GetCall.moves_of_step hstep).filled_eq) rfl
  | closeSource hactivity hstep | closedSource hactivity hstep =>
    exact hquiet (CloseCall.moves_of_step hstep).filled_eq rfl
  | openFile => exact hquiet rfl (openings_takeUp w _ _)
  | read => exact hquiet rfl (openings_read w _ _ _)
  | offered => exact hquiet rfl (openings_offered w _ _ _)
  | lookUp => exact hquiet rfl (openings_lookedUp w _ _ _)
  | log => exact hquiet rfl (openings_logged w _ _)
  | report => exact hquiet rfl (openings_resume _)
  | conclude | closedTarget => exact hquiet rfl (openings_conclude w _)
  | acknowledge | keep | offer | closeTarget | announce => exact hquiet rfl rfl

/-- A file that was opened is none to be opened any more. -/
theorem Moves.openings_lt (h : Moves told moment w desk w' desk') {file : String}
    (hactivity : w.activity = .opening file) :
    w'.activity.openings + desk'.source.filled.permits <
      w.activity.openings + desk.source.filled.permits := by
  cases h with
  | openFile =>
    rw [hactivity, openings_takeUp]
    exact Nat.add_lt_add_right Nat.zero_lt_one _
  | _ => simp_all only [reduceCtorEq]

/-! ## Effort

The effort of each continuation is bounded first. Then every rule is a comparison of two numbers,
once the effort of the place that the worker leaves is written out. -/

theorem effort_resume (file : Option Reading) :
    (resume file).effort = Activity.effortAfter file := by
  cases file <;> rfl

/-- To close both queues and to say goodbye is less effort than to go on. -/
theorem effort_leave (w : Worker) (ending : Ending) : (w.leave ending).activity.effort = 7 := rfl

/-- To report a failure, and to leave because of one, costs one step more than to go on. -/
theorem effort_raise_le (w : Worker) (failure : Failure) (file : Option Reading) :
    (w.raise failure file).activity.effort ≤ Activity.effortAfter file + 1 := by
  unfold raise
  split
  · exact Nat.le_refl _
  · -- to leave is less than to go on, whatever there is to go on with
    have hleast := Activity.le_effortAfter file
    rw [effort_leave]
    omega

/-- To begin with an item costs no more than what is left of the `get` that has brought it. -/
theorem effort_begin_le (w : Worker) (sentinel : Sentinel) (item : String) :
    (w.begin sentinel item).activity.effort ≤ 11 := by
  unfold begin
  split
  · exact Nat.le_add_left 2 9
  · cases w.stage <;> exact Nat.le_refl _

/-- A host name costs a `put`, a line and perhaps a report. -/
theorem effort_handOn_le (w : Worker) (sentinel : Sentinel) (hasTarget : Bool) (host : String)
    (file : Reading) :
    (w.handOn sentinel hasTarget host file).activity.effort ≤ file.effort + 11 := by
  unfold handOn
  split
  · have hraise := effort_raise_le w (reserved host) (some file)
    simp only [Activity.effortAfter] at hraise
    omega
  · split <;> simp only [Activity.effort, Activity.effortAfter, PutCall.effort] <;> omega

/-- A line that is read is paid for: whatever is done about it costs less than the worker had set
aside for the line. -/
theorem effort_read_lt (w : Worker) (sentinel : Sentinel) (hasTarget : Bool) (file : Reading) :
    (w.read sentinel hasTarget file).activity.effort < file.effort := by
  unfold read
  split
  · next hrest => simp only [Activity.effort, GetCall.effort, Reading.effort, hrest]; decide
  · next event rest hrest =>
    -- every line pays for what its host name costs
    have hfile : file.effort = 9 + 12 * rest.length + 12 := by
      simp only [Reading.effort, hrest, List.length_cons]
      omega
    rw [hfile]
    simp only
    split
    · split
      · simp only [Activity.effort, Reading.effort]
        omega
      · next host _ =>
        have hhand := effort_handOn_le w sentinel hasTarget host
          { file with line := file.line + 1, rest := rest }
        simp only [Reading.effort] at hhand
        omega
    · next failure =>
      split
      · have hraise := effort_raise_le w
          (.item (file.file ++ ":" ++ toString file.line) failure.message)
          (some { file with line := file.line + 1, rest := rest })
        simp only [Activity.effortAfter, Reading.effort] at hraise
        omega
      · have hraise := effort_raise_le w (.io file.file failure) none
        simp only [Activity.effortAfter] at hraise
        omega
    · rw [effort_leave]
      omega

/-- Whatever the next queue answers, the line of the log and a report are still paid for. -/
theorem effort_offered_le (w : Worker) (host : String) (file : Reading)
    (result : Except QueueError Unit) :
    (w.offered host file result).activity.effort ≤ file.effort + 2 := by
  cases result with
  | ok => exact Nat.le_refl _
  | error error => exact Nat.le_succ_of_le (effort_raise_le w (refusal host error) (some file))

/-- After the lookup a line is written, whether there is an address in it or not. -/
theorem effort_lookedUp_le (w : Worker) (notResolved host : String) (answer : Lookup) :
    (w.lookedUp notResolved host answer).activity.effort ≤ 10 := by
  cases answer with
  | found | failed => exact Nat.le_refl _
  | panicked => exact Nat.le_add_left 7 3

/-- A line that was refused is reported. -/
theorem effort_logged_le (w : Worker) (file : Option Reading) (result : Except SinkError Unit) :
    (w.logged file result).activity.effort ≤ Activity.effortAfter file + 1 := by
  cases result with
  | ok => exact Nat.le_succ_of_le (Nat.le_of_eq (effort_resume file))
  | error error => exact effort_raise_le w (.sink error) file

/-- Only the announcement is left, and after a panic not even that. -/
theorem effort_conclude_le (w : Worker) (ending : Ending) :
    (w.conclude ending).activity.effort ≤ 1 := by
  cases ending with
  | failing => exact Nat.le_refl _
  | panicking => exact Nat.zero_le _

/-- **Every step but the opening of a file leaves less to do.** -/
theorem Moves.effort_lt (h : Moves told moment w desk w' desk')
    (hopening : ∀ file, w.activity ≠ .opening file) :
    w'.activity.effort + desk'.effort < w.activity.effort + desk.effort := by
  simp only [Desk.effort]
  cases h with
  -- the one step that may cost more, which is excluded
  | openFile hactivity => exact absurd hactivity (hopening _)
  | @take call call' source hactivity hstep =>
    have hless := (GetCall.moves_of_step hstep).effort_lt
    simp only [hactivity, Activity.effort]
    omega
  | @receive call item source hactivity hstep =>
    have hbefore : w.activity.effort = 8 + call.effort := congrArg Activity.effort hactivity
    have hmove := GetCall.moves_of_step hstep
    have hsource : source.effort = desk.source.effort := by
      rw [Queue.effort, Queue.effort, hmove.filled_eq]
    -- the item has come out, and with its `get` the worker gives up what it had reserved for it
    have htaken : call.effort = 4 := by cases hmove; rfl
    have hbegin := effort_begin_le w told.sentinel item
    dsimp only
    omega
  | @starve call error source hactivity hstep =>
    have hbefore : w.activity.effort = 8 + call.effort := congrArg Activity.effort hactivity
    have hsource : source.effort = desk.source.effort := by
      rw [Queue.effort, Queue.effort, (GetCall.moves_of_step hstep).filled_eq]
    dsimp only
    rw [effort_leave, hsource]
    omega
  | @read file hactivity =>
    have hbefore : w.activity.effort = file.effort := congrArg Activity.effort hactivity
    have hless := effort_read_lt w told.sentinel desk.target.isSome file
    omega
  | @keep host call file hactivity =>
    -- nobody to hand on to: the line of the log is what is left of the `put`
    have hpos := call.effort_pos
    simp only [hactivity, Activity.effort, Activity.effortAfter]
    omega
  | @offer host call call' file target target' hactivity htarget hstep =>
    have hless := (PutCall.moves_of_step hstep).effort_lt
    simp only [Progress.remaining] at hless
    simp only [hactivity, htarget, Activity.effort, Option.elim_some]
    omega
  | @offered host call file result target target' hactivity htarget hstep =>
    have hbefore : w.activity.effort = file.effort + 2 + call.effort :=
      congrArg Activity.effort hactivity
    have hless := (PutCall.moves_of_step hstep).effort_lt
    have hoffered := effort_offered_le w host file result
    simp only [Progress.remaining] at hless
    simp only [htarget, Option.elim_some]
    omega
  | @lookUp host hactivity =>
    have hbefore : w.activity.effort = 11 := congrArg Activity.effort hactivity
    have hless := effort_lookedUp_le w told.notResolved host (told.environment.lookup moment host)
    omega
  | @log line file hactivity =>
    have hbefore : w.activity.effort = Activity.effortAfter file + 2 :=
      congrArg Activity.effort hactivity
    have hless := effort_logged_le w file (desk.sinks.writeLine w.output line).1
    dsimp only
    omega
  | @report failure file hactivity =>
    have hbefore : w.activity.effort = Activity.effortAfter file + 1 :=
      congrArg Activity.effort hactivity
    dsimp only
    rw [hbefore, effort_resume]
    omega
  | @closeSource call call' ending source hactivity hstep =>
    have hless := (CloseCall.moves_of_step hstep).effort_lt
    simp only [Progress.remaining] at hless
    simp only [hactivity, Activity.effort]
    omega
  | @closedSource call first ending source hactivity hstep =>
    have hless := (CloseCall.moves_of_step hstep).effort_lt
    have hmarking : CloseCall.marking.effort = 3 := rfl
    simp only [Progress.remaining] at hless
    simp only [hactivity, Activity.effort, hmarking]
    omega
  | @conclude call ending hactivity =>
    have hbefore : w.activity.effort = 1 + call.effort := congrArg Activity.effort hactivity
    have hless := effort_conclude_le w ending
    have hpos := call.effort_pos
    omega
  | @closeTarget call call' ending target target' hactivity htarget hstep =>
    have hless := (CloseCall.moves_of_step hstep).effort_lt
    simp only [Progress.remaining] at hless
    simp only [hactivity, htarget, Activity.effort, Option.elim_some]
    omega
  | @closedTarget call first ending target target' hactivity htarget hstep =>
    have hbefore : w.activity.effort = 1 + call.effort := congrArg Activity.effort hactivity
    have hless := (CloseCall.moves_of_step hstep).effort_lt
    have hconclude := effort_conclude_le w ending
    simp only [Progress.remaining] at hless
    simp only [htarget, Option.elim_some]
    omega
  | acknowledge hactivity | announce hactivity =>
    simp only [hactivity, Activity.effort]
    omega

end Worker

end HostLookup
