import HostLookup.Proofs.Queue.Ledger
import HostLookup.Worker.Step

/-!
# What a step of a worker can do

The step function of a worker is taken apart once, into one rule for each way in which it can go
(**`Worker.Moves`**). Everything else about workers follows the rules.

* **`Worker.Moves.source_turn`**, **`Worker.Moves.target_turn`**: a step is a turn of each of the
  two queues on the desk.

Most steps leave the worker at a *plain* place, between two calls of a queue; this is all that the
queues need to know about them.
-/

namespace HostLookup

namespace Activity

/-- The call that a worker is inside of, at the queue that it takes from. -/
def sourceCall : Activity → Option Call
  | .taking call => some (.get call)
  | .closingSource call _ => some (.close call)
  | _ => none

/-- The call that a worker is inside of, at the queue that it hands on to. -/
def targetCall : Activity → Option Call
  | .offering _ call _ => some (.put call)
  | .closingTarget call _ => some (.close call)
  | _ => none

/-- At a plain place a worker is between two calls, has not met its sentinel and has closed
nothing. -/
def isPlain : Activity → Bool
  | .taking .entering | .opening _ | .reading _ | .offering _ (.entering _) _ => true
  | .resolving _ | .logging _ _ | .reporting _ _ | .closingSource .marking _ => true
  | _ => false

/-- Has the worker taken its sentinel? -/
def hasSentinel (sentinel : Sentinel) : Activity → Bool
  | .taking (.taken item) => sentinel.marks item
  | .acknowledging | .announcing (.ok ()) => true
  | .ended report => report.exit.isOk
  | _ => false

/-- Has the worker closed the queue that it takes from, because it will take no more? -/
def hasClosed : Activity → Bool
  | .closingTarget .. | .announcing (.error _) | .panicked => true
  | .ended report => !report.exit.isOk
  | _ => false

/-- At a plain place no call is in a phase that others have to reckon with. -/
theorem phase?_of_isPlain {a : Activity} (h : a.isPlain = true) :
    a.sourceCall.bind Call.phase? = none ∧ a.targetCall.bind Call.phase? = none := by
  cases a with
  | taking call => cases call <;> first | exact ⟨rfl, rfl⟩ | cases h
  | offering _ call _ => cases call <;> first | exact ⟨rfl, rfl⟩ | cases h
  | closingSource call _ => cases call <;> first | exact ⟨rfl, rfl⟩ | cases h
  | closingTarget => cases h
  | _ => exact ⟨rfl, rfl⟩

theorem hasSentinel_of_isPlain {a : Activity} (sentinel : Sentinel) (h : a.isPlain = true) :
    a.hasSentinel sentinel = false := by
  cases a with
  | taking call => cases call <;> first | rfl | cases h
  | acknowledging | announcing | ended => cases h
  | _ => rfl

theorem hasClosed_of_isPlain {a : Activity} (h : a.isPlain = true) : a.hasClosed = false := by
  cases a with
  | closingTarget | announcing | ended | panicked => cases h
  | _ => rfl

end Activity

namespace Worker

variable {told : Instructions} {moment : Nat} {w w' : Worker} {desk desk' : Desk}

/-! ## Where a worker goes on

Most rules end in a function that chooses the next place. Whatever they choose, it is a plain place,
and the worker keeps its name and has taken nothing. -/

/-- A worker that stays itself and goes on from a plain place. -/
structure GoesOn (w w' : Worker) : Prop where
  name : w'.name = w.name
  stage : w'.stage = w.stage
  output : w'.output = w.output
  isPlain : w'.activity.isPlain = true

theorem goesOn_leave (w : Worker) (ending : Ending) : GoesOn w (w.leave ending) :=
  ⟨rfl, rfl, rfl, rfl⟩

theorem goesOn_raise (w : Worker) (failure : Failure) (file : Option Reading) :
    GoesOn w (w.raise failure file) := by
  unfold raise
  split
  · exact ⟨rfl, rfl, rfl, rfl⟩
  · exact goesOn_leave w _

theorem goesOn_begin (w : Worker) {sentinel : Sentinel} {item : String}
    (hmarks : sentinel.marks item = false) : GoesOn w (w.begin sentinel item) := by
  unfold begin
  rw [hmarks]
  refine ⟨rfl, rfl, rfl, ?_⟩
  simp only [Bool.false_eq_true, ↓reduceIte]
  cases w.stage <;> rfl

theorem goesOn_takeUp (w : Worker) (file : String) (opening : Opening) :
    GoesOn w (w.takeUp file opening) := by
  cases opening with
  | refused failure => exact goesOn_raise w _ _
  | opened events => exact ⟨rfl, rfl, rfl, rfl⟩
  | panicked => exact goesOn_leave w _

theorem goesOn_handOn (w : Worker) (sentinel : Sentinel) (hasTarget : Bool) (host : String)
    (file : Reading) : GoesOn w (w.handOn sentinel hasTarget host file) := by
  unfold handOn
  split
  · exact goesOn_raise w _ _
  · split <;> exact ⟨rfl, rfl, rfl, rfl⟩

theorem goesOn_read (w : Worker) (sentinel : Sentinel) (hasTarget : Bool) (file : Reading) :
    GoesOn w (w.read sentinel hasTarget file) := by
  unfold read
  split
  · exact ⟨rfl, rfl, rfl, rfl⟩
  · split
    · split
      · exact ⟨rfl, rfl, rfl, rfl⟩
      · exact goesOn_handOn w _ _ _ _
    · split <;> exact goesOn_raise w _ _
    · exact goesOn_leave w _

theorem goesOn_offered (w : Worker) (host : String) (file : Reading)
    (result : Except QueueError Unit) : GoesOn w (w.offered host file result) := by
  cases result with
  | ok => exact ⟨rfl, rfl, rfl, rfl⟩
  | error => exact goesOn_raise w _ _

theorem goesOn_lookedUp (w : Worker) (notResolved host : String) (answer : Lookup) :
    GoesOn w (w.lookedUp notResolved host answer) := by
  cases answer with
  | found | failed => exact ⟨rfl, rfl, rfl, rfl⟩
  | panicked => exact goesOn_leave w _

theorem isPlain_resume (file : Option Reading) : (resume file).isPlain = true := by
  cases file <;> rfl

theorem goesOn_logged (w : Worker) (file : Option Reading) (result : Except SinkError Unit) :
    GoesOn w (w.logged file result) := by
  cases result with
  | ok => exact ⟨rfl, rfl, rfl, isPlain_resume file⟩
  | error => exact goesOn_raise w _ _

/-! ## The rules

One rule for each branch of the step function. The rules keep the functions that choose the next
place closed, so that there are as many rules as kinds of steps and no more. -/

/-- The steps of a worker at its desk. -/
inductive Moves (told : Instructions) (moment : Nat) (w : Worker) (desk : Desk) :
    Worker → Desk → Prop where
  /-- The `get` goes on. -/
  | take {call call' : GetCall} {source : Queue} (hactivity : w.activity = .taking call)
      (hstep : call.step desk.source = some (.goesOn call', source)) :
      Moves told moment w desk { w with activity := .taking call' } { desk with source := source }
  | receive {call : GetCall} {item : String} {source : Queue}
      (hactivity : w.activity = .taking call)
      (hstep : call.step desk.source = some (.returns (.ok item), source)) :
      Moves told moment w desk (w.begin told.sentinel item) { desk with source := source }
  | starve {call : GetCall} {error : QueueError} {source : Queue}
      (hactivity : w.activity = .taking call)
      (hstep : call.step desk.source = some (.returns (.error error), source)) :
      Moves told moment w desk (w.leave (.failing (.queue error))) { desk with source := source }
  | acknowledge (hactivity : w.activity = .acknowledging) :
      Moves told moment w desk { w with activity := .announcing (.ok ()) }
        { desk with shutdown := desk.shutdown.workerStopped }
  | openFile {file : String} (hactivity : w.activity = .opening file) :
      Moves told moment w desk (w.takeUp file (told.environment.opening moment file)) desk
  | read {file : Reading} (hactivity : w.activity = .reading file) :
      Moves told moment w desk (w.read told.sentinel desk.target.isSome file) desk
  /-- There is nobody to hand the host name on to. -/
  | keep {host : String} {call : PutCall} {file : Reading}
      (hactivity : w.activity = .offering host call file) (htarget : desk.target = none) :
      Moves told moment w desk { w with activity := .logging host (some file) } desk
  /-- The `put` goes on. -/
  | offer {host : String} {call call' : PutCall} {file : Reading} {target target' : Queue}
      (hactivity : w.activity = .offering host call file) (htarget : desk.target = some target)
      (hstep : call.step target = some (.goesOn call', target')) :
      Moves told moment w desk { w with activity := .offering host call' file }
        { desk with target := some target' }
  | offered {host : String} {call : PutCall} {file : Reading} {result : Except QueueError Unit}
      {target target' : Queue} (hactivity : w.activity = .offering host call file)
      (htarget : desk.target = some target)
      (hstep : call.step target = some (.returns result, target')) :
      Moves told moment w desk (w.offered host file result) { desk with target := some target' }
  | lookUp {host : String} (hactivity : w.activity = .resolving host) :
      Moves told moment w desk
        (w.lookedUp told.notResolved host (told.environment.lookup moment host)) desk
  | log {line : String} {file : Option Reading} (hactivity : w.activity = .logging line file) :
      Moves told moment w desk (w.logged file (desk.sinks.writeLine w.output line).1)
        { desk with sinks := (desk.sinks.writeLine w.output line).2 }
  | report {failure : Failure} {file : Option Reading}
      (hactivity : w.activity = .reporting failure file) :
      Moves told moment w desk { w with activity := resume file }
        { desk with sinks := (desk.sinks.writeLine .stderr failure.report).2 }
  /-- The `close` of the source goes on. -/
  | closeSource {call call' : CloseCall} {ending : Ending} {source : Queue}
      (hactivity : w.activity = .closingSource call ending)
      (hstep : call.step desk.source = (.goesOn call', source)) :
      Moves told moment w desk { w with activity := .closingSource call' ending }
        { desk with source := source }
  | closedSource {call : CloseCall} {first : Bool} {ending : Ending} {source : Queue}
      (hactivity : w.activity = .closingSource call ending)
      (hstep : call.step desk.source = (.returns first, source)) :
      Moves told moment w desk { w with activity := .closingTarget .marking ending }
        { desk with source := source }
  /-- There is no target to close. -/
  | conclude {call : CloseCall} {ending : Ending}
      (hactivity : w.activity = .closingTarget call ending)
      (htarget : desk.target = none) : Moves told moment w desk (w.conclude ending) desk
  /-- The `close` of the target goes on. -/
  | closeTarget {call call' : CloseCall} {ending : Ending} {target target' : Queue}
      (hactivity : w.activity = .closingTarget call ending) (htarget : desk.target = some target)
      (hstep : call.step target = (.goesOn call', target')) :
      Moves told moment w desk { w with activity := .closingTarget call' ending }
        { desk with target := some target' }
  | closedTarget {call : CloseCall} {first : Bool} {ending : Ending} {target target' : Queue}
      (hactivity : w.activity = .closingTarget call ending) (htarget : desk.target = some target)
      (hstep : call.step target = (.returns first, target')) :
      Moves told moment w desk (w.conclude ending) { desk with target := some target' }
  | announce {exit : Except Failure Unit} (hactivity : w.activity = .announcing exit) :
      Moves told moment w desk
        { w with activity := .ended (w.report (told.environment.elapsed moment) exit) }
        { desk with
          sinks := (desk.sinks.writeLine .stdout
            (w.announcement (told.environment.elapsed moment))).2 }

/-- **What a step of a worker can do.** -/
theorem moves_of_step (hstep : w.step told moment desk = some (w', desk')) :
    Moves told moment w desk w' desk' := by
  unfold step at hstep
  -- one case for each place; the calls of queues go on or return
  split at hstep
  · next call hactivity =>
    obtain ⟨⟨progress, source⟩, hcall, heq⟩ := Option.map_eq_some_iff.mp hstep
    obtain ⟨rfl, rfl⟩ := Prod.mk.injEq .. ▸ heq
    cases progress with
    | goesOn call' => exact .take hactivity hcall
    | returns result =>
      cases result with
      | ok item => exact .receive hactivity hcall
      | error error => exact .starve hactivity hcall
  · next hactivity =>
    obtain ⟨rfl, rfl⟩ := Prod.mk.injEq .. ▸ Option.some.inj hstep
    exact .acknowledge hactivity
  · next file hactivity =>
    obtain ⟨rfl, rfl⟩ := Prod.mk.injEq .. ▸ Option.some.inj hstep
    exact .openFile hactivity
  · next file hactivity =>
    obtain ⟨rfl, rfl⟩ := Prod.mk.injEq .. ▸ Option.some.inj hstep
    exact .read hactivity
  · next host call file hactivity =>
    split at hstep
    · next htarget =>
      obtain ⟨rfl, rfl⟩ := Prod.mk.injEq .. ▸ Option.some.inj hstep
      exact .keep hactivity htarget
    · next target htarget =>
      obtain ⟨⟨progress, target'⟩, hcall, heq⟩ := Option.map_eq_some_iff.mp hstep
      obtain ⟨rfl, rfl⟩ := Prod.mk.injEq .. ▸ heq
      cases progress with
      | goesOn call' => exact .offer hactivity htarget hcall
      | returns result => exact .offered hactivity htarget hcall
  · next host hactivity =>
    obtain ⟨rfl, rfl⟩ := Prod.mk.injEq .. ▸ Option.some.inj hstep
    exact .lookUp hactivity
  · next line file hactivity =>
    obtain ⟨rfl, rfl⟩ := Prod.mk.injEq .. ▸ Option.some.inj hstep
    exact .log hactivity
  · next failure file hactivity =>
    obtain ⟨rfl, rfl⟩ := Prod.mk.injEq .. ▸ Option.some.inj hstep
    exact .report hactivity
  · next call ending hactivity =>
    -- a `close` never waits, so it always has a next step
    rcases hcall : call.step desk.source with ⟨call' | first, source⟩
    · simp only [hcall, Option.some.injEq, Prod.mk.injEq] at hstep
      obtain ⟨rfl, rfl⟩ := hstep
      exact .closeSource hactivity hcall
    · simp only [hcall, Option.some.injEq, Prod.mk.injEq] at hstep
      obtain ⟨rfl, rfl⟩ := hstep
      exact .closedSource hactivity hcall
  · next call ending hactivity =>
    split at hstep
    · next htarget =>
      obtain ⟨rfl, rfl⟩ := Prod.mk.injEq .. ▸ Option.some.inj hstep
      exact .conclude hactivity htarget
    · next target htarget =>
      rcases hcall : call.step target with ⟨call' | first, target'⟩
      · simp only [hcall, Option.some.injEq, Prod.mk.injEq] at hstep
        obtain ⟨rfl, rfl⟩ := hstep
        exact .closeTarget hactivity htarget hcall
      · simp only [hcall, Option.some.injEq, Prod.mk.injEq] at hstep
        obtain ⟨rfl, rfl⟩ := hstep
        exact .closedTarget hactivity htarget hcall
  · next exit hactivity =>
    obtain ⟨rfl, rfl⟩ := Prod.mk.injEq .. ▸ Option.some.inj hstep
    exact .announce hactivity
  · -- whoever has ended or panicked makes no step
    contradiction
  · contradiction

/-! ## Steps as turns of the queues

Seen from a queue a worker is a caller in some phase of a call. Its step moves that call on, or it
leaves the queue alone; the laws of the queue need no more. -/

/-- A worker that makes no step of a call and goes on from a plain place leaves both queues
alone. -/
theorem GoesOn.turns (h : GoesOn w w') (q : Queue)
    (hidle : w.activity.sourceCall.bind Call.phase? = none ∧
      w.activity.targetCall.bind Call.phase? = none) :
    q.Turn w.activity.sourceCall (w'.activity.sourceCall.bind Call.phase?) q ∧
      q.Turn w.activity.targetCall (w'.activity.targetCall.bind Call.phase?) q := by
  obtain ⟨hsource, htarget⟩ := Activity.phase?_of_isPlain h.isPlain
  rw [hsource, htarget]
  exact ⟨.idle hidle.1, .idle hidle.2⟩

theorem phase?_begin (w : Worker) (sentinel : Sentinel) (item : String) :
    (w.begin sentinel item).activity.sourceCall.bind Call.phase? = none ∧
      (w.begin sentinel item).activity.targetCall.bind Call.phase? = none := by
  cases hmarks : sentinel.marks item with
  | true =>
    unfold begin
    rw [hmarks]
    exact ⟨rfl, rfl⟩
  | false => exact Activity.phase?_of_isPlain (goesOn_begin w hmarks).isPlain

theorem phase?_conclude (w : Worker) (ending : Ending) :
    (w.conclude ending).activity.sourceCall.bind Call.phase? = none ∧
      (w.conclude ending).activity.targetCall.bind Call.phase? = none := by
  cases ending <;> exact ⟨rfl, rfl⟩

/-- **A step is a turn of the queue that the worker takes from.** -/
theorem Moves.source_turn (h : Moves told moment w desk w' desk') :
    desk.source.Turn w.activity.sourceCall (w'.activity.sourceCall.bind Call.phase?)
      desk'.source := by
  cases h with
  | take hactivity hstep =>
    rw [hactivity]
    exact .of_get hstep
  | receive hactivity hstep =>
    rw [(phase?_begin w _ _).1, hactivity]
    exact .of_get hstep
  | starve hactivity hstep =>
    rw [hactivity]
    exact .of_get hstep
  | acknowledge hactivity =>
    rw [hactivity]
    exact .idle rfl
  | openFile hactivity =>
    exact ((goesOn_takeUp w _ _).turns _ (by rw [hactivity]; exact ⟨rfl, rfl⟩)).1
  | read hactivity =>
    exact ((goesOn_read w _ _ _).turns _ (by rw [hactivity]; exact ⟨rfl, rfl⟩)).1
  | keep hactivity | offer hactivity =>
    rw [hactivity]
    exact .idle rfl
  | offered hactivity =>
    rw [(Activity.phase?_of_isPlain (goesOn_offered w _ _ _).isPlain).1, hactivity]
    exact .idle rfl
  | lookUp hactivity =>
    exact ((goesOn_lookedUp w _ _ _).turns _ (by rw [hactivity]; exact ⟨rfl, rfl⟩)).1
  | log hactivity =>
    exact ((goesOn_logged w _ _).turns _ (by rw [hactivity]; exact ⟨rfl, rfl⟩)).1
  | @report failure file hactivity =>
    -- whether or not the report could be written
    rw [(Activity.phase?_of_isPlain (isPlain_resume file)).1, hactivity]
    exact .idle rfl
  | closeSource hactivity hstep =>
    rw [hactivity]
    exact .of_close hstep
  | closedSource hactivity hstep =>
    rw [hactivity]
    exact .of_close hstep
  | conclude hactivity =>
    rw [(phase?_conclude w _).1, hactivity]
    exact .idle rfl
  | closeTarget hactivity =>
    rw [hactivity]
    exact .idle rfl
  | closedTarget hactivity =>
    rw [(phase?_conclude w _).1, hactivity]
    exact .idle rfl
  | announce hactivity =>
    rw [hactivity]
    exact .idle rfl

theorem Moves.isSome_target (h : Moves told moment w desk w' desk') :
    desk'.target.isSome = desk.target.isSome := by
  cases h with
  | offer _ htarget | offered _ htarget | closeTarget _ htarget | closedTarget _ htarget =>
    rw [htarget]
    rfl
  | _ => rfl

/-- **A step is a turn of the queue that the worker hands on to**, if there is one. -/
theorem Moves.target_turn (h : Moves told moment w desk w' desk') {target target' : Queue}
    (htarget : desk.target = some target) (htarget' : desk'.target = some target') :
    target.Turn w.activity.targetCall (w'.activity.targetCall.bind Call.phase?) target' := by
  -- most rules leave the target on the desk alone
  have hsame : desk'.target = desk.target → target' = target := fun heq =>
    Option.some.inj (htarget'.symm.trans (heq.trans htarget))
  cases h with
  | take hactivity =>
    obtain rfl := hsame rfl
    rw [hactivity]
    exact .idle rfl
  | receive hactivity =>
    obtain rfl := hsame rfl
    rw [(phase?_begin w _ _).2, hactivity]
    exact .idle rfl
  | starve hactivity | acknowledge hactivity =>
    obtain rfl := hsame rfl
    rw [hactivity]
    exact .idle rfl
  | openFile hactivity =>
    obtain rfl := hsame rfl
    exact ((goesOn_takeUp w _ _).turns _ (by rw [hactivity]; exact ⟨rfl, rfl⟩)).2
  | read hactivity =>
    obtain rfl := hsame rfl
    exact ((goesOn_read w _ _ _).turns _ (by rw [hactivity]; exact ⟨rfl, rfl⟩)).2
  | keep hactivity hnone => simp [hnone] at htarget
  | offer hactivity hsome hstep =>
    obtain rfl := Option.some.inj (hsome.symm.trans htarget)
    obtain rfl := Option.some.inj htarget'
    rw [hactivity]
    exact .of_put hstep
  | offered hactivity hsome hstep =>
    obtain rfl := Option.some.inj (hsome.symm.trans htarget)
    obtain rfl := Option.some.inj htarget'
    rw [(Activity.phase?_of_isPlain (goesOn_offered w _ _ _).isPlain).2, hactivity]
    exact .of_put hstep
  | lookUp hactivity =>
    obtain rfl := hsame rfl
    exact ((goesOn_lookedUp w _ _ _).turns _ (by rw [hactivity]; exact ⟨rfl, rfl⟩)).2
  | log hactivity =>
    obtain rfl := hsame rfl
    exact ((goesOn_logged w _ _).turns _ (by rw [hactivity]; exact ⟨rfl, rfl⟩)).2
  | @report failure file hactivity =>
    obtain rfl := hsame rfl
    rw [(Activity.phase?_of_isPlain (isPlain_resume file)).2, hactivity]
    exact .idle rfl
  | closeSource hactivity | closedSource hactivity =>
    obtain rfl := hsame rfl
    rw [hactivity]
    exact .idle rfl
  | conclude hactivity hnone => simp [hnone] at htarget
  | closeTarget hactivity hsome hstep =>
    obtain rfl := Option.some.inj (hsome.symm.trans htarget)
    obtain rfl := Option.some.inj htarget'
    rw [hactivity]
    exact .of_close hstep
  | closedTarget hactivity hsome hstep =>
    obtain rfl := Option.some.inj (hsome.symm.trans htarget)
    obtain rfl := Option.some.inj htarget'
    rw [(phase?_conclude w _).2, hactivity]
    exact .of_close hstep
  | announce hactivity =>
    obtain rfl := hsame rfl
    rw [hactivity]
    exact .idle rfl

end Worker

end HostLookup
