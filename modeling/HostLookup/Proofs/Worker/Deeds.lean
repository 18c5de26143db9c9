import HostLookup.Proofs.Sink.Written
import HostLookup.Proofs.Worker.Terms

/-!
# Workers do their deeds

In a world without panics, and as long as queues and sinks stay open, a worker does the deeds for
its items one after the other, whatever other threads do meanwhile.

* **`Terms.left`**: the deeds that a worker has still to do where it stands.
* **`Worker.Moves.does`**: a step does the next of them, and begins with an item when none is left.
* **`Worker.Moves.ends`**: what the last step does.
* **`Worker.Moves.sinks_eq`**: a step writes its line, if it has one, and leaves the sinks alone
  otherwise.
-/

namespace HostLookup

namespace Terms

variable (t : Terms)

/-- What is left to do in a data file that is being read. -/
def leftIn (file : Reading) : List Deed :=
  t.deedsFor (t.findings file.file file.line file.rest)

/-- What is left to do where a worker stands. -/
def left : Activity → List Deed
  | .opening file => t.deeds .requester file
  | .reading file => t.leftIn file
  | .offering host (.entering _) file => (t.screen host).deeds t.limit.isSome ++ t.leftIn file
  | .offering host (.admitted item) file =>
    .put item :: .produced :: .log host :: t.leftIn file
  | .offering host .stored file => .produced :: .log host :: t.leftIn file
  | .resolving host => t.deeds .resolver host
  | .logging line file => .log line :: file.toList.flatMap t.leftIn
  | .reporting failure file => .report failure.report :: file.toList.flatMap t.leftIn
  | _ => []

/-- A worker at this place has met with nothing that ends it before its sentinel, and will not in
the file that it reads. -/
def Steady : Activity → Prop
  | .reading file => .panicked ∉ file.rest
  | .offering _ _ file => t.limit.isSome = true ∧ .panicked ∉ file.rest
  | .logging _ file | .reporting _ file => ∀ reading ∈ file, .panicked ∉ reading.rest
  | .announcing exit => exit = .ok ()
  | .ended report => report.exit = .ok ()
  | .closingSource .. | .closingTarget .. | .panicked => False
  | .taking _ | .acknowledging | .opening _ | .resolving _ => True

end Terms

/-! ## What a step does

`Doing` speaks of the worker alone, of what it begins with and does, and of what is left. `Does`
adds what others see of it: what goes into the next queue, what is written, and what is taken. -/

/-- The item that a worker has taken and not begun with: one on its way out of the queue, or the
sentinel for ever. -/
def Activity.held (sentinel : Sentinel) : Activity → List String
  | .taking (.taken item) => [item]
  | .acknowledging | .announcing _ | .ended _ => [sentinel.text]
  | _ => []

namespace Worker

variable {told : Instructions} {moment : Nat} {w w' : Worker} {desk desk' : Desk} {t : Terms}

/-- The items that the next step of a worker puts into the next queue. -/
def puts (w : Worker) (desk : Desk) : List String :=
  match desk.target with
  | none => []
  | some target => target.stored w.activity.targetCall

/-- The line that the next step of a worker writes, and where to. -/
def line? (told : Instructions) (moment : Nat) (w : Worker) : Option (Sink × String) :=
  match w.activity with
  | .logging line _ => some (w.output, line)
  | .reporting failure _ => some (.stderr, failure.report)
  | .announcing _ => some (.stdout, w.announcement (told.environment.elapsed moment))
  | _ => none

/-- The line that goes to a sink. -/
def lineTo (told : Instructions) (moment : Nat) (w : Worker) (sink : Sink) : Option String :=
  (w.line? told moment).bind fun line => if line.1 = sink then some line.2 else none

/-- What is on the desk is open, and what can be handed on is what the terms say. -/
structure Serves (t : Terms) (desk : Desk) : Prop where
  limit : desk.target.map Queue.maxItemLength = t.limit
  source_open : desk.source.ring.closed = false ∧ desk.source.filled.closed = false
  target_open : ∀ target, desk.target = some target →
    target.ring.closed = false ∧ target.free.closed = false
  willing : desk.sinks.Willing

/-- A worker makes a step: it begins with these items and does these deeds. -/
structure Doing (t : Terms) (w w' : Worker) (begun : List String) (now : List Deed) : Prop where
  name : w'.name = w.name
  stage : w'.stage = w.stage
  output : w'.output = w.output
  steady : t.Steady w'.activity
  left : now ++ t.left w'.activity = t.left w.activity ++ begun.flatMap (t.deeds w.stage)
  unmarked : t.sentinel.text ∉ begun
  serviced : w'.tally.serviced = w.tally.serviced + begun.length
  produced : w'.tally.produced = w.tally.produced + now.count .produced
  misses : w'.tally.misses = w.tally.misses + now.count .missed
  itemErrors : w'.tally.itemErrors = w.tally.itemErrors + now.count .erred

/-- A step at which the worker does nothing and nothing is done. -/
theorem Doing.nothing (hname : w'.name = w.name) (hstage : w'.stage = w.stage)
    (houtput : w'.output = w.output) (htally : w'.tally = w.tally) (hsteady : t.Steady w'.activity)
    (hleft : t.left w'.activity = t.left w.activity) : Doing t w w' [] [] where
  name := hname
  stage := hstage
  output := houtput
  steady := hsteady
  left := by simpa using hleft
  unmarked := List.not_mem_nil
  serviced := by rw [htally]; rfl
  produced := by rw [htally]; rfl
  misses := by rw [htally]; rfl
  itemErrors := by rw [htally]; rfl

/-- A failure that was found is counted and its report comes next. -/
theorem doing_raise {failure : Failure} {file : Option Reading}
    (hrecoverable : failure.isRecoverable = true)
    (hsteady : ∀ reading ∈ file, .panicked ∉ reading.rest)
    (hleft : t.left w.activity = (Finding.fault failure).deeds t.limit.isSome ++
      file.toList.flatMap t.leftIn) :
    Doing t w (w.raise failure file) [] [.erred] := by
  unfold raise
  rw [if_pos hrecoverable]
  refine ⟨rfl, rfl, rfl, hsteady, ?_, List.not_mem_nil, rfl, rfl, rfl, rfl⟩
  rw [hleft]
  simp [Terms.left, Finding.deeds]

/-- Taking up a file that was opened, or reporting that it was not. -/
theorem doing_takeUp {file : String} (hactivity : w.activity = .opening file) :
    ∃ now, (now = [] ∨ now = [.erred]) ∧ Doing t w (w.takeUp file (t.opening file)) [] now := by
  have hreadable := t.readable file
  have hleft : t.left w.activity = t.deedsFor (t.findingsIn file) := by
    rw [hactivity]
    rfl
  unfold Terms.findingsIn at hleft
  cases hopening : t.opening file with
  | refused failure =>
    rw [hopening] at hleft
    refine ⟨[.erred], Or.inr rfl, doing_raise rfl (by simp) ?_⟩
    rw [hleft]
    simp [Terms.deedsFor]
  | opened events =>
    rw [hopening] at hleft hreadable
    exact ⟨[], Or.inl rfl, .nothing rfl rfl rfl rfl hreadable hleft.symm⟩
  | panicked =>
    rw [hopening] at hreadable
    exact hreadable.elim

/-- Handing a host name on, or reporting that it will not do. -/
theorem doing_handOn {host : String} {file : Reading} {hasTarget : Bool}
    (htarget : hasTarget = t.limit.isSome) (hreadable : .panicked ∉ file.rest)
    (hleft : t.left w.activity = (t.screen host).deeds t.limit.isSome ++ t.leftIn file) :
    ∃ now, (now = [] ∨ now = [.erred]) ∧
      Doing t w (w.handOn t.sentinel hasTarget host file) [] now := by
  unfold handOn
  split
  · next hmarks =>
    refine ⟨[.erred], Or.inr rfl, doing_raise rfl ?_ ?_⟩
    · simpa using hreadable
    · rw [hleft, t.screen_of_marks hmarks]
      simp
  · next hmarks =>
    refine ⟨[], Or.inl rfl, ?_⟩
    split
    · next hsome => exact .nothing rfl rfl rfl rfl ⟨htarget ▸ hsome, hreadable⟩ hleft.symm
    · next hnone =>
      refine .nothing rfl rfl rfl rfl (by simpa [Terms.Steady] using hreadable) ?_
      have hlimit : t.limit = none := by simpa [htarget] using hnone
      rw [hleft, t.screen_of_limit_none (by simpa using hmarks) hlimit, hlimit]
      simp [Terms.left, Finding.deeds]

/-- Reading on, by one line or to the end of the file. -/
theorem doing_read {file : Reading} {hasTarget : Bool} (hactivity : w.activity = .reading file)
    (htarget : hasTarget = t.limit.isSome) (hreadable : .panicked ∉ file.rest) :
    ∃ now, (now = [] ∨ now = [.erred]) ∧
      Doing t w (w.read t.sentinel hasTarget file) [] now := by
  have hleft : t.left w.activity = t.deedsFor (t.findings file.file file.line file.rest) := by
    rw [hactivity]
    rfl
  unfold read
  split
  · next hrest =>
    refine ⟨[], Or.inl rfl, .nothing rfl rfl rfl rfl trivial ?_⟩
    rw [hleft, hrest]
    rfl
  · -- one line more: text, or a failure that ends the line or the file
    next event rest hrest =>
    rw [hrest] at hreadable hleft
    have hlater : .panicked ∉ rest := fun hmem => hreadable (List.mem_cons_of_mem _ hmem)
    split
    · next text =>
      split
      · next hblank =>
        refine ⟨[], Or.inl rfl, .nothing rfl rfl rfl rfl hlater ?_⟩
        rw [hleft, Terms.findings, hblank]
        rfl
      · next host hhost =>
        refine doing_handOn htarget hlater ?_
        rw [hleft, Terms.findings, hhost]
        exact t.deedsFor_cons _ _
    · next failure =>
      refine ⟨[.erred], Or.inr rfl, ?_⟩
      split
      · next hkind =>
        refine doing_raise rfl (by simpa using hlater) ?_
        rw [hleft, Terms.findings, if_pos hkind, t.deedsFor_cons]
        simp [Terms.leftIn]
      · next hkind =>
        -- a failure that ends the file: what is left of it is dropped
        refine doing_raise rfl (by simp) ?_
        rw [hleft, Terms.findings, if_neg hkind]
        simp [Terms.deedsFor]
    · exact absurd List.mem_cons_self hreadable

/-- A lookup is answered: a miss is counted, and the answer is logged next. -/
theorem doing_lookedUp {host : String} (hactivity : w.activity = .resolving host) :
    ∃ now, (now = [] ∨ now = [.missed]) ∧
      Doing t w (w.lookedUp t.notResolved host (t.lookup host)) [] now := by
  have hleft : t.left w.activity = t.deeds .resolver host := by
    rw [hactivity]
    rfl
  cases hlookup : t.lookup host with
  | found address =>
    refine ⟨[], Or.inl rfl, .nothing rfl rfl rfl rfl (by simp [lookedUp, Terms.Steady]) ?_⟩
    rw [hleft, t.deeds_of_found hlookup]
    rfl
  | failed error =>
    refine ⟨[.missed], Or.inr rfl, rfl, rfl, rfl, by simp [lookedUp, Terms.Steady], ?_,
      List.not_mem_nil, rfl, rfl, rfl, rfl⟩
    rw [hleft, t.deeds_of_failed hlookup]
    rfl
  | panicked => exact absurd hlookup (t.lookup_ne_panicked host)

/-! ## What others see of it

Most steps are silent: no call of a queue is under way and no line is written, so nothing but the
counts changes. The steps that are not silent put a host name or write a line. -/

/-- At a plain place a worker holds nothing that it has taken. -/
theorem held_of_isPlain {a : Activity} (sentinel : Sentinel) (h : a.isPlain = true) :
    a.held sentinel = [] := by
  cases a with
  | taking call => cases call <;> first | rfl | cases h
  | acknowledging | announcing | ended => cases h
  | _ => rfl

/-- A worker makes a step, and this is what it takes, puts and writes meanwhile. -/
structure Does (t : Terms) (told : Instructions) (moment : Nat) (w : Worker) (desk : Desk)
    (w' : Worker) (begun : List String) (now : List Deed) : Prop extends
    Doing t w w' begun now where
  puts : now.filterMap Deed.put? = w.puts desk
  lines : ∀ sink, sink ≠ .stdout →
    now.filterMap (Deed.lineTo w.output sink) = (w.lineTo told moment sink).toList
  takes : w.activity.held t.sentinel ++ desk.source.taken w.activity.sourceCall =
    begun ++ w'.activity.held t.sentinel

/-- What is put goes into the queue on the desk. -/
theorem puts_of_target {q : Queue} (w : Worker) (htarget : desk.target = some q) :
    w.puts desk = q.stored w.activity.targetCall := by
  rw [Worker.puts, htarget]

/-- Outside of a section nothing is put. -/
theorem puts_of_phase (w : Worker) (desk : Desk)
    (hidle : w.activity.targetCall.bind Call.phase? = none) : w.puts desk = [] := by
  unfold Worker.puts
  split
  · rfl
  · exact Queue.stored_of_phase hidle

/-- A step that at most counts is seen by nobody, but for what it takes. -/
theorem Doing.silent {begun : List String} {now : List Deed} (h : Doing t w w' begun now)
    (hnow : now = [] ∨ now = [.erred] ∨ now = [.missed])
    (hidle : w.activity.targetCall.bind Call.phase? = none) (hline : w.line? told moment = none)
    (htakes : w.activity.held t.sentinel ++ desk.source.taken w.activity.sourceCall =
      begun ++ w'.activity.held t.sentinel) :
    Does t told moment w desk w' begun now where
  toDoing := h
  puts := by
    rw [puts_of_phase w desk hidle]
    rcases hnow with rfl | rfl | rfl <;> rfl
  lines sink _ := by
    rw [lineTo, hline]
    rcases hnow with rfl | rfl | rfl <;> rfl
  takes := htakes

/-- A step between two plain places is no step of a call. -/
theorem Doing.quiet {now : List Deed} (h : Doing t w w' [] now)
    (hnow : now = [] ∨ now = [.erred] ∨ now = [.missed]) (hgo : GoesOn w w')
    (hplain : w.activity.isPlain = true) (hline : w.line? told moment = none) :
    Does t told moment w desk w' [] now := by
  obtain ⟨hsource, htarget⟩ := Activity.phase?_of_isPlain hplain
  refine h.silent hnow htarget hline ?_
  rw [held_of_isPlain t.sentinel hplain, held_of_isPlain t.sentinel hgo.isPlain,
    Queue.taken_of_phase hsource]

/-- A `get` goes on: what comes out of the queue is held from then on. -/
theorem does_take {call call' : GetCall} {source : Queue} (hactivity : w.activity = .taking call)
    (hmove : GetCall.Moves desk.source call (.goesOn call') source) :
    Does t told moment w desk { w with activity := .taking call' } [] [] := by
  refine Doing.silent (.nothing rfl rfl rfl rfl trivial ?_) (Or.inl rfl) ?_ ?_ ?_
  · rw [hactivity]
    rfl
  · rw [hactivity]
    rfl
  · rw [line?, hactivity]
  · rw [hactivity]
    show Activity.held _ _ ++ desk.source.taken (some (.get call)) = _
    rw [hmove.taken]
    cases hmove <;> rfl

/-- A `get` that returns hands over an item to begin with, or the sentinel. -/
theorem does_receive {item : String} (hactivity : w.activity = .taking (.taken item)) :
    ∃ begun, Does t told moment w desk (w.begin t.sentinel item) begun [] := by
  have hidle : w.activity.targetCall.bind Call.phase? = none := by
    rw [hactivity]
    rfl
  have hline : w.line? told moment = none := by rw [line?, hactivity]
  unfold begin
  split
  · next hmarks =>
    refine ⟨[], Doing.silent (.nothing rfl rfl rfl rfl trivial ?_) (Or.inl rfl) hidle hline ?_⟩
    · rw [hactivity]
      rfl
    · -- the item in hand turns into the sentinel that is kept for ever
      have htext : t.sentinel.text = item := by simpa [Sentinel.marks] using hmarks
      rw [hactivity, ← htext]
      rfl
  · next hmarks =>
    have htext : t.sentinel.text ≠ item := by simpa [Sentinel.marks] using hmarks
    refine ⟨[item], Doing.silent ⟨rfl, rfl, rfl, ?_, ?_, by simpa using htext, rfl, rfl, rfl, rfl⟩
      (Or.inl rfl) hidle hline ?_⟩
    · dsimp only
      cases w.stage <;> trivial
    · rw [hactivity]
      dsimp only
      cases w.stage <;> simp [Terms.left]
    · rw [hactivity]
      dsimp only
      cases w.stage <;> rfl

/-- The sentinel is held while the stage is told. -/
theorem does_acknowledge (hactivity : w.activity = .acknowledging) :
    Does t told moment w desk { w with activity := .announcing (.ok ()) } [] [] := by
  refine Doing.silent (.nothing rfl rfl rfl rfl rfl ?_) (Or.inl rfl) ?_ ?_ ?_
  · rw [hactivity]
    rfl
  · rw [hactivity]
    rfl
  · rw [line?, hactivity]
  · rw [hactivity]
    rfl

/-- While a host name is offered nothing is written and nothing taken. -/
theorem Doing.offering {host : String} {call : PutCall} {file : Reading} {now : List Deed}
    (h : Doing t w w' [] now) (hactivity : w.activity = .offering host call file)
    (hputs : now.filterMap Deed.put? = w.puts desk)
    (hlines : ∀ output sink, now.filterMap (Deed.lineTo output sink) = [])
    (hheld : w'.activity.held t.sentinel = []) : Does t told moment w desk w' [] now where
  toDoing := h
  puts := hputs
  lines sink _ := by
    rw [hlines, lineTo, line?, hactivity]
    rfl
  takes := by
    rw [hactivity, hheld]
    rfl

/-- The `put` of a host name goes on: it copies the name in, or it has just got past the check of
its size. -/
theorem does_offer {host : String} {call call' : PutCall} {file : Reading} {target target' : Queue}
    (hactivity : w.activity = .offering host call file) (htarget : desk.target = some target)
    (hmove : PutCall.Moves target call (.goesOn call') target')
    (hlimit : t.limit = some target.maxItemLength)
    (hsteady : t.Steady w.activity) (hoffers : Offers t.sentinel w.activity) :
    ∃ now, Does t told moment w desk { w with activity := .offering host call' file } [] now := by
  have hputs : w.puts desk = call.handedIn (.goesOn call') := by
    rw [puts_of_target w htarget, hactivity]
    exact hmove.stored
  rw [hactivity] at hoffers hsteady
  cases hmove with
  | @enter item left hfits =>
    -- only now it is certain that the host name is not too long
    obtain rfl := hoffers.2 item rfl
    refine ⟨[], Doing.offering (.nothing rfl rfl rfl rfl hsteady ?_) hactivity hputs.symm
      (fun _ _ => rfl) rfl⟩
    rw [hactivity]
    simp only [Terms.left]
    rw [t.screen_of_le hoffers.1 hlimit ((Queue.fits_iff _ _).mp hfits), hlimit]
    rfl
  | @store item ring hring =>
    refine ⟨[.put item], Doing.offering ⟨rfl, rfl, rfl, hsteady, ?_, List.not_mem_nil, rfl, rfl,
      rfl, rfl⟩ hactivity hputs.symm (fun _ _ => rfl) rfl⟩
    rw [hactivity]
    simp [Terms.left]

/-- A `put` that returns has put the host name, or found it too long. -/
theorem does_offered {host : String} {call : PutCall} {file : Reading}
    {result : Except QueueError Unit} {target target' : Queue}
    (hactivity : w.activity = .offering host call file) (htarget : desk.target = some target)
    (hmove : PutCall.Moves target call (.returns result) target')
    (hopen : target.ring.closed = false ∧ target.free.closed = false)
    (hlimit : t.limit = some target.maxItemLength)
    (hsteady : t.Steady w.activity) (hoffers : Offers t.sentinel w.activity) :
    ∃ now, Does t told moment w desk (w.offered host file result) [] now := by
  have hputs : w.puts desk = call.handedIn (.returns result) := by
    rw [puts_of_target w htarget, hactivity]
    exact hmove.stored
  have hheld := held_of_isPlain t.sentinel (goesOn_offered w host file result).isPlain
  rw [hactivity] at hoffers hsteady
  cases hmove with
  | @tooLarge item hsize =>
    obtain rfl := hoffers.2 item rfl
    have hlt : target.maxItemLength < item.utf8ByteSize := by simpa [Queue.fits] using hsize
    refine ⟨[.erred], Doing.offering (doing_raise rfl (by simpa using hsteady.2) ?_) hactivity
      hputs.symm (fun _ _ => rfl) hheld⟩
    rw [hactivity]
    simp only [Terms.left]
    rw [t.screen_of_lt hoffers.1 hlimit hlt]
    simp
  | refused hclosed => simp [hopen.2] at hclosed
  | bounce hclosed => simp [hopen.1] at hclosed
  | finish =>
    refine ⟨[.produced], Doing.offering ⟨rfl, rfl, rfl, ?_, ?_, List.not_mem_nil, rfl, rfl, rfl,
      rfl⟩ hactivity hputs.symm (fun _ _ => rfl) hheld⟩
    · simpa [offered, Terms.Steady] using hsteady.2
    · rw [hactivity]
      simp [offered, Terms.left]

/-- A worker that is about to write does so, and comes back to its file or to the queue. -/
theorem does_write {file : Option Reading} {deed : Deed} {line : Sink × String}
    (hline : w.line? told moment = some line)
    (hdeed : ∀ sink, deed.lineTo w.output sink = if line.1 = sink then some line.2 else none)
    (hputs : deed.put? = none ∧ w.activity.targetCall = none)
    (hcounts : deed ≠ .produced ∧ deed ≠ .missed ∧ deed ≠ .erred)
    (hheld : w.activity.held t.sentinel = [] ∧ w.activity.sourceCall = none)
    (hleft : t.left w.activity = deed :: file.toList.flatMap t.leftIn)
    (hsteady : ∀ reading ∈ file, .panicked ∉ reading.rest) :
    Does t told moment w desk { w with activity := resume file } [] [deed] where
  name := rfl
  stage := rfl
  output := rfl
  steady := by
    cases file with
    | none => trivial
    | some file => exact hsteady file rfl
  left := by
    rw [hleft]
    cases file <;> simp [resume, Terms.left]
  unmarked := List.not_mem_nil
  serviced := rfl
  produced := by simp [hcounts.1]
  misses := by simp [hcounts.2.1]
  itemErrors := by simp [hcounts.2.2]
  puts := by
    rw [puts_of_phase w desk (by rw [hputs.2]; rfl)]
    simp [hputs.1]
  lines sink _ := by
    rw [lineTo, hline]
    simp only [List.filterMap_cons, hdeed, Option.bind_some]
    split <;> simp [*]
  takes := by
    rw [hheld.1, hheld.2, held_of_isPlain t.sentinel (isPlain_resume file)]
    rfl

/-- The last step: the worker ends, and only the standard output hears of it. -/
theorem does_announce {elapsed : Elapsed} (hactivity : w.activity = .announcing (.ok ())) :
    Does t told moment w desk { w with activity := .ended (w.report elapsed (.ok ())) } [] [] where
  toDoing := by
    refine .nothing rfl rfl rfl rfl rfl ?_
    rw [hactivity]
    rfl
  puts := by
    rw [puts_of_phase w desk (by rw [hactivity]; rfl)]
    rfl
  -- the line goes to the standard output, which is left out here
  lines sink hsink := by
    rw [lineTo, line?, hactivity]
    simp [Ne.symm hsink]
  takes := by
    rw [hactivity]
    rfl

/-- **A step does the next deeds.** Items are begun with when no deed is left for those before. -/
theorem Moves.does (h : Moves told moment w desk w' desk') (hhold : t.Hold told)
    (hserves : Serves t desk) (hsteady : t.Steady w.activity)
    (hoffers : Offers t.sentinel w.activity) :
    ∃ begun now, Does t told moment w desk w' begun now := by
  have hlimit : ∀ {target : Queue}, desk.target = some target →
      t.limit = some target.maxItemLength := by
    intro target htarget
    rw [← hserves.limit, htarget]
    rfl
  cases h with
  | take hactivity hstep => exact ⟨[], [], does_take hactivity (GetCall.moves_of_step hstep)⟩
  | receive hactivity hstep =>
    rw [hhold.sentinel]
    cases GetCall.moves_of_step hstep with
    | finish =>
      obtain ⟨begun, hdoes⟩ := does_receive hactivity
      exact ⟨begun, [], hdoes⟩
  | starve hactivity hstep =>
    -- the queue would have to be closed
    exfalso
    obtain ⟨hring, hfilled⟩ := hserves.source_open
    cases GetCall.moves_of_step hstep with
    | refused hclosed => simp [hfilled] at hclosed
    | bounce hclosed => simp [hring] at hclosed
  | acknowledge hactivity => exact ⟨[], [], does_acknowledge hactivity⟩
  | openFile hactivity =>
    rw [hhold.opening]
    obtain ⟨now, hnow, hdoing⟩ := doing_takeUp (t := t) hactivity
    exact ⟨[], now, hdoing.quiet (hnow.imp_right Or.inl) (goesOn_takeUp w _ _)
      (by rw [hactivity]; rfl) (by rw [line?, hactivity])⟩
  | read hactivity =>
    rw [hhold.sentinel]
    have hsome : desk.target.isSome = t.limit.isSome := by rw [← hserves.limit, Option.isSome_map]
    rw [hactivity] at hsteady
    obtain ⟨now, hnow, hdoing⟩ := doing_read hactivity hsome hsteady
    exact ⟨[], now, hdoing.quiet (hnow.imp_right Or.inl) (goesOn_read w _ _ _)
      (by rw [hactivity]; rfl) (by rw [line?, hactivity])⟩
  | keep hactivity htarget =>
    -- a host name is only offered where there is somebody to take it
    exfalso
    rw [hactivity] at hsteady
    have hsome := hsteady.1
    rw [← hserves.limit, htarget] at hsome
    contradiction
  | offer hactivity htarget hstep =>
    obtain ⟨now, hdoes⟩ := does_offer hactivity htarget (PutCall.moves_of_step hstep)
      (hlimit htarget) hsteady hoffers
    exact ⟨[], now, hdoes⟩
  | offered hactivity htarget hstep =>
    obtain ⟨now, hdoes⟩ := does_offered hactivity htarget (PutCall.moves_of_step hstep)
      (hserves.target_open _ htarget) (hlimit htarget) hsteady hoffers
    exact ⟨[], now, hdoes⟩
  | lookUp hactivity =>
    rw [hhold.lookup, hhold.notResolved]
    obtain ⟨now, hnow, hdoing⟩ := doing_lookedUp (t := t) hactivity
    exact ⟨[], now, hdoing.quiet (hnow.imp_right Or.inr) (goesOn_lookedUp w _ _ _)
      (by rw [hactivity]; rfl) (by rw [line?, hactivity])⟩
  | @log line file hactivity =>
    -- a willing sink takes the line, so the worker comes back to its file
    obtain ⟨sinks, hwrite, -⟩ := Sinks.written_writeLine hserves.willing w.output line
    rw [hactivity] at hsteady
    rw [hwrite]
    have hline : w.line? told moment = some (w.output, line) := by rw [line?, hactivity]
    refine ⟨[], [.log line], does_write hline (fun _ => rfl) ⟨rfl, ?_⟩ (by simp) ?_ ?_ hsteady⟩
    · rw [hactivity]
      rfl
    · rw [hactivity]
      exact ⟨rfl, rfl⟩
    · rw [hactivity]
      rfl
  | @report failure file hactivity =>
    rw [hactivity] at hsteady
    have hline : w.line? told moment = some (.stderr, failure.report) := by rw [line?, hactivity]
    refine ⟨[], [.report failure.report],
      does_write hline (fun _ => rfl) ⟨rfl, ?_⟩ (by simp) ?_ ?_ hsteady⟩
    · rw [hactivity]
      rfl
    · rw [hactivity]
      exact ⟨rfl, rfl⟩
    · rw [hactivity]
      rfl
  | closeSource hactivity | closedSource hactivity | conclude hactivity | closeTarget hactivity
  | closedTarget hactivity =>
    -- a steady worker closes nothing
    rw [hactivity] at hsteady
    exact hsteady.elim
  | announce hactivity =>
    have hexit := hsteady
    rw [hactivity] at hexit
    obtain rfl := hexit
    exact ⟨[], [], does_announce hactivity⟩

/-! ## How workers end

The summary line is the last thing that a worker writes, and nothing else goes to the standard
output. -/

/-- No plain place is the end. -/
theorem ended_of_isPlain {a : Activity} (h : a.isPlain = true) (report : WorkerReport) :
    a ≠ .ended report := by
  rintro rfl
  contradiction

/-- **A worker ends by writing its summary line**, and no other step writes to the standard
output. -/
theorem Moves.ends (h : Moves told moment w desk w' desk') (houtput : w.output ≠ .stdout) :
    (∃ exit, w.activity = .announcing exit ∧
      w' = { w with activity := .ended (w.report (told.environment.elapsed moment) exit) }) ∨
    w.lineTo told moment .stdout = none ∧ ∀ report, w'.activity ≠ .ended report := by
  have hquiet : ∀ {w' : Worker}, w.line? told moment = none → w'.activity.isPlain = true →
      w.lineTo told moment .stdout = none ∧ ∀ report, w'.activity ≠ .ended report := by
    intro w' hline hplain
    rw [lineTo, hline]
    exact ⟨rfl, ended_of_isPlain hplain⟩
  -- of all steps only one ends the worker; of the others two write, and to other sinks
  cases h with
  | announce hactivity => exact Or.inl ⟨_, hactivity, rfl⟩
  | @receive call item source hactivity =>
    refine Or.inr ⟨by rw [lineTo, line?, hactivity]; rfl, ?_⟩
    unfold begin
    split
    · exact fun _ => nofun
    · cases w.stage <;> exact fun _ => nofun
  | starve hactivity =>
    exact Or.inr (hquiet (by rw [line?, hactivity]) (goesOn_leave w _).isPlain)
  | openFile hactivity =>
    exact Or.inr (hquiet (by rw [line?, hactivity]) (goesOn_takeUp w _ _).isPlain)
  | read hactivity =>
    exact Or.inr (hquiet (by rw [line?, hactivity]) (goesOn_read w _ _ _).isPlain)
  | offered hactivity =>
    exact Or.inr (hquiet (by rw [line?, hactivity]) (goesOn_offered w _ _ _).isPlain)
  | lookUp hactivity =>
    exact Or.inr (hquiet (by rw [line?, hactivity]) (goesOn_lookedUp w _ _ _).isPlain)
  | log hactivity =>
    refine Or.inr ⟨?_, ended_of_isPlain (goesOn_logged w _ _).isPlain⟩
    rw [lineTo, line?, hactivity]
    simp [houtput]
  | @report failure file hactivity =>
    refine Or.inr ⟨?_, ended_of_isPlain (isPlain_resume file)⟩
    rw [lineTo, line?, hactivity]
    simp
  | @conclude call ending hactivity | @closedTarget call first ending target target' hactivity =>
    refine Or.inr ⟨by rw [lineTo, line?, hactivity]; rfl, ?_⟩
    cases ending <;> exact fun _ => nofun
  | take hactivity | acknowledge hactivity | keep hactivity | offer hactivity
  | closeSource hactivity | closedSource hactivity | closeTarget hactivity =>
    exact Or.inr ⟨by rw [lineTo, line?, hactivity]; rfl, fun _ => nofun⟩

/-- **A worker writes one line in a step**, or leaves the sinks alone. -/
theorem Moves.sinks_eq (h : Moves told moment w desk w' desk') :
    desk'.sinks = desk.sinks.receive (w.line? told moment) := by
  cases h with
  | take hactivity | receive hactivity | starve hactivity | acknowledge hactivity
  | openFile hactivity | read hactivity | keep hactivity | offer hactivity | offered hactivity
  | lookUp hactivity | log hactivity | report hactivity | closeSource hactivity
  | closedSource hactivity | conclude hactivity | closeTarget hactivity | closedTarget hactivity
  | announce hactivity =>
    rw [line?, hactivity]
    rfl

end Worker

end HostLookup
