import HostLookup.Proofs.Interleaving
import HostLookup.Proofs.Sink.Moves

/-!
# One use of a sink after the other

A use of a sink lasts from the step that takes its lock to the step that ends the use, which may be
the one in which a chunk fails or the one in which the thread panics. What is on record for a sink
is therefore a sequence of whole uses (`Visit`), with at most one more that has begun and whose
thread holds the lock (`Underway`). A step of any thread keeps this, so it holds along every
interleaving.

* **`Session.traded_of_traces`**: the record of a sink falls into visits, each thread has made its
  visits in the order of its tasks, and what the visits wrote stands in the sink in their order.
* **`Session.serializes_of_traces`**: the same at every moment at which the lock is free, with what
  it takes to get the lock and what the sink contains if all threads write lines.
-/

namespace HostLookup

/-- A use of a sink that is over. -/
inductive Visit where
  /-- All chunks were written. -/
  | whole (use : SinkUse)
  /-- These chunks were written, and the next one failed. -/
  | broken (sink : Sink) (written : List Bytes) (chunk : Bytes) (rest : List Bytes)
      (ending : UseEnding) (failure : IoFailure)
  /-- The sink was gone. -/
  | late (use : SinkUse)

namespace Visit

def use : Visit → SinkUse
  | .whole use | .late use => use
  | .broken sink written chunk rest ending _ => ⟨sink, written ++ chunk :: rest, ending⟩

def written : Visit → List Bytes
  | .whole use => use.chunks
  | .broken _ written _ _ _ _ => written
  | .late _ => []

def isLive : Visit → Bool
  | .late _ => false
  | _ => true

def outcome : Visit → UseOutcome
  | .whole use => use.ending.outcome use.sink
  | .broken sink _ _ _ _ failure => .returned (.error (.write sink failure))
  | .late use => .returned (.error (.destroyed use.sink))

/-- All that happens in a visit. -/
def deeds (visit : Visit) : List SinkDeed :=
  match visit with
  | .whole use =>
    .enters use :: use.chunks.map (.writes use.sink) ++ [.leaves use.sink visit.outcome]
  | .broken sink written chunk _ _ _ =>
    .enters visit.use :: written.map (.writes sink) ++ [.breaksOff sink chunk visit.outcome]
  | .late use => [.turnsBack use visit.outcome]

/-- **A use succeeds if the sink was there, no chunk failed and the user returned.** -/
theorem outcome_eq_ok_iff (visit : Visit) :
    visit.outcome = .returned (.ok ()) ↔
      visit.isLive = true ∧ visit.written = visit.use.chunks ∧ visit.use.ending = .returns := by
  cases visit with
  | whole use =>
    obtain ⟨sink, chunks, ending⟩ := use
    cases ending <;> simp [outcome, isLive, written, Visit.use, UseEnding.outcome]
  | broken sink written chunk rest ending failure =>
    simp [outcome, isLive, Visit.written, Visit.use]
  | late use => simp [outcome, isLive]

end Visit

/-! ## The record of a sink

What is on record for a sink is cut into visits where the uses end. Behind the last of them there
may be the beginning of one more, whose thread holds the lock. -/

/-- What was done under the lock of a sink in order to use it. -/
def usesOf (sink : Sink) (log : List (Nat × SinkDeed)) : List (Nat × SinkDeed) :=
  log.filter fun entry => entry.2.usedSink? = some sink

/-- What one thread does, as entries of the record. -/
def ofThread (i : Nat) (deeds : List SinkDeed) : List (Nat × SinkDeed) :=
  deeds.map fun deed => (i, deed)

def entriesOf (visit : Nat × Visit) : List (Nat × SinkDeed) :=
  ofThread visit.1 visit.2.deeds

/-- The uses that one thread has made, with the answers. -/
def visitsOf (i : Nat) (visits : List (Nat × Visit)) : List (SinkUse × UseOutcome) :=
  Interleaves.tellings (fun visit => some (visit.2.use, visit.2.outcome)) visits i

/-- The use that a task makes of a sink. -/
def SinkTask.useOf? (sink : Sink) : SinkTask → Option SinkUse
  | .uses use => if use.sink = sink then some use else none
  | .destroys => none

/-- The uses of a sink among the tasks that have been answered, with the answers. -/
def finished (sink : Sink) (tasks : List SinkTask) (answers : List UseOutcome) :
    List (SinkUse × UseOutcome) :=
  (tasks.zip answers).filterMap fun (task, answer) =>
    (task.useOf? sink).map fun use => (use, answer)

theorem zip_concat {α β : Type} {as : List α} {bs : List β} {a : α} (b : β)
    (hnext : as[bs.length]? = some a) : as.zip (bs ++ [b]) = as.zip bs ++ [(a, b)] := by
  induction bs generalizing as with
  | nil =>
    cases as with
    | nil => contradiction
    | cons first rest =>
      obtain rfl : first = a := Option.some.inj hnext
      simp
  | cons first rest ih =>
    cases as with
    | nil => contradiction
    | cons head tail =>
      have hrest : tail[rest.length]? = some a := hnext
      simpa using ih hrest

theorem finished_concat (sink : Sink) {tasks : List SinkTask} {answers : List UseOutcome}
    {task : SinkTask} (outcome : UseOutcome) (hnext : tasks[answers.length]? = some task) :
    finished sink tasks (answers ++ [outcome]) =
      finished sink tasks answers ++ ((task.useOf? sink).map fun use => (use, outcome)).toList := by
  unfold finished
  rw [zip_concat outcome hnext, List.filterMap_append]
  cases huse : task.useOf? sink <;> simp [huse]

theorem visitsOf_append (i : Nat) (visits more : List (Nat × Visit)) :
    visitsOf i (visits ++ more) = visitsOf i visits ++ visitsOf i more :=
  Interleaves.tellings_append _ visits more i

@[simp] theorem visitsOf_singleton (i : Nat) (visit : Visit) :
    visitsOf i [(i, visit)] = [(visit.use, visit.outcome)] := by
  simp [visitsOf, Interleaves.tellings]

theorem usesOf_concat_of_ne {sink : Sink} {deed : SinkDeed} (log : List (Nat × SinkDeed)) (i : Nat)
    (hne : deed.usedSink? ≠ some sink) : usesOf sink (log ++ [(i, deed)]) = usesOf sink log := by
  simp [usesOf, hne]

theorem usesOf_concat {sink : Sink} {deed : SinkDeed} (log : List (Nat × SinkDeed)) (i : Nat)
    (huse : deed.usedSink? = some sink) :
    usesOf sink (log ++ [(i, deed)]) = usesOf sink log ++ [(i, deed)] := by
  simp [usesOf, huse]

namespace Session

variable {device : Sink → Device} {tasks : List (List SinkTask)} {log : List (Nat × SinkDeed)}
  {session next : Session} {sink : Sink} {i : Nat}

/-- What is on record for the use of a sink that has begun, if there is one. Its thread alone holds
the lock. -/
inductive Underway (tasks : List (List SinkTask)) (session : Session) (sink : Sink) :
    List (Nat × SinkDeed) → Prop where
  | free (hfree : session.IsFree sink) : Underway tasks session sink []
  | held {i : Nat} {user : SinkUser} {own : List SinkTask} {written rest : List Bytes}
      {ending : UseEnding} (huser : session.users[i]? = some user)
      (hcall : user.call = some (.writing ⟨sink, rest, ending⟩)) (hown : tasks[i]? = some own)
      (htask : own[user.outcomes.length]? = some (.uses ⟨sink, written ++ rest, ending⟩))
      (honly : session.IsLeftTo i sink) :
      Underway tasks session sink
        ((i, .enters ⟨sink, written ++ rest, ending⟩) ::
          written.map fun chunk => (i, .writes sink chunk))

/-- The visits of a sink are those that the threads have made and were told of, each thread in the
order of its tasks. -/
structure Told (tasks : List (List SinkTask)) (session : Session) (sink : Sink)
    (visits : List (Nat × Visit)) : Prop where
  sink_eq : ∀ visit ∈ visits, visit.2.use.sink = sink
  known : ∀ visit ∈ visits, visit.1 < tasks.length
  told : ∀ {i : Nat} {user : SinkUser} {own : List SinkTask}, session.users[i]? = some user →
    tasks[i]? = some own → visitsOf i visits = finished sink own user.outcomes.reverse

/-- The record of a sink falls into visits and the use that has begun. -/
def Traded (tasks : List (List SinkTask)) (log : List (Nat × SinkDeed)) (session : Session)
    (sink : Sink) : Prop :=
  ∃ visits current, usesOf sink log = visits.flatMap entriesOf ++ current ∧
    session.Underway tasks sink current ∧ session.Told tasks sink visits

/-! ## A step keeps it

A step goes on with the use that has begun, ends it, or begins one when the lock is free. The
account of the threads (`Told`) grows by the same visit as the record of the sink, in the same
step. -/

theorem Underway.of_writing {current : List (Nat × SinkDeed)} {user : SinkUser} {rest : List Bytes}
    {ending : UseEnding} (h : session.Underway tasks sink current)
    (huser : session.users[i]? = some user)
    (hcall : user.call = some (.writing ⟨sink, rest, ending⟩)) :
    ∃ written own, tasks[i]? = some own ∧
      own[user.outcomes.length]? = some (.uses ⟨sink, written ++ rest, ending⟩) ∧
      current = (i, .enters ⟨sink, written ++ rest, ending⟩) ::
        written.map (fun chunk => (i, .writes sink chunk)) ∧
      session.IsLeftTo i sink := by
  have hholds : user.holds = some sink := by
    simp [SinkUser.holds, hcall, SinkCall.holds]
  cases h with
  | free hfree => exact absurd hholds (hfree user (List.mem_of_getElem? huser))
  | @held k holder own written rest' ending' hholder hcall' hown htask honly =>
    obtain rfl : i = k := honly i user huser hholds
    obtain rfl : holder = user := Option.some.inj (hholder.symm.trans huser)
    obtain ⟨rfl, rfl⟩ : rest = rest' ∧ ending = ending' := by
      simpa using hcall.symm.trans hcall'
    exact ⟨written, own, hown, htask, rfl, honly⟩

/-- A thread that may take the lock of a sink finds no use begun. -/
theorem Underway.of_entering {current : List (Nat × SinkDeed)} {user : SinkUser} {use : SinkUse}
    (h : session.Underway tasks sink current) (huser : session.users[i]? = some user)
    (hcall : user.call = some (.entering use))
    (hlock : session.IsLeftTo i sink) : current = [] ∧ session.IsFree sink := by
  cases h with
  | free hfree => exact ⟨rfl, hfree⟩
  | @held k holder own written rest ending hholder hcall' hown htask honly =>
    obtain rfl : k = i := hlock k holder hholder (by simp [SinkUser.holds, hcall', SinkCall.holds])
    obtain rfl : holder = user := Option.some.inj (hholder.symm.trans huser)
    rw [hcall] at hcall'
    cases hcall'

end Session

theorem SinkUser.Follows.holds_returns {tasks : List SinkTask} {user : SinkUser}
    (h : user.Follows tasks) (outcome : UseOutcome) :
    (user.progress (.returns outcome)).holds = none := by
  rcases h.call_returns outcome with hcall | ⟨task, hcall⟩
  · rw [SinkUser.holds, hcall]
    rfl
  · rw [SinkUser.holds, hcall]
    cases task <;> rfl

namespace SinkCall.Moves

variable {sinks after : Sinks} {call later : SinkCall} {deed : SinkDeed}
  {progress : Progress SinkCall UseOutcome} {sink : Sink}

/-- Who holds a lock uses the sink. -/
theorem used_of_holds (h : Moves sinks call deed progress after) (hholds : call.holds = some sink) :
    deed.usedSink? = some sink := by
  cases h with
  | write | breakOff | leave => exact hholds
  | enter | turnBack | claim | comeLate | take | flush | finish => cases hholds

theorem used_of_holds_later (h : Moves sinks call deed (.goesOn later) after)
    (hholds : later.holds = some sink) : deed.usedSink? = some sink := by
  cases h with
  | enter | write => exact hholds
  | claim | take | flush => cases hholds

/-- A step that does not use a sink is not part of a task that does. -/
theorem useOf?_eq_none {task : SinkTask} (h : Moves sinks call deed progress after)
    (hstands : task.Stands call) (hnot : deed.usedSink? ≠ some sink) : task.useOf? sink = none := by
  cases task with
  | destroys => rfl
  | uses use =>
    have hne : use.sink ≠ sink := by
      rintro rfl
      apply hnot
      cases hstands <;> cases h <;> rfl
    exact if_neg hne

end SinkCall.Moves

namespace Session

variable {device : Sink → Device} {tasks : List (List SinkTask)} {log : List (Nat × SinkDeed)}
  {session next : Session} {sink : Sink} {i : Nat} {user : SinkUser} {own : List SinkTask}
  {visits : List (Nat × Visit)}

/-- If nobody else holds the lock and the thread gives it up, the lock is free. -/
theorem isFree_set {after : Sinks} {user' : SinkUser}
    (honly : session.IsLeftTo i sink) (hown : user'.holds ≠ some sink) :
    IsFree { sinks := after, users := session.users.set i user' } sink := by
  intro other hmem
  obtain ⟨j, hj⟩ := List.getElem?_of_mem hmem
  rcases getElem?_set_cases hj with ⟨-, rfl⟩ | ⟨hne, hsame⟩
  · exact hown
  · exact fun hholds => hne (honly j other hsame hholds)

/-- If nobody else holds the lock, nobody else does after a step of the thread. -/
theorem isLeftTo_set {after : Sinks} {user' : SinkUser}
    (honly : session.IsLeftTo i sink) :
    IsLeftTo { sinks := after, users := session.users.set i user' } i sink := by
  intro j other hj hholds
  rcases getElem?_set_cases hj with ⟨rfl, -⟩ | ⟨-, hsame⟩
  · rfl
  · exact honly j other hsame hholds

theorem Told.goesOn (h : session.Told tasks sink visits) (huser : session.users[i]? = some user)
    (call : SinkCall) (after : Sinks) :
    Told tasks { sinks := after, users := session.users.set i (user.progress (.goesOn call)) } sink
      visits := by
  refine ⟨h.sink_eq, h.known, fun {j other own} hother hown => ?_⟩
  rcases getElem?_set_cases hother with ⟨rfl, rfl⟩ | ⟨-, hsame⟩
  · show visitsOf j visits = finished sink own user.outcomes.reverse
    exact h.told huser hown
  · exact h.told hsame hown

/-- The visits with those that belong to the task that has just been answered. -/
theorem Told.returns {task : SinkTask} {more : List (Nat × Visit)} {outcome : UseOutcome}
    (h : session.Told tasks sink visits) (huser : session.users[i]? = some user)
    (hown : tasks[i]? = some own) (htask : own[user.outcomes.length]? = some task) (after : Sinks)
    (hmore : visitsOf i more = ((task.useOf? sink).map fun use => (use, outcome)).toList)
    (hmine : ∀ visit ∈ more, visit.1 = i ∧ visit.2.use.sink = sink) :
    Told tasks { sinks := after, users := session.users.set i (user.progress (.returns outcome)) }
      sink (visits ++ more) := by
  have hlt : i < tasks.length := (List.getElem?_eq_some_iff.mp hown).1
  refine ⟨fun visit hmem => ?_, fun visit hmem => ?_, fun {j other own'} hother hown' => ?_⟩
  · rcases List.mem_append.mp hmem with hold | hnew
    · exact h.sink_eq visit hold
    · exact (hmine visit hnew).2
  · rcases List.mem_append.mp hmem with hold | hnew
    · exact h.known visit hold
    · exact (hmine visit hnew).1 ▸ hlt
  · rw [visitsOf_append]
    rcases getElem?_set_cases hother with ⟨rfl, rfl⟩ | ⟨hne, hsame⟩
    · obtain rfl : own = own' := Option.some.inj (hown.symm.trans hown')
      rw [h.told huser hown, hmore]
      show _ = finished sink own (outcome :: user.outcomes).reverse
      rw [List.reverse_cons, finished_concat sink outcome (by simpa using htask)]
    · have hnothing : visitsOf j more = [] := Interleaves.tellings_of_ne _ fun visit hmem heq =>
        hne (heq.symm.trans (hmine visit hmem).1)
      rw [h.told hsame hown', hnothing, List.append_nil]

theorem Traded.turn_of_ne {deed : SinkDeed} (h : session.Traded tasks log sink)
    (hfollows : session.Follows tasks) (hturn : session.Turn i deed next)
    (hnot : deed.usedSink? ≠ some sink) : next.Traded tasks (log ++ [(i, deed)]) sink := by
  obtain ⟨visits, current, hlog, hunderway, htold⟩ := h
  obtain ⟨huser, hcall, -, hmoves⟩ := hturn
  rename_i user call progress after
  obtain ⟨own, hown, hmine⟩ := hfollows.follows huser
  obtain ⟨task, htask, hstands⟩ := hmine.task_of_call hcall
  refine ⟨visits, current, by rw [usesOf_concat_of_ne log i hnot, hlog], ?_, ?_⟩
  · have hbefore : user.holds ≠ some sink := by
      intro hholds
      rw [SinkUser.holds, hcall] at hholds
      exact hnot (hmoves.used_of_holds hholds)
    have hafter : (user.progress progress).holds ≠ some sink := by
      cases progress with
      | returns outcome => simp [hmine.holds_returns]
      | goesOn later => exact fun hholds => hnot (hmoves.used_of_holds_later hholds)
    cases hunderway with
    | free hfree =>
      apply Underway.free
      apply isFree_set _ hafter
      intro j other hother hholds
      exact absurd hholds (hfree other (List.mem_of_getElem? hother))
    | @held k holder own' written rest ending hholder hcall' hown' htask' honly =>
      -- the thread that holds the lock is another one
      have hne : k ≠ i := by
        rintro rfl
        obtain rfl : holder = user := Option.some.inj (hholder.symm.trans huser)
        exact hbefore (by simp [SinkUser.holds, hcall', SinkCall.holds])
      have hkept : (session.users.set i (user.progress progress))[k]? = some holder :=
        (List.getElem?_set_ne (Ne.symm hne)).trans hholder
      have hstill : IsLeftTo
        { sinks := after, users := session.users.set i (user.progress progress) }
          k sink := by
        intro j other hj hholds
        rcases getElem?_set_cases hj with ⟨-, rfl⟩ | ⟨-, hsame⟩
        · exact absurd hholds hafter
        · exact honly j other hsame hholds
      exact Underway.held hkept hcall' hown' htask' hstill
  · cases progress with
    | goesOn later => exact htold.goesOn huser later after
    | returns outcome =>
      have hmore : visitsOf i [] = ((task.useOf? sink).map fun use => (use, outcome)).toList := by
        rw [hmoves.useOf?_eq_none hstands hnot]
        rfl
      have hsame := htold.returns huser hown htask after hmore fun _ hmem =>
        absurd hmem List.not_mem_nil
      rwa [List.append_nil] at hsame

theorem Traded.turn_of_used {deed : SinkDeed} (h : session.Traded tasks log sink)
    (hfollows : session.Follows tasks) (hturn : session.Turn i deed next)
    (hused : deed.usedSink? = some sink) : next.Traded tasks (log ++ [(i, deed)]) sink := by
  obtain ⟨visits, current, hlog, hunderway, htold⟩ := h
  obtain ⟨huser, hcall, hlock, hmoves⟩ := hturn
  rename_i user call progress after
  obtain ⟨own, hown, hmine⟩ := hfollows.follows huser
  obtain ⟨task, htask, hstands⟩ := hmine.task_of_call hcall
  have hmover : ∀ progress after, (Session.mk after (session.users.set i
      (user.progress progress))).users[i]? = some (user.progress progress) := fun _ _ =>
    List.getElem?_set_self (List.getElem?_eq_some_iff.mp huser).1
  have hreturns : ∀ outcome, (user.progress (.returns outcome)).holds ≠ some sink := by
    simp [hmine.holds_returns]
  rw [Traded, usesOf_concat log i hused, hlog]
  cases hmoves with
  | claim | comeLate | take | flush | finish => cases hused
  | @enter use hlive =>
    cases hused
    cases hstands
    -- nobody held the lock, so no use had begun, and this one begins
    have honly := hlock use.sink rfl
    obtain ⟨rfl, -⟩ := hunderway.of_entering huser hcall honly
    refine ⟨visits, [(i, .enters use)], by rw [List.append_nil], ?_, htold.goesOn huser _ _⟩
    have hbegun : own[user.outcomes.length]? =
      some (.uses ⟨use.sink, [] ++ use.chunks, use.ending⟩) :=
      htask
    exact .held (hmover (.goesOn (.writing use)) session.sinks) rfl hown hbegun (isLeftTo_set honly)
  | @turnBack use outcome hreleased houtcome =>
    cases hused
    cases hstands
    subst houtcome
    -- a visit of a single step
    have honly := hlock use.sink rfl
    obtain ⟨rfl, -⟩ := hunderway.of_entering huser hcall honly
    refine ⟨visits ++ [(i, .late use)], [], ?_, ?_, ?_⟩
    · simp [entriesOf, ofThread, Visit.deeds, Visit.outcome]
    · exact .free (isFree_set honly (hreturns _))
    · apply htold.returns huser hown htask
      · simp [SinkTask.useOf?, Visit.use, Visit.outcome]
      · simp [Visit.use]
  | @write _ chunk chunks ending after hwrite =>
    cases hused
    obtain ⟨written, own', hown', htask', rfl, honly⟩ := hunderway.of_writing huser hcall
    refine ⟨visits, _, List.append_assoc _ _ _, ?_, htold.goesOn huser _ _⟩
    -- the chunk goes over from those that are left to those that are written
    rw [List.append_cons] at htask' ⊢
    have hmore := Underway.held (hmover (.goesOn (.writing ⟨sink, chunks, ending⟩)) after) rfl hown'
      htask' (isLeftTo_set honly)
    simpa using hmore
  | @breakOff _ chunk chunks ending outcome failure after hwrite houtcome =>
    cases hused
    subst houtcome
    obtain ⟨written, own', hown', htask', rfl, honly⟩ := hunderway.of_writing huser hcall
    refine ⟨visits ++ [(i, .broken sink written chunk chunks ending failure)], [], ?_, ?_, ?_⟩
    · simp [entriesOf, ofThread, Visit.deeds, Visit.outcome, Visit.use]
    · exact .free (isFree_set honly (hreturns _))
    · apply htold.returns huser hown' htask'
      · simp [SinkTask.useOf?, Visit.use, Visit.outcome]
      · simp [Visit.use]
  | @leave _ ending =>
    cases hused
    obtain ⟨written, own', hown', htask', rfl, honly⟩ := hunderway.of_writing huser hcall
    rw [List.append_nil] at htask' ⊢
    refine ⟨visits ++ [(i, .whole ⟨sink, written, ending⟩)], [], ?_, ?_, ?_⟩
    · simp [entriesOf, ofThread, Visit.deeds, Visit.outcome]
    · exact .free (isFree_set honly (hreturns _))
    · apply htold.returns huser hown' htask'
      · simp [SinkTask.useOf?, Visit.use, Visit.outcome]
      · simp [Visit.use]

theorem Traded.turn {deed : SinkDeed} (h : session.Traded tasks log sink)
    (hfollows : session.Follows tasks) (hturn : session.Turn i deed next) :
    next.Traded tasks (log ++ [(i, deed)]) sink := by
  by_cases hused : deed.usedSink? = some sink
  · exact h.turn_of_used hfollows hturn hused
  · exact h.turn_of_ne hfollows hturn hused

theorem holds_ofTasks {device : Sink → Device} {tasks : List (List SinkTask)} {user : SinkUser}
    (hmem : user ∈ (ofTasks device tasks).users) : user.holds = none := by
  obtain ⟨own, -, rfl⟩ := List.mem_map.mp hmem
  cases own with
  | nil => rfl
  | cons task rest => cases task <;> rfl

/-- **The record of a sink falls into visits**, and at most one use that has begun. -/
theorem traded_of_traces (htrace : Traces step deeds (ofTasks device tasks) log session)
    (sink : Sink) : session.Follows tasks ∧ session.Traded tasks log sink := by
  apply htrace.invariant
    (P := fun log session => session.Follows tasks ∧ session.Traded tasks log sink)
  · have hfree : (ofTasks device tasks).IsFree sink := by
      intro user hmem
      simp [holds_ofTasks hmem]
    have htold : Told tasks (ofTasks device tasks) sink [] := by
      refine ⟨by simp, by simp, fun {i user own} huser _ => ?_⟩
      -- nobody has been answered yet
      obtain ⟨own', -, rfl⟩ := List.mem_map.mp (List.mem_of_getElem? huser)
      cases own' <;> simp [visitsOf, Interleaves.tellings, finished, SinkUser.ofCalls]
    exact ⟨follows_ofTasks device tasks, [], [], rfl, .free hfree, htold⟩
  · rintro i record mid next ⟨hfollows, htraded⟩ hstep
    obtain ⟨deed, hdeeds, hturn⟩ := turn_of_step hstep
    rw [hdeeds]
    exact ⟨hfollows.turn hturn, htraded.turn hfollows hturn⟩

end Session

/-! ## What stands in the sink

Bytes come from uses alone. So the contents are what was there at the beginning and behind it what
the visits have written, one after the other. -/

def bytesTo (sink : Sink) (log : List (Nat × SinkDeed)) : Bytes :=
  log.flatMap fun entry => entry.2.bytesTo sink

/-- Only the uses of a sink write to it. -/
theorem bytesTo_usesOf (sink : Sink) (log : List (Nat × SinkDeed)) :
    bytesTo sink (usesOf sink log) = bytesTo sink log := by
  unfold bytesTo usesOf
  induction log with
  | nil => rfl
  | cons entry rest ih =>
    by_cases huse : entry.2.usedSink? = some sink
    · rw [List.filter_cons_of_pos (by simpa using huse), List.flatMap_cons, List.flatMap_cons, ih]
    · have hnothing : entry.2.bytesTo sink = [] := by
        rcases entry with ⟨i, deed⟩
        cases deed <;> simp_all [SinkDeed.bytesTo, SinkDeed.usedSink?]
      rw [List.filter_cons_of_neg (by simpa using huse), List.flatMap_cons, hnothing,
        List.nil_append, ih]

@[simp] theorem bytesTo_nil (sink : Sink) : bytesTo sink [] = [] :=
  rfl

@[simp] theorem bytesTo_cons (sink : Sink) (entry : Nat × SinkDeed) (log : List (Nat × SinkDeed)) :
    bytesTo sink (entry :: log) = entry.2.bytesTo sink ++ bytesTo sink log :=
  List.flatMap_cons

@[simp] theorem bytesTo_append (sink : Sink) (log more : List (Nat × SinkDeed)) :
    bytesTo sink (log ++ more) = bytesTo sink log ++ bytesTo sink more :=
  List.flatMap_append

@[simp] theorem bytesTo_writes (sink : Sink) (i : Nat) (chunks : List Bytes) :
    bytesTo sink (chunks.map fun chunk => (i, .writes sink chunk)) = chunks.flatten := by
  induction chunks with
  | nil => rfl
  | cons chunk rest ih => simp [ih, SinkDeed.bytesTo]

/-- The visits to a sink write their chunks, one visit after the other. -/
theorem bytesTo_entriesOf {sink : Sink} {visits : List (Nat × Visit)}
    (hsink : ∀ visit ∈ visits, visit.2.use.sink = sink) :
    bytesTo sink (visits.flatMap entriesOf) =
      visits.flatMap fun visit => visit.2.written.flatten := by
  induction visits with
  | nil => rfl
  | cons visit rest ih =>
    have hfirst : bytesTo sink (entriesOf visit) = visit.2.written.flatten := by
      have hvisit := hsink visit List.mem_cons_self
      obtain ⟨i, visit⟩ := visit
      cases visit <;> subst hvisit <;>
        simp [entriesOf, ofThread, Visit.deeds, Visit.written, Visit.use, SinkDeed.bytesTo,
          Function.comp_def]
    rw [List.flatMap_cons, List.flatMap_cons, bytesTo_append, hfirst,
      ih fun visit hmem => hsink visit (List.mem_cons_of_mem _ hmem)]

namespace Session

variable {device : Sink → Device} {tasks : List (List SinkTask)} {log : List (Nat × SinkDeed)}
  {session next : Session} {sink : Sink}

/-- What a sink contained at the start is followed by these bytes. Behind a buffer some of them may
wait. -/
def Added (device : Sink → Device) (session : Session) (sink : Sink) (bytes : Bytes) : Prop :=
  session.sinks.written sink = (device sink).written ++ bytes ∧
    ((device sink).buffer = none → session.sinks.contents sink = (device sink).contents ++ bytes)

theorem get_ofDevices (device : Sink → Device) (sink : Sink) :
    (Sinks.ofDevices device).get sink = { device := device sink } := by
  cases sink <;> rfl

/-- **What stands in a sink is what is on record for it.** -/
theorem added_of_traces (htrace : Traces step deeds (ofTasks device tasks) log session)
    (sink : Sink) : session.Added device sink (bytesTo sink log) := by
  have hdevice : session.sinks.written sink = (device sink).written ++ bytesTo sink log ∧
      (session.sinks.get sink).device.buffer.isSome = (device sink).buffer.isSome := by
    apply htrace.invariant (P := fun log session =>
      session.sinks.written sink = (device sink).written ++ bytesTo sink log ∧
        (session.sinks.get sink).device.buffer.isSome = (device sink).buffer.isSome)
    · simp [ofTasks, Sinks.written, get_ofDevices, bytesTo]
    · rintro i record mid next ⟨hwritten, hbuffer⟩ hstep
      obtain ⟨deed, hdeeds, hturn⟩ := turn_of_step hstep
      obtain ⟨-, -, -, hmoves⟩ := hturn
      obtain ⟨hadded, hkept, -⟩ := hmoves.device_eq sink
      refine ⟨?_, hkept.trans hbuffer⟩
      show Sinks.written _ sink = _
      rw [hadded, hwritten, hdeeds]
      simp [bytesTo]
  refine ⟨hdevice.1, fun hnone => ?_⟩
  have hstart := Device.written_of_unbuffered (d := device sink) (by rw [hnone]; rfl)
  have hnow := Device.written_of_unbuffered (d := (session.sinks.get sink).device)
    (by rw [hdevice.2, hnone]; rfl)
  show (session.sinks.get sink).device.contents = _
  rw [← hnow, ← hstart]
  exact hdevice.1

/-- **While the lock of a sink is free**, its record consists of whole visits, and it contains what
they have written, in their order. -/
theorem visits_of_traces (htrace : Traces step deeds (ofTasks device tasks) log session)
    (hfree : session.IsFree sink) :
    ∃ visits, usesOf sink log = visits.flatMap entriesOf ∧ session.Told tasks sink visits ∧
      session.Added device sink (visits.flatMap fun visit => visit.2.written.flatten) := by
  obtain ⟨-, visits, current, hlog, hunderway, htold⟩ := traded_of_traces htrace sink
  obtain rfl : current = [] := by
    cases hunderway with
    | free => rfl
    | held hholder hcall =>
      apply absurd _ (hfree _ (List.mem_of_getElem? hholder))
      simp [SinkUser.holds, hcall, SinkCall.holds]
  rw [List.append_nil] at hlog
  refine ⟨visits, hlog, htold, ?_⟩
  have hadded := added_of_traces htrace sink
  rwa [← bytesTo_usesOf, hlog, bytesTo_entriesOf htold.sink_eq] at hadded

/-! ## Threads that write lines

If no chunk fails every visit writes a whole line, and none of them is cut by another. -/

/-- Who is turned back finds the sink gone, and it stays so. -/
theorem released_of_turnsBack (htrace : Traces step deeds (ofTasks device tasks) log session)
    {use : SinkUse} {outcome : UseOutcome} (hmem : (i, .turnsBack use outcome) ∈ log) :
    (session.sinks.get use.sink).released = true := by
  revert hmem
  apply htrace.invariant (P := fun log session => (i, .turnsBack use outcome) ∈ log →
    (session.sinks.get use.sink).released = true) fun hmem => absurd hmem List.not_mem_nil
  intro j record mid next hmid hstep hmem
  obtain ⟨deed, hdeeds, hturn⟩ := turn_of_step hstep
  obtain ⟨-, -, -, hmoves⟩ := hturn
  rw [hdeeds] at hmem
  rcases List.mem_append.mp hmem with hold | hnew
  · exact hmoves.released_mono (hmid hold)
  · obtain ⟨rfl, rfl⟩ := Prod.mk.inj (List.mem_singleton.mp hnew)
    cases hmoves with
    | turnBack hreleased => exact hreleased

/-- Without a thread that destroys them, all sinks stay. -/
theorem live_of_traces (htrace : Traces step deeds (ofTasks device tasks) log session)
    (hnone : ∀ own ∈ tasks, SinkTask.destroys ∉ own) : session.sinks.Live := by
  have hkept : session.Follows tasks ∧ session.sinks.Live := by
    apply htrace.invariant (P := fun _ session => session.Follows tasks ∧ session.sinks.Live)
    · exact ⟨follows_ofTasks device tasks, fun sink => by simp [ofTasks, get_ofDevices]⟩
    · rintro i record mid next ⟨hfollows, hlive⟩ hstep
      obtain ⟨deed, -, hturn⟩ := turn_of_step hstep
      refine ⟨hfollows.turn hturn, fun sink => ?_⟩
      obtain ⟨huser, hcall, -, hmoves⟩ := hturn
      by_cases htakes : deed = .takes sink
      · -- only a task that destroys the sinks takes one
        obtain ⟨own, hown, hmine⟩ := hfollows.follows huser
        obtain ⟨task, htask, hstands⟩ := hmine.task_of_call hcall
        subst htakes
        cases hmoves
        cases hstands
        exact absurd (List.mem_of_getElem? htask) (hnone own (List.mem_of_getElem? hown))
      · rw [hmoves.released_of_ne htakes]
        exact hlive sink
  exact hkept.2

end Session

/-- The lines of a script that go to a sink. -/
def linesTo (sink : Sink) (script : List (Sink × String)) : List String :=
  (script.filter fun line => line.1 = sink).map Prod.snd

/-- The tasks of a thread that writes lines. -/
def lineTasks (script : List (Sink × String)) : List SinkTask :=
  script.map fun line => .uses (.line line.1 line.2)

theorem finished_lineTasks (sink : Sink) (script : List (Sink × String))
    (answers : List UseOutcome) :
    (finished sink (lineTasks script) answers).map Prod.fst =
      (linesTo sink (script.take answers.length)).map (SinkUse.line sink) := by
  induction script generalizing answers with
  | nil => simp [finished, lineTasks, linesTo]
  | cons line rest ih =>
    cases answers with
    | nil => simp [finished, lineTasks, linesTo]
    | cons answer answers =>
      have ih := ih answers
      obtain ⟨other, text⟩ := line
      by_cases hother : other = sink
      · subst hother
        simpa [finished, lineTasks, linesTo, SinkTask.useOf?, SinkUse.line] using ih
      · simpa [finished, lineTasks, linesTo, SinkTask.useOf?, SinkUse.line, hother] using ih

namespace Session

variable {device : Sink → Device} {log : List (Nat × SinkDeed)} {session : Session} {sink : Sink}

/-- **Lines stay whole**: if all threads write lines and no chunk fails, the sink contains whole
lines, those of each thread in the order of its script. -/
theorem lines_of_traces {scripts : List (List (Sink × String))}
    (htrace : Traces step deeds (ofTasks device (scripts.map lineTasks)) log session)
    (hfree : session.IsFree sink)
    (hnofail : ∀ entry ∈ log, ∀ chunk outcome, entry.2 ≠ .breaksOff sink chunk outcome) :
    ∃ lines, session.Added device sink (lines.flatMap Sinks.lineBytes) ∧
      Interleaves lines ((scripts.zip session.users).map fun (script, user) =>
        linesTo sink (script.take user.outcomes.length)) := by
  obtain ⟨hfollows, -⟩ := traded_of_traces htrace sink
  obtain ⟨visits, hlog, htold, hadded⟩ := visits_of_traces htrace hfree
  have hlive : session.sinks.Live := by
    refine live_of_traces htrace fun own hown => ?_
    obtain ⟨script, -, rfl⟩ := List.mem_map.mp hown
    simp [lineTasks]
  -- every visit has written all of its chunks
  have hwhole : ∀ visit ∈ visits, visit.2.written = visit.2.use.chunks := by
    rintro ⟨i, visit⟩ hmem
    have hsink := htold.sink_eq _ hmem
    have hentries : ∀ entry ∈ entriesOf (i, visit), entry ∈ log := by
      intro entry hentry
      have huse : entry ∈ usesOf sink log := hlog ▸ List.mem_flatMap_of_mem hmem hentry
      exact (List.mem_filter.mp huse).1
    cases visit with
    | whole use => rfl
    | broken other written chunk rest ending failure =>
      obtain rfl : other = sink := hsink
      have hbroken :
          (i, .breaksOff other chunk (.returned (.error (.write other failure)))) ∈ log :=
        hentries _ (by simp [entriesOf, ofThread, Visit.deeds, Visit.outcome])
      exact absurd rfl (hnofail _ hbroken chunk _)
    | late use =>
      have hlate : (i, .turnsBack use (.returned (.error (.destroyed use.sink)))) ∈ log :=
        hentries _ (by simp [entriesOf, ofThread, Visit.deeds, Visit.outcome])
      have hreleased := released_of_turnsBack htrace hlate
      rw [hlive] at hreleased
      contradiction
  -- the uses of all threads, and those of each
  have huses := Interleaves.of_tags (fun visit : Nat × Visit => some visit.2.use)
    (List.nodup_range (n := scripts.length)) visits fun visit hmem _ => by
      simpa using htold.known visit hmem
  have hparts : (List.range scripts.length).map
      (Interleaves.tellings (fun visit => some visit.2.use) visits) =
      ((scripts.zip session.users).map fun (script, user) =>
        linesTo sink (script.take user.outcomes.length)).map (List.map (SinkUse.line sink)) := by
    have hlength : session.users.length = scripts.length := by simpa using hfollows.length_eq
    refine List.ext_getElem (by simp [hlength]) fun j hj _ => ?_
    have hscript : j < scripts.length := by simpa using hj
    have huser : j < session.users.length := hlength ▸ hscript
    have htold := htold.told (List.getElem?_eq_getElem huser)
      (show (scripts.map lineTasks)[j]? = some (lineTasks scripts[j]) by simp [hscript])
    have hmine := finished_lineTasks sink scripts[j] session.users[j].outcomes.reverse
    rw [← htold, List.length_reverse] at hmine
    simpa [visitsOf, Interleaves.tellings, Function.comp_def] using hmine
  rw [hparts] at huses
  obtain ⟨lines, hlines, hinter⟩ := huses.of_map
  refine ⟨lines, ?_, hinter⟩
  have hbytes : (visits.flatMap fun visit => visit.2.written.flatten) =
      lines.flatMap Sinks.lineBytes :=
    calc (visits.flatMap fun visit => visit.2.written.flatten)
      _ = (visits.map fun visit => visit.2.use).flatMap fun use => use.chunks.flatten := by
        rw [List.flatMap_map, List.flatMap_def, List.flatMap_def]
        congr 1
        exact List.map_congr_left fun visit hmem => by rw [hwhole visit hmem]
      _ = (lines.map (SinkUse.line sink)).flatMap fun use => use.chunks.flatten := by
        rw [← hlines, List.filterMap_eq_map']
      _ = lines.flatMap Sinks.lineBytes := by
        rw [List.flatMap_map]
        rfl
  rwa [hbytes] at hadded

/-! ## All together

`Serializes` is the whole of it for one sink, at any moment of any interleaving. -/

variable {tasks : List (List SinkTask)}

/-- **The lock of a sink serializes its uses.** -/
structure Serializes (device : Sink → Device) (tasks : List (List SinkTask))
    (log : List (Nat × SinkDeed)) (session : Session) (sink : Sink) : Prop where
  /-- At most one thread holds the lock. -/
  exclusive : ∀ (i : Nat) (user : SinkUser), session.users[i]? = some user →
    user.holds = some sink → session.IsLeftTo i sink
  /-- While the lock is free, the uses so far have followed each other, each thread has made its own
  in the order of its tasks, and the sink contains the chunks that they have written. A use succeeds
  if the sink was there, none of its chunks failed and its thread neither panicked nor gave up. -/
  visits : session.IsFree sink → ∃ visits, usesOf sink log = visits.flatMap entriesOf ∧
    session.Told tasks sink visits ∧
    session.Added device sink (visits.flatMap fun visit => visit.2.written.flatten) ∧
    ∀ visit ∈ visits, visit.2.outcome = .returned (.ok ()) ↔ visit.2.isLive = true ∧
      visit.2.written = visit.2.use.chunks ∧ visit.2.use.ending = .returns
  /-- A use of the sink changes no other sink. -/
  alone : ∀ i next deed, session.step i = some next → session.deeds i = [(i, deed)] →
    deed.usedSink? = some sink → ∀ other, other ≠ sink →
      next.sinks.get other = session.sinks.get other
  /-- However a use ends, the lock is free afterwards. -/
  frees : ∀ i next deed, session.step i = some next → session.deeds i = [(i, deed)] →
    deed.usedSink? = some sink → deed.outcome?.isSome = true → next.IsFree sink
  /-- A free lock can be taken by any thread that is about to, and the sink can be used if it is
  still there. -/
  admits : ∀ i user use, session.IsFree sink → session.users[i]? = some user →
    user.call = some (.entering use) → use.sink = sink → (∃ next, session.step i = some next) ∧
      ((session.sinks.get sink).released = false → session.deeds i = [(i, .enters use)])
  /-- Who holds the lock can always go on. -/
  proceeds : ∀ (i : Nat) (user : SinkUser), session.users[i]? = some user →
    user.holds = some sink → ∃ next, session.step i = some next
  /-- If all threads write lines and no chunk fails, the sink contains whole lines, those of each
  thread in their order. -/
  lines : ∀ scripts : List (List (Sink × String)), tasks = scripts.map lineTasks →
    session.IsFree sink →
    (∀ entry ∈ log, ∀ chunk outcome, entry.2 ≠ .breaksOff sink chunk outcome) →
    ∃ lines, session.Added device sink (lines.flatMap Sinks.lineBytes) ∧
      Interleaves lines ((scripts.zip session.users).map fun (script, user) =>
        linesTo sink (script.take user.outcomes.length))

/-- A thread that holds a lock is inside a use. -/
theorem writing_of_holds {user : SinkUser} (hholds : user.holds = some sink) :
    ∃ rest ending, user.call = some (.writing ⟨sink, rest, ending⟩) := by
  obtain ⟨call, hcall, hheld⟩ := Option.bind_eq_some_iff.mp hholds
  cases call with
  | writing use =>
    obtain rfl : use.sink = sink := Option.some.inj hheld
    exact ⟨use.chunks, use.ending, hcall⟩
  | entering | marking | releasing | flushing => contradiction

theorem serializes_of_traces
    (htrace : Traces step deeds (ofTasks device tasks) log session) (sink : Sink) :
    session.Serializes device tasks log sink := by
  obtain ⟨hfollows, htraded⟩ := traded_of_traces htrace sink
  obtain ⟨-, current, -, hunderway, -⟩ := htraded
  have honly : ∀ (i : Nat) (user : SinkUser), session.users[i]? = some user →
      user.holds = some sink → session.IsLeftTo i sink := by
    intro i user huser hholds
    obtain ⟨rest, ending, hcall⟩ := writing_of_holds hholds
    obtain ⟨-, -, -, -, -, honly⟩ := hunderway.of_writing huser hcall
    exact honly
  refine
    { exclusive := honly
      visits := fun hfree => ?_
      alone := fun i next deed hstep hdeeds hused other hne => ?_
      frees := fun i next deed hstep hdeeds hused houtcome => ?_
      admits := fun i user use hfree huser hcall hsink => ⟨?_, fun hlive => ?_⟩
      proceeds := fun i user huser hholds => ?_
      lines := fun scripts htasks hfree hnofail => ?_ }
  · obtain ⟨visits, hlog, htold, hadded⟩ := visits_of_traces htrace hfree
    exact ⟨visits, hlog, htold, hadded, fun visit _ => visit.2.outcome_eq_ok_iff⟩
  · obtain ⟨deed', hdeeds', hturn⟩ := turn_of_step hstep
    obtain rfl : deed' = deed := by simpa using hdeeds'.symm.trans hdeeds
    obtain ⟨-, -, -, hmoves⟩ := hturn
    apply hmoves.get_of_ne
    intro htarget
    -- a step that uses one sink cannot change another
    cases deed' <;> simp_all [SinkDeed.target?, SinkDeed.usedSink?]
  · obtain ⟨deed', hdeeds', hturn⟩ := turn_of_step hstep
    obtain rfl : deed' = deed := by simpa using hdeeds'.symm.trans hdeeds
    obtain ⟨huser, hcall, hlock, hmoves⟩ := hturn
    obtain ⟨own, -, hmine⟩ := hfollows.follows huser
    cases hmoves with
    | enter | write | claim | take | flush => cases houtcome
    | comeLate | finish => cases hused
    | turnBack =>
      cases hused
      exact isFree_set (hlock _ rfl) (by simp [hmine.holds_returns])
    | breakOff | leave =>
      cases hused
      exact isFree_set (honly i _ huser (by simp [SinkUser.holds, hcall, SinkCall.holds]))
        (by simp [hmine.holds_returns])
  · refine exists_step huser hcall fun other hneeds => ?_
    obtain rfl : use.sink = other := Option.some.inj hneeds
    rwa [hsink]
  · simp [deeds, huser, hcall, SinkCall.deed, SinkCall.step, hsink, hlive]
  · obtain ⟨rest, ending, hcall⟩ := writing_of_holds hholds
    exact exists_step huser hcall fun other hneeds => by cases hneeds
  · subst htasks
    exact lines_of_traces htrace hfree hnofail

/-- Two threads share the standard output. One of them panics in its first use and the other breaks
off its second, and the last line comes out whole. -/
theorem serializes_of_traces_panic_and_failure :
    let device : Sink → Device := fun _ =>
      { refuses := fun _ chunk => if chunk = [0x21] then some (.system 28) else none }
    let tasks : List (List SinkTask) :=
      [[.uses ⟨.stdout, [[0x61], [0x0A]], .returns⟩, .uses ⟨.stdout, [[0x62], [0x21]], .returns⟩],
        [.uses ⟨.stdout, [[0x63]], .panics⟩, .uses ⟨.stdout, [[0x64], [0x0A]], .returns⟩]]
    ∃ log session, Traces step deeds (ofTasks device tasks) log session ∧
      session.sinks.contents .stdout = [0x61, 0x0A, 0x63, 0x62, 0x64, 0x0A] ∧
      session.Serializes device tasks log .stdout := by
  intro device tasks
  have hfollow : (Path.follow step [0, 0, 0, 0, 1, 1, 1, 0, 0, 0, 1, 1, 1, 1]
      (ofTasks device tasks)).map (fun session => session.sinks.contents .stdout) =
        some [0x61, 0x0A, 0x63, 0x62, 0x64, 0x0A] := by
    decide +kernel
  obtain ⟨session, hsession, hcontents⟩ := Option.map_eq_some_iff.mp hfollow
  obtain ⟨path, hpath⟩ := Path.of_follow hsession
  have htrace := hpath.traces deeds
  exact ⟨_, session, htrace, hcontents, serializes_of_traces htrace .stdout⟩

end Session

end HostLookup
