import HostLookup.Proofs.Sink.Released
import HostLookup.Proofs.Traces

/-!
# What a step of a thread can do to the sinks

A call has one rule in `SinkCall.Moves` for each way in which a step can go, and each rule is one
`SinkDeed`. A step of a session is a step of one call (`Session.Turn`), made while no other thread
holds the lock that the call needs, and its deed goes on record with the number of the thread.

What a deed does to the sinks can be told from the deed:

* **`SinkCall.Moves.get_of_ne`**: one that does not concern a sink leaves that sink as it is.
* **`SinkCall.Moves.device_eq`**: a chunk is added by the deed that writes it, and by no other.
* **`Session.Follows.turn`**: each thread carries out its tasks in their order, and every answer is
  kept.
-/

namespace HostLookup

/-- What is done in one step of a call. -/
inductive SinkDeed where
  /-- Takes the lock of a sink and finds the sink there. -/
  | enters (use : SinkUse)
  /-- Takes the lock of a sink, finds the sink gone and is told so. -/
  | turnsBack (use : SinkUse) (outcome : UseOutcome)
  | writes (sink : Sink) (chunk : Bytes)
  /-- Ends a use because this chunk failed. -/
  | breaksOff (sink : Sink) (chunk : Bytes) (outcome : UseOutcome)
  /-- Ends a use that has no chunks left. -/
  | leaves (sink : Sink) (outcome : UseOutcome)
  /-- Marks the sinks. -/
  | claims
  /-- Finds the sinks marked. -/
  | comesLate (outcome : UseOutcome)
  | takes (sink : Sink)
  | flushes (sink : Sink) (result : Except SinkError Unit)
  /-- Ends the release of all sinks. -/
  | finishes (outcome : UseOutcome)

namespace SinkDeed

def usedSink? : SinkDeed → Option Sink
  | .enters use | .turnsBack use _ => some use.sink
  | .writes sink _ | .breaksOff sink _ _ | .leaves sink _ => some sink
  | _ => none

/-- The sink that may look different afterwards. -/
def target? : SinkDeed → Option Sink
  | .writes sink _ | .breaksOff sink _ _ | .takes sink | .flushes sink _ => some sink
  | _ => none

/-- The bytes that are added to what was written to a sink. -/
def bytesTo (sink : Sink) : SinkDeed → Bytes
  | .writes other chunk => if other = sink then chunk else []
  | _ => []

def isFlushOf (sink : Sink) : SinkDeed → Bool
  | .flushes other _ => other = sink
  | _ => false

/-- What the caller is told, if this ends its call. -/
def outcome? : SinkDeed → Option UseOutcome
  | .turnsBack _ outcome | .breaksOff _ _ outcome | .leaves _ outcome | .comesLate outcome
  | .finishes outcome => some outcome
  | _ => none

end SinkDeed

/-- What the user of a sink is told if none of its chunks fails. -/
def UseEnding.outcome (sink : Sink) : UseEnding → UseOutcome
  | .returns => .returned (.ok ())
  | .fails failure => .returned (.error (.write sink failure))
  | .panics => .panicked

namespace SinkCall

/-- What the next step of a call does. -/
def deed (sinks : Sinks) (call : SinkCall) : SinkDeed :=
  match call, (call.step sinks).1 with
  | .entering use, .goesOn _ => .enters use
  | .entering use, .returns outcome => .turnsBack use outcome
  | .writing { sink := sink, chunks := chunk :: _, ending := _ }, .goesOn _ => .writes sink chunk
  | .writing { sink := sink, chunks := chunk :: _, ending := _ }, .returns outcome =>
    .breaksOff sink chunk outcome
  | .writing { sink := sink, chunks := [], ending := ending }, _ =>
    .leaves sink (ending.outcome sink)
  | .marking, .goesOn _ => .claims
  | .marking, .returns outcome => .comesLate outcome
  | .releasing (sink :: _) _, _ => .takes sink
  | .releasing [] result, _ => .finishes (.returned result)
  | .flushing sink _ _, _ => .flushes sink (sinks.flush sink).1

/-- The steps of a call. -/
inductive Moves (sinks : Sinks) : SinkCall → SinkDeed → Progress SinkCall UseOutcome → Sinks → Prop
    where
  | enter {use : SinkUse} (hlive : (sinks.get use.sink).released = false) :
      Moves sinks (.entering use) (.enters use) (.goesOn (.writing use)) sinks
  | turnBack {use : SinkUse} {outcome : UseOutcome}
      (hreleased : (sinks.get use.sink).released = true)
      (houtcome : outcome = .returned (.error (.destroyed use.sink))) :
      Moves sinks (.entering use) (.turnsBack use outcome) (.returns outcome) sinks
  | write {sink : Sink} {chunk : Bytes} {chunks : List Bytes} {ending : UseEnding} {after : Sinks}
      (hwrite : sinks.actOn sink (Device.write · chunk) = (.ok (), after)) :
      Moves sinks (.writing ⟨sink, chunk :: chunks, ending⟩) (.writes sink chunk)
        (.goesOn (.writing ⟨sink, chunks, ending⟩)) after
  | breakOff {sink : Sink} {chunk : Bytes} {chunks : List Bytes} {ending : UseEnding}
      {outcome : UseOutcome} {failure : IoFailure} {after : Sinks}
      (hwrite : sinks.actOn sink (Device.write · chunk) = (.error failure, after))
      (houtcome : outcome = .returned (.error (.write sink failure))) :
      Moves sinks (.writing ⟨sink, chunk :: chunks, ending⟩) (.breaksOff sink chunk outcome)
        (.returns outcome) after
  | leave {sink : Sink} {ending : UseEnding} :
      Moves sinks (.writing ⟨sink, [], ending⟩) (.leaves sink (ending.outcome sink))
        (.returns (ending.outcome sink)) sinks
  | claim (hfirst : sinks.destroyed = false) :
      Moves sinks .marking .claims (.goesOn (.releasing Sink.all (.ok ())))
        { sinks with destroyed := true }
  | comeLate {outcome : UseOutcome} (hmarked : sinks.destroyed = true)
      (houtcome : outcome = .returned (.error .alreadyDestroyed)) :
      Moves sinks .marking (.comesLate outcome) (.returns outcome) sinks
  | take {sink : Sink} {later : List Sink} {result : Except SinkError Unit} :
      Moves sinks (.releasing (sink :: later) result) (.takes sink)
        (.goesOn (.flushing sink later result)) (sinks.release sink)
  | flush {sink : Sink} {later : List Sink} {result flushed : Except SinkError Unit} {after : Sinks}
      (hflush : sinks.flush sink = (flushed, after)) :
      Moves sinks (.flushing sink later result) (.flushes sink flushed)
        (.goesOn (.releasing later (Sinks.firstError result flushed))) after
  | finish {result : Except SinkError Unit} :
      Moves sinks (.releasing [] result) (.finishes (.returned result))
        (.returns (.returned result)) sinks

/-- **Every step follows one of the rules.** -/
theorem moves_step (sinks : Sinks) (call : SinkCall) :
    Moves sinks call (call.deed sinks) (call.step sinks).1 (call.step sinks).2 := by
  cases call with
  | entering use =>
    cases hreleased : (sinks.get use.sink).released with
    | true => simpa [step, deed, hreleased] using Moves.turnBack hreleased rfl
    | false => simpa [step, deed, hreleased] using Moves.enter hreleased
  | writing use =>
    obtain ⟨sink, chunks, ending⟩ := use
    cases chunks with
    | nil => cases ending <;> exact .leave
    | cons chunk chunks =>
      rcases hwrite : sinks.actOn sink (Device.write · chunk) with ⟨failure | ⟨⟨⟩⟩, after⟩
      · simpa [step, deed, hwrite] using Moves.breakOff hwrite rfl
      · simpa [step, deed, hwrite] using Moves.write hwrite
  | marking =>
    cases hmarked : sinks.destroyed with
    | true => simpa [step, deed, Sinks.claimRelease, hmarked] using Moves.comeLate hmarked rfl
    | false => simpa [step, deed, Sinks.claimRelease, hmarked] using Moves.claim hmarked
  | releasing waiting result =>
    cases waiting with
    | nil => exact .finish
    | cons sink later => exact .take
  | flushing sink later result => exact .flush rfl

end SinkCall

/-! ## What the sinks look like afterwards

A deed concerns one sink, or marks all of them. What it leaves alone is said first, so that later
only the sink in question has to be looked at. -/

/-- What acting on a sink changes, and what it leaves alone. -/
theorem Sinks.eq_of_actOn {sinks after : Sinks} {sink : Sink} {result : Except IoFailure Unit}
    {body : Device → Except IoFailure Unit × Device}
    (hact : sinks.actOn sink body = (result, after)) :
    ∃ device, body { (sinks.get sink).device with clock := sinks.clock } = (result, device) ∧
      after.get sink = { sinks.get sink with device := device } ∧
      (∀ other, other ≠ sink → after.get other = sinks.get other) ∧
      after.destroyed = sinks.destroyed := by
  unfold actOn at hact
  obtain ⟨rfl, rfl⟩ := Prod.mk.inj hact
  refine ⟨_, rfl, ?_, fun other hne => ?_, ?_⟩
  · rw [get_tick, get_set_self]
  · rw [get_tick, get_set_of_ne _ _ hne]
  · exact destroyed_set _ _ _

/-- A flush is something that is done with the device, and it fails if the device does. -/
theorem Sinks.actOn_of_flush {sinks after : Sinks} {sink : Sink} {flushed : Except SinkError Unit}
    (hflush : sinks.flush sink = (flushed, after)) :
    ∃ result, sinks.actOn sink Device.flush = (result, after) ∧
      (flushed = .ok () → result = .ok ()) := by
  unfold flush at hflush
  rcases hact : sinks.actOn sink Device.flush with ⟨failure | ⟨⟨⟩⟩, acted⟩ <;> rw [hact] at hflush
  · obtain ⟨rfl, rfl⟩ := Prod.mk.inj hflush
    exact ⟨_, rfl, nofun⟩
  · obtain ⟨-, rfl⟩ := Prod.mk.inj hflush
    exact ⟨_, rfl, fun _ => rfl⟩

namespace SinkCall.Moves

variable {sinks after : Sinks} {call : SinkCall} {deed : SinkDeed}
  {progress : Progress SinkCall UseOutcome} {sink : Sink}

/-- **A deed that does not concern a sink** leaves it as it is. -/
theorem get_of_ne (h : Moves sinks call deed progress after) (hne : deed.target? ≠ some sink) :
    after.get sink = sinks.get sink := by
  have hother : ∀ {other}, deed.target? = some other → sink ≠ other := by
    rintro _ htarget rfl
    exact hne htarget
  cases h with
  | enter | turnBack | leave | comeLate | finish => rfl
  | claim => cases sink <;> rfl
  | write hwrite =>
    obtain ⟨-, -, -, hrest, -⟩ := Sinks.eq_of_actOn hwrite
    exact hrest sink (hother rfl)
  | breakOff hwrite =>
    obtain ⟨-, -, -, hrest, -⟩ := Sinks.eq_of_actOn hwrite
    exact hrest sink (hother rfl)
  | take => exact Sinks.get_set_of_ne _ _ (hother rfl)
  | flush hflush =>
    obtain ⟨_, hact, -⟩ := Sinks.actOn_of_flush hflush
    obtain ⟨-, -, -, hrest, -⟩ := Sinks.eq_of_actOn hact
    exact hrest sink (hother rfl)

/-- A sink is there as long as nobody takes it. -/
theorem released_of_ne (h : Moves sinks call deed progress after) (hne : deed ≠ .takes sink) :
    (after.get sink).released = (sinks.get sink).released := by
  by_cases htarget : deed.target? = some sink
  · cases h with
    | enter | turnBack | leave | comeLate | finish | claim => cases htarget
    | write hwrite | breakOff hwrite =>
      cases htarget
      obtain ⟨device, -, hget, -⟩ := Sinks.eq_of_actOn hwrite
      rw [hget]
    | take =>
      cases htarget
      exact absurd rfl hne
    | flush hflush =>
      cases htarget
      obtain ⟨_, hact, -⟩ := Sinks.actOn_of_flush hflush
      obtain ⟨device, -, hget, -⟩ := Sinks.eq_of_actOn hact
      rw [hget]
  · rw [h.get_of_ne htarget]

/-- Who takes a sink releases it. -/
theorem released_of_takes (h : Moves sinks call (.takes sink) progress after) :
    (after.get sink).released = true := by
  cases h with
  | take => simp [Sinks.release]

/-- A sink that is gone stays so. -/
theorem released_mono (h : Moves sinks call deed progress after)
    (hreleased : (sinks.get sink).released = true) : (after.get sink).released = true := by
  by_cases htakes : deed = .takes sink
  · subst htakes
    exact h.released_of_takes
  · rw [h.released_of_ne htakes, hreleased]

/-- The sinks are marked by the first who claims them. -/
theorem destroyed_eq (h : Moves sinks call deed progress after) :
    after.destroyed = true ↔ sinks.destroyed = true ∨ deed = .claims := by
  cases h with
  | enter | turnBack | leave | comeLate | finish => simp
  | claim => simp
  | write hwrite | breakOff hwrite =>
    obtain ⟨-, -, -, -, hsame⟩ := Sinks.eq_of_actOn hwrite
    simp [hsame]
  | take => simp [Sinks.release]
  | flush hflush =>
    obtain ⟨_, hact, -⟩ := Sinks.actOn_of_flush hflush
    obtain ⟨-, -, -, -, hsame⟩ := Sinks.eq_of_actOn hact
    simp [hsame]

/-- What a deed does to a device. -/
theorem device_eq (h : Moves sinks call deed progress after) (sink : Sink) :
    after.written sink = sinks.written sink ++ deed.bytesTo sink ∧
      (after.get sink).device.buffer.isSome = (sinks.get sink).device.buffer.isSome ∧
      (after.get sink).device.flushes =
        (sinks.get sink).device.flushes + if deed.isFlushOf sink then 1 else 0 := by
  by_cases htarget : deed.target? = some sink
  · cases h with
    | enter | turnBack | leave | comeLate | finish | claim => cases htarget
    | write hwrite | breakOff hwrite =>
      cases htarget
      obtain ⟨device, hdevice, hget, -⟩ := Sinks.eq_of_actOn hwrite
      obtain ⟨hwritten, hflushes, hbuffer⟩ := Device.written_of_write hdevice
      rw [Sinks.written, hget]
      refine ⟨hwritten.trans ?_, hbuffer, hflushes⟩
      simp [SinkDeed.bytesTo, Device.landed]
      rfl
    | take =>
      cases htarget
      simp [Sinks.written, Sinks.release, SinkDeed.bytesTo, SinkDeed.isFlushOf]
    | flush hflush =>
      cases htarget
      obtain ⟨_, hact, -⟩ := Sinks.actOn_of_flush hflush
      obtain ⟨device, hdevice, hget, -⟩ := Sinks.eq_of_actOn hact
      obtain ⟨hwritten, hflushes, hbuffer, -⟩ := Device.written_of_flush hdevice
      rw [Sinks.written, hget]
      refine ⟨hwritten.trans ?_, hbuffer, hflushes.trans ?_⟩
      · exact (List.append_nil _).symm
      · simp [SinkDeed.isFlushOf]
  · -- a deed that is about another sink
    have hbytes : deed.bytesTo sink = [] := by
      cases deed <;> simp_all [SinkDeed.bytesTo, SinkDeed.target?]
    have hflush : deed.isFlushOf sink = false := by
      cases deed <;> simp_all [SinkDeed.isFlushOf, SinkDeed.target?]
    rw [Sinks.written, h.get_of_ne htarget, hbytes, hflush]
    exact ⟨(List.append_nil _).symm, rfl, rfl⟩

end SinkCall.Moves

/-! ## Steps of a session

The locks decide whose step it can be: a thread that needs a lock can move if nobody else has it.
`Turn` has this as a premise, and what a step does is what the deed of the call says. -/

namespace Session

variable {session next : Session} {i : Nat} {sink : Sink}

/-- No thread holds the lock of a sink. -/
def IsFree (session : Session) (sink : Sink) : Prop :=
  ∀ user ∈ session.users, user.holds ≠ some sink

/-- No thread but the `i`-th holds the lock of a sink. -/
def IsLeftTo (session : Session) (i : Nat) (sink : Sink) : Prop :=
  ∀ (j : Nat) (other : SinkUser), session.users[j]? = some other → other.holds = some sink → j = i

/-- What the next step of the `i`-th thread does, with its number. -/
def deeds (i : Nat) (session : Session) : List (Nat × SinkDeed) :=
  match session.users[i]?.bind SinkUser.call with
  | some call => [(i, call.deed session.sinks)]
  | none => []

/-- A step of the `i`-th thread. -/
inductive Turn (session : Session) (i : Nat) : SinkDeed → Session → Prop where
  | intro {user : SinkUser} {call : SinkCall} {deed : SinkDeed}
      {progress : Progress SinkCall UseOutcome} {after : Sinks}
      (huser : session.users[i]? = some user) (hcall : user.call = some call)
      (hlock : ∀ sink, call.needs = some sink → session.IsLeftTo i sink)
      (hmoves : call.Moves session.sinks deed progress after) :
      Turn session i deed { sinks := after, users := session.users.set i (user.progress progress) }

/-- The lock is not in the hands of another thread. -/
theorem isHeld_eq_false_iff : session.isHeld i sink = false ↔ session.IsLeftTo i sink := by
  unfold isHeld IsLeftTo
  rw [List.any_eq_false]
  constructor
  · intro hnone j other hother hholds
    have hfree := hnone (other, j) (List.mem_zipIdx_iff_getElem?.mpr hother)
    simpa [hholds] using hfree
  · rintro hnone ⟨other, j⟩ hmem
    have hown := hnone j other (List.mem_zipIdx_iff_getElem?.mp hmem)
    simpa [Decidable.not_imp_not, ← Decidable.imp_iff_not_or, imp.swap] using hown

/-- **A step of a session is a step of one call.** -/
theorem turn_of_step (hstep : session.step i = some next) :
    ∃ deed, session.deeds i = [(i, deed)] ∧ Turn session i deed next := by
  unfold step at hstep
  split at hstep
  · next user huser =>
    split at hstep
    · next call hcall =>
      split at hstep
      · contradiction
      · next hfree =>
        obtain rfl := Option.some.inj hstep
        refine ⟨call.deed session.sinks, by simp [deeds, huser, hcall], ?_⟩
        refine .intro huser hcall (fun sink hneeds => ?_) (call.moves_step session.sinks)
        rw [hneeds] at hfree
        exact isHeld_eq_false_iff.mp (Bool.eq_false_iff.mpr hfree)
    · contradiction
  · contradiction

/-- A thread can move if the lock that it needs is free. -/
theorem exists_step {user : SinkUser} {call : SinkCall} (huser : session.users[i]? = some user)
    (hcall : user.call = some call) (hlock : ∀ sink, call.needs = some sink → session.IsFree sink) :
    ∃ next, session.step i = some next := by
  have hfree : call.needs.any (session.isHeld i) = false := by
    cases hneeds : call.needs with
    | none => rfl
    | some sink =>
      -- a lock that nobody holds is not held by another thread either
      refine isHeld_eq_false_iff.mpr fun j other hother hholds => ?_
      exact absurd hholds (hlock sink hneeds other (List.mem_of_getElem? hother))
  simp only [step, huser, hcall, hfree]
  exact ⟨_, rfl⟩

end Session

/-! ## Threads and their tasks

A thread has a list of tasks and a list of answers, and it is at the task behind the answered ones.
So what was asked of it can be told from how far it has come. -/

/-- The call carries out the task, and has come to some place in it. -/
inductive SinkTask.Stands : SinkTask → SinkCall → Prop where
  | entering (use : SinkUse) : Stands (.uses use) (.entering use)
  | writing {sink : Sink} (written rest : List Bytes) {ending : UseEnding} :
      Stands (.uses ⟨sink, written ++ rest, ending⟩) (.writing ⟨sink, rest, ending⟩)
  | marking : Stands .destroys .marking
  | releasing (later : List Sink) (result : Except SinkError Unit) :
      Stands .destroys (.releasing later result)
  | flushing (sink : Sink) (later : List Sink) (result : Except SinkError Unit) :
      Stands .destroys (.flushing sink later result)

/-- A call begins at the beginning of its task. -/
theorem SinkTask.stands_call (task : SinkTask) : task.Stands task.call := by
  cases task with
  | uses use => exact .entering use
  | destroys => exact .marking

/-- A call that goes on carries out the same task. -/
theorem SinkCall.Moves.stands {sinks after : Sinks} {call later : SinkCall} {deed : SinkDeed}
    {task : SinkTask} (h : Moves sinks call deed (.goesOn later) after)
    (hstands : task.Stands call) :
    task.Stands later := by
  cases h with
  | @enter use =>
    cases hstands
    exact .writing [] use.chunks
  | @write sink chunk chunks ending after hwrite =>
    cases hstands with
    | writing written =>
      rw [List.append_cons]
      exact .writing (written ++ [chunk]) chunks
  | claim =>
    cases hstands
    exact .releasing _ _
  | take =>
    cases hstands
    exact .flushing _ _ _
  | flush hflush =>
    cases hstands
    exact .releasing _ _

/-- The thread has carried out as many of the tasks as it has answers, and is at the next one. -/
inductive SinkUser.Follows (tasks : List SinkTask) : SinkUser → Prop where
  | idle {outcomes : List UseOutcome} (hdone : outcomes.length = tasks.length) :
      Follows tasks ⟨none, [], outcomes⟩
  | busy {task : SinkTask} {call : SinkCall} {rest : List SinkTask} {outcomes : List UseOutcome}
      (hnext : tasks.drop outcomes.length = task :: rest) (hstands : task.Stands call) :
      Follows tasks ⟨some call, rest.map SinkTask.call, outcomes⟩

namespace SinkUser.Follows

variable {tasks : List SinkTask} {user : SinkUser}

/-- A thread that has so many answers, and these tasks left. -/
theorem of_drop {left : List SinkTask} {outcomes : List UseOutcome}
    (hleft : tasks.drop outcomes.length = left) (hle : outcomes.length ≤ tasks.length) :
    Follows tasks { ofCalls (left.map SinkTask.call) with outcomes := outcomes } := by
  cases left with
  | nil =>
    have hge : tasks.length ≤ outcomes.length := List.drop_eq_nil_iff.mp hleft
    exact .idle (by omega)
  | cons task rest => exact .busy hleft task.stands_call

/-- An answer takes the thread to its next task, and any other step leaves it at the same. -/
theorem progress {sinks after : Sinks} {call : SinkCall} {deed : SinkDeed}
    {progress : Progress SinkCall UseOutcome} (h : user.Follows tasks)
    (hcall : user.call = some call)
    (hmoves : call.Moves sinks deed progress after) : (user.progress progress).Follows tasks := by
  cases h with
  | idle => contradiction
  | @busy task call' rest outcomes hnext hstands =>
    obtain rfl : call' = call := Option.some.inj hcall
    cases progress with
    | goesOn later => exact .busy hnext (hmoves.stands hstands)
    | returns outcome =>
      -- one more answer, and one task less to carry out
      have hlt : outcomes.length < tasks.length := by
        have hlength := congrArg List.length hnext
        rw [List.length_drop, List.length_cons] at hlength
        omega
      have hleft : tasks.drop (outcome :: outcomes).length = rest := by
        have htail := congrArg List.tail hnext
        rwa [List.tail_drop] at htail
      have hfollows := of_drop hleft hlt
      cases rest <;> exact hfollows

/-- The task that the thread is at. -/
theorem task_of_call {call : SinkCall} (h : user.Follows tasks) (hcall : user.call = some call) :
    ∃ task, tasks[user.outcomes.length]? = some task ∧ task.Stands call := by
  cases h with
  | idle => contradiction
  | @busy task call' rest outcomes hnext hstands =>
    obtain rfl : call' = call := Option.some.inj hcall
    refine ⟨task, ?_, hstands⟩
    have hhead := congrArg List.head? hnext
    rwa [List.head?_drop] at hhead

/-- A thread without a call has answers to all its tasks. -/
theorem length_of_idle (h : user.Follows tasks) (hcall : user.call = none) :
    user.outcomes.length = tasks.length := by
  cases h with
  | idle hdone => exact hdone
  | busy => contradiction

/-- A thread that has been answered is before its next task, if there is one. -/
theorem call_returns (h : user.Follows tasks) (outcome : UseOutcome) :
    (user.progress (.returns outcome)).call = none ∨
      ∃ task : SinkTask, (user.progress (.returns outcome)).call = some task.call := by
  cases h with
  | idle => exact Or.inl rfl
  | @busy task call rest outcomes hnext hstands =>
    cases rest with
    | nil => exact Or.inl rfl
    | cons task rest => exact Or.inr ⟨task, rfl⟩

end SinkUser.Follows

namespace Session

variable {device : Sink → Device} {tasks : List (List SinkTask)} {session next : Session}

/-- Every thread carries out its own tasks, one after the other. -/
structure Follows (tasks : List (List SinkTask)) (session : Session) : Prop where
  length_eq : session.users.length = tasks.length
  follows : ∀ {i : Nat} {user : SinkUser}, session.users[i]? = some user →
    ∃ own, tasks[i]? = some own ∧ user.Follows own

/-- A step takes one thread on in its tasks and leaves all others where they are. -/
theorem Follows.turn {i : Nat} {deed : SinkDeed} (h : session.Follows tasks)
    (hturn : session.Turn i deed next) : next.Follows tasks := by
  obtain ⟨huser, hcall, -, hmoves⟩ := hturn
  refine ⟨by simp [h.length_eq], fun {j other} hother => ?_⟩
  rcases getElem?_set_cases hother with ⟨rfl, rfl⟩ | ⟨-, hsame⟩
  · obtain ⟨own, hown, hfollows⟩ := h.follows huser
    exact ⟨own, hown, hfollows.progress hcall hmoves⟩
  · exact h.follows hsame

theorem follows_ofTasks (device : Sink → Device) (tasks : List (List SinkTask)) :
    (ofTasks device tasks).Follows tasks := by
  refine ⟨by simp [ofTasks], fun {i user} huser => ?_⟩
  obtain ⟨own, hown, rfl⟩ : ∃ own, tasks[i]? = some own ∧
      SinkUser.ofCalls (own.map SinkTask.call) = user := by
    simpa [ofTasks] using huser
  refine ⟨own, hown, ?_⟩
  have hfollows : SinkUser.Follows own
      { SinkUser.ofCalls (own.map SinkTask.call) with outcomes := [] } :=
    .of_drop rfl (Nat.zero_le _)
  cases own <;> exact hfollows

end Session

end HostLookup
