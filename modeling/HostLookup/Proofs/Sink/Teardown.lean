import HostLookup.Proofs.Sink.Course
import Mathlib.Algebra.GroupWithZero.Nat

/-!
# The sinks are released once

The release of the sinks keeps to its course whatever other threads do. So it can be said of each
call on which side of the release it stands: the step that takes a sink parts the uses that found it
there from those that come late, and what the former have written is flushed.

* **`Session.marked_of_traces`**: one call is the first to mark the sinks, and all others are late.
* **`Session.split_at_take`**: the step that takes a sink parts its uses.
* **`Session.contents_of_traces`**: what was written to a sink has arrived when it has been flushed
  with success.
* **`Session.completes_of_traces`**: when nobody can move, the whole script was carried out.
-/

namespace HostLookup

namespace Session

variable {device : Sink → Device} {tasks : List (List SinkTask)} {log : List (Nat × SinkDeed)}
  {session next : Session} {sink : Sink} {i : Nat}

/-! ## Who comes late

The mark is set and tested in one step under the lock, so there is one winner, and everybody who
comes after it is told so. -/

/-- What is on record of the calls that would destroy the sinks: one was first, and all others were
told that they are late. -/
inductive Marked (session : Session) : List (Nat × SinkDeed) → Prop where
  | ahead (hmark : session.sinks.destroyed = false) : Marked session []
  | won {i : Nat} {late : List (Nat × SinkDeed)} (hmark : session.sinks.destroyed = true)
      (hlate : ∀ entry ∈ late, entry.2 = .comesLate (.returned (.error .alreadyDestroyed))) :
      Marked session ((i, .claims) :: late)

theorem Marked.turn {deed : SinkDeed} {marks : List (Nat × SinkDeed)} (h : session.Marked marks)
    (hturn : session.Turn i deed next) :
    next.Marked (marks ++ if deed.isMark then [(i, deed)] else []) := by
  obtain ⟨-, -, -, hmoves⟩ := hturn
  have hmarked := hmoves.destroyed_eq
  cases hmoves with
  | claim hfirst =>
    cases h with
    | ahead => exact .won rfl fun _ hmem => absurd hmem List.not_mem_nil
    | won hmark =>
      rw [hmark] at hfirst
      contradiction
  | @comeLate outcome hmark houtcome =>
    cases h with
    | ahead hfirst =>
      rw [hmark] at hfirst
      contradiction
    | won _ hlate =>
      refine .won hmark fun entry hmem => ?_
      rcases List.mem_append.mp hmem with hold | hnew
      · exact hlate entry hold
      · rw [List.mem_singleton.mp hnew, houtcome]
  | enter | turnBack | write | breakOff | leave | take | flush | finish =>
    -- the other steps neither mark the sinks nor are they on record here
    rw [if_neg (by simp [SinkDeed.isMark]), List.append_nil]
    cases h with
    | ahead hmark =>
      refine .ahead (Bool.eq_false_iff.mpr fun hafter => ?_)
      rcases hmarked.mp hafter with hbefore | hclaims
      · rw [hmark] at hbefore
        contradiction
      · cases hclaims
    | won hmark hlate => exact .won (hmarked.mpr (Or.inl hmark)) hlate

/-- **The first that marks the sinks wins.** -/
theorem marked_of_traces (htrace : Traces step deeds (ofTasks device tasks) log session) :
    session.Marked (marksOf log) := by
  apply htrace.invariant (P := fun log session => session.Marked (marksOf log)) (.ahead rfl)
  intro i record mid next hmid hstep
  obtain ⟨deed, hdeeds, hturn⟩ := turn_of_step hstep
  rw [hdeeds, marksOf_concat]
  exact hmid.turn hturn

/-- **What the threads are told** is what is on record as their answers. -/
theorem outcomes_of_traces (htrace : Traces step deeds (ofTasks device tasks) log session)
    (huser : session.users[i]? = some user) :
    user.outcomes.reverse = Interleaves.tellings (fun entry => entry.2.outcome?) log i := by
  revert user
  apply htrace.invariant (P := fun log session => ∀ {user : SinkUser},
    session.users[i]? = some user →
      user.outcomes.reverse = Interleaves.tellings (fun entry => entry.2.outcome?) log i)
  · intro user huser
    obtain ⟨own, -, rfl⟩ := List.mem_map.mp (List.mem_of_getElem? huser)
    cases own <;> rfl
  · intro j record mid next hmid hstep user hafter
    obtain ⟨deed, hdeeds, hturn⟩ := turn_of_step hstep
    obtain ⟨huser, -, -, hmoves⟩ := hturn
    rename_i mover call progress after
    rw [hdeeds, Interleaves.tellings, List.filter_append, List.filterMap_append,
      ← Interleaves.tellings]
    rcases getElem?_set_cases hafter with ⟨rfl, rfl⟩ | ⟨hne, hsame⟩
    · rw [← hmid huser]
      cases hmoves <;> simp [SinkUser.progress, SinkDeed.outcome?]
    · rw [← hmid hsame]
      simp [Ne.symm hne]

theorem failure_of_flushes (htrace : Traces step deeds (ofTasks device tasks) log session)
    {error : SinkError} (hmem : (i, .flushes sink (.error error)) ∈ log) :
    ∃ failure, error = .write sink failure := by
  revert hmem
  apply htrace.invariant (P := fun log _ => (i, .flushes sink (.error error)) ∈ log →
    ∃ failure, error = .write sink failure) fun hmem => absurd hmem List.not_mem_nil
  intro j record mid next hmid hstep hmem
  obtain ⟨deed, hdeeds, hturn⟩ := turn_of_step hstep
  obtain ⟨-, -, -, hmoves⟩ := hturn
  rw [hdeeds] at hmem
  rcases List.mem_append.mp hmem with hold | hnew
  · exact hmid hold
  · obtain ⟨rfl, rfl⟩ := Prod.mk.inj (List.mem_singleton.mp hnew)
    cases hmoves with
    | flush hflush =>
      unfold Sinks.flush at hflush
      split at hflush
      · cases hflush
      · next failure _ _ => exact ⟨failure, by cases hflush; rfl⟩

theorem flushes_of_traces (htrace : Traces step deeds (ofTasks device tasks) log session)
    (sink : Sink) :
    (session.sinks.get sink).device.flushes =
      (device sink).flushes + log.countP fun entry => entry.2.isFlushOf sink := by
  apply htrace.invariant (P := fun log session => (session.sinks.get sink).device.flushes =
    (device sink).flushes + log.countP fun entry => entry.2.isFlushOf sink)
  · simp [ofTasks, get_ofDevices]
  · intro i record mid next hmid hstep
    obtain ⟨deed, hdeeds, hturn⟩ := turn_of_step hstep
    obtain ⟨-, -, -, hmoves⟩ := hturn
    obtain ⟨-, -, hflushes⟩ := hmoves.device_eq sink
    rw [hflushes, hmid, hdeeds, List.countP_append, Nat.add_assoc]
    simp [List.countP_cons]

/-! ## Nothing is lost

Behind a buffer bytes may wait. The release flushes each sink before it takes it, and after that
nobody writes to it; so whatever waits is what a failed flush has left. -/

theorem waiting_of_flushes {call : SinkCall} {progress : Progress SinkCall UseOutcome}
    {sinks : Sinks} (hmoves : call.Moves sinks (.flushes sink (.ok ())) progress after) :
    (after.get sink).device.waiting = [] := by
  cases hmoves with
  | flush hflush =>
    obtain ⟨result, hact, hok⟩ := Sinks.actOn_of_flush hflush
    obtain ⟨device, hdevice, hget, -⟩ := Sinks.eq_of_actOn hact
    obtain ⟨-, -, -, hnothing⟩ := Device.written_of_flush hdevice
    rw [hget]
    exact hnothing (hok rfl)

/-- If nothing waits for a sink that is gone, it stays so, since nobody writes to it. -/
theorem Vacated.waiting_turn {deed : SinkDeed} (h : session.Vacated)
    (hturn : session.Turn i deed next) (hgone : (session.sinks.get sink).released = true)
    (hnothing : (session.sinks.get sink).device.waiting = []) :
    (next.sinks.get sink).device.waiting = [] := by
  obtain ⟨huser, hcall, -, hmoves⟩ := hturn
  have hnot := h sink hgone _ (List.mem_of_getElem? huser)
  rw [SinkUser.holds, hcall] at hnot
  by_cases htarget : deed.target? = some sink
  · cases hmoves with
    | enter | turnBack | leave | claim | comeLate | finish => cases htarget
    | write | breakOff => exact absurd htarget hnot
    | take =>
      cases htarget
      simpa [Sinks.release] using hnothing
    | flush hflush =>
      cases htarget
      obtain ⟨result, hact, -⟩ := Sinks.actOn_of_flush hflush
      obtain ⟨device, hdevice, hget, -⟩ := Sinks.eq_of_actOn hact
      have hleft := Device.waiting_flush
        (d := { (session.sinks.get sink).device with clock := session.sinks.clock }) hnothing
      rw [hdevice] at hleft
      rw [hget]
      exact hleft
  · show (Sinks.get _ sink).device.waiting = []
    rw [hmoves.get_of_ne htarget]
    exact hnothing

/-- **Nothing waits for a sink that was flushed with success.** -/
theorem waiting_of_traces (htrace : Traces step deeds (ofTasks device tasks) log session)
    (hmem : (i, .flushes sink (.ok ())) ∈ log) : (session.sinks.get sink).device.waiting = [] := by
  have hkept : session.Guarded tasks log ∧ ((i, .flushes sink (.ok ())) ∈ log →
      (session.sinks.get sink).released = true ∧
        (session.sinks.get sink).device.waiting = []) := by
    clear hmem
    apply htrace.invariant (P := fun log session => session.Guarded tasks log ∧
      ((i, .flushes sink (.ok ())) ∈ log → (session.sinks.get sink).released = true ∧
        (session.sinks.get sink).device.waiting = []))
    · exact ⟨guarded_of_traces .refl, fun hmem => absurd hmem List.not_mem_nil⟩
    · rintro j record mid next ⟨hguarded, hmid⟩ hstep
      obtain ⟨deed, hdeeds, hturn⟩ := turn_of_step hstep
      rw [hdeeds]
      refine ⟨hguarded.turn hturn, fun hmem => ?_⟩
      rcases List.mem_append.mp hmem with hold | hnew
      · obtain ⟨hgone, hnothing⟩ := hmid hold
        refine ⟨?_, hguarded.vacated.waiting_turn hturn hgone hnothing⟩
        obtain ⟨-, -, -, hmoves⟩ := hturn
        exact hmoves.released_mono hgone
      · obtain ⟨rfl, rfl⟩ := Prod.mk.inj (List.mem_singleton.mp hnew)
        obtain ⟨huser, hcall, -, hmoves⟩ := hturn
        refine ⟨?_, waiting_of_flushes hmoves⟩
        -- the sink was taken before it is flushed
        rw [hmoves.released_of_ne nofun]
        cases hmoves with
        | flush =>
          obtain ⟨_, _, -, -, -, -, -, hgone⟩ := hguarded.course.of_flushing huser hcall
          exact (hgone sink).mpr (Or.inr rfl)
  exact (hkept.2 hmem).2

/-- **A sink that was flushed with success has all that was written to it.** -/
theorem contents_of_traces (htrace : Traces step deeds (ofTasks device tasks) log session)
    (hmem : (i, .flushes sink (.ok ())) ∈ log) :
    session.sinks.contents sink = (device sink).written ++ bytesTo sink log := by
  rw [← (added_of_traces htrace sink).1]
  show _ = (session.sinks.get sink).device.contents ++ (session.sinks.get sink).device.waiting
  rw [waiting_of_traces htrace hmem, List.append_nil]
  rfl

/-! ## Before and after

Here the order of steps is at issue, so it is said about paths: one is cut at the step that takes
the sink. -/

def logOf (path : List (Nat × Session)) : List (Nat × SinkDeed) :=
  path.flatMap fun p => p.2.deeds p.1

variable {before path after' : List (Nat × Session)} {p : Nat × Session}

/-- What holds of every deed on the way holds of every entry on record. -/
theorem mem_logOf {start last : Session} {entry : Nat × SinkDeed}
    (hpath : Path step start path last) (hmem : entry ∈ logOf path) :
    ∃ state next, (entry.1, state) ∈ path ∧ state.Turn entry.1 entry.2 next := by
  obtain ⟨⟨j, state⟩, hp, hentry⟩ := List.mem_flatMap.mp hmem
  obtain ⟨-, -, next, hnext⟩ := hpath.of_mem hp
  obtain ⟨deed, hdeeds, hturn⟩ := turn_of_step hnext
  rw [hdeeds] at hentry
  obtain rfl := List.mem_singleton.mp hentry
  exact ⟨state, next, hp, hturn⟩

/-- A sink that is gone at some step of a path is gone at every later one. -/
theorem released_after {start last : Session} (hpath : Path step start (before ++ p :: path) last)
    (hgone : ∀ next, step p.1 p.2 = some next → (next.sinks.get sink).released = true) :
    ∀ q ∈ path, (q.2.sinks.get sink).released = true := by
  refine (hpath.holds_after (P := fun session => (session.sinks.get sink).released = true)
    (fun actor mid next hmid hstep => ?_) hgone).1
  obtain ⟨deed, -, hturn⟩ := turn_of_step hstep
  obtain ⟨-, -, -, hmoves⟩ := hturn
  exact hmoves.released_mono hmid

/-- What holds in a state after some step of a path, with what is on record until then. -/
theorem guarded_of_mem {last : Session}
    (hpath : Path step (ofTasks device tasks) (before ++ p :: path) last) :
    ∀ q ∈ path, ∃ between, q.2.Guarded tasks (logOf (before ++ p :: between)) := by
  intro q hmem
  obtain ⟨between, rest, rfl⟩ := List.append_of_mem hmem
  rw [← List.cons_append, ← List.append_assoc] at hpath
  exact ⟨between, guarded_of_traces (hpath.split.1.traces deeds)⟩

/-- **The step that takes a sink** comes after every use that found it there, and before every other
use. -/
theorem split_at_take {last : Session}
    (hpath : Path step (ofTasks device tasks) (before ++ p :: path) last)
    (htakes : p.2.deeds p.1 = [(p.1, .takes sink)]) :
    (∃ visits : List (Nat × Visit), usesOf sink (logOf before) = visits.flatMap entriesOf ∧
      (∀ visit ∈ visits, visit.2.use.sink = sink ∧ visit.2.isLive = true) ∧
      p.2.Added device sink (visits.flatMap fun visit => visit.2.written.flatten)) ∧
    ∀ entry ∈ usesOf sink (logOf path), ∃ use,
      entry.2 = .turnsBack use (.returned (.error (.destroyed sink))) := by
  obtain ⟨hbefore, next, hnext, hlater⟩ := hpath.split
  have htrace := hbefore.traces deeds
  obtain ⟨deed, hdeeds, hturn⟩ := turn_of_step hnext
  obtain rfl : deed = .takes sink := by simpa using hdeeds.symm.trans htakes
  obtain ⟨huser, hcall, hlock, hmoves⟩ := hturn
  rename_i user call progress taken
  have htaken : (taken.get sink).released = true := hmoves.released_of_takes
  cases hmoves with
  | @take sink later result =>
    refine ⟨?_, fun entry hmem => ?_⟩
    · -- nobody is inside a use, and nobody has been turned back yet
      have hfree : p.2.IsFree sink := by
        intro other hother hholds
        obtain ⟨j, hj⟩ := List.getElem?_of_mem hother
        obtain rfl := hlock sink rfl j other hj hholds
        obtain rfl : other = user := Option.some.inj (hj.symm.trans huser)
        simp [SinkUser.holds, hcall, SinkCall.holds] at hholds
      have hthere : ¬(p.2.sinks.get sink).released = true := by
        obtain ⟨answer, flushed, hsplit, -, -, -, -, hgone⟩ :=
          (guarded_of_traces htrace).course.of_releasing huser hcall
        rw [hgone]
        exact not_mem_of_split hsplit
      obtain ⟨visits, hlog, htold, hadded⟩ := visits_of_traces htrace hfree
      refine ⟨visits, hlog, fun visit hmem => ⟨htold.sink_eq visit hmem, ?_⟩, hadded⟩
      obtain ⟨k, visit⟩ := visit
      have hsink := htold.sink_eq _ hmem
      cases visit with
      | whole | broken => rfl
      | late use =>
        have hlate : (k, .turnsBack use (.returned (.error (.destroyed use.sink)))) ∈
            usesOf sink (logOf before) := by
          refine hlog ▸ List.mem_flatMap_of_mem hmem ?_
          simp [entriesOf, ofThread, Visit.deeds, Visit.outcome]
        have hreleased := released_of_turnsBack htrace (List.mem_filter.mp hlate).1
        obtain rfl : use.sink = sink := hsink
        exact absurd hreleased hthere
    · obtain ⟨hentry, hused⟩ := List.mem_filter.mp hmem
      obtain ⟨state, next', hstate, hturn⟩ := mem_logOf hlater hentry
      obtain ⟨_, hguarded⟩ := guarded_of_mem hpath _ hstate
      have hgone : (state.sinks.get sink).released = true := by
        refine released_after hpath (fun next hstep => ?_) _ hstate
        obtain rfl : next = _ := Option.some.inj (hstep.symm.trans hnext)
        exact htaken
      exact hguarded.vacated.turnsBack hturn hgone (by simpa using hused)

theorem Course.over_of_finishes {outcome : UseOutcome} (h : session.Course releases)
    (hmem : (i, .finishes outcome) ∈ releases) :
    session.sinks.destroyed = true ∧ (∀ sink, (session.sinks.get sink).released = true) ∧
      ∀ user ∈ session.users, user.isReleasing = false := by
  have hnot : ∀ (answer : Sink → Except SinkError Unit) (flushed : List Sink),
      SinkDeed.finishes outcome ∉ releaseUpTo answer flushed := by
    simp [releaseUpTo, retire]
  cases h with
  | ahead => contradiction
  | between =>
    obtain ⟨deed, hdeed, heq⟩ := List.mem_map.mp hmem
    obtain ⟨-, rfl⟩ := Prod.mk.inj heq
    exact absurd hdeed (hnot _ _)
  | within =>
    obtain ⟨deed, hdeed, heq⟩ := List.mem_map.mp hmem
    obtain ⟨-, rfl⟩ := Prod.mk.inj heq
    rcases List.mem_append.mp hdeed with hold | hlast
    · exact absurd hold (hnot _ _)
    · cases List.mem_singleton.mp hlast
  | ended hmark hgone hnobody => exact ⟨hmark, hgone, hnobody⟩

/-- **After the release** every call is told that it comes too late. -/
theorem after_finish {last : Session} {outcome : UseOutcome}
    (hpath : Path step (ofTasks device tasks) (before ++ p :: path) last)
    (hfinishes : p.2.deeds p.1 = [(p.1, .finishes outcome)]) :
    ∀ entry ∈ logOf path,
      (∃ use, entry.2 = .turnsBack use (.returned (.error (.destroyed use.sink)))) ∨
        entry.2 = .comesLate (.returned (.error .alreadyDestroyed)) := by
  intro entry hentry
  obtain ⟨-, next, -, hlater⟩ := hpath.split
  obtain ⟨state, next', hstate, hturn⟩ := mem_logOf hlater hentry
  obtain ⟨between, hguarded⟩ := guarded_of_mem hpath _ hstate
  have hmem : (p.1, .finishes outcome) ∈ releasesOf (logOf (before ++ p :: between)) := by
    simp [releasesOf, logOf, hfinishes, SinkDeed.isRelease]
  obtain ⟨hmark, hgone, hnobody⟩ := hguarded.course.over_of_finishes hmem
  cases hused : entry.2.usedSink? with
  | some sink =>
    obtain ⟨use, hdeed⟩ := hguarded.vacated.turnsBack hturn (hgone sink) hused
    obtain rfl : use.sink = sink := by simpa [hdeed, SinkDeed.usedSink?] using hused
    exact Or.inl ⟨use, hdeed⟩
  | none =>
    -- nobody is left who could go on with a release
    obtain ⟨i, deed⟩ := entry
    obtain ⟨huser, hcall, -, hmoves⟩ := hturn
    have hidle := hnobody _ (List.mem_of_getElem? huser)
    rw [SinkUser.isReleasing, hcall] at hidle
    cases hmoves with
    | enter | turnBack | write | breakOff | leave => cases hused
    | take | flush | finish => cases hidle
    | claim hfirst =>
      have hmark : state.sinks.destroyed = true := hmark
      rw [hfirst] at hmark
      contradiction
    | comeLate _ houtcome => exact Or.inr (by rw [houtcome])

/-! ## The release comes to its end

A thread in the release can always move when the lock it needs is free, and who holds a lock can
move as well. So nothing but finished threads is left when nobody can move. -/

/-- Who has carried out a task that destroys the sinks has found them marked or has marked them. -/
theorem destroyed_of_traces (htrace : Traces step deeds (ofTasks device tasks) log session)
    {own : List SinkTask} (huser : session.users[i]? = some user) (hown : tasks[i]? = some own)
    (hdone : SinkTask.destroys ∈ own.take user.outcomes.length) :
    session.sinks.destroyed = true := by
  have hkept : session.Guarded tasks log ∧ ∀ {user : SinkUser}, session.users[i]? = some user →
      SinkTask.destroys ∈ own.take user.outcomes.length → session.sinks.destroyed = true := by
    clear huser hdone
    apply htrace.invariant (P := fun log session => session.Guarded tasks log ∧
      ∀ {user : SinkUser}, session.users[i]? = some user →
        SinkTask.destroys ∈ own.take user.outcomes.length → session.sinks.destroyed = true)
    · refine ⟨guarded_of_traces .refl, fun huser hdone => ?_⟩
      obtain ⟨own', -, rfl⟩ := List.mem_map.mp (List.mem_of_getElem? huser)
      cases own' <;> simp [SinkUser.ofCalls] at hdone
    · rintro j record mid next ⟨hguarded, hmid⟩ hstep
      obtain ⟨deed, hdeeds, hturn⟩ := turn_of_step hstep
      rw [hdeeds]
      refine ⟨hguarded.turn hturn, fun hafter hdone => ?_⟩
      obtain ⟨huser, hcall, -, hmoves⟩ := hturn
      rename_i mover call progress after
      show after.destroyed = true
      rcases getElem?_set_cases hafter with ⟨rfl, rfl⟩ | ⟨-, hsame⟩
      · cases progress with
        | goesOn later => exact hmoves.destroyed_eq.mpr (Or.inl (hmid huser hdone))
        | returns outcome =>
          have hlonger : SinkTask.destroys ∈ own.take (mover.outcomes.length + 1) := hdone
          rw [List.take_add_one] at hlonger
          rcases List.mem_append.mp hlonger with hold | hnew
          · exact hmoves.destroyed_eq.mpr (Or.inl (hmid huser hold))
          · -- the call that returns is the one that destroys the sinks
            obtain ⟨own', hown', hmine⟩ := hguarded.follows.follows huser
            obtain rfl : own = own' := Option.some.inj (hown.symm.trans hown')
            obtain ⟨task, htask, hstands⟩ := hmine.task_of_call hcall
            rw [htask] at hnew
            obtain rfl : SinkTask.destroys = task := by simpa using hnew
            cases hstands <;> cases hmoves
            · assumption
            · obtain ⟨_, _, -, -, -, -, hmark, -⟩ := hguarded.course.of_releasing huser hcall
              exact hmark
      · exact hmoves.destroyed_eq.mpr (Or.inl (hmid hsame hdone))
  exact hkept.2 huser hdone

/-- Some thread can move unless all have made all their calls. -/
theorem idle_of_stuck (hstuck : ∀ i, session.step i = none) :
    ∀ user ∈ session.users, user.call = none := by
  -- who holds a lock can go on, so no lock is held
  have hfree : ∀ sink, session.IsFree sink := by
    intro sink user hmem hholds
    obtain ⟨i, huser⟩ := List.getElem?_of_mem hmem
    obtain ⟨rest, ending, hcall⟩ := writing_of_holds hholds
    obtain ⟨next, hnext⟩ := exists_step huser hcall fun other hneeds => by cases hneeds
    rw [hstuck] at hnext
    contradiction
  intro user hmem
  obtain ⟨i, huser⟩ := List.getElem?_of_mem hmem
  cases hcall : user.call with
  | none => rfl
  | some call =>
    obtain ⟨next, hnext⟩ := exists_step huser hcall fun sink _ => hfree sink
    rw [hstuck] at hnext
    contradiction

/-- **When nobody can move**, all calls have returned and, if one was to destroy the sinks, the
whole script of the release was carried out. -/
theorem completes_of_traces (htrace : Traces step deeds (ofTasks device tasks) log session)
    (hstuck : ∀ i, session.step i = none) {own : List SinkTask} (hown : own ∈ tasks)
    (hdestroys : SinkTask.destroys ∈ own) :
    ∃ i answer, releasesOf log = ofThread i (releaseScript answer) := by
  have hidle := idle_of_stuck hstuck
  have hguarded := guarded_of_traces htrace
  have hmark : session.sinks.destroyed = true := by
    obtain ⟨i, hi⟩ := List.getElem?_of_mem hown
    have hlt : i < session.users.length := by
      rw [hguarded.follows.length_eq]
      exact (List.getElem?_eq_some_iff.mp hi).1
    have huser := List.getElem?_eq_getElem hlt
    obtain ⟨own', hown', hmine⟩ := hguarded.follows.follows huser
    obtain rfl : own = own' := Option.some.inj (hi.symm.trans hown')
    refine destroyed_of_traces htrace huser hi ?_
    rwa [hmine.length_of_idle (hidle _ (List.getElem_mem hlt)), List.take_length]
  have hcourse := hguarded.course
  generalize releasesOf log = releases at hcourse ⊢
  cases hcourse with
  | ahead hfirst =>
    rw [hmark] at hfirst
    contradiction
  | between _ hwinner hcall | within _ hwinner hcall =>
    rw [hidle _ (List.mem_of_getElem? hwinner)] at hcall
    contradiction
  | ended => exact ⟨_, _, rfl⟩

end Session

/-! ## No interleaving goes on forever

Every step of a call lowers the number of steps that it has left, and the tasks of a thread are
given beforehand. -/

/-- The most steps that a call can still make. -/
def SinkCall.work : SinkCall → Nat
  | .entering use => use.chunks.length + 2
  | .writing use => use.chunks.length + 1
  | .marking => 2 * Sink.all.length + 2
  | .releasing later _ => 2 * later.length + 1
  | .flushing _ later _ => 2 * later.length + 2

def SinkUser.work (user : SinkUser) : Nat :=
  (user.call.toList.map SinkCall.work).sum + (user.later.map SinkCall.work).sum

theorem SinkCall.work_pos (call : SinkCall) : 0 < call.work := by
  cases call <;> simp [work]

theorem SinkCall.Moves.work_lt {sinks after : Sinks} {call : SinkCall} {deed : SinkDeed}
    {progress : Progress SinkCall UseOutcome} (h : Moves sinks call deed progress after)
    {user : SinkUser} (hcall : user.call = some call) :
    (user.progress progress).work < user.work := by
  cases progress with
  | goesOn later =>
    have hless : later.work < call.work := by
      cases h <;> simp only [work, List.length_cons] <;> omega
    simpa [SinkUser.work, SinkUser.progress, hcall] using hless
  | returns outcome =>
    have hpos := call.work_pos
    obtain ⟨_, later, outcomes⟩ := user
    obtain rfl := hcall
    cases later <;> simp [SinkUser.work, SinkUser.progress] <;> omega

theorem sum_map_set {α : Type} (f : α → Nat) {l : List α} {i : Nat} {a : α} (b : α)
    (hget : l[i]? = some a) : ((l.set i b).map f).sum + f a = (l.map f).sum + f b := by
  induction l generalizing i with
  | nil => contradiction
  | cons first rest ih =>
    cases i with
    | zero =>
      obtain rfl : first = a := Option.some.inj hget
      simp only [List.set_cons_zero, List.map_cons, List.sum_cons]
      omega
    | succ i =>
      have hrest := ih (i := i) hget
      simp only [List.set_cons_succ, List.map_cons, List.sum_cons]
      omega

theorem sum_map_set_lt {α : Type} {f : α → Nat} {l : List α} {i : Nat} {a b : α}
    (hget : l[i]? = some a) (hlt : f b < f a) : ((l.set i b).map f).sum < (l.map f).sum := by
  have hsum := sum_map_set f b hget
  omega

namespace Session

variable {device : Sink → Device} {tasks : List (List SinkTask)} {session : Session} {sink : Sink}
  {path : List (Nat × Session)}

/-- The most steps that the threads can still make together. -/
def work (session : Session) : Nat :=
  (session.users.map SinkUser.work).sum

/-- **No interleaving is longer than what there was to do.** -/
theorem length_le_work {start : Session} (hpath : Path step start path session) :
    path.length + session.work ≤ start.work := by
  apply hpath.invariant (P := fun path session => path.length + session.work ≤ start.work)
  · simp
  · intro i record mid next hmid hstep
    obtain ⟨deed, -, hturn⟩ := turn_of_step hstep
    obtain ⟨huser, hcall, -, hmoves⟩ := hturn
    have hless := sum_map_set_lt huser (hmoves.work_lt hcall)
    simp only [work, List.length_append, List.length_singleton] at hmid ⊢
    omega

/-! ## All together

`TearsDown` collects what the sections above have shown, for one path and all sinks. -/

/-- **The sinks are released once, and nothing is lost.** -/
structure TearsDown (device : Sink → Device) (tasks : List (List SinkTask))
    (path : List (Nat × Session)) (session : Session) : Prop where
  /-- One call is the first to mark the sinks, and all others are told that they are late. -/
  marked : session.Marked (marksOf (logOf path))
  /-- One thread takes and flushes each sink once, in order, whatever the flushes answer, and then
  returns the first error among them or, if there is none, nothing. So far it has come. -/
  script : ∃ i answer, releasesOf (logOf path) <+: ofThread i (releaseScript answer) ∧
    (verdict (Sink.all.map answer) = .ok () ↔ ∀ sink, answer sink = .ok ())
  /-- A failed flush names its sink. -/
  names : ∀ i sink error, (i, .flushes sink (.error error)) ∈ logOf path →
    ∃ failure, error = .write sink failure
  /-- No device is flushed behind the back of the record. -/
  flushes : ∀ sink, (session.sinks.get sink).device.flushes =
    (device sink).flushes + (logOf path).countP fun entry => entry.2.isFlushOf sink
  /-- The step that takes a sink comes after the last use that found it there. Everybody else is
  turned back and told which sink is gone. -/
  parts : ∀ before p after sink, path = before ++ p :: after →
    p.2.deeds p.1 = [(p.1, .takes sink)] →
    (∃ visits : List (Nat × Visit), usesOf sink (logOf before) = visits.flatMap entriesOf ∧
      (∀ visit ∈ visits, visit.2.use.sink = sink ∧ visit.2.isLive = true) ∧
      p.2.Added device sink (visits.flatMap fun visit => visit.2.written.flatten)) ∧
    ∀ entry ∈ usesOf sink (logOf after), ∃ use,
      entry.2 = .turnsBack use (.returned (.error (.destroyed sink)))
  /-- What was written to a sink has arrived when it has been flushed with success. -/
  arrived : ∀ i sink, (i, .flushes sink (.ok ())) ∈ logOf path →
    session.sinks.contents sink = (device sink).written ++ bytesTo sink (logOf path)
  /-- After the release every call is told that it comes too late. -/
  after : ∀ before p after outcome, path = before ++ p :: after →
    p.2.deeds p.1 = [(p.1, .finishes outcome)] → ∀ entry ∈ logOf after,
      (∃ use, entry.2 = .turnsBack use (.returned (.error (.destroyed use.sink)))) ∨
        entry.2 = .comesLate (.returned (.error .alreadyDestroyed))
  /-- The answers on record are those that the threads were given. -/
  answers : ∀ (i : Nat) (user : SinkUser), session.users[i]? = some user →
    user.outcomes.reverse = Interleaves.tellings (fun entry => entry.2.outcome?) (logOf path) i
  /-- There are no more steps than there was to do. -/
  bounded : path.length ≤ (ofTasks device tasks).work
  /-- When nobody can move, all calls have returned, and the script is at its end if one of them was
  to destroy the sinks. -/
  completes : (∀ i, session.step i = none) → (∀ user ∈ session.users, user.call = none) ∧
    ∀ own ∈ tasks, .destroys ∈ own →
      ∃ i answer, releasesOf (logOf path) = ofThread i (releaseScript answer)

theorem tearsDown_of_path (hpath : Path step (ofTasks device tasks) path session) :
    session.TearsDown device tasks path := by
  have htrace := hpath.traces deeds
  exact
    { marked := marked_of_traces htrace
      script := by
        obtain ⟨i, answer, hprefix⟩ := (guarded_of_traces htrace).course.isPrefix
        refine ⟨i, answer, hprefix, verdict_eq_ok_iff.trans ?_⟩
        simp [Sink.mem_all]
      names := fun i sink error => failure_of_flushes htrace
      flushes := flushes_of_traces htrace
      parts := by
        rintro before p after sink rfl
        exact split_at_take hpath
      arrived := fun i sink => contents_of_traces htrace
      after := by
        rintro before p after outcome rfl
        exact after_finish hpath
      answers := fun i user => outcomes_of_traces htrace
      bounded := Nat.le_trans (Nat.le_add_right _ _) (length_le_work hpath)
      completes := fun hstuck => ⟨idle_of_stuck hstuck, fun own hown hdestroys =>
        completes_of_traces htrace hstuck hown hdestroys⟩ }

/-- A line is written while the sinks are marked, a second call that would destroy them comes late,
and so does a second line. One flush fails, and the others are made all the same. -/
theorem tearsDown_of_path_failed_flush :
    let device : Sink → Device := fun sink =>
      { refusesFlush := if sink = .resolverLog then some (.system 28) else none }
    let tasks : List (List SinkTask) :=
      [[.destroys], [.uses ⟨.stdout, [[0x61], [0x0A]], .returns⟩, .destroys,
        .uses ⟨.stdout, [[0x62]], .returns⟩]]
    ∃ path session, Path step (ofTasks device tasks) path session ∧
      session.sinks.contents .stdout = [0x61, 0x0A] ∧
      session.users.map SinkUser.outcomes =
        [[.returned (.error (.write .resolverLog (.system 28)))],
        [.returned (.error (.destroyed .stdout)), .returned (.error .alreadyDestroyed),
          .returned (.ok ())]] ∧
      session.TearsDown device tasks path := by
  intro device tasks
  have hfollow : (Path.follow step [0, 1, 0, 0, 1, 1, 0, 0, 1, 1, 0, 0, 1, 0, 0, 0]
      (ofTasks device tasks)).map (fun session => (session.sinks.contents .stdout,
        session.users.map SinkUser.outcomes)) =
        some ([0x61, 0x0A], [[.returned (.error (.write .resolverLog (.system 28)))],
          [.returned (.error (.destroyed .stdout)), .returned (.error .alreadyDestroyed),
            .returned (.ok ())]]) := by
    decide +kernel
  obtain ⟨session, hsession, hboth⟩ := Option.map_eq_some_iff.mp hfollow
  obtain ⟨hcontents, houtcomes⟩ := Prod.mk.inj hboth
  obtain ⟨path, hpath⟩ := Path.of_follow hsession
  exact ⟨path, session, hpath, hcontents, houtcomes, tearsDown_of_path hpath⟩

end Session

end HostLookup
