import HostLookup.Proofs.Interleaving
import HostLookup.Proofs.Queue.Moves
import HostLookup.Proofs.Stage.Drain
import HostLookup.Stage.Crowd

/-!
# What a move can do to stages and queues

A thread starts a call, or a caller makes its next step. On record are the calls that were begun,
the steps that were made, the claims that found their stage running, and the items that went into a
queue, each with the place of its caller.

Whatever a call does to a stage, the stage only goes forward (`Shutdown.Forward`): its state goes
up, its workers do not grow, and once it is claimed they do not change.

* **`StageCall.moves_of_step`**: the ways in which a step can go.
* **`StageCall.Moves.forward`**: every stage goes forward, and only a drain counts sentinels.
-/

namespace HostLookup

/-! ## Stages go forward

The states of a stage have a rank. Nothing lowers it, nothing adds workers, and only a stage that
nobody has claimed can lose some. Everything else about stages follows from these three. -/

namespace Shutdown

/-- The second is what a stage may become of the first. -/
structure Forward (s s' : Shutdown) : Prop where
  rank_le : s.state.rank ≤ s'.state.rank
  workers_le : s'.workers ≤ s.workers
  workers_eq : s.state ≠ .running → s'.workers = s.workers

variable {s s' s'' : Shutdown}

/-- A stage that does not change goes forward. -/
theorem Forward.refl (s : Shutdown) : s.Forward s :=
  ⟨Nat.le_refl _, Nat.le_refl _, fun _ => rfl⟩

/-- A stage that is claimed stays claimed. -/
theorem Forward.ne_running (h : s.Forward s') (hclaimed : s.state ≠ .running) :
    s'.state ≠ .running := by
  intro hrunning
  have hrank := h.rank_le
  rw [hrunning] at hrank
  cases hstate : s.state with
  | running => exact hclaimed hstate
  | draining | stopped =>
    rw [hstate] at hrank
    contradiction

/-- A stage that has stopped stays so. -/
theorem Forward.stopped (h : s.Forward s') (hstopped : s.state = .stopped) :
    s'.state = .stopped := by
  have hrank := h.rank_le
  rw [hstopped] at hrank
  cases hstate : s'.state with
  | stopped => rfl
  | running | draining =>
    rw [hstate] at hrank
    contradiction

/-- Steps forward add up. -/
theorem Forward.trans (h : s.Forward s') (h' : s'.Forward s'') : s.Forward s'' where
  rank_le := Nat.le_trans h.rank_le h'.rank_le
  workers_le := Nat.le_trans h'.workers_le h.workers_le
  workers_eq hclaimed := (h'.workers_eq (h.ne_running hclaimed)).trans (h.workers_eq hclaimed)

/-- Workers are taken off a running stage only. -/
theorem forward_of_retain {started : Nat} (hretain : s.retain started = .ok s') :
    s.Forward s' ∧ s.state = .running ∧ s'.sentinelsSent = s.sentinelsSent := by
  unfold retain at hretain
  split at hretain
  · contradiction
  · next hrefused =>
    obtain ⟨hrunning, hle⟩ := not_or.mp hrefused
    obtain rfl := Except.ok.inj hretain
    refine ⟨⟨Nat.le_refl _, Nat.le_of_not_lt hle, fun hclaimed => ?_⟩, ?_, rfl⟩
    · exact absurd hclaimed hrunning
    · exact Decidable.not_not.mp hrunning

/-- A claim takes a running stage to the next state. -/
theorem forward_of_claim (hclaim : s.claim = .ok s') : s.Forward s' := by
  obtain ⟨hrunning, -⟩ := state_of_claim hclaim
  obtain ⟨hworkers, -⟩ := eq_of_claim hclaim
  refine ⟨?_, Nat.le_of_eq hworkers, fun _ => hworkers⟩
  rw [hrunning]
  exact Nat.zero_le _

theorem forward_workerStopped (s : Shutdown) : s.Forward s.workerStopped :=
  ⟨rank_le_workerStopped s, Nat.le_refl _, fun _ => rfl⟩

theorem forward_finish (s : Shutdown) : s.Forward s.finish := by
  refine ⟨?_, Nat.le_refl _, fun _ => rfl⟩
  cases hstate : s.state <;> simp [finish, StageState.rank]

/-- A claim that fails says in which state the stage is. -/
theorem claim_eq_error {failure : Failure} (hclaim : s.claim = .error failure) :
    s.state ≠ .running ∧ ∃ text, failure = .resource text := by
  unfold claim at hclaim
  split at hclaim
  · next hclaimed => exact ⟨hclaimed, _, (Except.error.inj hclaim).symm⟩
  · contradiction

end Shutdown

/-- Only the step that counts a sentinel changes their number. -/
theorem DrainCall.Moves.forward {sentinel : Sentinel} {before stage stage' : Shutdown}
    {queue queue' : Queue} {call : DrainCall} {progress : Progress DrainCall (Except Failure Unit)}
    (h : Moves sentinel before stage queue call progress stage' queue') :
    stage.Forward stage' ∧
      (stage'.sentinelsSent = stage.sentinelsSent ∨ ∃ later, call = .counting later) := by
  cases h with
  | allow | hold | refuse | late | put | sent | fail => exact ⟨.refl _, Or.inl rfl⟩
  | claim hclaim =>
    exact ⟨Shutdown.forward_of_claim hclaim, Or.inl (Shutdown.eq_of_claim hclaim).2⟩
  | @count later =>
    exact ⟨⟨Nat.le_refl _, Nat.le_refl _, fun _ => rfl⟩, Or.inr ⟨later, rfl⟩⟩

/-! ## Steps of a call

A call is made of one stage, one queue, or both. The step of a call changes those and leaves all
others as they are, so each fact about a step is a fact about the one entry of the list that it
touches. -/

namespace StageCall

/-- The steps of a call. -/
inductive Moves (stages : List Shutdown) (queues : List Queue) :
    StageCall → Progress StageCall StageAnswer → List Shutdown → List Queue → Prop where
  | reject {stage started : Nat} {s : Shutdown} {failure : Failure}
      (hs : stages[stage]? = some s) (hretain : s.retain started = .error failure) :
      Moves stages queues (.retain stage started)
        (.returns (.retain (.error failure))) stages queues
  | shrink {stage started : Nat} {s s' : Shutdown} (hs : stages[stage]? = some s)
      (hretain : s.retain started = .ok s') :
      Moves stages queues (.retain stage started) (.returns (.retain (.ok ())))
        (stages.set stage s') queues
  | drain {order : DrainOrder} {call : DrainCall} {before s s' : Shutdown} {q q' : Queue}
      {progress : Progress DrainCall (Except Failure Unit)} (hs : stages[order.stage]? = some s)
      (hq : queues[order.queue]? = some q)
      (hbefore : order.before.elim (some s) (stages[·]?) = some before)
      (hmoves : DrainCall.Moves order.sentinel before s q call progress s' q') :
      Moves stages queues (.drain order call) (progress.map (.drain order) .drain)
        (stages.set order.stage s') (queues.set order.queue q')
  | stop {stage : Nat} {s : Shutdown} (hs : stages[stage]? = some s)
      (hclaimed : s.state ≠ .running) :
      Moves stages queues (.workerStopped stage) (.returns (.workerStopped s.workerStopped.state))
        (stages.set stage s.workerStopped) queues
  | finish {stage : Nat} {s : Shutdown} (hs : stages[stage]? = some s) :
      Moves stages queues (.finish stage) (.returns .finish) (stages.set stage s.finish) queues
  | onQueue {queue : Nat} {call : Call} {q q' : Queue} {progress : Progress Call Answer}
      (hq : queues[queue]? = some q) (hstep : call.step q = some (progress, q')) :
      Moves stages queues (.onQueue queue call) (progress.map (.onQueue queue) .onQueue) stages
        (queues.set queue q')

variable {stages stages' : List Shutdown} {queues queues' : List Queue} {call : StageCall}
  {progress : Progress StageCall StageAnswer}

/-- The ways in which a step can go. -/
theorem moves_of_step (hstep : call.step stages queues = some (progress, stages', queues')) :
    Moves stages queues call progress stages' queues' := by
  -- a step needs its stage and its queue to be there, one after the other
  cases call with
  | retain stage started =>
    obtain ⟨s, hs, hstep⟩ := Option.bind_eq_some_iff.mp hstep
    split at hstep
    · next hretain =>
      obtain ⟨rfl, rfl, rfl⟩ := by simpa using hstep
      exact .reject hs hretain
    · next hretain =>
      obtain ⟨rfl, rfl, rfl⟩ := by simpa using hstep
      exact .shrink hs hretain
  | drain order call =>
    obtain ⟨s, hs, hstep⟩ := Option.bind_eq_some_iff.mp hstep
    obtain ⟨q, hq, hstep⟩ := Option.bind_eq_some_iff.mp hstep
    obtain ⟨before, hbefore, hstep⟩ := Option.bind_eq_some_iff.mp hstep
    obtain ⟨⟨after, s', q'⟩, hcall, hstep⟩ := Option.bind_eq_some_iff.mp hstep
    obtain ⟨rfl, rfl, rfl⟩ := by simpa using hstep
    exact .drain hs hq hbefore (DrainCall.moves_of_step hcall)
  | workerStopped stage =>
    obtain ⟨s, hs, hstep⟩ := Option.bind_eq_some_iff.mp hstep
    split at hstep
    · contradiction
    · next hclaimed =>
      obtain ⟨rfl, rfl, rfl⟩ := by simpa using hstep
      exact .stop hs hclaimed
  | finish stage =>
    obtain ⟨s, hs, hstep⟩ := Option.bind_eq_some_iff.mp hstep
    obtain ⟨rfl, rfl, rfl⟩ := by simpa using hstep
    exact .finish hs
  | onQueue queue call =>
    obtain ⟨q, hq, hstep⟩ := Option.bind_eq_some_iff.mp hstep
    obtain ⟨⟨after, q'⟩, hcall, hstep⟩ := Option.bind_eq_some_iff.mp hstep
    obtain ⟨rfl, rfl, rfl⟩ := by simpa using hstep
    exact .onQueue hq hcall

/-- What one update does to the stages, if it takes its own stage forward. -/
theorem forward_set {k place : Nat} {s s' t : Shutdown} (hplace : stages[place]? = some t)
    (hforward : t.Forward s') (hs : stages[k]? = some s) :
    ∃ after, (stages.set place s')[k]? = some after ∧ s.Forward after ∧
      (k = place → after = s' ∧ s = t) ∧ (k ≠ place → after = s) := by
  by_cases hk : k = place
  · subst hk
    obtain rfl : t = s := Option.some.inj (hplace.symm.trans hs)
    exact ⟨s', List.getElem?_set_self (List.getElem?_eq_some_iff.mp hs).1, hforward,
      fun _ => ⟨rfl, rfl⟩, fun hne => absurd rfl hne⟩
  · exact ⟨s, (List.getElem?_set_ne (Ne.symm hk)).trans hs, .refl s, fun heq => absurd heq hk,
      fun _ => rfl⟩

/-- **Every stage goes forward**, and only a drain of a stage counts sentinels. -/
theorem Moves.forward (h : Moves stages queues call progress stages' queues') {k : Nat}
    {s : Shutdown} (hs : stages[k]? = some s) :
    ∃ s', stages'[k]? = some s' ∧ s.Forward s' ∧ (s'.sentinelsSent = s.sentinelsSent ∨
      ∃ order later, call = .drain order (.counting later) ∧ order.stage = k) := by
  -- a stage that is not the one that is touched has not changed at all
  have hset : ∀ {place : Nat} {t t' : Shutdown}, stages[place]? = some t → t.Forward t' →
      t'.sentinelsSent = t.sentinelsSent → ∃ s', (stages.set place t')[k]? = some s' ∧
        s.Forward s' ∧ s'.sentinelsSent = s.sentinelsSent := by
    intro place t t' ht hforward hsent
    obtain ⟨s', hs', hgoes, hself, hother⟩ := forward_set ht hforward hs
    refine ⟨s', hs', hgoes, ?_⟩
    by_cases hk : k = place
    · obtain ⟨rfl, rfl⟩ := hself hk
      exact hsent
    · rw [hother hk]
  cases h with
  | reject | onQueue => exact ⟨s, hs, .refl s, Or.inl rfl⟩
  | shrink ht hretain =>
    obtain ⟨hforward, -, hsent⟩ := Shutdown.forward_of_retain hretain
    obtain ⟨s', hs', hgoes, hsame⟩ := hset ht hforward hsent
    exact ⟨s', hs', hgoes, Or.inl hsame⟩
  | stop ht =>
    obtain ⟨s', hs', hgoes, hsame⟩ := hset ht (Shutdown.forward_workerStopped _) rfl
    exact ⟨s', hs', hgoes, Or.inl hsame⟩
  | finish ht =>
    obtain ⟨s', hs', hgoes, hsame⟩ := hset ht (Shutdown.forward_finish _) rfl
    exact ⟨s', hs', hgoes, Or.inl hsame⟩
  | @drain order call before t t' q q' progress ht hq hbefore hmoves =>
    obtain ⟨hforward, hsent⟩ := hmoves.forward
    obtain ⟨s', hs', hgoes, hself, hother⟩ := forward_set ht hforward hs
    refine ⟨s', hs', hgoes, ?_⟩
    by_cases hk : k = order.stage
    · obtain ⟨rfl, rfl⟩ := hself hk
      refine hsent.imp id fun hcounting => ?_
      obtain ⟨later, rfl⟩ := hcounting
      exact ⟨order, later, rfl, hk.symm⟩
    · rw [hother hk]
      exact Or.inl rfl

/-- A call that goes on as a drain was one. -/
theorem Moves.drain_of_goesOn {order : DrainOrder} {own : DrainCall}
    (h : Moves stages queues call (.goesOn (.drain order own)) stages' queues') :
    ∃ before, call = .drain order before := by
  generalize hprogress : Progress.goesOn (StageCall.drain order own) = progress at h
  -- no other call turns into a drain
  cases h with
  | @drain order' before _ _ _ _ _ progress =>
    cases progress with
    | goesOn own' =>
      obtain ⟨rfl, -⟩ := StageCall.drain.inj (Progress.goesOn.inj hprogress)
      exact ⟨before, rfl⟩
    | returns => contradiction
  | @onQueue _ _ _ _ progress =>
    cases progress with
    | goesOn => exact absurd (Progress.goesOn.inj hprogress) nofun
    | returns => contradiction
  | reject | shrink | stop | finish => contradiction

/-- No stage and no queue comes or goes. -/
theorem Moves.length_eq (h : Moves stages queues call progress stages' queues') :
    stages'.length = stages.length ∧ queues'.length = queues.length := by
  cases h <;> simp

end StageCall

/-! ## Moves and what is on record of them

What is recorded of a step is read off the state before it. A claim is on record only if it finds
its stage running, for a drain that comes late claims nothing. -/

/-- What one caller does that others can notice later. -/
inductive StageEvent where
  | began (call : StageCall)
  | stepped
  /-- Found the stage running and claimed it. -/
  | claimed (stage : Nat)
  | stored (queue : Nat) (item : String)

namespace StageEvent

/-- A step that was made. -/
def stepped? : StageEvent → Option Unit
  | .stepped => some ()
  | _ => none

/-- The stage that was claimed. -/
def claimed? : StageEvent → Option Nat
  | .claimed stage => some stage
  | _ => none

/-- The item that was stored, with the place of its queue. -/
def stored? : StageEvent → Option (Nat × String)
  | .stored queue item => some (queue, item)
  | _ => none

/-- Items stored in one queue are read back as they were stored, each with that queue. -/
theorem filterMap_stored?_map (queue : Nat) (items : List String) :
    (items.map (stored queue)).filterMap stored? = items.map fun item => (queue, item) := by
  rw [List.filterMap_map]
  exact congrFun List.filterMap_eq_map items

end StageEvent

namespace StageCall

/-- What the next step of a drain does to its stage and to its queue. -/
def eventsOfDrain (order : DrainOrder) (s : Shutdown) (q : Queue) (call : DrainCall) :
    List StageEvent :=
  (if call = .claiming ∧ s.state = .running then [.claimed order.stage] else []) ++
    (q.stored call.putCall).map (.stored order.queue)

/-- Before it looks for its stage, and while it words a refusal, a drain does nothing. -/
theorem eventsOfDrain_eq_nil {order : DrainOrder} {s : Shutdown} {q : Queue} {call : DrainCall}
    (hclaim : call ≠ .claiming) (hput : call.putCall = none) :
    eventsOfDrain order s q call = [] := by
  rw [eventsOfDrain, if_neg fun hboth => hclaim hboth.1, hput]
  rfl

/-- What the next step of a call does. -/
def events (stages : List Shutdown) (queues : List Queue) : StageCall → List StageEvent
  | .drain order call =>
    match stages[order.stage]?, queues[order.queue]? with
    | some s, some q => eventsOfDrain order s q call
    | _, _ => []
  | .onQueue queue call =>
    match queues[queue]? with
    | some q => (q.stored (some call)).map (.stored queue)
    | none => []
  | _ => []

/-- A call begins nothing. It claims a stage only if it is a drain that finds the stage running. -/
theorem mem_events {stages : List Shutdown} {queues : List Queue} {call : StageCall}
    {event : StageEvent} (hmem : event ∈ call.events stages queues) :
    (∃ queue item, event = .stored queue item) ∨
      ∃ order s, call = .drain order .claiming ∧ event = .claimed order.stage ∧
        stages[order.stage]? = some s ∧ s.state = .running := by
  have hstored : ∀ {queue : Nat} {items : List String}, event ∈ items.map (.stored queue) →
      ∃ queue item, event = .stored queue item := by
    intro queue items hmem
    obtain ⟨item, -, rfl⟩ := List.mem_map.mp hmem
    exact ⟨queue, item, rfl⟩
  cases call with
  | drain order call =>
    simp only [events] at hmem
    split at hmem
    · next s q hs _ =>
      rcases List.mem_append.mp hmem with hclaim | hstore
      · split at hclaim
        · next hboth =>
          obtain ⟨rfl, hrunning⟩ := hboth
          exact Or.inr ⟨order, s, rfl, List.mem_singleton.mp hclaim, hs, hrunning⟩
        · exact absurd hclaim List.not_mem_nil
      · exact Or.inl (hstored hstore)
    · exact absurd hmem List.not_mem_nil
  | onQueue queue call =>
    simp only [events] at hmem
    split at hmem
    · exact Or.inl (hstored hmem)
    · exact absurd hmem List.not_mem_nil
  | retain | workerStopped | finish => exact absurd hmem List.not_mem_nil

end StageCall

namespace StageCrowd

/-- What can happen next. -/
inductive Move where
  /-- Another thread starts a call. -/
  | join (call : StageCall)
  /-- The `i`-th caller makes a step. -/
  | step (i : Nat)

/-- Can a thread start this call? It begins at the beginning, and what it is about exists. -/
def admits (crowd : StageCrowd) : StageCall → Prop
  | .retain stage _ | .workerStopped stage | .finish stage => stage < crowd.stages.length
  | .drain order call => call = order.start ∧ order.stage < crowd.stages.length ∧
      order.queue < crowd.queues.length ∧ ∀ b ∈ order.before, b < crowd.stages.length
  | .onQueue queue call => call.isFresh = true ∧ queue < crowd.queues.length

instance (crowd : StageCrowd) (call : StageCall) : Decidable (crowd.admits call) := by
  cases call <;> unfold admits <;> infer_instance

def move : Move → StageCrowd → Option StageCrowd
  | .join call, crowd => if crowd.admits call then some (crowd.join call) else none
  | .step i, crowd => crowd.step i

/-- What happens in a move, and at whose place. -/
def happenings : Move → StageCrowd → List (Nat × StageEvent)
  | .join call, crowd => [(crowd.callers.length, .began call)]
  | .step i, crowd =>
    match crowd.callers[i]? with
    | some (.goesOn call) =>
      (.stepped :: call.events crowd.stages crowd.queues).map fun event => (i, event)
    | _ => []

/-- What happens in a step happens at the place of the caller that makes it. -/
theorem mem_happenings {crowd : StageCrowd} {i j : Nat} {event : StageEvent}
    (hmem : (j, event) ∈ happenings (.step i) crowd) :
    j = i ∧ (event = .stepped ∨ ∃ call, crowd.callers[i]? = some (.goesOn call) ∧
      event ∈ call.events crowd.stages crowd.queues) := by
  simp only [happenings] at hmem
  split at hmem
  · next call hcaller =>
    obtain ⟨_, hevent, heq⟩ := List.mem_map.mp hmem
    obtain ⟨rfl, rfl⟩ := Prod.mk.inj heq
    refine ⟨rfl, (List.mem_cons.mp hevent).imp id fun hrest => ⟨call, hcaller, hrest⟩⟩
  · exact absurd hmem List.not_mem_nil

/-- The number of steps that a caller has made. -/
def stepsOf (record : List (Nat × StageEvent)) (i : Nat) : Nat :=
  (Interleaves.tellings (fun entry => entry.2.stepped?) record i).length

/-- The stages that a caller has claimed. -/
def claimsOf (record : List (Nat × StageEvent)) (i : Nat) : List Nat :=
  Interleaves.tellings (fun entry => entry.2.claimed?) record i

/-- The items that a caller has put into queues. -/
def storesOf (record : List (Nat × StageEvent)) (i : Nat) : List (Nat × String) :=
  Interleaves.tellings (fun entry => entry.2.stored?) record i

/-- What a move does. -/
inductive Effect (crowd : StageCrowd) : Move → StageCrowd → Prop where
  | begins {call : StageCall} (hadmits : crowd.admits call) :
      Effect crowd (.join call) (crowd.join call)
  | advances {i : Nat} {call : StageCall} {progress : Progress StageCall StageAnswer}
      {stages : List Shutdown} {queues : List Queue}
      (hcaller : crowd.callers[i]? = some (.goesOn call))
      (hmoves : call.Moves crowd.stages crowd.queues progress stages queues) :
      Effect crowd (.step i)
        { stages := stages, queues := queues, callers := crowd.callers.set i progress }

theorem effect_of_move {crowd crowd' : StageCrowd} {m : Move} (hmove : move m crowd = some crowd') :
    Effect crowd m crowd' := by
  cases m with
  | join call =>
    simp only [move] at hmove
    split at hmove
    · next hadmits =>
      obtain rfl := Option.some.inj hmove
      exact .begins hadmits
    · contradiction
  | step i =>
    simp only [move, step] at hmove
    split at hmove
    · next call hcaller =>
      split at hmove
      · contradiction
      · next hcall =>
        obtain rfl := Option.some.inj hmove
        exact .advances hcaller (StageCall.moves_of_step hcall)
    · contradiction

/-- **Every stage goes forward** in every move. -/
theorem Effect.forward {crowd crowd' : StageCrowd} {m : Move} (h : Effect crowd m crowd') {k : Nat}
    {s : Shutdown} (hs : crowd.stages[k]? = some s) :
    ∃ s', crowd'.stages[k]? = some s' ∧ s.Forward s' := by
  cases h with
  | begins => exact ⟨s, hs, .refl s⟩
  | advances _ hmoves =>
    obtain ⟨s', hs', hforward, -⟩ := hmoves.forward hs
    exact ⟨s', hs', hforward⟩

end StageCrowd

end HostLookup
