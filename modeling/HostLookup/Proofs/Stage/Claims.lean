import HostLookup.Proofs.Stage.Fates

/-!
# Stages are claimed once

Whatever interleaving of calls there is, each stage goes one way and is claimed once at most.

* **`StageCrowd.bystands_of_path`**: a drain that has not claimed its stage changes nothing. It
  never waits and returns an error with its second step at the latest.
* **`StageCrowd.claims_of_path`**: the one that has claimed it puts one sentinel for each worker, or
  fewer if a `put` fails, and then its error is that of the `put`.
-/

namespace HostLookup

theorem set_of_getElem? {α : Type} {l : List α} {i : Nat} {a : α} (hget : l[i]? = some a) :
    l.set i a = l := by
  obtain ⟨hlt, rfl⟩ := List.getElem?_eq_some_iff.mp hget
  exact List.set_getElem_self hlt

namespace StageCrowd

variable {stages : List (String × Nat)} {queues : List Queue} {crowd : StageCrowd}
  {path before after : List (Move × StageCrowd)} {p : Move × StageCrowd}
  {record : List (Nat × StageEvent)} {i : Nat} {order : DrainOrder} {start : DrainCall}

def recordOf (path : List (Move × StageCrowd)) : List (Nat × StageEvent) :=
  path.flatMap fun p => happenings p.1 p.2

theorem recordOf_split :
    recordOf (before ++ p :: after) =
      (recordOf before ++ happenings p.1 p.2) ++ recordOf after := by
  simp [recordOf]

theorem kept_of_path (hpath : Path move (ofStages stages queues) path crowd) :
    Kept (recordOf path) crowd :=
  kept_of_traces (hpath.traces happenings)

theorem goes_of_path (hpath : Path move (ofStages stages queues) path crowd) (hp : p ∈ path) :
    p.2.Goes crowd := by
  obtain ⟨before, after, rfl⟩ := List.append_of_mem hp
  intro k s hs
  refine (hpath.holds_after (P := fun later => ∃ s', later.stages[k]? = some s' ∧ s.Forward s')
    ?_ ?_).2
  · intro m mid next hmid hmove
    obtain ⟨s', hs', hforward⟩ := hmid
    obtain ⟨s'', hs'', hnext⟩ := (effect_of_move hmove).forward hs'
    exact ⟨s'', hs'', hforward.trans hnext⟩
  · exact fun next hmove => (effect_of_move hmove).forward hs

/-- An answer is for ever. -/
theorem returns_of_path (hpath : Path move (ofStages stages queues) (before ++ p :: after) crowd)
    {answer : StageAnswer}
    (hanswer : ∀ next, move p.1 p.2 = some next → next.callers[i]? = some (.returns answer)) :
    crowd.callers[i]? = some (.returns answer) := by
  refine (hpath.holds_after (P := fun later => later.callers[i]? = some (.returns answer))
    ?_ hanswer).2
  intro m mid next hmid hmove
  cases effect_of_move hmove with
  | begins => exact (List.getElem?_append_left (List.getElem?_eq_some_iff.mp hmid).1).trans hmid
  | @advances j call progress stages queues hcaller =>
    -- who has returned makes no more steps
    have hne : j ≠ i := by
      rintro rfl
      exact absurd (Option.some.inj (hcaller.symm.trans hmid)) nofun
    exact (List.getElem?_set_ne hne).trans hmid

/-! ## The steps of one drain

A path tells of each drain when it began and what steps it has made. What the record said by then is
what `Kept` knows of the drain. -/

/-- Who comes later has a later place. -/
theorem began_ge {first : StageCrowd} {call : StageCall}
    (htrace : Traces move happenings first record crowd) (hbegan : (i, .began call) ∈ record) :
    first.callers.length ≤ i := by
  have hkept : first.callers.length ≤ crowd.callers.length ∧ ∀ (j : Nat) (call : StageCall),
      (j, .began call) ∈ record → first.callers.length ≤ j := by
    refine htrace.invariant (P := fun record crowd => first.callers.length ≤ crowd.callers.length ∧
      ∀ (j : Nat) (call : StageCall), (j, .began call) ∈ record → first.callers.length ≤ j)
      ⟨Nat.le_refl _, fun _ _ hmem => absurd hmem List.not_mem_nil⟩ ?_
    rintro m record mid next ⟨hlength, hold⟩ hmove
    cases effect_of_move hmove with
    | begins =>
      refine ⟨?_, fun j call hmem => ?_⟩
      · simp only [StageCrowd.join, List.length_append]
        omega
      · rcases List.mem_append.mp hmem with hmem | hnew
        · exact hold j call hmem
        · obtain ⟨rfl, -⟩ := Prod.mk.inj (List.mem_singleton.mp hnew)
          exact hlength
    | advances =>
      refine ⟨by simpa using hlength, fun j call hmem => hold j call ?_⟩
      exact began_of_append_step hmem
  exact hkept.2 i call hbegan

/-- **A step of a drain**, with what has been before it. -/
theorem drain_step_of_path
    (hpath : Path move (ofStages stages queues) (before ++ p :: after) crowd)
    (hbegan : (i, .began (.drain order start)) ∈ recordOf (before ++ p :: after))
    (hstep : p.1 = .step i) :
    ∃ call progress stages' queues', p.2.callers[i]? = some (.goesOn (.drain order call)) ∧
      (StageCall.drain order call).Moves p.2.stages p.2.queues progress stages' queues' ∧
      move p.1 p.2 = some ⟨stages', queues', p.2.callers.set i progress⟩ := by
  obtain ⟨m, mid⟩ := p
  obtain rfl : m = .step i := hstep
  obtain ⟨hbefore, next, hmove, hafter⟩ := hpath.split
  have heffect := effect_of_move hmove
  generalize hm : Move.step i = m at heffect
  cases heffect with
  | begins => contradiction
  | @advances j call progress stages' queues' hcaller hmoves =>
    obtain rfl := Move.step.inj hm
    have hlt := (List.getElem?_eq_some_iff.mp hcaller).1
    -- the drain was begun before, since all that come later have later places
    have hearlier : (i, .began (.drain order start)) ∈ recordOf before := by
      rw [recordOf_split] at hbegan
      rcases List.mem_append.mp hbegan with hmem | hlater
      · exact began_of_append_step hmem
      · have hge := began_ge (hafter.traces happenings) hlater
        rw [List.length_set] at hge
        exact absurd hlt (Nat.not_lt.mpr hge)
    obtain ⟨position, hposition, hfate⟩ := (kept_of_path hbefore).fates i order start hearlier
    obtain rfl := Option.some.inj (hcaller.symm.trans hposition)
    obtain ⟨own, rfl⟩ : ∃ own, call = .drain order own := by
      cases hfate <;> exact ⟨_, rfl⟩
    exact ⟨own, progress, stages', queues', hcaller, hmoves, hmove⟩

/-- A drain waits only for a free slot. -/
theorem waits_of_step {call : DrainCall} (hkept : Kept record crowd)
    (hcaller : crowd.callers[i]? = some (.goesOn (.drain order call)))
    (hstep : crowd.step i = none) :
    ∃ later q, call = .putting later (.entering order.sentinel.text) ∧
      crowd.queues[order.queue]? = some q ∧ q.fits order.sentinel.text = true ∧
      q.free.closed = false ∧ q.free.permits = 0 := by
  obtain ⟨start, hbegan⟩ := hkept.begun i order call hcaller
  obtain ⟨hstage, hqueue, hbehind⟩ := hkept.placed i order start hbegan
  have hs := List.getElem?_eq_getElem hstage
  have hq := List.getElem?_eq_getElem hqueue
  obtain ⟨ahead, hahead⟩ : ∃ ahead, order.before.elim (some crowd.stages[order.stage])
      (crowd.stages[·]?) = some ahead := by
    cases hbefore : order.before with
    | none => exact ⟨_, rfl⟩
    | some b => exact ⟨_, List.getElem?_eq_getElem (hbehind b hbefore)⟩
  -- all that the step looks at is there, so it is the drain itself that has to wait
  have hnone : call.step order.sentinel ahead crowd.stages[order.stage] crowd.queues[order.queue] =
      none := by
    cases hcall : call.step order.sentinel ahead crowd.stages[order.stage]
        crowd.queues[order.queue] with
    | none => rfl
    | some result => simp [StageCrowd.step, hcaller, StageCall.step, hs, hq, hahead, hcall] at hstep
  obtain ⟨later, item, rfl, hfits, hopen, hfull⟩ := DrainCall.blocked_of_step hnone
  obtain rfl : item = order.sentinel.text := by
    cases hkept.fate hcaller with
    | putting _ hitem => exact hitem item rfl
  exact ⟨later, _, rfl, hq, hfits, hopen, hfull⟩

/-! ## Drains without a claim

Such a drain has only looked at stages. It has changed nothing and never waits, and after two steps
at most it has failed. -/

/-- What is true of a drain that has not claimed its stage. -/
structure Bystands (path : List (Move × StageCrowd)) (crowd : StageCrowd) (i : Nat) : Prop where
  claims_eq : claimsOf (recordOf path) i = []
  stores_eq : storesOf (recordOf path) i = []
  changes_nothing : ∀ p ∈ path, p.1 = .step i → ∀ next, move p.1 p.2 = some next →
    next.stages = p.2.stages ∧ next.queues = p.2.queues
  /-- It has returned an error, or it can make its next step, which is one of two at most. -/
  fails : (∃ text, crowd.callers[i]? = some (.returns (.drain (.error (.resource text))))) ∨
    stepsOf (recordOf path) i < 2 ∧ crowd.step i ≠ none

/-- A step of a drain that has claimed nothing after it has changed nothing. -/
theorem unchanged_of_idle {call : DrainCall} {progress : Progress StageCall StageAnswer}
    {stages' : List Shutdown} {queues' : List Queue} (hkept : Kept record crowd)
    (hcaller : crowd.callers[i]? = some (.goesOn (.drain order call)))
    (hmoves : (StageCall.drain order call).Moves crowd.stages crowd.queues progress stages' queues')
    (hclaims : claimsOf (record ++ happenings (.step i) crowd) i = []) :
    stages' = crowd.stages ∧ queues' = crowd.queues := by
  cases hmoves with
  | drain hs hq hbefore hmoves =>
    obtain ⟨hold, hnew⟩ := List.append_eq_nil_iff.mp
      ((adds_of_drain hcaller hs hq).claims_eq.symm.trans hclaims)
    refine ⟨?_, ?_⟩
    all_goals
      refine set_of_getElem? ?_
      cases hkept.fate hcaller with
      | checking | refusing => cases hmoves <;> assumption
      | claiming =>
        cases hmoves with
        | late => assumption
        | claim hclaim =>
          rw [if_pos ⟨rfl, (Shutdown.state_of_claim hclaim).1⟩] at hnew
          contradiction
      | putting howes | counting howes =>
        rw [howes.claims_eq] at hold
        contradiction

theorem fate_of_path (hpath : Path move (ofStages stages queues) path crowd)
    (hbegan : (i, .began (.drain order start)) ∈ recordOf path) :
    ∃ position, crowd.callers[i]? = some position ∧
      crowd.Fate (recordOf path) i order position :=
  (kept_of_path hpath).fates i order start hbegan

/-- A drain that has claimed nothing can go on or has failed. -/
theorem fails_of_fate {position : Progress StageCall StageAnswer} (hkept : Kept record crowd)
    (hposition : crowd.callers[i]? = some position) (hfate : crowd.Fate record i order position)
    (hclaims : claimsOf record i = []) :
    (∃ text, crowd.callers[i]? = some (.returns (.drain (.error (.resource text))))) ∨
      stepsOf record i < 2 ∧ crowd.step i ≠ none := by
  have hgoes : ∀ {call : DrainCall}, position = .goesOn (.drain order call) →
      call.putCall = none → crowd.step i ≠ none := by
    rintro call rfl hput hwaits
    obtain ⟨later, _, rfl, -⟩ := waits_of_step hkept hposition hwaits
    contradiction
  cases hfate with
  | checking hidle =>
    exact Or.inr ⟨Nat.lt_of_le_of_lt hidle.steps_le (by decide), hgoes rfl rfl⟩
  | refusing hidle | claiming hidle =>
    exact Or.inr ⟨Nat.lt_of_le_of_lt hidle.steps_le (by decide), hgoes rfl rfl⟩
  | refused => exact Or.inl ⟨_, hposition⟩
  | putting howes | counting howes | done howes | failed howes =>
    rw [howes.claims_eq] at hclaims
    contradiction

theorem bystands_of_path (hpath : Path move (ofStages stages queues) path crowd)
    (hbegan : (i, .began (.drain order start)) ∈ recordOf path)
    (hclaims : claimsOf (recordOf path) i = []) : Bystands path crowd i := by
  obtain ⟨position, hposition, hfate⟩ := fate_of_path hpath hbegan
  refine ⟨hclaims, ?_, ?_, fails_of_fate (kept_of_path hpath) hposition hfate hclaims⟩
  · cases hfate with
    | checking hidle | refusing hidle | claiming hidle | refused hidle => exact hidle.stores_eq
    | putting howes | counting howes | done howes | failed howes =>
      rw [howes.claims_eq] at hclaims
      contradiction
  · rintro ⟨m, mid⟩ hmem hstep next hmove
    obtain rfl : m = .step i := hstep
    obtain ⟨before, after, rfl⟩ := List.append_of_mem hmem
    obtain ⟨call, progress, stages', queues', hcaller, hmoves, hmove'⟩ :=
      drain_step_of_path hpath hbegan rfl
    obtain rfl := Option.some.inj (hmove.symm.trans hmove')
    refine unchanged_of_idle (kept_of_path hpath.split.1) hcaller hmoves ?_
    rw [recordOf_split, claimsOf, Interleaves.tellings_append] at hclaims
    exact (List.append_eq_nil_iff.mp hclaims).1

/-! ## Drains with a claim

The one that has claimed a stage puts a sentinel for each worker. It stops early only at a closed
queue, or if a sentinel does not fit. -/

/-- What is true of a drain that has claimed its stage `s` and has put so many sentinels. -/
structure Claims (path : List (Move × StageCrowd)) (crowd : StageCrowd) (i : Nat)
    (order : DrainOrder) (s : Shutdown) (put : Nat) : Prop where
  claims_eq : claimsOf (recordOf path) i = [order.stage]
  stage_eq : crowd.stages[order.stage]? = some s
  claimed : s.state ≠ .running
  stores_eq : storesOf (recordOf path) i = List.replicate put (sentinelOf order)
  sent_le : s.sentinelsSent ≤ put
  le_sent : put ≤ s.sentinelsSent + 1
  le_workers : put ≤ s.workers
  /-- When it has returned, all sentinels are counted, and there are as many as workers unless a
  `put` has failed. -/
  returned : ∀ answer, crowd.callers[i]? = some (.returns answer) → s.sentinelsSent = put ∧
    (answer = .drain (.ok ()) ∧ put = s.workers ∨
      ∃ error, answer = .drain (.error (.queue error)) ∧ put < s.workers)
  /-- The error of a `put` is the error of the drain. -/
  fails : ∀ p ∈ path, p.1 = .step i → ∀ (later : Nat) (call : PutCall) (q q' : Queue)
    (error : QueueError), p.2.callers[i]? = some (.goesOn (.drain order (.putting later call))) →
    p.2.queues[order.queue]? = some q → call.step q = some (.returns (.error error), q') →
      crowd.callers[i]? = some (.returns (.drain (.error (.queue error))))
  steps_le : stepsOf (recordOf path) i ≤ 4 * s.workers + 2
  /-- It waits for nothing but a free slot. -/
  waits : ∀ call, crowd.callers[i]? = some (.goesOn call) → crowd.step i = none →
    ∃ later q, call = .drain order (.putting later (.entering order.sentinel.text)) ∧
      crowd.queues[order.queue]? = some q ∧ q.fits order.sentinel.text = true ∧
      q.free.closed = false ∧ q.free.permits = 0

/-- What a drain owes that has claimed its stage. -/
theorem Fate.owes {position : Progress StageCall StageAnswer}
    (h : crowd.Fate record i order position) (hclaims : claimsOf record i ≠ []) :
    ∃ pending left steps, crowd.Owes record i order pending left steps ∧ pending ≤ 1 ∧
      pending ≤ left ∧ steps ≤ 4 * left + 2 ∧ ∀ answer, position = .returns answer → pending = 0 ∧
        (answer = .drain (.ok ()) ∧ left = 0 ∨
          ∃ error, answer = .drain (.error (.queue error)) ∧ 0 < left) := by
  cases h with
  | checking hidle | refusing hidle | claiming hidle | refused hidle =>
    exact absurd hidle.claims_eq hclaims
  | @putting later call howes =>
    have hpending : (Standing.draining (.putting later call)).pending ≤ 1 := by
      cases call <;> simp [Standing.pending]
    have hmade : call.made ≤ 2 := by
      cases call <;> simp [PutCall.made]
    exact ⟨_, _, _, howes, hpending, by omega, by omega, fun _ heq => by contradiction⟩
  | counting howes =>
    exact ⟨1, _, _, howes, by omega, by omega, by omega, fun _ heq => by contradiction⟩
  | done howes =>
    refine ⟨0, _, _, howes, by omega, by omega, by omega, fun answer heq => ⟨rfl, Or.inl ⟨?_, rfl⟩⟩⟩
    exact (Progress.returns.inj heq).symm
  | @failed error left howes =>
    refine ⟨0, _, _, howes, by omega, by omega, by omega, fun answer heq => ⟨rfl, Or.inr ?_⟩⟩
    exact ⟨error, (Progress.returns.inj heq).symm, Nat.succ_pos left⟩

theorem fails_of_put {later : Nat} {call : PutCall} {q q' : Queue} {error : QueueError}
    (hpath : Path move (ofStages stages queues) (before ++ p :: after) crowd)
    (hbegan : (i, .began (.drain order start)) ∈ recordOf (before ++ p :: after))
    (hstep : p.1 = .step i)
    (hcaller : p.2.callers[i]? = some (.goesOn (.drain order (.putting later call))))
    (hq : p.2.queues[order.queue]? = some q)
    (hput : call.step q = some (.returns (.error error), q')) :
    crowd.callers[i]? = some (.returns (.drain (.error (.queue error)))) := by
  refine returns_of_path hpath fun next hmove => ?_
  obtain ⟨call', progress, stages', queues', hcaller', hmoves, hmove'⟩ :=
    drain_step_of_path hpath hbegan hstep
  obtain rfl := Option.some.inj (hmove.symm.trans hmove')
  have hlt := (List.getElem?_eq_some_iff.mp hcaller).1
  obtain ⟨-, rfl⟩ := StageCall.drain.inj
    (Progress.goesOn.inj (Option.some.inj (hcaller.symm.trans hcaller')))
  cases hmoves with
  | drain hs hq' hbefore hmoves =>
    obtain rfl := Option.some.inj (hq.symm.trans hq')
    cases hmoves with
    | put hother | sent hother => exact absurd (hput.symm.trans hother) (by simp)
    | fail hsame =>
      obtain ⟨heq, -⟩ := Prod.mk.inj (Option.some.inj (hput.symm.trans hsame))
      obtain rfl := Except.error.inj (Progress.returns.inj heq)
      exact List.getElem?_set_self hlt

theorem claims_of_path (hpath : Path move (ofStages stages queues) path crowd)
    (hbegan : (i, .began (.drain order start)) ∈ recordOf path)
    (hclaims : claimsOf (recordOf path) i ≠ []) : ∃ s put, Claims path crowd i order s put := by
  have hkept := kept_of_path hpath
  obtain ⟨position, hposition, hfate⟩ := fate_of_path hpath hbegan
  obtain ⟨pending, left, steps, howes, hpending, hle, hsteps, hreturned⟩ := hfate.owes hclaims
  obtain ⟨s, hs, hclaimed, hcount, hstores, hmade⟩ := howes.stage
  refine ⟨s, s.sentinelsSent + pending, howes.claims_eq, hs, hclaimed, hstores, by omega, by omega,
    by omega, fun answer hanswer => ?_, ?_, by omega, fun call hcaller hstep => ?_⟩
  · obtain rfl := Option.some.inj (hposition.symm.trans hanswer)
    obtain ⟨rfl, ⟨rfl, rfl⟩ | ⟨error, rfl, hleft⟩⟩ := hreturned answer rfl
    · exact ⟨rfl, Or.inl ⟨rfl, hcount⟩⟩
    · exact ⟨rfl, Or.inr ⟨error, rfl, by omega⟩⟩
  · rintro p hmem hstep later call q q' error hcaller hq hput
    obtain ⟨before, after, rfl⟩ := List.append_of_mem hmem
    exact fails_of_put hpath hbegan hstep hcaller hq hput
  · obtain rfl := Option.some.inj (hposition.symm.trans hcaller)
    obtain ⟨own, rfl⟩ : ∃ own, call = .drain order own := by
      cases hfate <;> exact ⟨_, rfl⟩
    obtain ⟨later, q, rfl, hfull⟩ := waits_of_step hkept hposition hstep
    exact ⟨later, q, rfl, hfull⟩

/-- A drain claims its stage and puts sentinels only behind a stage that has stopped. -/
theorem behind_of_path {event : StageEvent}
    (hpath : Path move (ofStages stages queues) (before ++ p :: after) crowd)
    (hbegan : (i, .began (.drain order start)) ∈ recordOf (before ++ p :: after))
    (hmem : (i, event) ∈ happenings p.1 p.2)
    (hevent : event.claimed? ≠ none ∨ event.stored? ≠ none) : p.2.IsBehind order := by
  obtain ⟨m, mid⟩ := p
  cases m with
  | join call =>
    obtain ⟨-, rfl⟩ := Prod.mk.inj (List.mem_singleton.mp hmem)
    rcases hevent with hno | hno <;> exact absurd rfl hno
  | step j =>
    obtain ⟨rfl, rfl | ⟨call, hcaller, hin⟩⟩ := mem_happenings hmem
    · rcases hevent with hno | hno <;> exact absurd rfl hno
    · obtain ⟨own, _, _, _, hcaller', -, -⟩ := drain_step_of_path hpath hbegan rfl
      obtain rfl := Progress.goesOn.inj (Option.some.inj (hcaller.symm.trans hcaller'))
      cases (kept_of_path hpath.split.1).fate hcaller with
      | claiming _ hbehind => exact hbehind
      | putting howes | counting howes => exact howes.isBehind
      | checking | refusing =>
        simp only [StageCall.events] at hin
        split at hin
        · rw [StageCall.eventsOfDrain_eq_nil (by decide) rfl] at hin
          exact absurd hin List.not_mem_nil
        · exact absurd hin List.not_mem_nil

/-! ## All together

`ClaimsOnce` puts the stages and the drains together: every stage goes one way, and each drain has a
claim or stands by. -/

/-- **Stages go one way, and one drain gives each of them its sentinels.** -/
structure ClaimsOnce (path : List (Move × StageCrowd)) (crowd : StageCrowd) : Prop where
  /-- The state of a stage goes up, its workers do not grow, and once it is claimed they stay. -/
  forward : ∀ p ∈ path, p.2.Goes crowd
  /-- No stage is claimed by two. -/
  sole : ∀ i j k, (i, .claimed k) ∈ recordOf path → (j, .claimed k) ∈ recordOf path → i = j
  /-- A stage that has been claimed can be neither drained nor shrunk again. -/
  closed : ∀ i k, (i, .claimed k) ∈ recordOf path → ∃ s, crowd.stages[k]? = some s ∧
    (∃ text, s.claim = .error (.resource text)) ∧
      ∀ started, ∃ text, s.retain started = .error (.resource text)
  /-- No sentinels are counted for a stage that has not been claimed. -/
  unclaimed : ∀ (k : Nat) (s : Shutdown), crowd.stages[k]? = some s →
    (∀ i, (i, .claimed k) ∉ recordOf path) → s.sentinelsSent = 0
  drains : ∀ i order start, (i, .began (.drain order start)) ∈ recordOf path →
    Bystands path crowd i ∨ ∃ s put, Claims path crowd i order s put
  /-- A drain that has to wait for another stage claims and puts only when that has stopped. -/
  behind : ∀ i order start, (i, .began (.drain order start)) ∈ recordOf path → ∀ p ∈ path,
    ∀ event, (i, event) ∈ happenings p.1 p.2 → (event.claimed? ≠ none ∨ event.stored? ≠ none) →
      p.2.IsBehind order

theorem claimsOnce_of_path (hpath : Path move (ofStages stages queues) path crowd) :
    ClaimsOnce path crowd := by
  have hkept := kept_of_path hpath
  refine ⟨fun p hmem => goes_of_path hpath hmem, hkept.sole, fun i k hmem => ?_, hkept.unsent,
    fun i order start hbegan => ?_, fun i order start hbegan p hmem event hevent hkind => ?_⟩
  · obtain ⟨s, hs, hclaimed⟩ := hkept.taken i k hmem
    refine ⟨s, hs, ⟨_, if_pos hclaimed⟩, fun started => ⟨_, if_pos (Or.inl hclaimed)⟩⟩
  · by_cases hclaims : claimsOf (recordOf path) i = []
    · exact Or.inl (bystands_of_path hpath hbegan hclaims)
    · exact Or.inr (claims_of_path hpath hbegan hclaims)
  · obtain ⟨before, after, rfl⟩ := List.append_of_mem hmem
    exact behind_of_path hpath hbegan hevent hkind

/-- A stage is drained by one of two rivals, and its worker stops before its sentinel is counted.
The stage behind it is refused first and drained later, but its queue is destroyed when one of its
two sentinels is in. -/
theorem claimsOnce_of_path_rivals :
    let queues := [Queue.ofGeometry "files" 1 8, Queue.ofGeometry "hosts" 2 8]
    ∃ path crowd, Path move (ofStages [("requester", 1), ("resolver", 2)] queues) path crowd ∧
      crowd.stages.map (fun s => (s.state, s.sentinelsSent)) = [(.stopped, 1), (.draining, 1)] ∧
      crowd.callers[0]? = some (.returns (.drain (.ok ()))) ∧
      crowd.callers[4]? = some (.returns (.drain (.error (.queue .destroyed)))) ∧
      ClaimsOnce path crowd := by
  intro queues
  let first : DrainOrder := { sentinel := .standard, stage := 0, before := none, queue := 0 }
  let second : DrainOrder := { sentinel := .standard, stage := 1, before := some 0, queue := 1 }
  have hfollow : (Path.follow move
      [.join (.drain first .claiming), .step 0, .join (.drain first .claiming), .step 1,
        .join (.drain second .checking), .step 2, .step 2, .step 0, .step 0, .step 0,
        .join (.workerStopped 0), .step 3, .step 0, .join (.drain second .checking), .step 4,
        .step 4, .step 4, .step 4, .step 4, .step 4,
        .join (.onQueue 1 (.destroy (.closing .marking))), .step 5, .step 5, .step 4]
      (ofStages [("requester", 1), ("resolver", 2)] queues)).map (fun crowd =>
        (crowd.stages.map (fun s => (s.state, s.sentinelsSent)), crowd.callers[0]?,
          crowd.callers[4]?)) =
      some ([(.stopped, 1), (.draining, 1)], some (.returns (.drain (.ok ()))),
        some (.returns (.drain (.error (.queue .destroyed))))) := by
    decide +kernel
  obtain ⟨crowd, hcrowd, hall⟩ := Option.map_eq_some_iff.mp hfollow
  obtain ⟨hstages, hrest⟩ := Prod.mk.inj hall
  obtain ⟨hfirst, hsecond⟩ := Prod.mk.inj hrest
  obtain ⟨path, hpath⟩ := Path.of_follow hcrowd
  exact ⟨path, crowd, hpath, hstages, hfirst, hsecond, claimsOnce_of_path hpath⟩

end StageCrowd

end HostLookup
