import HostLookup.Proofs.Stage.Moves

/-!
# The fate of a drain

Any number of drains may be made of a stage. The one that finds the stage running claims it and owes
it one sentinel for each worker; between its steps others may stop workers, finish the stage, come
with drains of their own, and fill, empty, close or destroy the queue. What a drain has put and
counted, and what it still owes, is told by the place at which it stands (`Fate`).

* **`StageCrowd.Fate.mono`**: what others do does not change the fate of a drain.
* **`StageCrowd.Fate.drain`**: its own steps take its fate along.
* **`StageCrowd.kept_of_traces`**: the fates of all drains, and that no stage is claimed twice.
-/

namespace HostLookup

/-- The steps that a `put` has made. -/
def PutCall.made : PutCall → Nat
  | .entering _ => 0
  | .admitted _ => 1
  | .stored => 2

/-- A drain begins with a look, unless there is no stage ahead. -/
theorem DrainOrder.start_cases (order : DrainOrder) :
    order.start = .checking ∨ order.start = .claiming ∧ order.before = none := by
  unfold DrainOrder.start
  split
  · exact Or.inl rfl
  · next hnone => exact Or.inr ⟨rfl, hnone⟩

namespace StageCrowd

variable {crowd crowd' : StageCrowd} {record record' : List (Nat × StageEvent)} {i : Nat}
  {order : DrainOrder}

/-- The stage that a drain has to wait for has stopped. -/
def IsBehind (crowd : StageCrowd) (order : DrainOrder) : Prop :=
  ∀ b, order.before = some b → ∃ s, crowd.stages[b]? = some s ∧ s.state = .stopped

/-- What a drain puts into the queue, with the place of the queue. -/
def sentinelOf (order : DrainOrder) : Nat × String :=
  (order.queue, order.sentinel.text)

/-- The caller has claimed no stage, has put nothing into a queue, and has made so many steps at
most. -/
structure Idle (record : List (Nat × StageEvent)) (i steps : Nat) : Prop where
  claims_eq : claimsOf record i = []
  stores_eq : storesOf record i = []
  steps_le : stepsOf record i ≤ steps

/-- The caller has claimed the stage and nothing else. All its sentinels have been counted but those
that are pending, and so many are left to be counted; and beside four for each that is counted it
has made so many steps at most. -/
structure Owes (crowd : StageCrowd) (record : List (Nat × StageEvent)) (i : Nat)
    (order : DrainOrder) (pending left steps : Nat) : Prop where
  claims_eq : claimsOf record i = [order.stage]
  stage : ∃ s, crowd.stages[order.stage]? = some s ∧ s.state ≠ .running ∧
    s.sentinelsSent + left = s.workers ∧
    storesOf record i = List.replicate (s.sentinelsSent + pending) (sentinelOf order) ∧
    stepsOf record i ≤ 4 * s.sentinelsSent + steps
  isBehind : crowd.IsBehind order

/-- **What a drain has done**, by the place at which it stands. -/
inductive Fate (crowd : StageCrowd) (record : List (Nat × StageEvent)) (i : Nat)
    (order : DrainOrder) : Progress StageCall StageAnswer → Prop where
  | checking (hidle : Idle record i 0) :
      Fate crowd record i order (.goesOn (.drain order .checking))
  | refusing (hidle : Idle record i 1) :
      Fate crowd record i order (.goesOn (.drain order .refusing))
  | claiming (hidle : Idle record i 1) (hbehind : crowd.IsBehind order) :
      Fate crowd record i order (.goesOn (.drain order .claiming))
  | refused {text : String} (hidle : Idle record i 2) :
      Fate crowd record i order (.returns (.drain (.error (.resource text))))
  | putting {later : Nat} {call : PutCall}
      (howes : crowd.Owes record i order (Standing.draining (.putting later call)).pending
        (later + 1) (call.made + 2))
      (hitem : ∀ item, call.item? = some item → item = order.sentinel.text) :
      Fate crowd record i order (.goesOn (.drain order (.putting later call)))
  | counting {later : Nat} (howes : crowd.Owes record i order 1 (later + 1) 5) :
      Fate crowd record i order (.goesOn (.drain order (.counting later)))
  | done (howes : crowd.Owes record i order 0 0 2) :
      Fate crowd record i order (.returns (.drain (.ok ())))
  | failed {error : QueueError} {left : Nat} (howes : crowd.Owes record i order 0 (left + 1) 4) :
      Fate crowd record i order (.returns (.drain (.error (.queue error))))

/-! ## Records

What a record tells of a caller: the stages that it has claimed, the items that it has stored, and
how many steps it has made. A step of another caller adds nothing to any of them (`Same`), and a
step of its own drain adds what the place of the drain says (`Adds`). -/

/-- The stages that a caller has claimed are those that the record says it has. -/
theorem mem_claimsOf {stage : Nat} :
    stage ∈ claimsOf record i ↔ (i, .claimed stage) ∈ record := by
  constructor
  · intro hmem
    obtain ⟨⟨j, event⟩, hentry, hclaimed⟩ := List.mem_filterMap.mp hmem
    obtain ⟨hrecord, hplace⟩ := List.mem_filter.mp hentry
    obtain rfl : j = i := by simpa using hplace
    cases event with
    | claimed other =>
      obtain rfl : other = stage := Option.some.inj hclaimed
      exact hrecord
    | began | stepped | stored => contradiction
  · intro hmem
    exact List.mem_filterMap.mpr ⟨_, List.mem_filter.mpr ⟨hmem, by simp⟩, rfl⟩

/-- The record of a caller has not changed. -/
structure Same (record record' : List (Nat × StageEvent)) (i : Nat) : Prop where
  claims_eq : claimsOf record' i = claimsOf record i
  stores_eq : storesOf record' i = storesOf record i
  steps_eq : stepsOf record' i = stepsOf record i

/-- What others do is not on record for this caller. -/
theorem same_append {more : List (Nat × StageEvent)} (hother : ∀ entry ∈ more, entry.1 ≠ i) :
    Same record (record ++ more) i := by
  refine ⟨?_, ?_, ?_⟩
  · rw [claimsOf, Interleaves.tellings_append, Interleaves.tellings_of_ne _ hother, List.append_nil]
    rfl
  · rw [storesOf, Interleaves.tellings_append, Interleaves.tellings_of_ne _ hother, List.append_nil]
    rfl
  · rw [stepsOf, Interleaves.tellings_append, Interleaves.tellings_of_ne _ hother, List.append_nil]
    rfl

/-- What a step of a drain adds to the record of its caller. -/
structure Adds (record record' : List (Nat × StageEvent)) (i : Nat) (order : DrainOrder)
    (s : Shutdown) (q : Queue) (call : DrainCall) : Prop where
  claims_eq : claimsOf record' i = claimsOf record i ++
    if call = .claiming ∧ s.state = .running then [order.stage] else []
  stores_eq : storesOf record' i = storesOf record i ++
    (q.stored call.putCall).map fun item => (order.queue, item)
  steps_eq : stepsOf record' i = stepsOf record i + 1

/-- What a step of a drain puts on record: the step itself, a claim if it finds its stage running,
and what its `put` stores. -/
theorem adds_of_drain {call : DrainCall} {s : Shutdown} {q : Queue}
    (hcaller : crowd.callers[i]? = some (.goesOn (.drain order call)))
    (hs : crowd.stages[order.stage]? = some s) (hq : crowd.queues[order.queue]? = some q) :
    Adds record (record ++ happenings (.step i) crowd) i order s q call := by
  have hhappenings : happenings (.step i) crowd =
      (.stepped :: StageCall.eventsOfDrain order s q call).map fun event => (i, event) := by
    simp [happenings, hcaller, StageCall.events, hs, hq]
  rw [hhappenings]
  refine ⟨?_, ?_, ?_⟩
  · rw [claimsOf, Interleaves.tellings_append, Interleaves.tellings_own]
    refine congrArg (claimsOf record i ++ ·) ?_
    unfold StageCall.eventsOfDrain
    split <;> simp [StageEvent.claimed?, List.filterMap_map]
  · rw [storesOf, Interleaves.tellings_append, Interleaves.tellings_own]
    refine congrArg (storesOf record i ++ ·) ?_
    rw [List.filterMap_cons_none rfl, StageCall.eventsOfDrain, List.filterMap_append,
      StageEvent.filterMap_stored?_map]
    split <;> rfl
  · rw [stepsOf, Interleaves.tellings_append, Interleaves.tellings_own, List.length_append]
    refine congrArg (stepsOf record i + ·) ?_
    unfold StageCall.eventsOfDrain
    split <;> simp [StageEvent.stepped?, List.filterMap_map]

/-! ## The steps of others

The fate of a drain rests on its own record and on its stage. Others can only move the stage
forward, and they count no sentinels of it: that is left to whoever has claimed it. -/

/-- The stages of the one crowd have gone forward to those of the other. -/
def Goes (crowd crowd' : StageCrowd) : Prop :=
  ∀ (k : Nat) (s : Shutdown), crowd.stages[k]? = some s →
    ∃ s', crowd'.stages[k]? = some s' ∧ s.Forward s'

/-- A stage that has stopped stays so. -/
theorem IsBehind.mono (h : crowd.IsBehind order) (hgoes : crowd.Goes crowd') :
    crowd'.IsBehind order := by
  intro b hb
  obtain ⟨s, hs, hstopped⟩ := h b hb
  obtain ⟨s', hs', hforward⟩ := hgoes b s hs
  exact ⟨s', hs', hforward.stopped hstopped⟩

/-- A caller that has done nothing has still done nothing after a step of another. -/
theorem Idle.mono {steps : Nat} (h : Idle record i steps) (hsame : Same record record' i) :
    Idle record' i steps :=
  ⟨hsame.claims_eq.trans h.claims_eq, hsame.stores_eq.trans h.stores_eq,
    hsame.steps_eq ▸ h.steps_le⟩

/-- What a drain owes it owes still, if nobody else counts its sentinels. -/
theorem Owes.mono {pending left steps : Nat} (h : crowd.Owes record i order pending left steps)
    (hgoes : crowd.Goes crowd') (hsame : Same record record' i)
    (hsent : ∀ s s' : Shutdown, crowd.stages[order.stage]? = some s →
      crowd'.stages[order.stage]? = some s' → s'.sentinelsSent = s.sentinelsSent) :
    crowd'.Owes record' i order pending left steps := by
  -- the stage is as far on as it was, or further
  obtain ⟨s, hs, hclaimed, hcount, hstores, hsteps⟩ := h.stage
  obtain ⟨s', hs', hforward⟩ := hgoes _ s hs
  refine ⟨hsame.claims_eq.trans h.claims_eq,
    ⟨s', hs', hforward.ne_running hclaimed, ?_, ?_, ?_⟩, h.isBehind.mono hgoes⟩
  · rw [hsent s s' hs hs', hforward.workers_eq hclaimed, hcount]
  · rw [hsame.stores_eq, hstores, hsent s s' hs hs']
  · rw [hsame.steps_eq, hsent s s' hs hs']
    exact hsteps

/-- **Nothing that others do changes the fate of a drain**, if they do not count its sentinels. -/
theorem Fate.mono {position : Progress StageCall StageAnswer}
    (h : crowd.Fate record i order position) (hgoes : crowd.Goes crowd')
    (hsame : Same record record' i)
    (hsent : claimsOf record i = [order.stage] → ∀ s s' : Shutdown,
      crowd.stages[order.stage]? = some s → crowd'.stages[order.stage]? = some s' →
      s'.sentinelsSent = s.sentinelsSent) :
    crowd'.Fate record' i order position := by
  cases h with
  | checking hidle => exact .checking (hidle.mono hsame)
  | refusing hidle => exact .refusing (hidle.mono hsame)
  | claiming hidle hbehind => exact .claiming (hidle.mono hsame) (hbehind.mono hgoes)
  | refused hidle => exact .refused (hidle.mono hsame)
  | putting howes hitem => exact .putting (howes.mono hgoes hsame (hsent howes.claims_eq)) hitem
  | counting howes => exact .counting (howes.mono hgoes hsame (hsent howes.claims_eq))
  | done howes => exact .done (howes.mono hgoes hsame (hsent howes.claims_eq))
  | failed howes => exact .failed (howes.mono hgoes hsame (hsent howes.claims_eq))

/-! ## The steps of the drain itself

One case for each place of a drain and each way on from there. Behind the claim the account is the
same throughout: what was put is what was counted and what is pending (`Owes.of_adds`). -/

/-- A drain that owes so many sentinels goes on to put them. -/
theorem Fate.proceed {later : Nat} (howes : crowd.Owes record i order 0 later 2) :
    crowd.Fate record i order
      ((DrainCall.proceed order.sentinel later).map (.drain order) .drain) := by
  cases later with
  | zero => exact .done howes
  | succ later => exact .putting howes fun item heq => (Option.some.inj heq).symm

section OwnStep

variable {call : DrainCall} {progress : Progress DrainCall (Except Failure Unit)}
  {before s s' : Shutdown} {q q' : Queue}

/-- Without a claim and outside of a `put`, nothing but the step is added. -/
theorem Idle.of_adds {steps : Nat} (h : Idle record i steps)
    (hadds : Adds record record' i order s q call)
    (hclaim : call ≠ .claiming ∨ s.state ≠ .running) (hput : call.putCall = none) :
    Idle record' i (steps + 1) := by
  have hno : ¬ (call = .claiming ∧ s.state = .running) := fun hboth =>
    hclaim.elim (fun hcall => hcall hboth.1) fun hstate => hstate hboth.2
  refine ⟨?_, ?_, ?_⟩
  · rw [hadds.claims_eq, h.claims_eq, if_neg hno]
    rfl
  · rw [hadds.stores_eq, h.stores_eq, hput]
    rfl
  · rw [hadds.steps_eq]
    exact Nat.succ_le_succ h.steps_le

/-- A drain that has claimed its stage owes after a step what the step leaves. -/
theorem Owes.of_adds {left left' steps steps' : Nat}
    (h : crowd.Owes record i order (Standing.draining call).pending left steps)
    (hadds : Adds record record' i order s q call) (hcall : call ≠ .claiming)
    (hmoves : DrainCall.Moves order.sentinel before s q call progress s' q')
    (hitem : ∀ later put, call = .putting later put → ∀ item, put.item? = some item →
      item = order.sentinel.text)
    (hs : crowd.stages[order.stage]? = some s) (hs' : crowd'.stages[order.stage]? = some s')
    (hgoes : crowd.Goes crowd')
    (hleft : s'.sentinelsSent + left' = s.sentinelsSent + left)
    (hsteps : 4 * s.sentinelsSent + steps + 1 ≤ 4 * s'.sentinelsSent + steps') :
    crowd'.Owes record' i order (Standing.ofDrain progress).pending left' steps' := by
  obtain ⟨t, ht, hclaimed, hcount, hstores, hmade⟩ := h.stage
  obtain rfl : s = t := Option.some.inj (hs.symm.trans ht)
  have hforward := hmoves.forward.1
  obtain ⟨new, hnew, hsum⟩ := Standing.sentinels_of_drain hmoves hitem
  refine ⟨?_, ⟨s', hs', hforward.ne_running hclaimed, ?_, ?_, ?_⟩, h.isBehind.mono hgoes⟩
  · rw [hadds.claims_eq, h.claims_eq, if_neg fun hno => hcall hno.1, List.append_nil]
  · rw [hleft, hcount, hforward.workers_eq hclaimed]
  · -- what is put and not yet counted is what is pending
    rw [hadds.stores_eq, hstores, hnew, List.map_replicate, hsum]
    exact List.replicate_append_replicate
  · rw [hadds.steps_eq]
    omega

/-- **The own steps of a drain** take its fate along. -/
theorem Fate.drain (h : crowd.Fate record i order (.goesOn (.drain order call)))
    (hadds : Adds record record' i order s q call)
    (hmoves : DrainCall.Moves order.sentinel before s q call progress s' q')
    (hs : crowd.stages[order.stage]? = some s) (hs' : crowd'.stages[order.stage]? = some s')
    (hbefore : order.before.elim (some s) (crowd.stages[·]?) = some before)
    (hunsent : s.state = .running → s.sentinelsSent = 0) (hgoes : crowd.Goes crowd') :
    crowd'.Fate record' i order (progress.map (.drain order) .drain) := by
  have hown := hmoves
  cases h with
  | checking hidle =>
    cases hmoves with
    | allow hstopped =>
      refine .claiming (hidle.of_adds hadds (Or.inl nofun) rfl) ?_
      -- the stage that it looked at is the one that it has to wait for
      have hbehind : crowd.IsBehind order := by
        intro b hb
        rw [hb] at hbefore
        exact ⟨before, hbefore, hstopped⟩
      exact hbehind.mono hgoes
    | hold => exact .refusing (hidle.of_adds hadds (Or.inl nofun) rfl)
  | refusing hidle =>
    cases hmoves
    exact .refused (hidle.of_adds hadds (Or.inl nofun) rfl)
  -- the claim: of all drains of a stage only the first gets past it
  | claiming hidle hbehind =>
    cases hmoves with
    | late hclaim =>
      obtain ⟨hclaimed, text, rfl⟩ := Shutdown.claim_eq_error hclaim
      exact .refused (hidle.of_adds hadds (Or.inr hclaimed) rfl)
    | claim hclaim =>
      obtain ⟨hrunning, hclaimed⟩ := Shutdown.state_of_claim hclaim
      have hzero : s'.sentinelsSent = 0 :=
        (Shutdown.eq_of_claim hclaim).2.trans (hunsent hrunning)
      refine .proceed ⟨?_, ⟨s', hs', hclaimed, ?_, ?_, ?_⟩, hbehind.mono hgoes⟩
      · rw [hadds.claims_eq, hidle.claims_eq, if_pos ⟨rfl, hrunning⟩]
        rfl
      · rw [hzero, Nat.zero_add]
      · rw [hadds.stores_eq, hidle.stores_eq, hzero]
        rfl
      · rw [hadds.steps_eq]
        have hmade := hidle.steps_le
        omega
  | @putting later call howes hsentinel =>
    have hitem : ∀ later' put, DrainCall.putting later call = .putting later' put →
        ∀ item, put.item? = some item → item = order.sentinel.text := by
      rintro _ _ ⟨⟩
      exact hsentinel
    cases hmoves with
    | put hstep =>
      have hput := PutCall.moves_of_step hstep
      refine .putting (howes.of_adds hadds nofun hown hitem hs hs' hgoes rfl ?_)
        fun item heq => hsentinel item (hput.item?_of_goesOn heq)
      cases hput <;> simp only [PutCall.made] <;> omega
    | sent hstep =>
      refine .counting (howes.of_adds hadds nofun hown hitem hs hs' hgoes rfl ?_)
      cases PutCall.moves_of_step hstep
      simp only [PutCall.made]
      omega
    | fail hstep =>
      refine .failed (howes.of_adds hadds nofun hown hitem hs hs' hgoes rfl ?_)
      cases PutCall.moves_of_step hstep <;> simp only [PutCall.made] <;> omega
  | @counting later howes =>
    cases hmoves
    have hnext := howes.of_adds hadds nofun hown nofun hs hs' hgoes
      (show s.sentinelsSent + 1 + later = s.sentinelsSent + (later + 1) by omega)
      (show 4 * s.sentinelsSent + 5 + 1 ≤ 4 * (s.sentinelsSent + 1) + 2 by omega)
    rw [Standing.pending_proceed] at hnext
    exact .proceed hnext

end OwnStep

/-! ## Who is there and who has claimed what

Two things are kept beside the fates: who is on record, and with which drain (`Roll`), and that each
stage was claimed by one caller at most (`Titles`). A step puts a claim on record only where the
stage was running, and in the same step it stops running. -/

/-- Only those who are there are on record, and what each of them drains is there as well. -/
structure Roll (record : List (Nat × StageEvent)) (crowd : StageCrowd) : Prop where
  known : ∀ entry ∈ record, entry.1 < crowd.callers.length
  placed : ∀ (i : Nat) (order : DrainOrder) (call : DrainCall),
    (i, .began (.drain order call)) ∈ record → order.stage < crowd.stages.length ∧
      order.queue < crowd.queues.length ∧ ∀ b ∈ order.before, b < crowd.stages.length
  begun : ∀ (i : Nat) (order : DrainOrder) (call : DrainCall),
    crowd.callers[i]? = some (.goesOn (.drain order call)) →
      ∃ start, (i, .began (.drain order start)) ∈ record

/-- No stage is claimed twice, and none that is claimed is running. -/
structure Titles (record : List (Nat × StageEvent)) (crowd : StageCrowd) : Prop where
  sole : ∀ i j k : Nat, (i, .claimed k) ∈ record → (j, .claimed k) ∈ record → i = j
  taken : ∀ i k : Nat, (i, .claimed k) ∈ record →
    ∃ s, crowd.stages[k]? = some s ∧ s.state ≠ .running
  unsent : ∀ (k : Nat) (s : Shutdown), crowd.stages[k]? = some s →
    (∀ i, (i, .claimed k) ∉ record) → s.sentinelsSent = 0

theorem Titles.unsent_of_running (h : Titles record crowd) {k : Nat} {s : Shutdown}
    (hs : crowd.stages[k]? = some s) (hrunning : s.state = .running) :
    s.sentinelsSent = 0 ∧ ∀ i, (i, .claimed k) ∉ record := by
  have hunclaimed : ∀ i, (i, .claimed k) ∉ record := by
    intro i hclaimed
    obtain ⟨t, ht, hstate⟩ := h.taken i k hclaimed
    obtain rfl := Option.some.inj (hs.symm.trans ht)
    exact hstate hrunning
  exact ⟨h.unsent k s hs hunclaimed, hunclaimed⟩

section Join

variable {call : StageCall}

/-- To come is not to claim. -/
theorem claimed_of_append_join {k : Nat}
    (hmem : (i, .claimed k) ∈ record ++ happenings (.join call) crowd) :
    (i, .claimed k) ∈ record := by
  refine (List.mem_append.mp hmem).resolve_right fun hnew => ?_
  exact absurd (List.mem_singleton.mp hnew) (by simp)

theorem began_of_append_join {call' : StageCall}
    (hmem : (i, .began call') ∈ record ++ happenings (.join call) crowd) :
    (i, .began call') ∈ record ∨ i = crowd.callers.length ∧ call' = call := by
  refine (List.mem_append.mp hmem).imp id fun hnew => ?_
  obtain ⟨rfl, heq⟩ := Prod.mk.inj (List.mem_singleton.mp hnew)
  exact ⟨rfl, StageEvent.began.inj heq⟩

/-- A thread that comes is entered in the roll. -/
theorem Roll.join (h : Roll record crowd) (hadmits : crowd.admits call) :
    Roll (record ++ happenings (.join call) crowd) (crowd.join call) := by
  refine ⟨fun entry hmem => ?_, fun i order start hmem => ?_, fun i order start hcaller => ?_⟩
  · simp only [StageCrowd.join, List.length_append, List.length_singleton]
    rcases List.mem_append.mp hmem with hold | hnew
    · exact Nat.lt_succ_of_lt (h.known entry hold)
    · rw [List.mem_singleton.mp hnew]
      exact Nat.lt_succ_self _
  · rcases began_of_append_join hmem with hold | ⟨-, rfl⟩
    · exact h.placed i order start hold
    · exact hadmits.2
  · -- a caller who was there before, or the one who has just come
    rcases Nat.lt_or_ge i crowd.callers.length with hlt | hge
    · obtain ⟨first, hmem⟩ := h.begun i order start
        ((List.getElem?_append_left hlt).symm.trans hcaller)
      exact ⟨first, List.mem_append_left _ hmem⟩
    · -- the only caller who is new is the last
      obtain ⟨hlt, hget⟩ := List.getElem?_eq_some_iff.mp hcaller
      simp only [StageCrowd.join, List.length_append, List.length_singleton] at hlt
      obtain rfl : i = crowd.callers.length := by omega
      obtain rfl : call = .drain order start := by simpa [StageCrowd.join] using hget
      exact ⟨start, List.mem_append_right _ (List.mem_singleton_self _)⟩

/-- And it takes no stage from anybody. -/
theorem Titles.join (h : Titles record crowd) :
    Titles (record ++ happenings (.join call) crowd) (crowd.join call) where
  sole i j k hi hj := h.sole i j k (claimed_of_append_join hi) (claimed_of_append_join hj)
  taken i k hmem := h.taken i k (claimed_of_append_join hmem)
  unsent k s hs hno := h.unsent k s hs fun i hmem => hno i (List.mem_append_left _ hmem)

/-- Of a thread that comes nothing is on record but that it has come. -/
theorem Roll.idle_join (h : Roll record crowd) (steps : Nat) :
    Idle (record ++ happenings (.join call) crowd) crowd.callers.length steps := by
  have hother : ∀ entry ∈ record, entry.1 ≠ crowd.callers.length := fun entry hmem =>
    Nat.ne_of_lt (h.known entry hmem)
  refine ⟨?_, ?_, ?_⟩
  · rw [claimsOf, Interleaves.tellings_append, Interleaves.tellings_of_ne _ hother]
    simp [Interleaves.tellings, happenings, StageEvent.claimed?]
  · rw [storesOf, Interleaves.tellings_append, Interleaves.tellings_of_ne _ hother]
    simp [Interleaves.tellings, happenings, StageEvent.stored?]
  · rw [stepsOf, Interleaves.tellings_append, Interleaves.tellings_of_ne _ hother]
    simp [Interleaves.tellings, happenings, StageEvent.stepped?]

end Join

section Step

variable {call : StageCall} {progress : Progress StageCall StageAnswer} {stages : List Shutdown}
  {queues : List Queue}

/-- A claim that a step puts on record is that of a drain which finds its stage running. -/
theorem claimed_of_step {j k : Nat} (hmem : (j, .claimed k) ∈ happenings (.step i) crowd) :
    j = i ∧ ∃ order s, crowd.callers[i]? = some (.goesOn (.drain order .claiming)) ∧
      order.stage = k ∧ crowd.stages[k]? = some s ∧ s.state = .running := by
  obtain ⟨rfl, hno | ⟨call, hcaller, hevent⟩⟩ := mem_happenings hmem
  · contradiction
  · rcases StageCall.mem_events hevent with ⟨_, _, hno⟩ | ⟨order, s, rfl, heq, hs, hrunning⟩
    · contradiction
    · obtain rfl := StageEvent.claimed.inj heq
      exact ⟨rfl, order, s, hcaller, rfl, hs, hrunning⟩

/-- Nobody begins in the middle of a call. -/
theorem began_of_append_step {j : Nat} {call : StageCall}
    (hmem : (j, .began call) ∈ record ++ happenings (.step i) crowd) :
    (j, .began call) ∈ record := by
  refine (List.mem_append.mp hmem).resolve_right fun hnew => ?_
  obtain ⟨-, hno | ⟨_, _, hevent⟩⟩ := mem_happenings hnew
  · contradiction
  · rcases StageCall.mem_events hevent with ⟨_, _, hno⟩ | ⟨_, _, _, hno, _⟩ <;> contradiction

/-- A step moves every stage forward, or leaves it. -/
theorem goes_of_moves (hmoves : call.Moves crowd.stages crowd.queues progress stages queues) :
    crowd.Goes ⟨stages, queues, crowd.callers.set i progress⟩ := by
  intro k s hs
  obtain ⟨s', hs', hforward, -⟩ := hmoves.forward hs
  exact ⟨s', hs', hforward⟩

/-- The roll stays as it is when a thread moves. -/
theorem Roll.step (h : Roll record crowd) (hcaller : crowd.callers[i]? = some (.goesOn call))
    (hmoves : call.Moves crowd.stages crowd.queues progress stages queues) :
    Roll (record ++ happenings (.step i) crowd)
      { stages := stages, queues := queues, callers := crowd.callers.set i progress } := by
  obtain ⟨hstages, hqueues⟩ := hmoves.length_eq
  refine ⟨fun entry hmem => ?_, fun j order start hmem => ?_, fun j order own hj => ?_⟩
  · simp only [List.length_set]
    rcases List.mem_append.mp hmem with hold | hnew
    · exact h.known entry hold
    · rw [(mem_happenings hnew).1]
      exact (List.getElem?_eq_some_iff.mp hcaller).1
  · simp only [hstages, hqueues]
    exact h.placed j order start (began_of_append_step hmem)
  · obtain ⟨before, hbefore⟩ : ∃ before,
        crowd.callers[j]? = some (.goesOn (.drain order before)) := by
      rcases getElem?_set_cases hj with ⟨rfl, heq⟩ | ⟨-, hold⟩
      · obtain ⟨before, rfl⟩ := (heq ▸ hmoves).drain_of_goesOn
        exact ⟨before, hcaller⟩
      · exact ⟨own, hold⟩
    obtain ⟨start, hbegan⟩ := h.begun j order before hbefore
    exact ⟨start, List.mem_append_left _ hbegan⟩

/-- A drain that finds its stage running leaves it claimed. -/
theorem claimed_of_moves {s : Shutdown}
    (hmoves : (StageCall.drain order .claiming).Moves crowd.stages crowd.queues progress stages
      queues)
    (hs : crowd.stages[order.stage]? = some s) (hrunning : s.state = .running) :
    ∃ s', stages[order.stage]? = some s' ∧ s'.state ≠ .running := by
  cases hmoves with
  | @drain _ _ before t t' q q' progress ht hq hbefore hmoves =>
    obtain rfl := Option.some.inj (hs.symm.trans ht)
    refine ⟨t', List.getElem?_set_self (List.getElem?_eq_some_iff.mp hs).1, ?_⟩
    cases hmoves with
    | late hclaim => exact absurd hclaim (Shutdown.claim_ne_error hrunning _)
    | claim hclaim => exact (Shutdown.state_of_claim hclaim).2

/-- A claim is that of the first: its stage was running, so it has not been claimed before. -/
theorem Titles.step (h : Titles record crowd)
    (hcaller : crowd.callers[i]? = some (.goesOn call))
    (hmoves : call.Moves crowd.stages crowd.queues progress stages queues)
    (hsent : ∀ k, (i, .claimed k) ∉ record → ∀ s s' : Shutdown, crowd.stages[k]? = some s →
      stages[k]? = some s' → s'.sentinelsSent = s.sentinelsSent) :
    Titles (record ++ happenings (.step i) crowd)
      { stages := stages, queues := queues, callers := crowd.callers.set i progress } := by
  -- a stage that is claimed now was running, so it has not been claimed before
  have hfresh : ∀ {j k : Nat}, (j, .claimed k) ∈ happenings (.step i) crowd →
      ∀ other, (other, .claimed k) ∉ record := by
    intro j k hnew
    obtain ⟨-, order, s, -, -, hs, hrunning⟩ := claimed_of_step hnew
    exact (h.unsent_of_running hs hrunning).2
  refine ⟨fun j l k hj hl => ?_, fun j k hmem => ?_, fun k s' hs' hno => ?_⟩
  · rcases List.mem_append.mp hj with hjold | hjnew <;>
      rcases List.mem_append.mp hl with hlold | hlnew
    · exact h.sole j l k hjold hlold
    · exact absurd hjold (hfresh hlnew j)
    · exact absurd hlold (hfresh hjnew l)
    · rw [(claimed_of_step hjnew).1, (claimed_of_step hlnew).1]
  · rcases List.mem_append.mp hmem with hold | hnew
    · obtain ⟨s, hs, hclaimed⟩ := h.taken j k hold
      obtain ⟨s', hs', hforward, -⟩ := hmoves.forward hs
      exact ⟨s', hs', hforward.ne_running hclaimed⟩
    · obtain ⟨-, order, s, hcaller', rfl, hs, hrunning⟩ := claimed_of_step hnew
      obtain rfl := Progress.goesOn.inj (Option.some.inj (hcaller.symm.trans hcaller'))
      exact claimed_of_moves hmoves hs hrunning
  · have hlt : k < crowd.stages.length :=
      hmoves.length_eq.1 ▸ (List.getElem?_eq_some_iff.mp hs').1
    have hs := List.getElem?_eq_getElem hlt
    have hold : ∀ j, (j, .claimed k) ∉ record := fun j hmem => hno j (List.mem_append_left _ hmem)
    rw [hsent k (hold i) _ s' hs hs']
    exact h.unsent k _ hs hold

end Step

/-! ## All threads

The fates of all drains hold together. A stage has one claimer, as it is running before a claim and
never after, so a step that counts a sentinel is a step of the one who owes it. -/

/-- **What the record keeps of all drains.** -/
structure Kept (record : List (Nat × StageEvent)) (crowd : StageCrowd) : Prop
    extends Roll record crowd, Titles record crowd where
  fates : ∀ (i : Nat) (order : DrainOrder) (call : DrainCall),
    (i, .began (.drain order call)) ∈ record →
      ∃ position, crowd.callers[i]? = some position ∧ crowd.Fate record i order position

/-- In the beginning nobody has come. -/
theorem kept_ofStages (stages : List (String × Nat)) (queues : List Queue) :
    Kept [] (ofStages stages queues) where
  known _ hmem := absurd hmem List.not_mem_nil
  placed _ _ _ hmem := absurd hmem List.not_mem_nil
  fates _ _ _ hmem := absurd hmem List.not_mem_nil
  begun _ _ _ hcaller := absurd hcaller (by simp [ofStages])
  sole _ _ _ hmem := absurd hmem List.not_mem_nil
  taken _ _ hmem := absurd hmem List.not_mem_nil
  unsent k s hs _ := by
    obtain ⟨stage, -, rfl⟩ := List.mem_map.mp (List.mem_of_getElem? hs)
    rfl

/-- A drain that is under way has a fate. -/
theorem Kept.fate {call : DrainCall} (h : Kept record crowd)
    (hcaller : crowd.callers[i]? = some (.goesOn (.drain order call))) :
    crowd.Fate record i order (.goesOn (.drain order call)) := by
  obtain ⟨start, hbegan⟩ := h.begun i order call hcaller
  obtain ⟨position, hposition, hfate⟩ := h.fates i order start hbegan
  obtain rfl := Option.some.inj (hcaller.symm.trans hposition)
  exact hfate

/-- A thread that comes begins its drain in front of the claim, and touches nobody's fate. -/
theorem Kept.join {call : StageCall} (h : Kept record crowd) (hadmits : crowd.admits call) :
    Kept (record ++ happenings (.join call) crowd) (crowd.join call) := by
  refine ⟨h.toRoll.join hadmits, h.toTitles.join, fun i order start hmem => ?_⟩
  rcases began_of_append_join hmem with hold | ⟨rfl, rfl⟩
  · obtain ⟨position, hposition, hfate⟩ := h.fates i order start hold
    have hlt := (List.getElem?_eq_some_iff.mp hposition).1
    refine ⟨position, (List.getElem?_append_left hlt).trans hposition,
      hfate.mono (fun k s hs => ⟨s, hs, .refl s⟩) (same_append fun entry hentry => ?_) ?_⟩
    · rw [List.mem_singleton.mp hentry]
      exact Nat.ne_of_gt hlt
    · exact fun _ s s' hs hs' => by rw [Option.some.inj (hs'.symm.trans hs)]
  · refine ⟨_, List.getElem?_concat_length, ?_⟩
    -- whether the drain has to look at a stage ahead of its own
    rcases order.start_cases with hstart | ⟨hstart, hnone⟩
    · obtain rfl : start = .checking := hadmits.1.trans hstart
      exact .checking (h.idle_join 0)
    · obtain rfl : start = .claiming := hadmits.1.trans hstart
      refine .claiming (h.idle_join 1) fun b hb => ?_
      rw [hnone] at hb
      contradiction

section Step

variable {call : StageCall} {progress : Progress StageCall StageAnswer} {stages : List Shutdown}
  {queues : List Queue}

/-- The sentinels of a stage are counted by nobody but the one who has claimed it. -/
theorem Kept.sentinelsSent_eq (h : Kept record crowd)
    (hcaller : crowd.callers[i]? = some (.goesOn call))
    (hmoves : call.Moves crowd.stages crowd.queues progress stages queues) {k : Nat}
    (hother : (i, .claimed k) ∉ record) (s s' : Shutdown) (hs : crowd.stages[k]? = some s)
    (hs' : stages[k]? = some s') : s'.sentinelsSent = s.sentinelsSent := by
  obtain ⟨t, ht, -, hsent⟩ := hmoves.forward hs
  obtain rfl := Option.some.inj (hs'.symm.trans ht)
  refine hsent.resolve_right fun hcounting => ?_
  obtain ⟨order, later, rfl, rfl⟩ := hcounting
  cases h.fate hcaller with
  | counting howes =>
    refine hother (mem_claimsOf.mp ?_)
    rw [howes.claims_eq]
    exact List.mem_singleton_self _

/-- The step of a caller that is on record with a drain is a step of that drain. -/
theorem Kept.fate_of_own {position : Progress StageCall StageAnswer} (h : Kept record crowd)
    (hcaller : crowd.callers[i]? = some (.goesOn call))
    (hposition : crowd.callers[i]? = some position) (hfate : crowd.Fate record i order position)
    (hmoves : call.Moves crowd.stages crowd.queues progress stages queues) :
    Fate ⟨stages, queues, crowd.callers.set i progress⟩
      (record ++ happenings (.step i) crowd) i order progress := by
  obtain rfl := Option.some.inj (hcaller.symm.trans hposition)
  obtain ⟨own, rfl⟩ : ∃ own, call = .drain order own := by
    cases hfate <;> exact ⟨_, rfl⟩
  have hgoes := goes_of_moves (i := i) hmoves
  cases hmoves with
  | drain hs hq hbefore hmoves =>
    exact hfate.drain (adds_of_drain hcaller hs hq) hmoves hs
      (List.getElem?_set_self (List.getElem?_eq_some_iff.mp hs).1) hbefore
      (fun hrunning => (h.unsent_of_running hs hrunning).1) hgoes

/-- A step takes the fate of its own drain along and leaves those of all others. -/
theorem Kept.step (h : Kept record crowd) (hcaller : crowd.callers[i]? = some (.goesOn call))
    (hmoves : call.Moves crowd.stages crowd.queues progress stages queues) :
    Kept (record ++ happenings (.step i) crowd)
      { stages := stages, queues := queues, callers := crowd.callers.set i progress } := by
  refine ⟨h.toRoll.step hcaller hmoves, h.toTitles.step hcaller hmoves fun k =>
    h.sentinelsSent_eq hcaller hmoves, fun j order start hmem => ?_⟩
  obtain ⟨position, hposition, hfate⟩ := h.fates j order start (began_of_append_step hmem)
  by_cases hj : j = i
  · subst hj
    exact ⟨progress, List.getElem?_set_self (List.getElem?_eq_some_iff.mp hcaller).1,
      h.fate_of_own hcaller hposition hfate hmoves⟩
  · refine ⟨position, (List.getElem?_set_ne (Ne.symm hj)).trans hposition,
      hfate.mono (goes_of_moves hmoves) (same_append fun entry hentry heq => ?_) fun hclaims => ?_⟩
    · exact hj (heq.symm.trans (mem_happenings hentry).1)
    · -- who has claimed the stage is not the one who makes the step
      have hmine : (j, .claimed order.stage) ∈ record :=
        mem_claimsOf.mp (hclaims ▸ List.mem_singleton_self _)
      exact h.sentinelsSent_eq hcaller hmoves fun hother => hj (h.sole j i _ hmine hother)

end Step

/-- **The fates of all drains**, whatever happens. -/
theorem kept_of_traces {stages : List (String × Nat)} {queues : List Queue}
    (h : Traces move happenings (ofStages stages queues) record crowd) : Kept record crowd := by
  refine h.invariant (P := Kept) (kept_ofStages stages queues) ?_
  intro m record mid next hkept hmove
  cases effect_of_move hmove with
  | begins hadmits => exact hkept.join hadmits
  | advances hcaller hmoves => exact hkept.step hcaller hmoves

end StageCrowd

end HostLookup
