import HostLookup.Proofs.Interleaving
import HostLookup.Proofs.Stage.Trading

/-!
# A stage on its own is served and stopped

Producers put their items into a queue that nobody closes, then the stage is drained, and each
consumer takes what comes until it meets a sentinel. The sentinels wait behind all items, there is
one for each consumer, and a consumer leaves with the first that it takes. So nobody is left behind
with an empty queue, and the drain, which needs room in the same queue, always finds somebody who
makes it:

* **`Exchange.Fair`** lists what holds at every moment.
* **`Exchange.Fair.not_stuck`**: as long as somebody has not returned, somebody can move.
* **`Exchange.Settled`**: what has been delivered, to whom and in which order, and how the queue and
  the stage are left behind, once everybody has returned.
* **`Exchange.serves_of_traces`** puts them together.
-/

namespace HostLookup

/-! ## Producers and consumers

A producer is read as the items it has left, a consumer as the items it has out. At a queue that
nobody closes no `put` and no `get` fails, so a step of a producer moves an item from its left to
the queue, and a step of a consumer moves one from the queue to its outs. -/

/-- The items that a producer has not handed in yet. -/
def Producer.left (p : Producer) : List String :=
  (p.call.bind PutCall.item?).toList ++ p.later

theorem Producer.left_ofItems (items : List String) : (ofItems items).left = items := by
  cases items <;> rfl

/-- A step of a `put` that does not fail hands in what is then no longer left. -/
theorem Producer.left_after {q q' : Queue} {call : PutCall} (later : List String)
    {progress : Progress PutCall (Except QueueError Unit)}
    (hmove : PutCall.Moves q call progress q') (hok : ∀ error, progress ≠ .returns (.error error)) :
    left { later := later, call := some call } =
      q.stored (some (.put call)) ++ (Producer.after later progress).left := by
  rw [hmove.stored]
  cases hmove with
  | tooLarge | refused | bounce => exact absurd rfl (hok _)
  | enter | store => rfl
  -- the next item is begun with at once
  | finish => exact (left_ofItems later).symm

/-- A producer without a call has nothing left to do, as long as no `put` fails. -/
theorem Producer.later_after {later : List String}
    {progress : Progress PutCall (Except QueueError Unit)}
    (hok : ∀ error, progress ≠ .returns (.error error))
    (hcall : (Producer.after later progress).call = none) :
    (Producer.after later progress).later = [] := by
  rcases progress with call' | (error | ⟨⟨⟩⟩)
  · contradiction
  · exact absurd rfl (hok error)
  · cases later with
    | nil => rfl
    | cons => contradiction

/-- What a consumer has taken and not yet dealt with. At a queue that is open, nothing but a
sentinel makes it stop. -/
def ConsumerActivity.inHand (sentinel : Sentinel) : ConsumerActivity → List String
  | .taking call => GetCall.takenOut (.goesOn call)
  | .acknowledging | .stopped => [sentinel.text]

/-- What a consumer has taken out of the queue, in order. -/
def Consumer.outs (sentinel : Sentinel) (c : Consumer) : List String :=
  c.taken.reverse ++ c.activity.inHand sentinel

/-- Has the consumer taken its sentinel? -/
def Consumer.hasSentinel (sentinel : Sentinel) (c : Consumer) : Bool :=
  sentinel.text ∈ c.activity.inHand sentinel

/-- A consumer has one sentinel or none: it deals with no item that is one. -/
theorem Consumer.count_outs {sentinel : Sentinel} {c : Consumer}
    (hnone : sentinel.text ∉ c.taken) :
    (c.outs sentinel).count sentinel.text = (c.hasSentinel sentinel).toNat := by
  have htaken : c.taken.reverse.count sentinel.text = 0 :=
    List.count_eq_zero.mpr (by simpa using hnone)
  rw [Consumer.outs, List.count_append, htaken, Nat.zero_add, Consumer.hasSentinel]
  rcases c.activity with (_ | _ | item) | _ | _
  · rfl
  · rfl
  · by_cases hitem : item = sentinel.text
    · simp [ConsumerActivity.inHand, GetCall.takenOut, hitem]
    · simp [ConsumerActivity.inHand, GetCall.takenOut, hitem, Ne.symm hitem]
  · simp [ConsumerActivity.inHand]
  · simp [ConsumerActivity.inHand]

/-- A step of a `get` that does not fail adds what it takes. -/
theorem Consumer.outs_after {q q' : Queue} {sentinel : Sentinel} {taken : List String}
    {call : GetCall} {progress : Progress GetCall (Except QueueError String)}
    (hmove : GetCall.Moves q call progress q') (hok : ∀ error, progress ≠ .returns (.error error)) :
    (Consumer.after sentinel taken progress).outs sentinel =
      Consumer.outs sentinel { activity := .taking call, taken := taken } ++
        q.taken (some (.get call)) := by
  rw [hmove.taken]
  cases hmove with
  | refused | bounce => exact absurd rfl (hok _)
  | enter => simp [Consumer.after, Consumer.outs, ConsumerActivity.inHand, GetCall.takenOut]
  | take => simp [Consumer.after, Consumer.outs, ConsumerActivity.inHand, GetCall.takenOut]
  | @finish item =>
    simp only [Consumer.after]
    split
    · next hmarks =>
      obtain rfl := of_decide_eq_true hmarks
      simp [Consumer.outs, ConsumerActivity.inHand, GetCall.takenOut]
    · simp [Consumer.outs, ConsumerActivity.inHand, GetCall.takenOut]

/-- What a consumer deals with next is no sentinel, since it stops at one. -/
theorem Consumer.notMem_after {sentinel : Sentinel} {taken : List String}
    {progress : Progress GetCall (Except QueueError String)} (hnone : sentinel.text ∉ taken) :
    sentinel.text ∉ (Consumer.after sentinel taken progress).taken := by
  rcases progress with call' | (error | item)
  · exact hnone
  · exact hnone
  · simp only [Consumer.after]
    split
    · exact hnone
    · next hmarks =>
      have hne : sentinel.text ≠ item := fun heq => hmarks (decide_eq_true heq)
      simp [hne, hnone]

/-- A consumer stops by saying so, and not with a step of a `get` that does not fail. -/
theorem Consumer.activity_after (sentinel : Sentinel) (taken : List String)
    {progress : Progress GetCall (Except QueueError String)}
    (hok : ∀ error, progress ≠ .returns (.error error)) :
    (Consumer.after sentinel taken progress).activity ≠ .stopped := by
  rcases progress with call' | (error | item)
  · exact ConsumerActivity.noConfusion
  · exact absurd rfl (hok error)
  · simp only [Consumer.after]
    split <;> exact ConsumerActivity.noConfusion

namespace Exchange

variable {x x' : Exchange} {trader owner : Trader} {record : List (Trader × Section)}
  {sentinel : Sentinel} {items : List (List String)}

/-! ## What holds at every moment

One structure carries the whole argument. The parts about the record say where every item is; the
parts about the drain say that it waits for the producers, so that the sentinels come last; the
parts about the stage say that its counts and its state follow the drain and the consumers. -/

/-- The sentinels that have been put. -/
def sentinelsPut (x : Exchange) : Nat :=
  x.stage.sentinelsSent + (Standing.ofDrain x.drain).pending

/-- The state of a stage whose drain has begun or not. -/
def stateAfter (begun : Bool) (stage : Shutdown) : StageState :=
  if begun then (if stage.workers ≤ stage.workersStopped then .stopped else .draining)
  else .running

/-- What holds of the producers of these items, their consumers and the drain, at every moment. -/
structure Fair (sentinel : Sentinel) (items : List (List String))
    (record : List (Trader × Section)) (x : Exchange) : Prop where
  sound : Sound record x
  sentinel_eq : x.sentinel = sentinel
  opened : x.queue.ring.closed = false
  fits_sentinel : x.queue.fits sentinel.text = true
  fits : ∀ own ∈ items, ∀ item ∈ own, x.queue.fits item = true
  unmarked : ∀ own ∈ items, sentinel.text ∉ own
  length_producers : x.producers.length = items.length
  /-- What a producer has put and what it has left are its items. -/
  producing : ∀ (i : Nat) (p : Producer) (own : List String), x.producers[i]? = some p →
    items[i]? = some own → own = itemsOf (stores record) (.producer i) ++ p.left
  spent : ∀ p ∈ x.producers, p.call = none → p.later = []
  law : (Standing.ofDrain x.drain).Law sentinel x.stage x.stage x.queue
  went_well : ∀ result, x.drain = .returns result → result = .ok ()
  /-- The drain waits for the producers. -/
  idle : (Standing.ofDrain x.drain).hasBegun = true → ∀ p ∈ x.producers, p.call = none
  drained : itemsOf (stores record) .drainer = List.replicate x.sentinelsPut sentinel.text
  /-- The sentinels are behind all items. -/
  ending : ∃ front, sentinel.text ∉ front ∧
    (stores record).map Prod.snd = front ++ List.replicate x.sentinelsPut sentinel.text
  putters : ∀ entry ∈ stores record, entry.1 = .drainer ∨ ∃ i < items.length, entry.1 = .producer i
  workers_eq : x.stage.workers = x.consumers.length
  consuming : ∀ (i : Nat) (c : Consumer), x.consumers[i]? = some c →
    itemsOf (takes record) (.consumer i) = c.outs sentinel ∧ sentinel.text ∉ c.taken
  takers : ∀ entry ∈ takes record, ∃ i < x.consumers.length, entry.1 = .consumer i
  stopped_eq : x.stage.workersStopped =
    x.consumers.countP fun c => decide (c.activity = .stopped)
  state_eq : x.stage.state = stateAfter (Standing.ofDrain x.drain).hasBegun x.stage
  head_eq : x.queue.ring.head = (takes record).length % x.queue.capacity

/-! ## The start

Nobody has put or taken anything, all items are left, and the drain has not begun. -/

theorem fair_start {name stageName : String} {capacity slotLength consumers : Nat}
    (hpos : 0 < capacity) (hsentinel : sentinel.text.utf8ByteSize ≤ slotLength - 1)
    (hfits : ∀ own ∈ items, ∀ item ∈ own, item.utf8ByteSize ≤ slotLength - 1)
    (hunmarked : ∀ own ∈ items, sentinel.text ∉ own) :
    Fair sentinel items []
      (start sentinel (Queue.ofGeometry name capacity slotLength) stageName items consumers) where
  sound := by
    refine ⟨?_, Queue.Ledger.ofGeometry name capacity slotLength⟩
    have hcalls : calls (start sentinel (Queue.ofGeometry name capacity slotLength) stageName items
        consumers) = fun _ => 0 := by
      funext p
      refine List.countP_eq_zero.mpr fun trader _ => ?_
      cases trader with
      | producer i =>
        simp only [callOn, start, List.getElem?_map]
        cases items[i]? with
        | none => simp
        | some own => cases own <;> simp [Producer.ofItems, Call.phase?, PutCall.phase?]
      | drainer => simp [callOn, start, Progress.drainCall, DrainCall.putCall]
      | consumer i =>
        simp only [callOn, start, List.getElem?_replicate]
        split <;> simp [ConsumerActivity.call?, Call.phase?, GetCall.phase?]
    rw [hcalls]
    exact Queue.Balanced.ofGeometry name slotLength hpos
  sentinel_eq := rfl
  opened := rfl
  fits_sentinel := (Queue.fits_iff _ _).mpr hsentinel
  fits own hown item hitem := (Queue.fits_iff _ _).mpr (hfits own hown item hitem)
  unmarked := hunmarked
  length_producers := List.length_map ..
  producing i p own hplace hown := by
    simp only [start, List.getElem?_map, hown, Option.map_some, Option.some.injEq] at hplace
    subst hplace
    exact (Producer.left_ofItems own).symm
  spent p hmem hcall := by
    obtain ⟨own, -, rfl⟩ := List.mem_map.mp hmem
    cases own with
    | nil => rfl
    | cons => contradiction
  law := ⟨rfl, rfl⟩
  went_well result heq := by contradiction
  idle hbegun := by contradiction
  drained := rfl
  ending := ⟨[], List.not_mem_nil, rfl⟩
  putters entry hmem := absurd hmem List.not_mem_nil
  workers_eq := by simp [start, Shutdown.start]
  consuming i c hplace := by
    simp only [start, List.getElem?_replicate, Option.ite_none_right_eq_some,
      Option.some.injEq] at hplace
    obtain ⟨-, rfl⟩ := hplace
    exact ⟨rfl, List.not_mem_nil⟩
  takers entry hmem := absurd hmem List.not_mem_nil
  stopped_eq := by
    symm
    refine List.countP_eq_zero.mpr fun c hmem => ?_
    rw [List.eq_of_mem_replicate hmem]
    exact of_decide_eq_true rfl
  state_eq := rfl
  head_eq := (Nat.zero_mod _).symm

/-! ## Steps

What a step adds to the record is what the one thread that moves stores in the queue or takes out of
it (`itemsOf_stores`, `itemsOf_takes`). No call in an exchange closes the queue. -/

theorem itemsOf_stores (record : List (Trader × Section)) (trader owner : Trader) (x : Exchange) :
    itemsOf (stores (record ++ deals trader x)) owner =
      itemsOf (stores record) owner ++
        if trader = owner then x.queue.stored (x.callOn trader) else [] := by
  rw [stores_append, itemsOf_append, stores_deals, itemsOf_tagged]

theorem itemsOf_takes (record : List (Trader × Section)) (trader owner : Trader) (x : Exchange) :
    itemsOf (takes (record ++ deals trader x)) owner =
      itemsOf (takes record) owner ++
        if trader = owner then x.queue.taken (x.callOn trader) else [] := by
  rw [takes_append, itemsOf_append, takes_deals, itemsOf_tagged]

theorem map_stores (record : List (Trader × Section)) (trader : Trader) (x : Exchange) :
    (stores (record ++ deals trader x)).map Prod.snd =
      (stores record).map Prod.snd ++ x.queue.stored (x.callOn trader) := by
  rw [stores_append, stores_deals, List.map_append, List.map_map]
  simp [Function.comp_def]

/-- No call that is made here closes the queue. -/
theorem leavesOpen_callOn {c : Call} (hcall : x.callOn trader = some c) : c.leavesOpen = true := by
  cases trader with
  | producer i =>
    simp only [callOn, Option.bind_eq_some_iff, Option.map_eq_some_iff] at hcall
    obtain ⟨p, -, call, -, rfl⟩ := hcall
    rfl
  | drainer =>
    rw [callOn] at hcall
    generalize x.drain = progress at hcall
    rcases progress with call | result
    · cases call <;> cases hcall
      rfl
    · contradiction
  | consumer i =>
    simp only [callOn, Option.bind_eq_some_iff] at hcall
    obtain ⟨c', -, hcall⟩ := hcall
    cases hactivity : c'.activity <;> rw [hactivity] at hcall <;> cases hcall
    rfl

namespace Fair

/-- Nobody who waits for a free slot is turned away. -/
theorem free_open (h : Fair sentinel items record x) : x.queue.free.closed = false :=
  (h.sound.balanced.counters_open h.opened).1

/-- The law of the drain, for the place where it is. -/
theorem law_of_drain (h : Fair sentinel items record x)
    {progress : Progress DrainCall (Except Failure Unit)} (hdrain : x.drain = progress) :
    (Standing.ofDrain progress).Law sentinel x.stage x.stage x.queue :=
  hdrain ▸ h.law

/-- A `put` of an item that fits does not fail at an open queue. -/
theorem put_ok (h : Fair sentinel items record x) {call : PutCall} {queue : Queue}
    {progress : Progress PutCall (Except QueueError Unit)}
    (hstep : call.step x.queue = some (progress, queue))
    (hfits : ∀ item, call.item? = some item → x.queue.fits item = true) (error : QueueError) :
    progress ≠ .returns (.error error) := by
  rintro rfl
  rcases (PutCall.moves_of_step hstep).returns_of_open h.opened h.free_open with
    ⟨-, hno⟩ | ⟨item, rfl, hsize, -⟩
  · contradiction
  · exact absurd (hsize.symm.trans (hfits item rfl)) Bool.false_ne_true

/-- Nor does a `get`. -/
theorem get_ok (h : Fair sentinel items record x) {call : GetCall} {queue : Queue}
    {progress : Progress GetCall (Except QueueError String)}
    (hstep : call.step x.queue = some (progress, queue)) (error : QueueError) :
    progress ≠ .returns (.error error) := by
  rintro rfl
  have hopen := h.opened
  have hfilled := (h.sound.balanced.counters_open hopen).2
  cases GetCall.moves_of_step hstep with
  | refused hclosed => exact absurd (hfilled.symm.trans hclosed) Bool.false_ne_true
  | bounce hclosed => exact absurd (hopen.symm.trans hclosed) Bool.false_ne_true

/-- What a producer has left is among its items. -/
theorem mem_of_left (h : Fair sentinel items record x) {i : Nat} {p : Producer}
    (hplace : x.producers[i]? = some p) {item : String} (hitem : item ∈ p.left) :
    ∃ own ∈ items, item ∈ own := by
  have hlt : i < items.length := h.length_producers ▸ (List.getElem?_eq_some_iff.mp hplace).1
  have hown := h.producing i p _ hplace (List.getElem?_eq_getElem hlt)
  refine ⟨items[i], List.getElem_mem hlt, ?_⟩
  rw [hown]
  exact List.mem_append_right _ hitem

theorem item_left {later : List String} {call : PutCall} {item : String}
    (hitem : call.item? = some item) :
    item ∈ Producer.left { later := later, call := some call } := by
  simp [Producer.left, hitem]

/-- While a producer is at work no sentinel has been put. -/
theorem sentinelsPut_eq_zero (h : Fair sentinel items record x) {i : Nat} {later : List String}
    {call : PutCall} (hplace : x.producers[i]? = some { later := later, call := some call }) :
    x.sentinelsPut = 0 := by
  refine h.law.sent_eq_zero (Bool.eq_false_iff.mpr fun hbegun => ?_)
  have hnone := h.idle hbegun _ (List.mem_of_getElem? hplace)
  contradiction

/-- Who has a sentinel has it from the drain. -/
theorem begun_of_hasSentinel (h : Fair sentinel items record x) {i : Nat} {c : Consumer}
    (hplace : x.consumers[i]? = some c) (hsentinel : c.hasSentinel sentinel = true) :
    (Standing.ofDrain x.drain).hasBegun = true := by
  cases hbegun : (Standing.ofDrain x.drain).hasBegun with
  | true => rfl
  | false =>
    exfalso
    have hzero : x.sentinelsPut = 0 := h.law.sent_eq_zero hbegun
    obtain ⟨front, hfront, hstored⟩ := h.ending
    rw [hzero, List.replicate_zero, List.append_nil] at hstored
    -- what has been taken has been put, and no sentinel has been put
    have hmem : sentinel.text ∈ c.outs sentinel :=
      List.mem_append_right _ (of_decide_eq_true hsentinel)
    rw [← (h.consuming i c hplace).1] at hmem
    obtain ⟨entry, hentry, heq⟩ := List.mem_map.mp hmem
    have htaken : sentinel.text ∈ (takes record).map Prod.snd :=
      List.mem_map.mpr ⟨entry, (List.mem_filter.mp hentry).1, heq⟩
    exact hfront (hstored ▸ h.sound.ledger.outs_prefix.subset htaken)

/-- Nobody stops before the drain has begun. -/
theorem workersStopped_eq_zero (h : Fair sentinel items record x)
    (hbegun : (Standing.ofDrain x.drain).hasBegun = false) : x.stage.workersStopped = 0 := by
  rw [h.stopped_eq, List.countP_eq_zero]
  intro c hmem hstopped
  obtain ⟨i, hplace⟩ := List.mem_iff_getElem?.mp hmem
  have hsentinel : c.hasSentinel sentinel = true := by
    simp [Consumer.hasSentinel, of_decide_eq_true hstopped, ConsumerActivity.inHand]
  rw [h.begun_of_hasSentinel hplace hsentinel] at hbegun
  contradiction

/-- The item of a `put` that a producer is inside of fits, and it is no sentinel. -/
theorem item_of_producer (h : Fair sentinel items record x) {i : Nat} {later : List String}
    {call : PutCall} (hplace : x.producers[i]? = some { later := later, call := some call })
    {item : String} (hitem : call.item? = some item) :
    x.queue.fits item = true ∧ item ≠ sentinel.text := by
  obtain ⟨own, hown, hmem⟩ := h.mem_of_left hplace (item_left hitem)
  exact ⟨h.fits own hown item hmem, fun heq => h.unmarked own hown (heq ▸ hmem)⟩

/-! Each part of the law is kept by every step. Producers are at work before the drain has begun, so
the items of a producer come in front of all sentinels. -/

theorem opened_move (h : Fair sentinel items record x) (hmove : Moves x trader x') :
    x'.queue.ring.closed = false :=
  (hmove.turn.closed_frame fun _ hcall => leavesOpen_callOn hcall).trans h.opened

theorem fits_move (hmove : Moves x trader x') (item : String) :
    x'.queue.fits item = x.queue.fits item := by
  have hslot := hmove.turn.geometry.2.2
  have hmax : x'.queue.maxItemLength = x.queue.maxItemLength := congrArg (· - 1) hslot
  exact decide_eq_decide.mpr (by rw [hmax])

/-- An item leaves the hands of its producer when it enters the queue; other threads touch
neither. -/
theorem producing_move (h : Fair sentinel items record x) (hmove : Moves x trader x') (i : Nat)
    (p : Producer) (own : List String) (hplace : x'.producers[i]? = some p)
    (hown : items[i]? = some own) :
    own = itemsOf (stores (record ++ deals trader x)) (.producer i) ++ p.left := by
  rw [itemsOf_stores]
  cases hmove with
  | @put j later call progress queue hcaller hstep =>
    by_cases hself : j = i
    · subst hself
      have hlt := (List.getElem?_eq_some_iff.mp hcaller).1
      rw [List.getElem?_set_self hlt, Option.some.injEq] at hplace
      subst hplace
      have hleft := Producer.left_after later (PutCall.moves_of_step hstep)
        (h.put_ok hstep fun item hitem => (h.item_of_producer hcaller hitem).1)
      rw [if_pos rfl, callOn_producer hcaller, List.append_assoc, ← hleft]
      exact h.producing j _ own hcaller hown
    · rw [List.getElem?_set_ne hself] at hplace
      have hne : Trader.producer j ≠ .producer i := fun heq => hself (Trader.producer.inj heq)
      rw [if_neg hne, List.append_nil]
      exact h.producing i p own hplace hown
  | drain | take | acknowledge =>
    rw [if_neg Trader.noConfusion, List.append_nil]
    exact h.producing i p own hplace hown

theorem spent_move (h : Fair sentinel items record x) (hmove : Moves x trader x') (p : Producer)
    (hmem : p ∈ x'.producers) (hcall : p.call = none) : p.later = [] := by
  cases hmove with
  | @put j later call progress queue hcaller hstep =>
    rcases List.mem_or_eq_of_mem_set hmem with hold | rfl
    · exact h.spent p hold hcall
    · exact Producer.later_after
        (h.put_ok hstep fun item hitem => (h.item_of_producer hcaller hitem).1) hcall
  | drain | take | acknowledge => exact h.spent p hmem hcall

/-- The drain keeps its own law; a consumer that stops does so behind a sentinel, which the law
allows. -/
theorem law_move (h : Fair sentinel items record x) (hmove : Moves x trader x') :
    (Standing.ofDrain x'.drain).Law sentinel x'.stage x'.stage x'.queue := by
  have hclosed := hmove.turn.closed_mono
  cases hmove with
  | put => exact h.law.mono id (Or.inl rfl) hclosed
  | @drain call progress stage queue hdrain hidle hmove =>
    have hlaw := h.law_of_drain hdrain
    have heq := h.sentinel_eq
    subst heq
    refine Standing.Law.ofDrain hlaw hmove ?_
    rintro later put error rfl hstep
    refine absurd rfl (h.put_ok hstep (fun item hitem => ?_) error)
    rw [hlaw.2 item hitem]
    exact h.fits_sentinel
  | take => exact h.law.mono id (Or.inl rfl) hclosed
  | @acknowledge i taken hplace =>
    refine h.law.mono ?_ (Or.inr ⟨?_, rfl⟩) hclosed
    · -- a stage that has stopped stays so
      intro hstopped
      simp [Shutdown.workerStopped, hstopped]
    · exact h.begun_of_hasSentinel hplace (by simp [Consumer.hasSentinel, ConsumerActivity.inHand])

/-- The drain succeeds: nothing in its way can fail. -/
theorem went_well_move (h : Fair sentinel items record x) (hmove : Moves x trader x')
    (result : Except Failure Unit) (hresult : x'.drain = .returns result) : result = .ok () := by
  cases hmove with
  | put | take | acknowledge => exact h.went_well result hresult
  | @drain call progress stage queue hdrain hidle hmove =>
    have hlaw := h.law_of_drain hdrain
    have heq := h.sentinel_eq
    subst heq
    replace hresult : progress = .returns result := hresult
    subst hresult
    exact hmove.returns_of_open h.opened h.free_open h.fits_sentinel hlaw

/-- The drain begins behind the last producer, and no producer comes back. -/
theorem idle_move (h : Fair sentinel items record x) (hmove : Moves x trader x')
    (hbegun : (Standing.ofDrain x'.drain).hasBegun = true) : ∀ p ∈ x'.producers, p.call = none := by
  cases hmove with
  | put hplace =>
    have hnone := h.idle hbegun _ (List.mem_of_getElem? hplace)
    contradiction
  | drain hdrain hidle => exact hidle
  | take | acknowledge => exact h.idle hbegun

/-- The drain puts sentinels, and counts them; nobody else does. -/
theorem sentinels_move (h : Fair sentinel items record x) (hmove : Moves x trader x') :
    ∃ new, (if trader = .drainer then x.queue.stored (x.callOn trader) else []) =
        List.replicate new sentinel.text ∧
      x'.sentinelsPut = x.sentinelsPut + new := by
  cases hmove with
  | put | take => exact ⟨0, if_neg Trader.noConfusion, rfl⟩
  | acknowledge => exact ⟨0, if_neg Trader.noConfusion, rfl⟩
  | @drain call progress stage queue hdrain hidle hmove =>
    have hlaw := h.law_of_drain hdrain
    have heq := h.sentinel_eq
    subst heq
    obtain ⟨new, hnew, hcount⟩ := Standing.sentinels_of_drain hmove (by
      rintro later put rfl item hitem
      exact hlaw.2 item hitem)
    refine ⟨new, ?_, ?_⟩
    · rw [if_pos rfl, callOn, hdrain]
      exact hnew
    · simp only [sentinelsPut, hdrain]
      exact hcount

/-- What the drain has put are sentinels, and as many as it has counted or is about to count. -/
theorem drained_move (h : Fair sentinel items record x) (hmove : Moves x trader x') :
    itemsOf (stores (record ++ deals trader x)) .drainer =
      List.replicate x'.sentinelsPut sentinel.text := by
  obtain ⟨new, hnew, hput⟩ := h.sentinels_move hmove
  rw [itemsOf_stores, hnew, hput, h.drained, List.replicate_append_replicate]

/-- Items are put while no sentinel is, and sentinels behind them. -/
theorem ending_move (h : Fair sentinel items record x) (hmove : Moves x trader x') :
    ∃ front, sentinel.text ∉ front ∧
      (stores (record ++ deals trader x)).map Prod.snd =
        front ++ List.replicate x'.sentinelsPut sentinel.text := by
  obtain ⟨new, hnew, hput⟩ := h.sentinels_move hmove
  obtain ⟨front, hfront, hstored⟩ := h.ending
  rw [map_stores, hstored]
  cases hmove with
  | @put i later call progress queue hplace hstep =>
    -- the producer is at work, so its item comes in front
    have hzero := h.sentinelsPut_eq_zero hplace
    refine ⟨front ++ x.queue.stored (some (.put call)), ?_, ?_⟩
    · intro hmem
      rcases List.mem_append.mp hmem with hold | hmem
      · exact hfront hold
      · exact (h.item_of_producer hplace (Queue.item?_of_mem_stored hmem)).2 rfl
    · have hzero' : sentinelsPut { x with
          queue := queue
          producers := x.producers.set i (.after later progress) } = 0 := hzero
      rw [callOn_producer hplace, hzero, hzero', List.replicate_zero, List.append_nil,
        List.append_nil]
  | drain =>
    refine ⟨front, hfront, ?_⟩
    rw [if_pos rfl] at hnew
    rw [hnew, hput, List.append_assoc, List.replicate_append_replicate]
  | @take i taken call progress queue hplace hstep =>
    refine ⟨front, hfront, ?_⟩
    rw [callOn_taking hplace, Queue.stored_get, List.append_nil]
    rfl
  | @acknowledge i taken hplace =>
    refine ⟨front, hfront, ?_⟩
    rw [callOn_acknowledging hplace, Queue.stored_none, List.append_nil]
    rfl

theorem putters_move (h : Fair sentinel items record x) (hmove : Moves x trader x')
    (entry : Trader × String) (hmem : entry ∈ stores (record ++ deals trader x)) :
    entry.1 = .drainer ∨ ∃ i < items.length, entry.1 = .producer i := by
  rw [stores_append, stores_deals] at hmem
  rcases List.mem_append.mp hmem with hold | hnew
  · exact h.putters entry hold
  · obtain ⟨item, hitem, rfl⟩ := List.mem_map.mp hnew
    cases hmove with
    | put hplace =>
      exact .inr ⟨_, h.length_producers ▸ (List.getElem?_eq_some_iff.mp hplace).1, rfl⟩
    | drain => exact .inl rfl
    | take hplace => simp [callOn_taking hplace] at hitem
    | acknowledge hplace => simp [callOn_acknowledging hplace] at hitem

/-- What a consumer takes is added to its outs, and the others keep theirs. -/
theorem consuming_move (h : Fair sentinel items record x) (hmove : Moves x trader x') (i : Nat)
    (c : Consumer) (hplace : x'.consumers[i]? = some c) :
    itemsOf (takes (record ++ deals trader x)) (.consumer i) = c.outs sentinel ∧
      sentinel.text ∉ c.taken := by
  rw [itemsOf_takes]
  cases hmove with
  | put | drain =>
    rw [if_neg Trader.noConfusion, List.append_nil]
    exact h.consuming i c hplace
  | @take j taken call progress queue hcaller hstep =>
    have heq := h.sentinel_eq
    subst heq
    by_cases hself : j = i
    · subst hself
      have hlt := (List.getElem?_eq_some_iff.mp hcaller).1
      rw [List.getElem?_set_self hlt, Option.some.injEq] at hplace
      subst hplace
      obtain ⟨hold, hnone⟩ := h.consuming j _ hcaller
      rw [if_pos rfl, callOn_taking hcaller, hold]
      exact ⟨(Consumer.outs_after (GetCall.moves_of_step hstep) (h.get_ok hstep)).symm,
        Consumer.notMem_after hnone⟩
    · rw [List.getElem?_set_ne hself] at hplace
      have hne : Trader.consumer j ≠ .consumer i := fun heq => hself (Trader.consumer.inj heq)
      rw [if_neg hne, List.append_nil]
      exact h.consuming i c hplace
  | @acknowledge j taken hcaller =>
    have hnothing : (if Trader.consumer j = .consumer i then
        x.queue.taken (x.callOn (.consumer j)) else []) = [] := by
      rw [callOn_acknowledging hcaller, Queue.taken_none, ite_self]
    rw [hnothing, List.append_nil]
    by_cases hself : j = i
    · subst hself
      have hlt := (List.getElem?_eq_some_iff.mp hcaller).1
      rw [List.getElem?_set_self hlt, Option.some.injEq] at hplace
      subst hplace
      have hold := h.consuming j _ hcaller
      exact hold
    · rw [List.getElem?_set_ne hself] at hplace
      exact h.consuming i c hplace

theorem takers_move (h : Fair sentinel items record x) (hmove : Moves x trader x')
    (entry : Trader × String) (hmem : entry ∈ takes (record ++ deals trader x)) :
    ∃ i < x'.consumers.length, entry.1 = .consumer i := by
  rw [hmove.length_consumers]
  rw [takes_append, takes_deals] at hmem
  rcases List.mem_append.mp hmem with hold | hnew
  · exact h.takers entry hold
  · obtain ⟨item, hitem, rfl⟩ := List.mem_map.mp hnew
    cases hmove with
    | put hplace => simp [callOn_producer hplace] at hitem
    | @drain call progress stage queue hdrain =>
      have hnothing : x.queue.taken call.putCall = [] := by
        cases call <;> simp [DrainCall.putCall]
      rw [callOn, hdrain] at hitem
      exact absurd (hnothing ▸ hitem) List.not_mem_nil
    | take hplace | acknowledge hplace =>
      exact ⟨_, (List.getElem?_eq_some_iff.mp hplace).1, rfl⟩

/-- A worker counts as stopped when it says so, and the count grows by one. -/
theorem stopped_move (h : Fair sentinel items record x) (hmove : Moves x trader x') :
    x'.stage.workersStopped = x'.consumers.countP fun c => decide (c.activity = .stopped) := by
  have hold := h.stopped_eq
  cases hmove with
  | put => exact hold
  | drain hdrain hidle hmove => exact hmove.workersStopped_eq.trans hold
  | @take i taken call progress queue hplace hstep =>
    have hadd := countP_set_add (fun c : Consumer => decide (c.activity = .stopped))
      (Consumer.after x.sentinel taken progress) hplace
    have hgoes := Consumer.activity_after x.sentinel taken (h.get_ok hstep)
    simp only [hgoes, reduceCtorEq, decide_false, Bool.toNat_false] at hadd
    exact hold.trans hadd.symm
  | @acknowledge i taken hplace =>
    have hadd := countP_set_add (fun c : Consumer => decide (c.activity = .stopped))
      { activity := .stopped, taken := taken } hplace
    simp only [reduceCtorEq, decide_false, decide_true, Bool.toNat_false, Bool.toNat_true] at hadd
    simp only [Shutdown.workerStopped]
    omega

/-- The state of the stage follows the drain and the count of the stopped: it is draining from the
claim of the drain on, and stopped with the last worker. -/
theorem state_move (h : Fair sentinel items record x) (hmove : Moves x trader x') :
    x'.stage.state = stateAfter (Standing.ofDrain x'.drain).hasBegun x'.stage := by
  have hold := h.state_eq
  cases hmove with
  | put | take => exact hold
  | @drain call progress stage queue hdrain hidle hmove =>
    have hlaw := h.law_of_drain hdrain
    have hzero := h.workersStopped_eq_zero
    rw [hdrain] at hold hzero
    show stage.state = stateAfter (Standing.ofDrain progress).hasBegun stage
    cases hmove with
    | allow hstopped => exact absurd (hstopped.symm.trans hlaw.2.1) StageState.noConfusion
    | hold hgoing => exact absurd hlaw.1 hgoing
    | refuse => exact hlaw.elim
    | late hclaim => exact absurd hclaim (Shutdown.claim_ne_error hlaw.1 _)
    | claim hclaim =>
      -- nobody has stopped yet, so the stage has stopped only if there is nobody
      have hbegun : (Standing.ofDrain (DrainCall.proceed x.sentinel stage.workers)).hasBegun =
          true := by
        cases stage.workers <;> rfl
      have hnobody : x.stage.workersStopped = 0 := hzero rfl
      simp only [Shutdown.claim, hlaw.1, ne_eq, not_true_eq_false, ↓reduceIte,
        Except.ok.injEq] at hclaim
      subst hclaim
      rw [hbegun]
      simp [stateAfter, hnobody]
    | put | sent | fail => exact hold
    | @count later =>
      have hbegun : (Standing.ofDrain (DrainCall.proceed x.sentinel later)).hasBegun = true := by
        cases later <;> rfl
      rw [hbegun]
      exact hold
  | @acknowledge i taken hplace =>
    have hbegun := h.begun_of_hasSentinel hplace
      (by simp [Consumer.hasSentinel, ConsumerActivity.inHand])
    have hafter : stateAfter true x.stage.workerStopped =
        if x.stage.workers ≤ x.stage.workersStopped + 1 then .stopped else .draining := rfl
    show (if x.stage.workers ≤ x.stage.workersStopped + 1 then .stopped else x.stage.state) =
      stateAfter (Standing.ofDrain x.drain).hasBegun x.stage.workerStopped
    rw [hbegun] at hold ⊢
    simp only [stateAfter, ↓reduceIte] at hold
    rw [hafter]
    by_cases hall : x.stage.workers ≤ x.stage.workersStopped + 1
    · rw [if_pos hall, if_pos hall]
    · rw [if_neg hall, if_neg hall, hold, if_neg (by omega)]

/-- The head of the ring goes on by one with each item that is taken. -/
theorem head_move (h : Fair sentinel items record x) (hmove : Moves x trader x') :
    x'.queue.ring.head = (takes (record ++ deals trader x)).length % x'.queue.capacity := by
  rw [hmove.turn.head_eq h.sound.balanced.head_lt, hmove.turn.geometry.2.1, h.head_eq,
    Nat.mod_add_mod, takes_append, takes_deals, List.length_append, List.length_map]

/-- **Every step keeps the law.** -/
theorem move (h : Fair sentinel items record x) (hmove : Moves x trader x') :
    Fair sentinel items (record ++ deals trader x) x' where
  sound := h.sound.move hmove
  sentinel_eq := by cases hmove <;> exact h.sentinel_eq
  opened := h.opened_move hmove
  fits_sentinel := (fits_move hmove _).trans h.fits_sentinel
  fits own hown item hitem := (fits_move hmove item).trans (h.fits own hown item hitem)
  unmarked := h.unmarked
  length_producers := hmove.length_producers.trans h.length_producers
  producing := h.producing_move hmove
  spent := h.spent_move hmove
  law := h.law_move hmove
  went_well := h.went_well_move hmove
  idle := h.idle_move hmove
  drained := h.drained_move hmove
  ending := h.ending_move hmove
  putters := h.putters_move hmove
  workers_eq := by
    rw [hmove.length_consumers, ← h.workers_eq]
    cases hmove with
    | put | take => rfl
    | acknowledge => rfl
    | drain hdrain hidle hmove => exact hmove.workers_eq
  consuming := h.consuming_move hmove
  takers := h.takers_move hmove
  stopped_eq := h.stopped_move hmove
  state_eq := h.state_move hmove
  head_eq := h.head_move hmove

end Fair

/-! ## Nobody waits for ever

A thread that cannot move is either through or waits at the queue: a producer and the drain at a
full one, a consumer at an empty one. The queue cannot be both, so if a consumer waits then neither
the producers nor the drain do. They are through, all sentinels have been put and taken, and the
consumer that waits has one of them, which is absurd. If no consumer waits then all have stopped,
each with a sentinel, and the drain has none left to wait with. -/

/-- An exchange is over when every thread in it is. -/
theorem isOver_iff (x : Exchange) : x.isOver = true ↔
    (∀ p ∈ x.producers, p.call = none) ∧ (∃ result, x.drain = .returns result) ∧
      ∀ c ∈ x.consumers, c.activity = .stopped := by
  unfold isOver
  cases x.drain <;> simp

/-- A producer that cannot move is through or waits for a free slot. -/
theorem blocked_producer {i : Nat} {p : Producer} (hplace : x.producers[i]? = some p)
    (hstep : step (.producer i) x = none) :
    p.call = none ∨ (∃ item, p.call = some (.entering item)) ∧ x.queue.Full := by
  rcases p with ⟨later, _ | call⟩
  · exact .inl rfl
  · simp only [step, stepProducer, hplace] at hstep
    split at hstep
    · next hput =>
      obtain ⟨item, rfl, -, hopen, hpermits⟩ := PutCall.blocked_of_step hput
      exact .inr ⟨⟨item, rfl⟩, hopen, hpermits⟩
    · contradiction

/-- A consumer that cannot move has stopped or waits for an item. -/
theorem blocked_consumer {i : Nat} {c : Consumer} (hplace : x.consumers[i]? = some c)
    (hstep : step (.consumer i) x = none) :
    c.activity = .stopped ∨ c.activity = .taking .entering ∧ x.queue.Empty := by
  rcases c with ⟨call | _ | _, taken⟩
  · simp only [step, stepConsumer, hplace] at hstep
    split at hstep
    · next hget =>
      obtain ⟨rfl, hopen, hpermits⟩ := GetCall.blocked_of_step hget
      exact .inr ⟨rfl, hopen, hpermits⟩
    · contradiction
  · simp [step, stepConsumer, hplace] at hstep
  · exact .inl rfl

/-- A drain that cannot move has returned, or waits for a producer or for a free slot. -/
theorem blocked_drainer (hstep : step .drainer x = none) :
    (∃ result, x.drain = .returns result) ∨ (∃ p ∈ x.producers, p.call ≠ none) ∨
      (∃ later item, x.drain = .goesOn (.putting later (.entering item))) ∧ x.queue.Full := by
  simp only [step, stepDrain] at hstep
  split at hstep
  · next result hdrain => exact .inl ⟨result, hdrain⟩
  · next call hdrain =>
    split at hstep
    · next hbusy =>
      obtain ⟨p, hmem, hcall⟩ := List.any_eq_true.mp hbusy
      exact .inr (.inl ⟨p, hmem, Option.isSome_iff_ne_none.mp hcall⟩)
    · split at hstep
      · next hcall =>
        obtain ⟨later, item, rfl, -, hopen, hpermits⟩ := DrainCall.blocked_of_step hcall
        exact .inr (.inr ⟨⟨later, item, hdrain⟩, hopen, hpermits⟩)
      · contradiction

namespace Fair

/-- Once a call of the drain is under way, no producer is at work any more. -/
theorem producers_idle (h : Fair sentinel items record x) {later : Nat} {call : PutCall}
    (hdrain : x.drain = .goesOn (.putting later call)) : ∀ p ∈ x.producers, p.call = none :=
  h.idle (by rw [hdrain]; rfl)

/-- Whoever is stuck is in no section of the queue: threads only wait in front of one. -/
theorem calls_eq_zero (h : Fair sentinel items record x) (hstuck : ∀ trader, step trader x = none)
    (phase : Phase) : x.calls phase = 0 := by
  refine List.countP_eq_zero.mpr fun trader _ => ?_
  suffices hidle : (x.callOn trader).bind Call.phase? = none by simp [hidle]
  have hblocked := hstuck trader
  cases trader with
  | producer i =>
    rw [callOn]
    cases hplace : x.producers[i]? with
    | none => rfl
    | some p =>
      rw [Option.bind_some]
      rcases blocked_producer hplace hblocked with hcall | ⟨⟨item, hcall⟩, -⟩
      · rw [hcall]; rfl
      · rw [hcall]; rfl
  | drainer =>
    rw [callOn]
    rcases blocked_drainer hblocked with ⟨result, hdrain⟩ | ⟨p, hmem, hcall⟩ |
      ⟨⟨later, item, hdrain⟩, -⟩
    · rw [hdrain]; rfl
    · -- a drain that still waits for a producer puts nothing
      cases hdrain : x.drain with
      | returns => rfl
      | goesOn call =>
        cases call with
        | putting => exact absurd (h.producers_idle hdrain p hmem) hcall
        | checking | refusing | claiming | counting => rfl
    · rw [hdrain]; rfl
  | consumer i =>
    rw [callOn]
    cases hplace : x.consumers[i]? with
    | none => rfl
    | some c =>
      rw [Option.bind_some]
      rcases blocked_consumer hplace hblocked with hactivity | ⟨hactivity, -⟩
      · rw [hactivity]; rfl
      · rw [hactivity]; rfl

/-! The record split by owner. -/

theorem interleaves_itemsOf {owners : List Trader} (hnodup : owners.Nodup)
    (entries : List (Trader × String)) (howner : ∀ entry ∈ entries, entry.1 ∈ owners) :
    Interleaves (entries.map Prod.snd) (owners.map (itemsOf entries)) := by
  have hall : ∀ l : List (Trader × String),
      l.filterMap (fun entry => some entry.2) = l.map Prod.snd :=
    fun l => congrFun (List.filterMap_eq_map (f := Prod.snd)) l
  have hsplit := Interleaves.of_tags (fun entry : Trader × String => some entry.2) hnodup entries
    fun entry hmem _ => howner entry hmem
  have htell : Interleaves.tellings (fun entry : Trader × String => some entry.2) entries =
      itemsOf entries := by
    funext owner
    exact hall _
  rwa [htell, hall] at hsplit

/-- What was taken, split by consumer. -/
theorem takes_interleaves (h : Fair sentinel items record x) :
    Interleaves ((takes record).map Prod.snd) (x.consumers.map (Consumer.outs sentinel)) := by
  have hsplit := interleaves_itemsOf (nodup_consumers _) (takes record) (fun entry hmem => by
    obtain ⟨i, hlt, heq⟩ := h.takers entry hmem
    exact List.mem_map.mpr ⟨i, List.mem_range.mpr hlt, heq.symm⟩)
  have hparts : ((List.range x.consumers.length).map Trader.consumer).map
      (itemsOf (takes record)) = x.consumers.map (Consumer.outs sentinel) := by
    refine List.ext_getElem (by simp) fun i hi _ => ?_
    have hlt : i < x.consumers.length := by simpa using hi
    simpa using (h.consuming i _ (List.getElem?_eq_getElem hlt)).1
  rwa [hparts] at hsplit

/-- What was put, split by producer, with the sentinels of the drain. -/
theorem stores_interleaves (h : Fair sentinel items record x) :
    Interleaves ((stores record).map Prod.snd)
      (((List.range items.length).map fun i => itemsOf (stores record) (.producer i)) ++
        [List.replicate x.sentinelsPut sentinel.text]) := by
  have hsplit := interleaves_itemsOf (nodup_givers _) (stores record) (fun entry hmem => by
    rcases h.putters entry hmem with heq | ⟨i, hlt, heq⟩
    · exact List.mem_append_right _ (List.mem_singleton.mpr heq)
    · exact List.mem_append_left _ (List.mem_map.mpr ⟨i, List.mem_range.mpr hlt, heq.symm⟩))
  rw [List.map_append, List.map_map, List.map_singleton, h.drained] at hsplit
  exact hsplit

/-- As many sentinels have been taken as there are consumers that have one. -/
theorem count_takes (h : Fair sentinel items record x) :
    ((takes record).map Prod.snd).count sentinel.text =
      x.consumers.countP (Consumer.hasSentinel sentinel) := by
  have hsum : ∀ consumers : List Consumer, (∀ c ∈ consumers, sentinel.text ∉ c.taken) →
      (consumers.map (Consumer.outs sentinel)).flatten.count sentinel.text =
        consumers.countP (Consumer.hasSentinel sentinel) := by
    intro consumers hnone
    induction consumers with
    | nil => rfl
    | cons c rest ih =>
      rw [List.map_cons, List.flatten_cons, List.count_append, List.countP_cons,
        ih fun c hmem => hnone c (List.mem_cons_of_mem _ hmem),
        Consumer.count_outs (hnone c List.mem_cons_self)]
      cases c.hasSentinel sentinel <;> simp [Nat.add_comm]
  rw [h.takes_interleaves.perm.count_eq]
  refine hsum x.consumers fun c hmem => ?_
  obtain ⟨i, hplace⟩ := List.mem_iff_getElem?.mp hmem
  exact (h.consuming i c hplace).2

/-- There are as many sentinels in the record as were put. -/
theorem count_stores (h : Fair sentinel items record x) :
    ((stores record).map Prod.snd).count sentinel.text = x.sentinelsPut := by
  obtain ⟨front, hfront, heq⟩ := h.ending
  rw [heq, List.count_append, List.count_eq_zero.mpr hfront, List.count_replicate_self,
    Nat.zero_add]

/-- Nobody has a sentinel that was not put. -/
theorem holding_le (h : Fair sentinel items record x) :
    x.consumers.countP (Consumer.hasSentinel sentinel) ≤ x.sentinelsPut := by
  rw [← h.count_takes, ← h.count_stores]
  exact h.sound.ledger.outs_prefix.sublist.count_le _

/-- Who has stopped has a sentinel. -/
theorem countP_of_stopped (sentinel : Sentinel)
    (hstopped : ∀ c ∈ x.consumers, c.activity = .stopped) :
    x.consumers.countP (Consumer.hasSentinel sentinel) = x.consumers.length := by
  refine List.countP_eq_length.mpr fun c hmem => ?_
  simp [Consumer.hasSentinel, hstopped c hmem, ConsumerActivity.inHand]

/-- The drain has put as many sentinels as there are consumers when it has returned. -/
theorem sentinelsPut_of_returned (h : Fair sentinel items record x) {result : Except Failure Unit}
    (hdrain : x.drain = .returns result) : x.sentinelsPut = x.consumers.length := by
  have hlaw := h.law_of_drain hdrain
  have hsent : x.stage.sentinelsSent = x.stage.workers := by
    refine hlaw.resolve_right fun hclosed => ?_
    exact Bool.false_ne_true (h.opened.symm.trans hclosed)
  rw [sentinelsPut, hdrain, hsent, h.workers_eq]
  rfl

/-- **A fair exchange is never stuck.** -/
theorem not_stuck (h : Fair sentinel items record x) (hsome : x.consumers ≠ [])
    (hgoes : x.isOver = false) : ¬ ∀ trader, step trader x = none := by
  intro hstuck
  have hquiet := h.calls_eq_zero hstuck
  have hbalanced := h.sound.balanced
  by_cases hwaits : ∃ c ∈ x.consumers, c.activity ≠ .stopped
  · -- a consumer waits at an empty queue, so nobody waits at a full one
    obtain ⟨c, hmem, hactivity⟩ := hwaits
    obtain ⟨i, hplace⟩ := List.mem_iff_getElem?.mp hmem
    obtain ⟨htaking, hempty⟩ := (blocked_consumer hplace (hstuck _)).resolve_left hactivity
    have hnotfull : ¬ x.queue.Full := fun hfull =>
      hbalanced.not_empty_of_full hquiet hfull hempty
    have hidle : ∀ p ∈ x.producers, p.call = none := by
      intro p hp
      obtain ⟨j, hj⟩ := List.mem_iff_getElem?.mp hp
      exact (blocked_producer hj (hstuck _)).resolve_right fun hfull => hnotfull hfull.2
    rcases blocked_drainer (hstuck .drainer) with ⟨result, hdrain⟩ | ⟨p, hp, hcall⟩ | ⟨-, hfull⟩
    · -- all sentinels have been put, and taken; this consumer has one of them
      have hput := h.sentinelsPut_of_returned hdrain
      have hlive := hbalanced.live_of_open h.opened
      have hitems := h.sound.ledger.items_eq hlive
      rw [hbalanced.items_of_empty hquiet hempty, List.append_nil] at hitems
      have hcount := h.count_takes
      rw [← hitems, h.count_stores, hput] at hcount
      have hsentinel := List.countP_eq_length.mp hcount.symm c hmem
      simp [Consumer.hasSentinel, htaking, ConsumerActivity.inHand, GetCall.takenOut] at hsentinel
    · exact hcall (hidle p hp)
    · exact hnotfull hfull
  · -- all consumers have stopped, each with a sentinel, so all sentinels have been put
    have hstopped : ∀ c ∈ x.consumers, c.activity = .stopped := fun c hmem =>
      Decidable.byContradiction fun hactivity => hwaits ⟨c, hmem, hactivity⟩
    have hall := countP_of_stopped sentinel hstopped
    have hle := h.holding_le
    have hpos := List.length_pos_iff.mpr hsome
    have hbegun : (Standing.ofDrain x.drain).hasBegun = true := by
      cases hbegun : (Standing.ofDrain x.drain).hasBegun with
      | true => rfl
      | false =>
        have hzero : x.sentinelsPut = 0 := h.law.sent_eq_zero hbegun
        omega
    have hidle := h.idle hbegun
    rcases blocked_drainer (hstuck .drainer) with ⟨result, hdrain⟩ | ⟨p, hp, hcall⟩ |
      ⟨⟨later, item, hdrain⟩, -⟩
    · -- then everybody has returned
      have hover := x.isOver_iff.mpr ⟨hidle, ⟨result, hdrain⟩, hstopped⟩
      exact Bool.false_ne_true (hgoes.symm.trans hover)
    · exact hcall (hidle p hp)
    · -- the drain cannot be waiting to put one more
      have hone := (h.law_of_drain hdrain).1
      have hput : x.sentinelsPut = x.stage.sentinelsSent := by
        rw [sentinelsPut, hdrain]
        rfl
      have hworkers := h.workers_eq
      omega

end Fair

/-! ## Everybody has returned

The queue keeps the order of what is put, so the record of what was put and the record of what was
taken are one list, once the queue is empty. That it is empty follows from the sentinels: as many
have been taken as were put, and nothing is behind the last one. Split by who put and by who took,
that list says which item went where. -/

/-- What went from one thread to another: the `k`-th item that is taken is the `k`-th that was
put. -/
def itemsBetween (record : List (Trader × Section)) (giver taker : Trader) : List String :=
  (((stores record).zip (takes record)).filter fun haul =>
    haul.1.1 = giver ∧ haul.2.1 = taker).map fun haul => haul.2.2

/-- What producers of these items, their consumers and the drain leave behind. -/
structure Settled (sentinel : Sentinel) (items : List (List String)) (workers capacity : Nat)
    (record : List (Trader × Section)) (x : Exchange) : Prop where
  /-- Everything that was put has been taken, in the same order. -/
  delivered : (takes record).map Prod.snd = (stores record).map Prod.snd
  /-- Each producer has put its items, in its order. -/
  produced : ∀ (i : Nat) (own : List String), items[i]? = some own →
    itemsOf (stores record) (.producer i) = own
  signalled : itemsOf (stores record) .drainer = List.replicate workers sentinel.text
  length_consumers : x.consumers.length = workers
  /-- Each consumer has taken items, and behind them one sentinel. -/
  took : ∀ (j : Nat) (c : Consumer), x.consumers[j]? = some c →
    itemsOf (takes record) (.consumer j) = c.taken.reverse ++ [sentinel.text] ∧
      sentinel.text ∉ c.taken
  /-- The consumers together have the items of the producers, no more and no less. -/
  once : (x.consumers.flatMap fun c => c.taken.reverse).Perm items.flatten
  /-- Each item of a producer went to one of the consumers. -/
  shared : ∀ (i : Nat) (own : List String), items[i]? = some own →
    Interleaves own ((List.range workers).map fun j =>
      itemsBetween record (.producer i) (.consumer j))
  /-- Each item of a consumer came from one of the producers, or from the drain. -/
  merged : ∀ (j : Nat) (c : Consumer), x.consumers[j]? = some c →
    Interleaves (c.taken.reverse ++ [sentinel.text])
      (((List.range items.length).map Trader.producer ++ [Trader.drainer]).map fun giver =>
        itemsBetween record giver (.consumer j))
  /-- A consumer sees the items of a producer in the order of the producer. -/
  in_order : ∀ (i j : Nat) (own : List String), items[i]? = some own → j < workers →
    (itemsBetween record (.producer i) (.consumer j)).Sublist own
  count_eq : x.queue.ring.count = 0
  head_eq : x.queue.ring.head = (items.flatten.length + workers) % capacity
  tail_eq : x.queue.ring.tail = (items.flatten.length + workers) % capacity
  free_eq : x.queue.free.permits = capacity
  filled_eq : x.queue.filled.permits = 0
  drain_eq : x.drain = .returns (.ok ())
  state_eq : x.stage.state = .stopped
  sentinelsSent_eq : x.stage.sentinelsSent = workers
  workersStopped_eq : x.stage.workersStopped = workers

/-- What went from one thread to another is the same text at both ends. -/
theorem eq_of_mem_zip {entries entries' : List (Trader × String)}
    (heq : entries'.map Prod.snd = entries.map Prod.snd)
    {haul : (Trader × String) × (Trader × String)} (hmem : haul ∈ entries.zip entries') :
    haul.1.2 = haul.2.2 := by
  obtain ⟨k, hlt, rfl⟩ := List.mem_iff_getElem.mp hmem
  rw [List.length_zip, Nat.lt_min] at hlt
  rw [List.getElem_zip]
  have hk := congrArg (fun texts : List String => texts[k]?) heq
  simp only [List.getElem?_map, List.getElem?_eq_getElem hlt.1, List.getElem?_eq_getElem hlt.2,
    Option.map_some, Option.some.injEq] at hk
  exact hk.symm

namespace Fair

/-- Nobody moves once everybody has returned. -/
theorem step_of_isOver (hover : x.isOver = true) (trader : Trader) : step trader x = none := by
  obtain ⟨hproducers, ⟨result, hdrain⟩, hconsumers⟩ := x.isOver_iff.mp hover
  -- every thread is at its last place, where it has no step
  cases trader with
  | producer i =>
    simp only [step, stepProducer]
    split
    · next hplace =>
      have hnone := hproducers _ (List.mem_of_getElem? hplace)
      contradiction
    · rfl
  | drainer => simp only [step, stepDrain, hdrain]
  | consumer i =>
    simp only [step, stepConsumer]
    split
    · next hplace =>
      have hstopped := hconsumers _ (List.mem_of_getElem? hplace)
      contradiction
    · next hplace =>
      have hstopped := hconsumers _ (List.mem_of_getElem? hplace)
      contradiction
    · rfl

/-- Who has stopped has taken items and then a sentinel. -/
theorem outs_of_isOver (hover : x.isOver = true) {c : Consumer} (hmem : c ∈ x.consumers) :
    c.outs sentinel = c.taken.reverse ++ [sentinel.text] := by
  obtain ⟨-, -, hstopped⟩ := x.isOver_iff.mp hover
  rw [Consumer.outs, hstopped c hmem]
  rfl

/-- All sentinels are gone when everybody has returned, and there was nothing behind them. -/
theorem items_of_isOver (h : Fair sentinel items record x) (hsome : x.consumers ≠ [])
    (hover : x.isOver = true) : x.queue.items = [] := by
  obtain ⟨-, ⟨result, hdrain⟩, hstopped⟩ := x.isOver_iff.mp hover
  have hlive := h.sound.balanced.live_of_open h.opened
  have hitems := h.sound.ledger.items_eq hlive
  obtain ⟨front, hfront, hstored⟩ := h.ending
  have hput := h.sentinelsPut_of_returned hdrain
  have houts := h.count_takes.trans (countP_of_stopped sentinel hstopped)
  have hins := h.count_stores
  have hpos := List.length_pos_iff.mpr hsome
  have htaken : sentinel.text ∈ (takes record).map Prod.snd :=
    List.count_pos_iff.mp (houts ▸ hpos)
  have hnone : sentinel.text ∉ x.queue.items := by
    rw [hitems, List.count_append, houts, hput] at hins
    exact List.count_eq_zero.mp (by omega)
  refine List.eq_nil_iff_forall_not_mem.mpr fun item hitem => hnone ?_
  rw [← eq_of_mem_behind (hitems.symm.trans hstored) hfront htaken hitem]
  exact hitem

/-- When it is through, a producer has put all of its items. -/
theorem produced (h : Fair sentinel items record x) (hover : x.isOver = true) {i : Nat}
    {own : List String} (hown : items[i]? = some own) :
    itemsOf (stores record) (.producer i) = own := by
  obtain ⟨hproducers, -, -⟩ := x.isOver_iff.mp hover
  have hlt : i < x.producers.length :=
    h.length_producers.symm ▸ (List.getElem?_eq_some_iff.mp hown).1
  have hplace := List.getElem?_eq_getElem hlt
  have hmem := List.getElem_mem hlt
  have hleft : x.producers[i].left = [] := by
    rw [Producer.left, hproducers _ hmem, h.spent _ hmem (hproducers _ hmem)]
    rfl
  have hsplit := h.producing i _ own hplace hown
  rw [hleft, List.append_nil] at hsplit
  exact hsplit.symm

theorem map_produced (h : Fair sentinel items record x) (hover : x.isOver = true) :
    (List.range items.length).map (fun i => itemsOf (stores record) (.producer i)) = items := by
  refine List.ext_getElem (by simp) fun i hi hlt => ?_
  rw [List.getElem_map, List.getElem_range]
  exact h.produced hover (List.getElem?_eq_getElem hlt)

/-- Every item was dealt with once: the sentinels are left out on both sides, and what remains on
one side is what the consumers took, on the other what the producers put. -/
theorem once (h : Fair sentinel items record x) (hover : x.isOver = true)
    (hdelivered : (takes record).map Prod.snd = (stores record).map Prod.snd) :
    (x.consumers.flatMap fun c => c.taken.reverse).Perm items.flatten := by
  -- without the sentinels, one side is what was taken and the other one what was put
  let isItem : String → Bool := fun item => item ≠ sentinel.text
  have htaken : (x.consumers.map (Consumer.outs sentinel)).flatten.filter isItem =
      x.consumers.flatMap fun c => c.taken.reverse := by
    rw [List.filter_flatten, List.map_map, List.flatMap_def]
    refine congrArg List.flatten (List.map_congr_left fun c hmem => ?_)
    obtain ⟨j, hplace⟩ := List.mem_iff_getElem?.mp hmem
    have hnone := (h.consuming j c hplace).2
    have hkeep : c.taken.reverse.filter isItem = c.taken.reverse :=
      List.filter_eq_self.mpr fun item hitem => decide_eq_true fun heq =>
        hnone (heq ▸ List.mem_reverse.mp hitem)
    rw [Function.comp_apply, outs_of_isOver hover hmem, List.filter_append, hkeep]
    simp [isItem]
  have hput : (items ++ [List.replicate x.sentinelsPut sentinel.text]).flatten.filter isItem =
      items.flatten := by
    have hkeep : items.flatten.filter isItem = items.flatten := by
      refine List.filter_eq_self.mpr fun item hitem => decide_eq_true fun heq => ?_
      obtain ⟨own, hown, hmem⟩ := List.mem_flatten.mp hitem
      exact h.unmarked own hown (heq ▸ hmem)
    rw [List.flatten_append, List.filter_append, hkeep]
    simp [isItem]
  -- both are the record without its sentinels, taken in another order
  have houts := h.takes_interleaves.perm
  have hins := h.stores_interleaves.perm
  rw [h.map_produced hover] at hins
  rw [hdelivered] at houts
  have hperm := (houts.symm.trans hins).filter isItem
  rwa [htaken, hput] at hperm

/-- Each item that a thread put was taken by one of the consumers. -/
theorem shared (h : Fair sentinel items record x)
    (hdelivered : (takes record).map Prod.snd = (stores record).map Prod.snd) (giver : Trader) :
    Interleaves (itemsOf (stores record) giver)
      ((List.range x.consumers.length).map fun j => itemsBetween record giver (.consumer j)) := by
  have hlength : (takes record).length = (stores record).length := by
    simpa using congrArg List.length hdelivered
  -- of everything that went from somebody to somebody, what this thread gave
  let given := ((stores record).zip (takes record)).filter fun haul => haul.1.1 = giver
  have hwhole : (given.map Prod.snd).map Prod.snd = itemsOf (stores record) giver := by
    conv => rhs; rw [← List.map_fst_zip (Nat.le_of_eq hlength.symm), itemsOf, List.filter_map]
    rw [List.map_map, List.map_map]
    refine List.map_congr_left fun haul hmem => ?_
    exact (eq_of_mem_zip hdelivered (List.mem_filter.mp hmem).1).symm
  have hsplit := interleaves_itemsOf (nodup_consumers _) (given.map Prod.snd) (fun entry hmem => by
    obtain ⟨haul, hhaul, rfl⟩ := List.mem_map.mp hmem
    have hentry := (List.of_mem_zip (List.mem_filter.mp hhaul).1).2
    obtain ⟨j, hlt, heq⟩ := h.takers _ hentry
    exact List.mem_map.mpr ⟨j, List.mem_range.mpr hlt, heq.symm⟩)
  rw [hwhole, List.map_map] at hsplit
  have hparts : itemsOf (given.map Prod.snd) ∘ Trader.consumer =
      fun j => itemsBetween record giver (.consumer j) := by
    funext j
    simp [itemsOf, itemsBetween, given, List.filter_map, List.filter_filter, Function.comp_def,
      Bool.and_comm]
  rwa [hparts] at hsplit

/-- Each item that a thread took was put by one of the producers or by the drain. -/
theorem merged (h : Fair sentinel items record x)
    (hdelivered : (takes record).map Prod.snd = (stores record).map Prod.snd) (taker : Trader) :
    Interleaves (itemsOf (takes record) taker)
      (((List.range items.length).map Trader.producer ++ [Trader.drainer]).map fun giver =>
        itemsBetween record giver taker) := by
  have hlength : (takes record).length = (stores record).length := by
    simpa using congrArg List.length hdelivered
  let got := ((stores record).zip (takes record)).filter fun haul => haul.2.1 = taker
  have hwhole : (got.map fun haul => (haul.1.1, haul.2.2)).map Prod.snd =
      itemsOf (takes record) taker := by
    conv => rhs; rw [← List.map_snd_zip (Nat.le_of_eq hlength), itemsOf, List.filter_map]
    rw [List.map_map, List.map_map]
    rfl
  have hsplit := interleaves_itemsOf (nodup_givers _) (got.map fun haul => (haul.1.1, haul.2.2))
    (fun entry hmem => by
      obtain ⟨haul, hhaul, rfl⟩ := List.mem_map.mp hmem
      have hentry := (List.of_mem_zip (List.mem_filter.mp hhaul).1).1
      rcases h.putters _ hentry with heq | ⟨i, hlt, heq⟩
      · exact List.mem_append_right _ (List.mem_singleton.mpr heq)
      · exact List.mem_append_left _ (List.mem_map.mpr ⟨i, List.mem_range.mpr hlt, heq.symm⟩))
  have hparts : itemsOf (got.map fun haul => (haul.1.1, haul.2.2)) =
      fun giver => itemsBetween record giver taker := by
    funext giver
    simp [itemsOf, itemsBetween, got, List.filter_map, List.filter_filter, Function.comp_def]
  rwa [hwhole, hparts] at hsplit

/-- **What is left behind** when everybody has returned. -/
theorem settled (h : Fair sentinel items record x) (hsome : x.consumers ≠ [])
    (hover : x.isOver = true) :
    Settled sentinel items x.consumers.length x.queue.capacity record x := by
  obtain ⟨-, ⟨result, hdrain⟩, hstopped⟩ := x.isOver_iff.mp hover
  have hbalanced := h.sound.balanced
  have hlive := hbalanced.live_of_open h.opened
  have hquiet := h.calls_eq_zero (step_of_isOver hover)
  have hempty := h.items_of_isOver hsome hover
  have hdelivered : (takes record).map Prod.snd = (stores record).map Prod.snd := by
    rw [h.sound.ledger.items_eq hlive, hempty, List.append_nil]
  have hput := h.sentinelsPut_of_returned hdrain
  have hsent : x.stage.sentinelsSent = x.consumers.length := by
    rw [← hput, sentinelsPut, hdrain]
    rfl
  have hallStopped : x.stage.workersStopped = x.consumers.length := by
    rw [h.stopped_eq]
    exact List.countP_eq_length.mpr fun c hmem => decide_eq_true (hstopped c hmem)
  -- an empty ring: all slots are free again
  have hcount : x.queue.ring.count = 0 := by
    have hlength := congrArg List.length hempty
    rwa [Queue.items, Ring.length_items] at hlength
  have hfilled : x.queue.filled.permits = 0 := by
    have hlevel := hbalanced.count_eq h.opened
    omega
  have hpermits := hbalanced.permits_eq h.opened
  simp only [hquiet, hfilled, Nat.add_zero] at hpermits
  -- the head has gone on once for each item and for each sentinel
  have hlength : (takes record).length = items.flatten.length + x.consumers.length := by
    have hins := h.stores_interleaves.perm.length_eq
    rw [h.map_produced hover, hput, ← hdelivered] at hins
    simpa using hins
  have hhead := h.head_eq
  rw [hlength] at hhead
  have hshared := fun (i : Nat) (own : List String) (hown : items[i]? = some own) => by
    have hparts := h.shared hdelivered (.producer i)
    rwa [h.produced hover hown] at hparts
  exact
    { delivered := hdelivered
      produced := fun i own hown => h.produced hover hown
      signalled := hput ▸ h.drained
      length_consumers := rfl
      took := fun j c hplace => by
        obtain ⟨htaken, hnone⟩ := h.consuming j c hplace
        rw [htaken, outs_of_isOver hover (List.mem_of_getElem? hplace)]
        exact ⟨rfl, hnone⟩
      once := h.once hover hdelivered
      shared := hshared
      merged := fun j c hplace => by
        rw [← outs_of_isOver hover (List.mem_of_getElem? hplace), ← (h.consuming j c hplace).1]
        exact h.merged hdelivered (.consumer j)
      in_order := fun i j own hown hlt =>
        (hshared i own hown).sublist (List.mem_map.mpr ⟨j, List.mem_range.mpr hlt, rfl⟩)
      count_eq := hcount
      head_eq := hhead
      tail_eq := by
        rw [(hbalanced.wellFormed hlive).tail_eq, hcount, Nat.add_zero, hhead, Nat.mod_mod]
      free_eq := hpermits
      filled_eq := hfilled
      drain_eq := h.went_well result hdrain ▸ hdrain
      state_eq := by
        rw [h.state_eq, hdrain]
        simp [stateAfter, Standing.ofDrain, Standing.hasBegun, hallStopped, h.workers_eq]
      sentinelsSent_eq := hsent
      workersStopped_eq := hallStopped }

end Fair

/-- **An exchange is served and stopped**, whatever the interleaving: until everybody has returned
somebody can move, and when everybody has, everything is settled. -/
theorem serves_of_traces {name stageName : String} {capacity slotLength workers : Nat}
    {now : Exchange} (hpos : 0 < capacity) (hworkers : 0 < workers)
    (hsentinel : sentinel.text.utf8ByteSize ≤ slotLength - 1)
    (hfits : ∀ own ∈ items, ∀ item ∈ own, item.utf8ByteSize ≤ slotLength - 1)
    (hunmarked : ∀ own ∈ items, sentinel.text ∉ own)
    (htrace : Traces step deals
      (start sentinel (Queue.ofGeometry name capacity slotLength) stageName items workers) record
      now) :
    (now.isOver = false → ∃ trader ∈ now.traders, (step trader now).isSome = true) ∧
      (now.isOver = true → Settled sentinel items workers capacity record now) := by
  obtain ⟨hfair, hcapacity, hlength⟩ : Fair sentinel items record now ∧
      now.queue.capacity = capacity ∧ now.consumers.length = workers := by
    have hstart : Fair sentinel items []
        (start sentinel (Queue.ofGeometry name capacity slotLength) stageName items workers) :=
      fair_start hpos hsentinel hfits hunmarked
    refine htrace.invariant (P := fun record mid => Fair sentinel items record mid ∧
      mid.queue.capacity = capacity ∧ mid.consumers.length = workers)
      ⟨hstart, rfl, List.length_replicate⟩ ?_
    rintro trader record mid next ⟨hfair, hcapacity, hlength⟩ hstep
    have hmove := moves_of_step hstep
    exact ⟨hfair.move hmove, hmove.turn.geometry.2.1.trans hcapacity,
      hmove.length_consumers.trans hlength⟩
  have hsome : now.consumers ≠ [] := List.length_pos_iff.mp (hlength ▸ hworkers)
  refine ⟨fun hgoes => ?_, fun hover => ?_⟩
  · obtain ⟨trader, htrader⟩ := Classical.not_forall.mp (hfair.not_stuck hsome hgoes)
    obtain ⟨next, hnext⟩ := Option.ne_none_iff_exists'.mp htrader
    exact ⟨trader, (moves_of_step hnext).mem_traders, hnext ▸ rfl⟩
  · have hsettled := hfair.settled hsome hover
    rwa [hcapacity, hlength] at hsettled

/-- Two producers and two consumers share a queue with one slot. -/
theorem serves_of_traces_two_each :
    let start := start .standard (Queue.ofGeometry "hosts" 1 16) "resolver" [["a", "b"], ["c"]] 2
    ∃ record, Traces step deals start record start.run ∧ start.run.isOver = true ∧
      Settled .standard [["a", "b"], ["c"]] 2 1 record start.run := by
  intro start
  obtain ⟨record, htrace⟩ := (Schedule.reaches_run step start.traders isOver _ .refl).traces deals
  have hover : start.run.isOver = true := by decide +kernel
  exact ⟨record, htrace, hover,
    (serves_of_traces (by decide) (by decide) (by decide) (by decide) (by decide) htrace).2 hover⟩

end Exchange

end HostLookup
