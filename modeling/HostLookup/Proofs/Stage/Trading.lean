import HostLookup.Proofs.Stage.Drain
import HostLookup.Proofs.Traces
import HostLookup.Stage.Exchange

/-!
# Producers and consumers, step by step

The threads of an exchange share one queue. `Exchange.Moves` has one rule for each kind of step, and
to the queue every step is a turn of the call that its thread is inside of:

* **`Exchange.Moves.turn`**, **`Exchange.Moves.shift`**: a step is a turn, and it changes the number
  of calls by phase as its own thread changes phase.
* **`Exchange.Sound`**: the queue is balanced, and its ledger is what the threads have put and taken
  so far. Every step keeps it (**`Exchange.Sound.move`**).
-/

namespace HostLookup

/-! ## Threads after a step

The step functions of an exchange update a thread according to how its call goes on. These updates
are named here, so that a rule can say what becomes of the thread without repeating the step
function. -/

/-- A producer after a step of its `put`. -/
def Producer.after (later : List String) : Progress PutCall (Except QueueError Unit) → Producer
  | .goesOn call => { later := later, call := some call }
  | .returns (.ok ()) => ofItems later
  | .returns (.error _) => { later := later, call := none }

/-- A consumer after a step of its `get`. -/
def Consumer.after (sentinel : Sentinel) (taken : List String) :
    Progress GetCall (Except QueueError String) → Consumer
  | .goesOn call => { activity := .taking call, taken := taken }
  | .returns (.error _) => { activity := .stopped, taken := taken }
  | .returns (.ok item) =>
    if sentinel.marks item then { activity := .acknowledging, taken := taken }
    else { activity := .taking .entering, taken := item :: taken }

/-- The `get` that a consumer is inside of. -/
def ConsumerActivity.call? : ConsumerActivity → Option Call
  | .taking call => some (.get call)
  | .acknowledging | .stopped => none

/-- The `put` that the drain is inside of, if it is going on. -/
def Progress.drainCall : Progress DrainCall (Except Failure Unit) → Option Call
  | .goesOn call => call.putCall
  | .returns _ => none

namespace Exchange

variable {x x' : Exchange} {trader : Trader}

/-- The steps of the threads. -/
inductive Moves (x : Exchange) : Trader → Exchange → Prop where
  | put {i : Nat} {later : List String} {call : PutCall}
      {progress : Progress PutCall (Except QueueError Unit)} {queue : Queue}
      (hplace : x.producers[i]? = some { later := later, call := some call })
      (hstep : call.step x.queue = some (progress, queue)) :
      Moves x (.producer i)
        { x with queue := queue, producers := x.producers.set i (.after later progress) }
  | drain {call : DrainCall} {progress : Progress DrainCall (Except Failure Unit)}
      {stage : Shutdown} {queue : Queue} (hdrain : x.drain = .goesOn call)
      (hidle : ∀ p ∈ x.producers, p.call = none)
      (hmove : DrainCall.Moves x.sentinel x.stage x.stage x.queue call progress stage queue) :
      Moves x .drainer { x with drain := progress, stage := stage, queue := queue }
  | take {i : Nat} {taken : List String} {call : GetCall}
      {progress : Progress GetCall (Except QueueError String)} {queue : Queue}
      (hplace : x.consumers[i]? = some { activity := .taking call, taken := taken })
      (hstep : call.step x.queue = some (progress, queue)) :
      Moves x (.consumer i)
        { x with queue := queue, consumers := x.consumers.set i (.after x.sentinel taken progress) }
  | acknowledge {i : Nat} {taken : List String}
      (hplace : x.consumers[i]? = some { activity := .acknowledging, taken := taken }) :
      Moves x (.consumer i)
        { x with
          stage := x.stage.workerStopped
          consumers := x.consumers.set i { activity := .stopped, taken := taken } }

/-- **What a step of an exchange can do.** -/
theorem moves_of_step (hstep : step trader x = some x') : Moves x trader x' := by
  cases trader with
  | producer i =>
    simp only [step, stepProducer] at hstep
    split at hstep
    · next later call hplace =>
      split at hstep
      · contradiction
      · next progress queue hput =>
        -- how the `put` goes on decides what becomes of the producer
        obtain rfl := Option.some.inj hstep
        have hmove := Moves.put hplace hput
        rcases progress with call' | (error | ⟨⟨⟩⟩) <;> exact hmove
    · contradiction
  | drainer =>
    simp only [step, stepDrain] at hstep
    split at hstep
    · contradiction
    · next call hdrain =>
      split at hstep
      · contradiction
      · next hidle =>
        split at hstep
        · contradiction
        · next hcall =>
          obtain rfl := Option.some.inj hstep
          refine .drain hdrain (fun p hmem => ?_) (DrainCall.moves_of_step hcall)
          simp only [Bool.not_eq_true, List.any_eq_false] at hidle
          simpa using hidle p hmem
  | consumer i =>
    simp only [step, stepConsumer] at hstep
    split at hstep
    · next call taken hplace =>
      split at hstep
      · contradiction
      · next progress queue hget =>
        obtain rfl := Option.some.inj hstep
        have hmove := Moves.take hplace hget
        rcases progress with call' | (error | item) <;> exact hmove
    · next taken hplace =>
      obtain rfl := Option.some.inj hstep
      exact .acknowledge hplace
    · contradiction

/-! ## The calls of the threads

A thread is inside of one call at most: a producer of a `put`, a consumer of a `get`, and the drain
of the `put` of a sentinel. A consumer that acknowledges a sentinel is inside of none. To the queue
there is no difference between the drain and a producer. -/

/-- The call that a thread is inside of. -/
def callOn (x : Exchange) : Trader → Option Call
  | .producer i => x.producers[i]?.bind fun p => p.call.map .put
  | .drainer => x.drain.drainCall
  | .consumer i => x.consumers[i]?.bind fun c => c.activity.call?

/-- A producer that has not returned is inside of its `put`. -/
theorem callOn_producer {i : Nat} {later : List String} {call : PutCall}
    (hplace : x.producers[i]? = some { later := later, call := some call }) :
    x.callOn (.producer i) = some (.put call) := by
  simp [callOn, hplace]

/-- A consumer that waits for an item is inside of its `get`. -/
theorem callOn_taking {i : Nat} {taken : List String} {call : GetCall}
    (hplace : x.consumers[i]? = some { activity := .taking call, taken := taken }) :
    x.callOn (.consumer i) = some (.get call) := by
  simp [callOn, hplace, ConsumerActivity.call?]

theorem callOn_acknowledging {i : Nat} {taken : List String}
    (hplace : x.consumers[i]? = some { activity := .acknowledging, taken := taken }) :
    x.callOn (.consumer i) = none := by
  simp [callOn, hplace, ConsumerActivity.call?]

/-- The number of calls in a phase. -/
def calls (x : Exchange) (p : Phase) : Nat :=
  x.traders.countP fun trader => (x.callOn trader).bind Call.phase? = some p

/-- A drain is in a phase of a `put`, or in none. -/
theorem phase?_drainCall (progress : Progress DrainCall (Except Failure Unit)) :
    progress.drainCall.bind Call.phase? =
      progress.phase? fun call => call.putCall.bind Call.phase? := by
  cases progress <;> rfl

/-- **A step is a turn of the queue**, of the call of the thread that makes it. -/
theorem Moves.turn (h : Moves x trader x') :
    x.queue.Turn (x.callOn trader) ((x'.callOn trader).bind Call.phase?) x'.queue := by
  cases h with
  | @put i later call progress queue hplace hstep =>
    have hlt := (List.getElem?_eq_some_iff.mp hplace).1
    -- a `put` that has returned leaves the producer without a call, or at the beginning of the next
    have hafter : ((Producer.after later progress).call.map Call.put).bind Call.phase? =
        progress.phase? PutCall.phase? := by
      rcases progress with call' | (error | ⟨⟨⟩⟩)
      · rfl
      · rfl
      · cases later <;> rfl
    have hturn := Queue.Turn.of_put hstep
    rw [callOn_producer hplace]
    simp only [callOn, List.getElem?_set_self hlt, Option.bind_some]
    exact hafter ▸ hturn
  | @drain call progress stage queue hdrain hidle hmove =>
    have hturn := hmove.turn
    simp only [callOn, hdrain, phase?_drainCall]
    exact hturn
  | @take i taken call progress queue hplace hstep =>
    have hlt := (List.getElem?_eq_some_iff.mp hplace).1
    -- a `get` that has returned leaves the consumer in no phase, whatever it goes on to
    have hafter : (Consumer.after x.sentinel taken progress).activity.call?.bind Call.phase? =
        progress.phase? GetCall.phase? := by
      rcases progress with call' | (error | item)
      · rfl
      · rfl
      · simp only [Consumer.after]
        split <;> rfl
    have hturn := Queue.Turn.of_get hstep
    rw [callOn_taking hplace]
    simp only [callOn, List.getElem?_set_self hlt, Option.bind_some]
    exact hafter ▸ hturn
  | @acknowledge i taken hplace =>
    have hlt := (List.getElem?_eq_some_iff.mp hplace).1
    have hafter : (callOn { x with
        stage := x.stage.workerStopped
        consumers := x.consumers.set i { activity := .stopped, taken := taken } }
        (.consumer i)).bind Call.phase? = none := by
      simp [callOn, List.getElem?_set_self hlt, ConsumerActivity.call?]
    rw [hafter, callOn_acknowledging hplace]
    exact .idle rfl

/-- Whoever makes no step stays in its call. -/
theorem Moves.callOn_of_ne (h : Moves x trader x') {other : Trader} (hne : other ≠ trader) :
    x'.callOn other = x.callOn other := by
  cases h with
  | @put i =>
    cases other with
    | producer j =>
      have hij : i ≠ j := fun heq => hne (heq ▸ rfl)
      simp [callOn, List.getElem?_set_ne hij]
    | drainer | consumer => rfl
  | drain =>
    cases other with
    | drainer => exact absurd rfl hne
    | producer | consumer => rfl
  | @take i | @acknowledge i =>
    cases other with
    | consumer j =>
      have hij : i ≠ j := fun heq => hne (heq ▸ rfl)
      simp [callOn, List.getElem?_set_ne hij]
    | drainer | producer => rfl

theorem Moves.length_producers (h : Moves x trader x') :
    x'.producers.length = x.producers.length := by
  cases h <;> simp

theorem Moves.length_consumers (h : Moves x trader x') :
    x'.consumers.length = x.consumers.length := by
  cases h <;> simp

/-- No thread comes or goes. -/
theorem Moves.traders_eq (h : Moves x trader x') : x'.traders = x.traders := by
  rw [traders, traders, h.length_producers, h.length_consumers]

theorem nodup_producers (n : Nat) : ((List.range n).map Trader.producer).Nodup :=
  List.pairwise_map.mpr (List.nodup_range.imp fun hne heq => hne (Trader.producer.inj heq))

theorem nodup_givers (n : Nat) :
    ((List.range n).map Trader.producer ++ [Trader.drainer]).Nodup := by
  simp [List.nodup_append, nodup_producers]

theorem nodup_consumers (n : Nat) : ((List.range n).map Trader.consumer).Nodup :=
  List.pairwise_map.mpr (List.nodup_range.imp fun hne heq => hne (Trader.consumer.inj heq))

/-- No thread is listed twice: the three kinds are apart, and so are the places of each kind. -/
theorem nodup_traders (x : Exchange) : x.traders.Nodup := by
  simp [traders, List.nodup_append, nodup_producers, nodup_consumers]

/-- Whoever makes a step is listed. -/
theorem Moves.mem_traders (h : Moves x trader x') : trader ∈ x.traders := by
  cases h with
  | put hplace => simpa [traders] using (List.getElem?_eq_some_iff.mp hplace).1
  | drain => simp [traders]
  | take hplace | acknowledge hplace =>
    simpa [traders] using (List.getElem?_eq_some_iff.mp hplace).1

/-- **The numbers of calls by phase** change as one thread changes its phase. -/
theorem Moves.shift (h : Moves x trader x') :
    Phase.Shift ((x.callOn trader).bind Call.phase?) ((x'.callOn trader).bind Call.phase?) x.calls
      x'.calls := by
  have hshift := Phase.Shift.of_update (fun t => (x.callOn t).bind Call.phase?)
    (fun t => (x'.callOn t).bind Call.phase?) x.nodup_traders h.mem_traders fun other hne => by
      rw [h.callOn_of_ne hne]
  intro p
  rw [calls, calls, h.traders_eq]
  exact hshift p

/-! ## What was put and taken

The record of an exchange keeps every section of the ring that somebody has run, with the name of
the thread. What went in and what came out is read off it, in total or by thread. -/

/-- The sections of the ring that a thread runs with its next step. -/
def deals (trader : Trader) (x : Exchange) : List (Trader × Section) :=
  (((x.callOn trader).bind (Call.section? x.queue)).map fun part => (trader, part)).toList

/-- What was put into the queue, and by whom. -/
def stores (record : List (Trader × Section)) : List (Trader × String) :=
  record.filterMap fun entry => entry.2.stored?.map fun item => (entry.1, item)

/-- What was taken out of it, and by whom. -/
def takes (record : List (Trader × Section)) : List (Trader × String) :=
  record.filterMap fun entry => entry.2.taken?.map fun item => (entry.1, item)

/-- The items of one owner. -/
def itemsOf (entries : List (Trader × String)) (owner : Trader) : List String :=
  (entries.filter fun entry => entry.1 = owner).map Prod.snd

/-- What was put on the whole is what was put before and what was put after. -/
theorem stores_append (record more : List (Trader × Section)) :
    stores (record ++ more) = stores record ++ stores more :=
  List.filterMap_append

theorem takes_append (record more : List (Trader × Section)) :
    takes (record ++ more) = takes record ++ takes more :=
  List.filterMap_append

theorem itemsOf_append (entries more : List (Trader × String)) (owner : Trader) :
    itemsOf (entries ++ more) owner = itemsOf entries owner ++ itemsOf more owner := by
  simp [itemsOf]

/-- What a step adds to the items that were put. -/
theorem stores_deals (x : Exchange) (trader : Trader) :
    stores (deals trader x) =
      (x.queue.stored (x.callOn trader)).map fun item => (trader, item) := by
  unfold deals Queue.stored
  cases (x.callOn trader).bind (Call.section? x.queue) with
  | none => rfl
  | some part => cases part <;> rfl

/-- What a step adds to the items that were taken. -/
theorem takes_deals (x : Exchange) (trader : Trader) :
    takes (deals trader x) = (x.queue.taken (x.callOn trader)).map fun item => (trader, item) := by
  unfold deals Queue.taken
  cases (x.callOn trader).bind (Call.section? x.queue) with
  | none => rfl
  | some part => cases part <;> rfl

/-- Items of one owner are all of its own and nobody else's. -/
theorem itemsOf_tagged (trader owner : Trader) (items : List String) :
    itemsOf (items.map fun item => (trader, item)) owner =
      if trader = owner then items else [] := by
  unfold itemsOf
  split
  · next heq => simp [List.filter_map, Function.comp_def, heq]
  · next hne => simp [List.filter_map, Function.comp_def, hne]

/-- The queue is balanced, and the record is its ledger. -/
structure Sound (record : List (Trader × Section)) (x : Exchange) : Prop where
  balanced : x.queue.Balanced x.calls
  ledger : x.queue.Ledger ((stores record).map Prod.snd) ((takes record).map Prod.snd)

/-- **Every step keeps the books**: the laws of a turn are those of the queue alone. -/
theorem Sound.move {record : List (Trader × Section)} (h : Sound record x)
    (hmove : Moves x trader x') : Sound (record ++ deals trader x) x' where
  balanced := h.balanced.turn hmove.turn hmove.shift
  ledger := by
    have hledger := h.ledger.turn h.balanced hmove.turn hmove.shift
    rw [stores_append, takes_append, stores_deals, takes_deals, List.map_append, List.map_append,
      List.map_map, List.map_map]
    simpa [Function.comp_def] using hledger

end Exchange

end HostLookup
