import HostLookup.Schedule
import HostLookup.Stage.Drain

/-!
# Producers and consumers around one queue

The protocol of a stage on its own: producers put their items into a queue, each in its own order;
once all of them have returned, the stage is drained; each consumer takes items until it meets a
sentinel, and then says that it stopped. `Exchange.step` is one step of any of them.
-/

namespace HostLookup

/-- A thread that puts items into the queue. -/
structure Producer where
  /-- The items after the one that is being put. -/
  later : List String
  /-- The `put` that is going on, or `none` when the producer has returned. -/
  call : Option PutCall
  deriving DecidableEq, Repr

namespace Producer

/-- A producer that goes on to the next of these items. -/
def ofItems : List String → Producer
  | [] => { later := [], call := none }
  | item :: later => { later := later, call := some (.entering item) }

end Producer

/-- What a consumer is about to do. -/
inductive ConsumerActivity where
  | taking (call : GetCall)
  /-- Has taken its sentinel and is about to say so. -/
  | acknowledging
  | stopped
  deriving DecidableEq, Repr

/-- A thread that takes items until it meets a sentinel. -/
structure Consumer where
  activity : ConsumerActivity := .taking .entering
  /-- What was taken, last item first, without the sentinel. -/
  taken : List String := []
  deriving DecidableEq, Repr

/-- The threads around the queue. -/
inductive Trader where
  | producer (i : Nat)
  | drainer
  | consumer (i : Nat)
  deriving DecidableEq, Repr

/-- Producers, consumers and what they share. -/
structure Exchange where
  sentinel : Sentinel
  queue : Queue
  stage : Shutdown
  producers : List Producer
  drain : Progress DrainCall (Except Failure Unit) := .goesOn .claiming
  consumers : List Consumer
  deriving Repr

namespace Exchange

/-- Producers with their items and so many consumers, none of which has moved yet. -/
def start (sentinel : Sentinel) (queue : Queue) (stageName : String) (items : List (List String))
    (consumers : Nat) : Exchange where
  sentinel := sentinel
  queue := queue
  stage := Shutdown.start stageName consumers
  producers := items.map Producer.ofItems
  consumers := List.replicate consumers {}

/-- A producer goes on to its next item when the last `put` succeeded, and gives up otherwise. -/
def stepProducer (x : Exchange) (i : Nat) : Option Exchange :=
  match x.producers[i]? with
  | some { later := later, call := some call } =>
    match call.step x.queue with
    | none => none
    | some (progress, queue) =>
      let producer : Producer :=
        match progress with
        | .goesOn call => { later := later, call := some call }
        | .returns (.ok ()) => Producer.ofItems later
        | .returns (.error _) => { later := later, call := none }
      some { x with queue := queue, producers := x.producers.set i producer }
  | _ => none

/-- The drain starts when no producer is at work any more. -/
def stepDrain (x : Exchange) : Option Exchange :=
  match x.drain with
  | .returns _ => none
  | .goesOn call =>
    if x.producers.any fun producer => producer.call.isSome then none
    else
      match call.step x.sentinel x.stage x.stage x.queue with
      | none => none
      | some (drain, stage, queue) => some { x with drain := drain, stage := stage, queue := queue }

/-- A consumer takes items up to its sentinel; at a closed queue it gives up. -/
def stepConsumer (x : Exchange) (i : Nat) : Option Exchange :=
  match x.consumers[i]? with
  | some { activity := .taking call, taken := taken } =>
    match call.step x.queue with
    | none => none
    | some (progress, queue) =>
      let consumer : Consumer :=
        match progress with
        | .goesOn call => { activity := .taking call, taken := taken }
        | .returns (.error _) => { activity := .stopped, taken := taken }
        | .returns (.ok item) =>
          if x.sentinel.marks item then { activity := .acknowledging, taken := taken }
          else { activity := .taking .entering, taken := item :: taken }
      some { x with queue := queue, consumers := x.consumers.set i consumer }
  | some { activity := .acknowledging, taken := taken } =>
    some
      { x with
        stage := x.stage.workerStopped
        consumers := x.consumers.set i { activity := .stopped, taken := taken } }
  | _ => none

/-- One step of any of the threads. -/
def step : Trader → Exchange → Option Exchange
  | .producer i, x => x.stepProducer i
  | .drainer, x => x.stepDrain
  | .consumer i, x => x.stepConsumer i

/-- All threads of an exchange. -/
def traders (x : Exchange) : List Trader :=
  (List.range x.producers.length).map .producer ++
    .drainer :: (List.range x.consumers.length).map .consumer

/-- Has everybody returned? -/
def isOver (x : Exchange) : Bool :=
  (x.producers.all fun producer => producer.call.isNone) &&
    (x.drain matches .returns _) &&
    x.consumers.all fun consumer => consumer.activity = .stopped

/-- The steps that suffice for all items and sentinels: each is put, taken and counted. -/
def stepsFor (items consumers : Nat) : Nat :=
  6 * items + 12 * consumers + 4

/-- Runs an exchange in which the threads take turns. -/
def run (x : Exchange) : Exchange :=
  let items := x.producers.foldr (fun producer items => producer.later.length + 1 + items) 0
  Schedule.run step x.traders isOver (stepsFor items x.consumers.length) x

end Exchange

end HostLookup
