import HostLookup.Queue.Call

/-!
# A crowd of callers

How callers of a queue wait and are woken. Each counter of permits is a turnstile with a condition
variable of its own:

* a caller that finds no permit parks at the turnstile, in the same moment in which it gives up the
  turnstile's lock;
* a call that has released a permit wakes one caller that is parked there, if there is one. It does
  so after it has given up the lock, so another caller may have taken the permit in between;
* a call that has closed a turnstile wakes everyone who is parked there;
* a woken caller asks for its permit again and may have to park again. It may also wake without
  reason (`Crowd.rouse`).

A caller that shows the state of the queue holds the ring while it reads the two counters, so the
others cannot enter the ring meanwhile.

`Crowd.settle` lets everybody move until nobody can.
-/

namespace HostLookup

/-- The two counters of permits of a queue, as places where callers park. -/
inductive Turnstile where
  | free
  | filled
  deriving DecidableEq, Repr

/-- Where a call that shows the state stands. -/
inductive ShowCall where
  /-- About to take hold of the ring. -/
  | entering
  /-- Holds the ring; about to read the permits for free slots. -/
  | readingFree
  /-- Holds the ring; about to read the permits for filled slots. -/
  | readingFilled (freePermits : Nat)
  deriving DecidableEq, Repr

/-- Any call of a queue. -/
inductive Call where
  | put (call : PutCall)
  | get (call : GetCall)
  | close (call : CloseCall)
  | destroy (call : DestroyCall)
  | count
  | display (call : ShowCall)
  deriving DecidableEq, Repr

/-- What a call of a queue returns. -/
inductive Answer where
  | put (result : Except QueueError Unit)
  | get (result : Except QueueError String)
  | close (first : Bool)
  | destroy (result : Except QueueError Unit)
  | count (items : Nat)
  | display (record : Text.Record)
  deriving DecidableEq

namespace Call

/-- Does the next step need the ring for itself? -/
def entersRing : Call → Bool
  | .put (.admitted _) | .get .admitted => true
  | .close .marking | .destroy (.closing .marking) | .destroy .releasing => true
  | .count | .display .entering => true
  | _ => false

/-- Does the caller hold the ring between its steps? -/
def holdsRing : Call → Bool
  | .display .readingFree | .display (.readingFilled _) => true
  | _ => false

/-- The turnstile at which a call that has to wait parks. -/
def turnstile : Call → Turnstile
  | .get _ => .filled
  | _ => .free

/-- The wake-up that the next step owes: at which turnstile, and whether to everyone there. -/
def wakes : Call → Option (Turnstile × Bool)
  | .put .stored => some (.filled, false)
  | .get (.taken _) => some (.free, false)
  | .close .closingFree | .destroy (.closing .closingFree) => some (.free, true)
  | .close .closingFilled | .destroy (.closing .closingFilled) => some (.filled, true)
  | _ => none

/-- The next step of a call. -/
def step (q : Queue) : Call → Option (Progress Call Answer × Queue)
  | .put call => (call.step q).map fun r => (r.1.map .put .put, r.2)
  | .get call => (call.step q).map fun r => (r.1.map .get .get, r.2)
  | .close call => some ((call.step q).1.map .close .close, (call.step q).2)
  | .destroy call => some ((call.step q).1.map .destroy .destroy, (call.step q).2)
  | .count => some (.returns (.count q.count), q)
  | .display .entering => some (.goesOn (.display .readingFree), q)
  | .display .readingFree => some (.goesOn (.display (.readingFilled q.free.permits)), q)
  | .display (.readingFilled freePermits) =>
    some (.returns (.display (q.recordWith freePermits q.filled.permits)), q)

end Call

/-- A thread with one call of the queue. -/
inductive Caller where
  /-- Inside the call and able to move, unless the ring is held by another caller. -/
  | running (call : Call)
  /-- Waits to be woken. -/
  | parked (call : Call)
  /-- Has changed a turnstile and given up its lock, and is about to wake one caller or all. -/
  | waking (turnstile : Turnstile) (everyone : Bool) (next : Progress Call Answer)
  /-- The call has returned. -/
  | returned (answer : Answer)
  deriving DecidableEq

namespace Caller

/-- The caller after a step of its call. -/
def ofProgress : Progress Call Answer → Caller
  | .goesOn call => .running call
  | .returns answer => .returned answer

/-- Is the caller parked at this turnstile? -/
def isParkedAt (turnstile : Turnstile) : Caller → Bool
  | .parked call => call.turnstile = turnstile
  | _ => false

/-- Does the caller hold the ring? -/
def holdsRing : Caller → Bool
  | .running call => call.holdsRing
  | _ => false

/-- A parked caller wakes; any other is left alone. -/
def woken : Caller → Caller
  | .parked call => .running call
  | caller => caller

/-- The answer of a call that has returned. -/
def answer? : Caller → Option Answer
  | .returned answer => some answer
  | _ => none

end Caller

/-- A queue and everyone who calls it. -/
structure Crowd where
  queue : Queue
  callers : List Caller := []
  deriving DecidableEq

namespace Crowd

/-- Another thread starts a call. -/
def join (crowd : Crowd) (call : Call) : Crowd :=
  { crowd with callers := crowd.callers ++ [.running call] }

/-- Is the ring held by a caller other than the `i`-th? -/
def ringIsHeld (crowd : Crowd) (i : Nat) : Bool :=
  crowd.callers.zipIdx.any fun (caller, j) => j ≠ i && caller.holdsRing

/-- The places of the callers that are parked at a turnstile. -/
def parkedAt (crowd : Crowd) (turnstile : Turnstile) : List Nat :=
  (crowd.callers.zipIdx.filter fun p => p.1.isParkedAt turnstile).map Prod.snd

/-- Wakes everyone at a turnstile, or only the caller at one place. -/
def wake (crowd : Crowd) (turnstile : Turnstile) (everyone : Bool) (which : Nat) : List Caller :=
  if everyone then crowd.callers.map fun c => if c.isParkedAt turnstile then c.woken else c
  else crowd.callers.modify which Caller.woken

/-- One step of the `i`-th caller. Where a single caller has to be woken, `choice` picks the one
among those parked at the turnstile. -/
def step (crowd : Crowd) (i choice : Nat) : Option Crowd :=
  match crowd.callers[i]? with
  | some (.running call) =>
    if call.entersRing && crowd.ringIsHeld i then none
    else
      match call.step crowd.queue with
      -- no permit: the caller parks before anybody can give one back
      | none => some { crowd with callers := crowd.callers.set i (.parked call) }
      | some (progress, queue) =>
        let caller :=
          match call.wakes with
          | some (turnstile, everyone) => Caller.waking turnstile everyone progress
          | none => Caller.ofProgress progress
        some { queue := queue, callers := crowd.callers.set i caller }
  | some (.waking turnstile everyone next) =>
    -- a wake-up finds whoever is parked by now, or nobody
    let callers :=
      match everyone, (crowd.parkedAt turnstile)[choice]? with
      | true, _ => crowd.wake turnstile true 0
      | false, some which => crowd.wake turnstile false which
      | false, none => crowd.callers
    some { crowd with callers := callers.set i (Caller.ofProgress next) }
  | _ => none

/-- A parked caller wakes without reason. -/
def rouse (crowd : Crowd) (i : Nat) : Crowd :=
  { crowd with callers := crowd.callers.modify i Caller.woken }

/-- Lets the `i`-th caller move for as long as it can, but for no more steps than given. -/
def advance : Nat → Nat → Crowd → Crowd
  | 0, _, crowd => crowd
  | fuel + 1, i, crowd =>
    match crowd.step i 0 with
    | none => crowd
    | some crowd => advance fuel i crowd

/-- The steps that suffice for one call, wake-ups included. -/
def stepsPerCall : Nat := 8

/-- Everyone moves once, in the order in which they came. -/
def round (crowd : Crowd) : Crowd :=
  (List.range crowd.callers.length).foldl (fun crowd i => advance stepsPerCall i crowd) crowd

/-- Everybody moves until nobody can. A round in which somebody is woken lets at least one more
call return, so as many rounds as there are callers, and one more, are enough. -/
def settle (crowd : Crowd) : Crowd :=
  (List.range (crowd.callers.length + 1)).foldl (fun crowd _ => crowd.round) crowd

/-- Another thread makes a call and moves before anybody else does; then everybody moves. The
answer is missing if the call has to wait. The caller leaves when it has its answer, and stays
otherwise. -/
def call (crowd : Crowd) (call : Call) : Option Answer × Crowd :=
  let place := crowd.callers.length
  let crowd := advance stepsPerCall place (crowd.join call)
  let answer := crowd.callers[place]?.bind Caller.answer?
  let crowd := crowd.settle
  match answer with
  | some answer => (some answer, { crowd with callers := crowd.callers.eraseIdx place })
  | none => (none, crowd)

end Crowd

end HostLookup
