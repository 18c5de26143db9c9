import HostLookup.Progress
import HostLookup.Queue.Basic

/-!
# Calls of a queue, step by step

A queue is shared, so a call is not one change of its state but a few, between which the calls of
other threads may take their own steps:

* `put` passes the counter of free slots, copies the item in while it holds the ring, and releases
  a permit for a filled slot;
* `get` passes the counter of filled slots, copies the oldest item out while it holds the ring, and
  releases a permit for a free slot;
* `close` marks the ring, then closes the one counter and the other;
* `destroy` closes the queue and then gives up the slots.

Only the first step of `put` and of `get` can wait. A call that meets a closed ring after it was
admitted keeps the permit that it took. An item that fits no slot is refused before anything is
claimed.

`Queue.put?`, `Queue.get?`, `Queue.close` and `Queue.destroy` run a call with no other thread in
between.
-/

namespace HostLookup

/-! ## Putting an item in -/

/-- Where a `put` stands. -/
inductive PutCall where
  /-- About to claim a free slot. -/
  | entering (item : String)
  /-- About to enter the ring. -/
  | admitted (item : String)
  /-- The item is in; a permit for a filled slot is due. -/
  | stored
  deriving DecidableEq, Repr

/-- The next step of a `put`. -/
def PutCall.step (q : Queue) : PutCall → Option (Progress PutCall (Except QueueError Unit) × Queue)
  | .entering item =>
    if q.fits item then
      match q.free.acquire with
      | .refused => some (.returns (.error .destroyed), q)
      | .granted left => some (.goesOn (.admitted item), { q with free := left })
      | .waits => none
    else some (.returns (.error (.itemTooLarge item.utf8ByteSize q.maxItemLength)), q)
  | .admitted item =>
    match q.ring.store q.capacity item with
    | none => some (.returns (.error .destroyed), q)
    | some ring => some (.goesOn .stored, { q with ring := ring })
  | .stored => some (.returns (.ok ()), { q with filled := q.filled.release })

/-! ## Getting an item out -/

/-- Where a `get` stands. -/
inductive GetCall where
  /-- About to claim a filled slot. -/
  | entering
  /-- About to enter the ring. -/
  | admitted
  /-- The item is out; a permit for a free slot is due. -/
  | taken (item : String)
  deriving DecidableEq, Repr

/-- The next step of a `get`. -/
def GetCall.step (q : Queue) :
    GetCall → Option (Progress GetCall (Except QueueError String) × Queue)
  | .entering =>
    match q.filled.acquire with
    | .refused => some (.returns (.error .destroyed), q)
    | .granted left => some (.goesOn .admitted, { q with filled := left })
    | .waits => none
  | .admitted =>
    match q.ring.take q.capacity with
    | none => some (.returns (.error .destroyed), q)
    | some (item, ring) => some (.goesOn (.taken item), { q with ring := ring })
  | .taken item => some (.returns (.ok item), { q with free := q.free.release })

/-! ## Closing and destroying -/

/-- Where a `close` stands. -/
inductive CloseCall where
  /-- About to mark the ring. -/
  | marking
  /-- About to close the counter of free slots. -/
  | closingFree
  /-- About to close the counter of filled slots. -/
  | closingFilled
  deriving DecidableEq, Repr

/-- The next step of a `close`, which never waits. The answer says whether this call closed the
queue. -/
def CloseCall.step (q : Queue) : CloseCall → Progress CloseCall Bool × Queue
  | .marking =>
    if q.ring.closed then (.returns false, q)
    else (.goesOn .closingFree, { q with ring := q.ring.close })
  | .closingFree => (.goesOn .closingFilled, { q with free := q.free.close })
  | .closingFilled => (.returns true, { q with filled := q.filled.close })

/-- Where a `destroy` stands. -/
inductive DestroyCall where
  /-- Closing the queue. -/
  | closing (call : CloseCall)
  /-- About to give up the slots. -/
  | releasing
  deriving DecidableEq, Repr

/-- The next step of a `destroy`, which never waits either. -/
def DestroyCall.step (q : Queue) :
    DestroyCall → Progress DestroyCall (Except QueueError Unit) × Queue
  | .closing call =>
    match call.step q with
    | (.goesOn call, q) => (.goesOn (.closing call), q)
    | (.returns _, q) => (.goesOn .releasing, q)
  | .releasing =>
    if q.ring.destroyed then (.returns (.error .alreadyDestroyed), q)
    else (.returns (.ok ()), { q with ring := q.ring.destroy })

/-! ## Calls that nothing interrupts -/

namespace Queue

/-- Puts an item in, or `none` if the call has to wait for a free slot. -/
def put? (q : Queue) (item : String) : Option (Except QueueError Unit × Queue) :=
  Progress.alone (fun call q => call.step q) 3 (PutCall.entering item) q

/-- Gets the oldest item, or `none` if the call has to wait for one. -/
def get? (q : Queue) : Option (Except QueueError String × Queue) :=
  Progress.alone (fun call q => call.step q) 3 GetCall.entering q

/-- Closes the queue, and says whether it was open. A `close` never waits, and three steps are all
that it makes. -/
def close (q : Queue) : Bool × Queue :=
  (Progress.alone (fun call q => some (CloseCall.step q call)) 3 .marking q).getD (false, q)

/-- Closes the queue and gives up its slots, in one step more. -/
def destroy (q : Queue) : Except QueueError Unit × Queue :=
  (Progress.alone (fun call q => some (DestroyCall.step q call)) 4 (.closing .marking) q).getD
    (.error .alreadyDestroyed, q)

end Queue

end HostLookup
