import HostLookup.Failure.Basic
import HostLookup.Queue.Permits
import HostLookup.Queue.Ring
import HostLookup.Text.Record

/-!
# Bounded queues

A queue is a ring of slots with two counters of permits. It has a name for messages, a capacity and
a slot length in bytes, all fixed when it is made. One byte of every slot is reserved, so the
longest item has `slotLength - 1` bytes.

All slots are allocated at once, first the array that holds them and then each slot. What cannot be
allocated is reported in one of two ways: a size that no allocation can have, or a size that the
allocator refuses. The first is a matter of arithmetic. The second is left to an `Allocator`, which
may refuse whatever it likes; `Allocator.standard` is the one of an ordinary machine.
-/

namespace HostLookup

/-- A queue of texts with a fixed number of slots. -/
structure Queue where
  name : String
  capacity : Nat
  slotLength : Nat
  ring : Ring
  /-- Permits for free slots. -/
  free : Permits
  /-- Permits for filled slots. -/
  filled : Permits
  deriving DecidableEq, Repr

/-- Why memory is not to be had. -/
inductive Shortage where
  /-- No allocation can have this size. -/
  | tooLarge
  /-- The allocator has no room. -/
  | refused
  deriving DecidableEq, Repr

namespace Shortage

def message : Shortage → String
  | .tooLarge =>
    "memory allocation failed because the computed capacity exceeded the collection's maximum"
  | .refused => "memory allocation failed because the memory allocator returned an error"

end Shortage

/-- Whoever hands out the memory for the slots of queues. It is told the name of the queue, so it
may treat a queue that is made later in another way than one that was made before. -/
structure Allocator where
  /-- Is an array of so many bytes refused? -/
  refusesArray : String → Nat → Bool
  /-- Are so many slots of so many bytes each refused, now that there is an array for them? -/
  refusesSlots : String → (capacity slotLength : Nat) → Bool

namespace Queue

/-- The bytes that the array of slots needs for each slot, apart from the slot's own. -/
def slotHeader : Nat := 24

end Queue

namespace Allocator

/-- The bytes from which a size is no size of an allocation: half of a 64-bit address space. -/
def sizeLimit : Nat := 1 <<< 63

/-- The bytes from which an allocation is more than the memory of an ordinary machine. -/
def memoryLimit : Nat := 1 <<< 35

/-- The bytes of the part of the address space that is there for allocations. Some of it is always
taken. -/
def addressSpace : Nat := 1 <<< 47

/-- The allocator of an ordinary machine. It refuses what is too much at once, and slots that are
too much in all. -/
def standard : Allocator where
  refusesArray _ bytes := memoryLimit ≤ bytes
  refusesSlots _ capacity slotLength :=
    memoryLimit ≤ slotLength || addressSpace ≤ capacity * (Queue.slotHeader + slotLength)

/-- What stands against allocations that are `refused` or not, the largest of so many bytes. -/
def shortage? (bytes : Nat) (refused : Bool) : Option Shortage :=
  if sizeLimit ≤ bytes then some .tooLarge
  else if refused then some .refused
  else none

/-- What stands against the array of slots. -/
def arrayShortage? (allocator : Allocator) (name : String) (capacity : Nat) : Option Shortage :=
  let bytes := capacity * Queue.slotHeader
  shortage? bytes (allocator.refusesArray name bytes)

/-- What stands against the slots in it. -/
def slotShortage? (allocator : Allocator) (name : String) (capacity slotLength : Nat) :
    Option Shortage :=
  shortage? slotLength (allocator.refusesSlots name capacity slotLength)

end Allocator

namespace Queue

/-- An empty queue of the given geometry. -/
def ofGeometry (name : String) (capacity slotLength : Nat) : Queue where
  name := name
  capacity := capacity
  slotLength := slotLength
  ring := Ring.empty capacity
  free := { permits := capacity }
  filled := { permits := 0 }

/-- Makes an empty queue. It needs at least one slot, and a slot at least one byte beside the
reserved one; then it needs memory. -/
def create (name : String) (capacity slotLength : Nat) (allocator : Allocator := .standard) :
    Except Failure Queue :=
  if capacity = 0 then
    .error (.config (name ++ ".capacity") "queue capacity must be at least 1")
  else if slotLength < 2 then
    .error (.config (name ++ ".slot_len") "slots must hold at least one byte plus terminator")
  else
    match allocator.arrayShortage? name capacity,
      allocator.slotShortage? name capacity slotLength with
    | some shortage, _ =>
      .error (.resource ("failed to allocate " ++ toString capacity ++ " slots for " ++ name ++
        ": " ++ shortage.message))
    | none, some shortage =>
      .error (.resource ("failed to allocate " ++ toString slotLength ++ "-byte slot for " ++
        name ++ ": " ++ shortage.message))
    | none, none => .ok (ofGeometry name capacity slotLength)

/-- The length in bytes of the longest item. -/
def maxItemLength (q : Queue) : Nat :=
  q.slotLength - 1

/-- Does an item fit a slot? -/
def fits (q : Queue) (item : String) : Bool :=
  item.utf8ByteSize ≤ q.maxItemLength

/-- The number of items in the queue. -/
def count (q : Queue) : Nat :=
  q.ring.count

def isEmpty (q : Queue) : Bool :=
  q.count = 0

def isClosed (q : Queue) : Bool :=
  q.ring.closed

def isDestroyed (q : Queue) : Bool :=
  q.ring.destroyed

/-- The items in the queue, oldest first. -/
def items (q : Queue) : List String :=
  q.ring.items q.capacity

/-- The state of the queue, with the permits as they were read. -/
def recordWith (q : Queue) (freePermits filledPermits : Nat) : Text.Record where
  kind := "BoundedQueue"
  fields := [
    ("name", Text.quoted q.name),
    ("capacity", toString q.capacity),
    ("slot_len", toString q.slotLength),
    ("head", toString q.ring.head),
    ("tail", toString q.ring.tail),
    ("count", toString q.ring.count),
    ("closed", Text.Record.ofBool q.ring.closed),
    ("destroyed", Text.Record.ofBool q.ring.destroyed),
    ("free_permits", toString freePermits),
    ("filled_permits", toString filledPermits)]

/-- The state of the queue as a record. -/
def record (q : Queue) : Text.Record :=
  q.recordWith q.free.permits q.filled.permits

end Queue

end HostLookup
