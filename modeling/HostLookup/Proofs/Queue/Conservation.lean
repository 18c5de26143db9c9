import HostLookup.Proofs.Queue.Moves

/-!
# Permits are conserved

Whatever the callers of a queue do, and in whatever order: as long as the ring is open no permit is
lost or made, and the count in the ring is what the counter of filled slots says, up to the calls
that are under way. So nobody stores into a full ring, takes from an empty one or touches a slot
that is not there.

* **`Crowd.Conserves`** spells this out.
* **`Crowd.conserves_of_reaches`** proves it of every reachable crowd.
-/

namespace HostLookup

namespace Crowd

variable {crowd crowd' : Crowd} {m : Move} {capacity : Nat}

/-- A queue of a capacity whose counters agree with the calls of the crowd. -/
structure Accounted (capacity : Nat) (crowd : Crowd) : Prop where
  capacity_eq : crowd.queue.capacity = capacity
  balanced : crowd.queue.Balanced crowd.calls

theorem Accounted.start (name : String) (slotLength : Nat) (hpos : 0 < capacity) :
    Accounted capacity { queue := Queue.ofGeometry name capacity slotLength } :=
  ⟨rfl, Queue.Balanced.ofGeometry name slotLength hpos⟩

theorem Accounted.move (h : Accounted capacity crowd) (hmove : move m crowd = some crowd') :
    Accounted capacity crowd' := by
  obtain ⟨call, after, hturn, hshift, -⟩ := (effect_of_move hmove).turn
  exact ⟨hturn.geometry.2.1.trans h.capacity_eq, h.balanced.turn hturn hshift⟩

/-- The law of a queue of a given capacity and everyone who calls it. A `put` that has claimed a
free slot and not yet handed its permit on is in the phase `putAdmitted` or `putStored`, a `get` in
the phase `getAdmitted` or `getTaken`. -/
structure Conserves (capacity : Nat) (crowd : Crowd) : Prop where
  capacity_eq : crowd.queue.capacity = capacity
  /-- No permit is lost or made at an open ring. -/
  permits_eq : crowd.queue.ring.closed = false →
    crowd.queue.free.permits + crowd.queue.filled.permits +
      (crowd.calls .putAdmitted + crowd.calls .putStored) +
      (crowd.calls .getAdmitted + crowd.calls .getTaken) = capacity
  /-- The counter of filled slots lags behind a `put` and runs ahead of a `get`. -/
  count_eq : crowd.queue.ring.closed = false →
    crowd.queue.ring.count =
      crowd.queue.filled.permits + crowd.calls .putStored + crowd.calls .getAdmitted
  tail_eq : crowd.queue.ring.closed = false →
    crowd.queue.ring.tail = (crowd.queue.ring.head + crowd.queue.ring.count) % capacity
  head_lt : crowd.queue.ring.head < capacity
  count_le : crowd.queue.ring.count ≤ capacity
  /-- A `put` about to enter an open ring finds room and a slot that is there. -/
  put_room : ∀ (place : Nat) (item : String),
    crowd.callers[place]? = some (.running (.put (.admitted item))) →
    crowd.queue.ring.closed = false →
    crowd.queue.ring.count < capacity ∧
      (crowd.queue.ring.head + crowd.queue.ring.count) % capacity < crowd.queue.ring.slots.length
  /-- A `get` about to enter an open ring finds an item and a slot that is there. -/
  get_item : ∀ place : Nat, crowd.callers[place]? = some (.running (.get .admitted)) →
    crowd.queue.ring.closed = false →
    0 < crowd.queue.ring.count ∧ crowd.queue.ring.head < crowd.queue.ring.slots.length
  /-- The slots are given up only at a closed ring, which no `put` and no `get` touches. -/
  closed_of_destroyed : crowd.queue.ring.destroyed = true → crowd.queue.ring.closed = true
  /-- No counter ever holds more permits than there are slots, also after closing. -/
  permits_le : crowd.queue.free.permits ≤ capacity ∧ crowd.queue.filled.permits ≤ capacity

theorem Accounted.conserves (h : Accounted capacity crowd) : Conserves capacity crowd := by
  obtain ⟨hcap, hb⟩ := h
  have hle := hb.permits_le
  refine ⟨hcap, fun hopen => ?_, hb.count_eq, fun hopen => ?_, hcap ▸ hb.head_lt,
    hcap ▸ hb.count_le, fun place item hcaller hopen => ?_, fun place hcaller hopen => ?_,
    hb.closed_of_destroyed, by omega⟩
  · have hpermits := hb.permits_eq hopen
    omega
  · have hwf := hb.wellFormed (hb.live_of_open hopen)
    rw [hwf.tail_eq, hcap]
  · have hwf := hb.wellFormed (hb.live_of_open hopen)
    have hroom := hb.room (calls_pos (p := .putAdmitted) hcaller rfl) hopen
    refine ⟨hcap ▸ hroom, ?_⟩
    rw [hwf.length_slots, ← hcap]
    exact Nat.mod_lt _ (by omega)
  · have hwf := hb.wellFormed (hb.live_of_open hopen)
    have hsome := hb.count_pos (calls_pos (p := .getAdmitted) hcaller rfl) hopen
    refine ⟨hsome, ?_⟩
    rw [hwf.length_slots]
    exact hwf.head_lt

theorem accounted_of_reaches {name : String} {slotLength : Nat} (hpos : 0 < capacity)
    (hreach : Reaches move { queue := Queue.ofGeometry name capacity slotLength } crowd) :
    Accounted capacity crowd :=
  hreach.invariant (Accounted.start name slotLength hpos) fun _ _ _ h hmove => h.move hmove

/-- **Conservation.** In every crowd that some interleaving of calls around a new queue leads to,
the permits and the items obey the law. -/
theorem conserves_of_reaches {name : String} {slotLength : Nat} (hpos : 0 < capacity)
    (hreach : Reaches move { queue := Queue.ofGeometry name capacity slotLength } crowd) :
    Conserves capacity crowd :=
  (accounted_of_reaches hpos hreach).conserves

/-- A `put` in the middle of its call, at a queue with one slot. -/
theorem conserves_of_reaches_put_admitted :
    Conserves 1
      { queue := { Queue.ofGeometry "files" 1 8 with free := { permits := 0 } }
        callers := [.running (.put (.admitted "a"))] } := by
  have hstart : Reaches move { queue := Queue.ofGeometry "files" 1 8 }
    { queue := Queue.ofGeometry "files" 1 8 } := .refl
  exact conserves_of_reaches Nat.one_pos
    ((hstart.tail (.join (.put (.entering "a"))) rfl).tail (.step 0 0) rfl)

end Crowd

end HostLookup
