import HostLookup.Queue.Ring

/-!
# The list in the ring

`Ring.items` reads `count` slots from `head` on, in a circle. As long as the indices agree with one
another (`Ring.WellFormed`), storing appends to that list and taking removes its head:

* **`Ring.slot_ne`**: two items less than a full circle apart lie in different slots.
* **`Ring.items_store`**, **`Ring.items_take`**: the two critical sections, seen on the list.

The rest says that each section and each change of a flag keeps the indices in agreement.
-/

namespace HostLookup.Ring

/-- All slots are there and the indices agree. -/
structure WellFormed (capacity : Nat) (r : Ring) : Prop where
  head_lt : r.head < capacity
  count_le : r.count ≤ capacity
  tail_eq : r.tail = (r.head + r.count) % capacity
  length_slots : r.slots.length = capacity

/-- A ring begins with all its slots, and no item in them. -/
theorem wellFormed_empty {capacity : Nat} (hpos : 0 < capacity) :
    (empty capacity).WellFormed capacity where
  head_lt := hpos
  count_le := Nat.zero_le _
  tail_eq := by simp [empty]
  length_slots := by simp [empty]

/-! ## Slots in a circle

The `k`-th item lies `k` slots behind the head, around the end of the array if need be. All that the
proofs below ask of this arithmetic is that different items lie in different slots, and what becomes
of the slots when the head goes on by one. -/

/-- The slot of an item, without a remainder: there is one turn around the end at most. -/
theorem slot_eq {capacity head k : Nat} (hh : head < capacity) (hk : k ≤ capacity) :
    (head + k) % capacity = if head + k < capacity then head + k else head + k - capacity := by
  split
  · next hlt => exact Nat.mod_eq_of_lt hlt
  · next hge =>
    -- less than a second turn
    rw [Nat.mod_eq_sub_mod (by omega), Nat.mod_eq_of_lt (by omega)]

/-- Two items less than a full circle apart lie in different slots. -/
theorem slot_ne {capacity head j k : Nat} (hh : head < capacity) (hj : j < k)
    (hk : k < j + capacity) (hc : k ≤ capacity) :
    (head + j) % capacity ≠ (head + k) % capacity := by
  rw [slot_eq hh (by omega), slot_eq hh hc]
  split <;> split <;> omega

/-- The slot after the first one is where the rest of the circle begins. -/
theorem slot_succ (capacity head k : Nat) :
    ((head + 1) % capacity + k) % capacity = (head + (k + 1)) % capacity := by
  rw [Nat.mod_add_mod, Nat.add_assoc, Nat.add_comm 1 k]

/-! ## Storing

An item that is stored is the last one, and it goes into the slot behind the others. That this slot
is free is not checked here: whoever stores has claimed a slot before (`hroom`). -/

/-- Only an open ring is stored into. -/
theorem closed_of_store {capacity : Nat} {r r' : Ring} {item : String}
    (hs : r.store capacity item = some r') : r.closed = false := by
  unfold store at hs
  cases hc : r.closed with
  | false => rfl
  | true => simp [hc] at hs

/-- Storing leaves everything but the slots, the count and the tail alone. -/
theorem store_frame {capacity : Nat} {r r' : Ring} {item : String}
    (hs : r.store capacity item = some r') :
    r'.head = r.head ∧ r'.count = r.count + 1 ∧ r'.closed = r.closed ∧
      r'.destroyed = r.destroyed := by
  have hopen := closed_of_store hs
  simp only [store, hopen, Bool.false_eq_true, ↓reduceIte, Option.some.injEq] at hs
  subst hs
  exact ⟨rfl, rfl, hopen.symm, rfl⟩

/-- The tail has gone on by one, and there was room for that. -/
theorem WellFormed.store {capacity : Nat} {r r' : Ring} {item : String}
    (h : r.WellFormed capacity) (hroom : r.count < capacity)
    (hs : r.store capacity item = some r') : r'.WellFormed capacity := by
  have hopen := closed_of_store hs
  simp only [Ring.store, hopen, Bool.false_eq_true, ↓reduceIte, Option.some.injEq] at hs
  subst hs
  exact ⟨h.head_lt, hroom, rfl, by simpa using h.length_slots⟩

/-- **Storing appends.** The item goes into the one slot that the items do not use. -/
theorem items_store {capacity : Nat} {r r' : Ring} {item : String}
    (h : r.WellFormed capacity) (hroom : r.count < capacity)
    (hs : r.store capacity item = some r') :
    r'.items capacity = r.items capacity ++ [item] := by
  have hopen := closed_of_store hs
  simp only [Ring.store, hopen, Bool.false_eq_true, ↓reduceIte, Option.some.injEq] at hs
  subst hs
  have hfree : (r.head + r.count) % capacity < r.slots.length := by
    rw [h.length_slots]
    exact Nat.mod_lt _ (by omega)
  simp only [items, List.range_succ, List.map_append, List.map_cons, List.map_nil]
  congr 1
  · -- the older items lie in other slots
    apply List.map_congr_left
    intro k hk
    have hlt : k < r.count := List.mem_range.mp hk
    have hne := slot_ne h.head_lt hlt (by omega) h.count_le
    simp [Ring.item, List.getD_eq_getElem?_getD, List.getElem?_set_ne (Ne.symm hne)]
  · simp [Ring.item, List.getD_eq_getElem?_getD, hfree]

/-! ## Taking

The head is taken, and the slot that follows becomes the head. Its slot is written over, no other
one. -/

/-- Only an open ring is taken from. -/
theorem closed_of_take {capacity : Nat} {r r' : Ring} {item : String}
    (ht : r.take capacity = some (item, r')) : r.closed = false := by
  unfold take at ht
  cases hc : r.closed with
  | false => rfl
  | true => simp [hc] at ht

/-- Taking leaves everything but the slots, the count and the head alone. -/
theorem take_frame {capacity : Nat} {r r' : Ring} {item : String}
    (ht : r.take capacity = some (item, r')) :
    r'.head = (r.head + 1) % capacity ∧ r'.count = r.count - 1 ∧ r'.closed = r.closed ∧
      r'.destroyed = r.destroyed := by
  have hopen := closed_of_take ht
  simp only [take, hopen, Bool.false_eq_true, ↓reduceIte, Option.some.injEq,
    Prod.mk.injEq] at ht
  obtain ⟨-, rfl⟩ := ht
  exact ⟨rfl, rfl, hopen.symm, rfl⟩

/-- The head has gone on by one, so the tail is one nearer to it. -/
theorem WellFormed.take {capacity : Nat} {r r' : Ring} {item : String}
    (h : r.WellFormed capacity) (hsome : 0 < r.count)
    (ht : r.take capacity = some (item, r')) : r'.WellFormed capacity := by
  have hopen := closed_of_take ht
  simp only [Ring.take, hopen, Bool.false_eq_true, ↓reduceIte, Option.some.injEq,
    Prod.mk.injEq] at ht
  obtain ⟨-, rfl⟩ := ht
  have hlt := h.head_lt
  refine ⟨Nat.mod_lt _ (by omega), ?_, ?_, by simpa using h.length_slots⟩
  · exact Nat.le_trans (Nat.sub_le ..) h.count_le
  · -- the tail stays, and it is told from the new head
    have hcount : r.count - 1 + 1 = r.count := by omega
    simp only
    rw [h.tail_eq, slot_succ, hcount]

/-- **Taking removes the head.** The other items stay where they are, one place nearer to it. -/
theorem items_take {capacity : Nat} {r r' : Ring} {item : String}
    (h : r.WellFormed capacity) (hsome : 0 < r.count)
    (ht : r.take capacity = some (item, r')) :
    r.items capacity = item :: r'.items capacity := by
  have hopen := closed_of_take ht
  simp only [Ring.take, hopen, Bool.false_eq_true, ↓reduceIte, Option.some.injEq,
    Prod.mk.injEq] at ht
  obtain ⟨rfl, rfl⟩ := ht
  -- the head comes off the list, and the slot of every other item is counted from the next one
  obtain ⟨n, hn⟩ : ∃ n, r.count = n + 1 := ⟨r.count - 1, by omega⟩
  have hle := h.count_le
  simp only [items, hn, List.range_succ_eq_map, List.map_cons, List.map_map, Nat.add_sub_cancel]
  congr 1
  · simp [Ring.item, Nat.mod_eq_of_lt h.head_lt]
  · apply List.map_congr_left
    intro k hk
    have hlt : k < n := List.mem_range.mp hk
    -- the slot of the head is not that of a later item
    have hne : r.head ≠ (r.head + (k + 1)) % capacity := by
      have := slot_ne h.head_lt (j := 0) (k := k + 1) (by omega) (by omega) (by omega)
      rwa [Nat.add_zero, Nat.mod_eq_of_lt h.head_lt] at this
    simp only [Function.comp, Ring.item, slot_succ, List.getD_eq_getElem?_getD,
      List.getElem?_set_ne hne]

/-! ## Closing

A ring that is closed keeps its items, but nobody stores or takes any more. -/

theorem WellFormed.close {capacity : Nat} {r : Ring} (h : r.WellFormed capacity) :
    r.close.WellFormed capacity :=
  ⟨h.head_lt, h.count_le, h.tail_eq, h.length_slots⟩

end HostLookup.Ring
