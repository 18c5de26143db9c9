/-!
# The ring of slots

The items of a queue lie in a fixed number of slots that are used in a circle: `count` items from
slot `head` on. `tail`, the slot that the next item goes to, is kept beside them. A closed ring
takes no items and gives none; a destroyed ring has given up its slots.

`Ring.items` is the list that the ring stands for. `store` appends to it and `take` removes from
its front; both are the short critical sections in which a caller holds the ring.
-/

namespace HostLookup

/-- The slots of a queue and what is known about them. -/
structure Ring where
  slots : List String
  head : Nat := 0
  tail : Nat := 0
  count : Nat := 0
  closed : Bool := false
  destroyed : Bool := false
  deriving DecidableEq, Repr

namespace Ring

/-- A ring of empty slots. -/
def empty (capacity : Nat) : Ring :=
  { slots := List.replicate capacity "" }

/-- The item in the `k`-th filled slot, counted from the oldest. -/
def item (capacity : Nat) (r : Ring) (k : Nat) : String :=
  r.slots.getD ((r.head + k) % capacity) ""

/-- The items, oldest first. -/
def items (capacity : Nat) (r : Ring) : List String :=
  (List.range r.count).map (r.item capacity)

/-- Copies an item into the slot behind the newest one, unless the ring is closed. -/
def store (capacity : Nat) (r : Ring) (item : String) : Option Ring :=
  if r.closed then none
  else
    some
      { r with
        slots := r.slots.set ((r.head + r.count) % capacity) item
        count := r.count + 1
        tail := (r.head + (r.count + 1)) % capacity }

/-- Takes the oldest item out of its slot, unless the ring is closed. -/
def take (capacity : Nat) (r : Ring) : Option (String × Ring) :=
  if r.closed then none
  else
    some
      (r.slots.getD r.head "",
        { r with
          slots := r.slots.set r.head ""
          head := (r.head + 1) % capacity
          count := r.count - 1 })

/-- Neither takes nor gives items from now on. -/
def close (r : Ring) : Ring :=
  { r with closed := true }

/-- Gives up the slots and the items in them. -/
def destroy (r : Ring) : Ring :=
  { r with slots := [], count := 0, destroyed := true }

@[simp] theorem length_items (capacity : Nat) (r : Ring) : (r.items capacity).length = r.count := by
  simp [items]

@[simp] theorem items_empty (capacity : Nat) : (empty capacity).items capacity = [] := rfl

end Ring

end HostLookup
