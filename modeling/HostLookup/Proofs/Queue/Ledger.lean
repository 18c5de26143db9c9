import HostLookup.Proofs.Queue.Balance

/-!
# What goes in comes out

A *section* of the ring is the moment at which a `put` copies its item in or a `get` copies one out.
Calls that meet a closed ring have none. Listed in the order in which they ran, the items that went
in (`ins`) and the items that came out (`outs`) make up the *ledger* of the queue:

* **`Queue.Ledger`**: what came out is a first part of what went in, and as long as the ring has not
  given up its slots the rest is what it holds.
* **`Queue.Ledger.turn`**: a step of one thread keeps the ledger.
-/

namespace HostLookup

/-! ## Sections

A call touches the ring in one of its steps only: an admitted `put` copies its item in, and an
admitted `get` copies one out. In all other steps a call has nothing to do with the items. If the
ring is closed by then, the step copies nothing either. -/

/-- The moment at which a call copies an item into the ring or out of it. -/
inductive Section where
  | stored (item : String)
  | taken (item : String)
  deriving DecidableEq, Repr

namespace Section

/-- The item that a section copies in. -/
def stored? : Section → Option String
  | .stored item => some item
  | .taken _ => none

/-- The item that a section copies out. -/
def taken? : Section → Option String
  | .stored _ => none
  | .taken item => some item

end Section

/-- The section that the next step of a call runs, if it runs one. -/
def Call.section? (q : Queue) : Call → Option Section
  | .put (.admitted item) => (q.ring.store q.capacity item).map fun _ => .stored item
  | .get .admitted => (q.ring.take q.capacity).map fun taken => .taken taken.1
  | _ => none

/-- Outside of its phases a call runs no section. -/
theorem Call.section?_of_phase {call : Call} (q : Queue) (hphase : call.phase? = none) :
    call.section? q = none := by
  cases call with
  | put call => cases call <;> first | rfl | cases hphase
  | get call => cases call <;> first | rfl | cases hphase
  | close | destroy | count | display => rfl

/-- What the next step of a call copies into the ring: one item or nothing. -/
def Queue.stored (q : Queue) (call : Option Call) : List String :=
  ((call.bind (Call.section? q)).bind Section.stored?).toList

/-- What the next step of a call copies out of the ring. -/
def Queue.taken (q : Queue) (call : Option Call) : List String :=
  ((call.bind (Call.section? q)).bind Section.taken?).toList

@[simp] theorem Queue.stored_none (q : Queue) : q.stored none = [] := rfl

@[simp] theorem Queue.taken_none (q : Queue) : q.taken none = [] := rfl

/-- Whoever is in no phase of a call copies nothing in. -/
theorem Queue.stored_of_phase {q : Queue} {call : Option Call}
    (hidle : call.bind Call.phase? = none) : q.stored call = [] := by
  cases call with
  | none => rfl
  | some c => simp [Queue.stored, Call.section?_of_phase q hidle]

/-- And nothing out. -/
theorem Queue.taken_of_phase {q : Queue} {call : Option Call}
    (hidle : call.bind Call.phase? = none) : q.taken call = [] := by
  cases call with
  | none => rfl
  | some c => simp [Queue.taken, Call.section?_of_phase q hidle]

@[simp] theorem Queue.stored_get (q : Queue) (call : GetCall) :
    q.stored (some (.get call)) = [] := by
  cases call with
  | admitted => cases h : q.ring.take q.capacity <;>
      simp [Queue.stored, Call.section?, h, Section.stored?]
  | entering | taken => rfl

/-- What a `put` copies in is the item that it carries. -/
theorem Queue.item?_of_mem_stored {q : Queue} {call : PutCall} {item : String}
    (hmem : item ∈ q.stored (some (.put call))) : call.item? = some item := by
  cases call with
  | admitted own =>
    cases hring : q.ring.store q.capacity own with
    | none => simp [Queue.stored, Call.section?, hring] at hmem
    | some ring =>
      simp [Queue.stored, Call.section?, hring, Section.stored?] at hmem
      rw [hmem]
      rfl
  | entering | stored => simp [Queue.stored, Call.section?] at hmem

/-- The only call that copies an item in is a `put` that was admitted with it. -/
theorem Queue.eq_of_mem_stored {q : Queue} {call : Option Call} {item : String}
    (hmem : item ∈ q.stored call) : call = some (.put (.admitted item)) := by
  rcases call with _ | (call | call | _ | _ | _ | _)
  case some.put =>
    have hitem := item?_of_mem_stored hmem
    cases call with
    -- it carries the item, and it has been admitted
    | admitted own => rw [Option.some.inj hitem]
    | entering | stored => simp [Queue.stored, Call.section?] at hmem
  case some.get => simp at hmem
  all_goals simp [Queue.stored, Call.section?] at hmem

/-- A step copies at most one item in. -/
theorem Queue.length_stored_le (q : Queue) (call : Option Call) : (q.stored call).length ≤ 1 := by
  unfold Queue.stored
  cases (call.bind (Call.section? q)).bind Section.stored? <;> simp

/-- A step copies at most one item out. -/
theorem Queue.length_taken_le (q : Queue) (call : Option Call) : (q.taken call).length ≤ 1 := by
  unfold Queue.taken
  cases (call.bind (Call.section? q)).bind Section.taken? <;> simp

@[simp] theorem Queue.taken_put (q : Queue) (call : PutCall) :
    q.taken (some (.put call)) = [] := by
  cases call with
  | admitted item => cases h : q.ring.store q.capacity item <;>
      simp [Queue.taken, Call.section?, h, Section.taken?]
  | entering | stored => rfl

@[simp] theorem Queue.stored_close (q : Queue) (call : CloseCall) :
    q.stored (some (.close call)) = [] := rfl

@[simp] theorem Queue.taken_close (q : Queue) (call : CloseCall) :
    q.taken (some (.close call)) = [] := rfl

@[simp] theorem Queue.stored_destroy (q : Queue) (call : DestroyCall) :
    q.stored (some (.destroy call)) = [] := rfl

@[simp] theorem Queue.taken_destroy (q : Queue) (call : DestroyCall) :
    q.taken (some (.destroy call)) = [] := rfl

/-! ## What a step copies

Whether a step copies something can be told in two ways: from the queue before the step, and from
the way in which the call goes on. The ledger uses the first, and whoever has made the call knows
the second. -/

/-- What a `put` has handed in by a step: its item, if it goes on behind the ring. -/
def PutCall.handedIn : PutCall → Progress PutCall (Except QueueError Unit) → List String
  | .admitted item, .goesOn _ => [item]
  | _, _ => []

/-- What a `get` has taken out by a step: the item that it holds afterwards. -/
def GetCall.takenOut : Progress GetCall (Except QueueError String) → List String
  | .goesOn (.taken item) => [item]
  | _ => []

/-- The two ways to tell what a step of a `put` copies in agree. -/
theorem PutCall.Moves.stored {q q' : Queue} {call : PutCall}
    {progress : Progress PutCall (Except QueueError Unit)}
    (hmove : PutCall.Moves q call progress q') :
    q.stored (some (.put call)) = call.handedIn progress := by
  cases hmove with
  | bounce hclosed =>
    simp [Queue.stored, Call.section?, Ring.store, hclosed, PutCall.handedIn]
  | store hring =>
    simp [Queue.stored, Call.section?, hring, Section.stored?, PutCall.handedIn]
  | _ => rfl

/-- The two ways to tell what a step of a `get` copies out agree. -/
theorem GetCall.Moves.taken {q q' : Queue} {call : GetCall}
    {progress : Progress GetCall (Except QueueError String)}
    (hmove : GetCall.Moves q call progress q') :
    q.taken (some (.get call)) = GetCall.takenOut progress := by
  cases hmove with
  | bounce hclosed =>
    simp [Queue.taken, Call.section?, Ring.take, hclosed, GetCall.takenOut]
  | take hring =>
    simp [Queue.taken, Call.section?, hring, Section.taken?, GetCall.takenOut]
  | _ => rfl

/-- The head has gone round by one slot for each item that was taken. -/
theorem Queue.Turn.head_eq {q q' : Queue} {call : Option Call} {after : Option Phase}
    (h : q.Turn call after q') (hlt : q.ring.head < q.capacity) :
    q'.ring.head = (q.ring.head + (q.taken call).length) % q.capacity := by
  have hsame : q.ring.head = (q.ring.head + 0) % q.capacity := (Nat.mod_eq_of_lt hlt).symm
  cases h with
  | idle hidle =>
    rw [Queue.taken_of_phase hidle]
    exact hsame
  | step hcall hstep =>
    subst hcall
    cases Call.moves_of_step hstep with
    | put hmove =>
      -- a `put` only writes behind the last item, and the head stays
      rw [Queue.taken_put]
      cases hmove with
      | store hring => exact (Ring.store_frame hring).1.trans hsame
      | tooLarge | refused | enter | bounce | finish => exact hsame
    | get hmove =>
      rw [hmove.taken]
      cases hmove with
      | take hring => exact (Ring.take_frame hring).1
      | refused | enter | bounce | finish => exact hsame
    | close hmove =>
      cases hmove <;> exact hsame
    | destroy hmove =>
      cases hmove with
      | close hmove | closed hmove => cases hmove <;> exact hsame
      | late | release => exact hsame
    | count | enterDisplay | readFree | readFilled => exact hsame

/-! ## The ledger

What went in and what came out are two lists, in the order of the sections. Storing appends to the
first and taking to the second, and the items in the ring are the difference. Nothing else is needed
for first in, first out: the second list is a prefix of the first, whoever the callers are. -/

/-- The items that went into a queue and those that came out of it, in the order of the sections. -/
structure Queue.Ledger (q : Queue) (ins outs : List String) : Prop where
  /-- The `k`-th item out is the `k`-th item in. -/
  outs_prefix : outs <+: ins
  /-- The rest is in the ring. -/
  items_eq : q.ring.destroyed = false → ins = outs ++ q.items

namespace Queue.Ledger

variable {q q' : Queue} {calls calls' : Phase → Nat} {ins outs : List String}

/-- Nothing has gone through a new queue. -/
theorem ofGeometry (name : String) (capacity slotLength : Nat) :
    (Queue.ofGeometry name capacity slotLength).Ledger [] [] where
  outs_prefix := List.prefix_refl _
  items_eq _ := by simp [Queue.ofGeometry, Queue.items]

/-- A step that runs no section and keeps the items, or gives up the slots, keeps the ledger. -/
theorem of_items_eq (h : q.Ledger ins outs)
    (hitems : q'.ring.destroyed = false → q.ring.destroyed = false ∧ q'.items = q.items) :
    q'.Ledger ins outs where
  outs_prefix := h.outs_prefix
  items_eq hlive := by
    obtain ⟨hlive', heq⟩ := hitems hlive
    rw [heq]
    exact h.items_eq hlive'

/-- **Storing** adds the item to both sides. -/
theorem store {ring : Ring} {item : String} (h : q.Ledger ins outs) (hb : q.Balanced calls)
    (hput : 0 < calls .putAdmitted) (hring : q.ring.store q.capacity item = some ring) :
    Ledger { q with ring := ring } (ins ++ [item]) outs := by
  have hopen := Ring.closed_of_store hring
  have hlive := hb.live_of_open hopen
  have hitems : ring.items q.capacity = q.ring.items q.capacity ++ [item] :=
    Ring.items_store (hb.wellFormed hlive) (hb.room hput hopen) hring
  refine ⟨h.outs_prefix.trans (List.prefix_append _ _), fun _ => ?_⟩
  simp only [Queue.items, hitems]
  rw [h.items_eq hlive, List.append_assoc]
  rfl

/-- **Taking** moves the oldest item from the ring to what came out. -/
theorem take {ring : Ring} {item : String} (h : q.Ledger ins outs) (hb : q.Balanced calls)
    (hget : 0 < calls .getAdmitted) (hring : q.ring.take q.capacity = some (item, ring)) :
    Ledger { q with ring := ring } ins (outs ++ [item]) := by
  have hopen := Ring.closed_of_take hring
  have hlive := hb.live_of_open hopen
  have hitems : q.ring.items q.capacity = item :: ring.items q.capacity :=
    Ring.items_take (hb.wellFormed hlive) (hb.count_pos hget hopen) hring
  have heq : ins = (outs ++ [item]) ++ ring.items q.capacity := by
    rw [h.items_eq hlive, Queue.items, hitems, List.append_assoc]
    rfl
  exact ⟨⟨_, heq.symm⟩, fun _ => heq⟩

/-- A step of a `put` keeps the ledger: it stores its item, or it leaves the ring alone. -/
theorem put {call : PutCall} {progress : Progress PutCall (Except QueueError Unit)}
    (h : q.Ledger ins outs) (hb : q.Balanced calls) (hmove : PutCall.Moves q call progress q')
    (hshift : Phase.Shift call.phase? (progress.phase? PutCall.phase?) calls calls') :
    q'.Ledger (ins ++ q.stored (some (.put call))) outs := by
  rw [hmove.stored]
  cases hmove with
  | tooLarge | refused | bounce => simpa [PutCall.handedIn] using h
  | enter | finish =>
    simp only [PutCall.handedIn, List.append_nil]
    exact h.of_items_eq fun hlive => ⟨hlive, rfl⟩
  | store hring =>
    -- the caller was admitted, so the law of the queue leaves room for its item
    have := hshift .putAdmitted
    simp [PutCall.phase?] at this
    exact h.store hb (by omega) hring

/-- A step of a `get` keeps the ledger: it takes an item, or it leaves the ring alone. -/
theorem get {call : GetCall} {progress : Progress GetCall (Except QueueError String)}
    (h : q.Ledger ins outs) (hb : q.Balanced calls) (hmove : GetCall.Moves q call progress q')
    (hshift : Phase.Shift call.phase? (progress.phase? GetCall.phase?) calls calls') :
    q'.Ledger ins (outs ++ q.taken (some (.get call))) := by
  rw [hmove.taken]
  cases hmove with
  | refused | bounce => simpa [GetCall.takenOut] using h
  | enter | finish =>
    simp only [GetCall.takenOut, List.append_nil]
    exact h.of_items_eq fun hlive => ⟨hlive, rfl⟩
  | take hring =>
    -- the caller was admitted, so there is an item for it
    have := hshift .getAdmitted
    simp [GetCall.phase?] at this
    exact h.take hb (by omega) hring

/-- Closing leaves the items where they are. -/
theorem close {call : CloseCall} {progress : Progress CloseCall Bool} (h : q.Ledger ins outs)
    (hmove : CloseCall.Moves q call progress q') : q'.Ledger ins outs := by
  cases hmove <;> exact h.of_items_eq fun hlive => ⟨hlive, rfl⟩

/-- Destroying gives up the slots at last, and from then on the ledger says nothing of them. -/
theorem destroy {call : DestroyCall} {progress : Progress DestroyCall (Except QueueError Unit)}
    (h : q.Ledger ins outs) (hmove : DestroyCall.Moves q call progress q') :
    q'.Ledger ins outs := by
  cases hmove with
  | close hmove | closed hmove => exact h.close hmove
  | late => exact h
  | release => exact h.of_items_eq fun hlive => by simp [Ring.destroy] at hlive

/-- **The ledger is kept.** A step of one thread adds the section that it runs, and no other. -/
theorem turn {call : Option Call} {after : Option Phase} (h : q.Ledger ins outs)
    (hb : q.Balanced calls) (hturn : q.Turn call after q')
    (hshift : Phase.Shift (call.bind Call.phase?) after calls calls') :
    q'.Ledger (ins ++ q.stored call) (outs ++ q.taken call) := by
  cases hturn with
  | idle hidle =>
    rw [stored_of_phase hidle, taken_of_phase hidle, List.append_nil, List.append_nil]
    exact h
  | step hcall hstep =>
    subst hcall
    cases Call.moves_of_step hstep with
    | put hmove =>
      rw [Progress.phase?_map] at hshift
      rw [taken_put, List.append_nil]
      exact h.put hb hmove hshift
    | get hmove =>
      rw [Progress.phase?_map] at hshift
      rw [stored_get, List.append_nil]
      exact h.get hb hmove hshift
    | close hmove => simpa using h.close hmove
    | destroy hmove => simpa using h.destroy hmove
    | count | enterDisplay | readFree | readFilled =>
      rw [stored_of_phase rfl, taken_of_phase rfl, List.append_nil, List.append_nil]
      exact h

end Queue.Ledger

/-- Behind the first of the marks at the end of a list there are only marks. -/
theorem eq_of_mem_behind {α : Type} {mark item : α} {items front back : List α} {n : Nat}
    (heq : front ++ back = items ++ List.replicate n mark) (hitems : mark ∉ items)
    (hfront : mark ∈ front) (hitem : item ∈ back) : item = mark := by
  rcases List.append_eq_append_iff.mp heq with ⟨between, hlonger, -⟩ | ⟨between, -, hlate⟩
  · -- the front would end among the items, and then it would hold no mark
    exact absurd (hlonger ▸ List.mem_append_left _ hfront) hitems
  · exact List.eq_of_mem_replicate (hlate ▸ List.mem_append_right _ hitem)

end HostLookup
