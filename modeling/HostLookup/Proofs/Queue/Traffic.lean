import HostLookup.Proofs.Queue.Ring
import HostLookup.Queue.Crowd

/-!
# Calls under way

Other calls of a queue have to reckon with a call that is under way only as far as its *phase* says:
a `put` or a `get` that holds a permit, and a `close` that has marked the ring and not yet both
counters. This module says once what a step of a call can do.

* **`Call.Moves`**, with a relation for each kind of call: one rule for each way in which a step
  can go, with its condition. `moves_of_step` inverts the step function into them.
* **`Call.phase?`**: the phase of a call.
* **`Queue.Turn`**: one step of one thread, as a queue sees it. The thread makes a step of its call
  of this queue, or it leaves the queue alone.
-/

namespace HostLookup

/-- An item fits a slot if one byte is left. -/
theorem Queue.fits_iff (q : Queue) (item : String) :
    q.fits item = true ↔ item.utf8ByteSize ≤ q.slotLength - 1 :=
  decide_eq_true_iff

/-! ## What a step of a call can do

Every step function is inverted once, here, and nowhere else is one opened. The rules carry the
condition of the branch, so that a proof which cases on them has it at hand. -/

/-- The steps of a `put`. -/
inductive PutCall.Moves (q : Queue) :
    PutCall → Progress PutCall (Except QueueError Unit) → Queue → Prop where
  | tooLarge {item : String} (hsize : q.fits item = false) :
      Moves q (.entering item)
        (.returns (.error (.itemTooLarge item.utf8ByteSize q.maxItemLength))) q
  | refused {item : String} (hclosed : q.free.closed = true) :
      Moves q (.entering item) (.returns (.error .destroyed)) q
  | enter {item : String} {left : Nat} (hfits : q.fits item = true) (hopen : q.free.closed = false)
      (hleft : q.free.permits = left + 1) :
      Moves q (.entering item) (.goesOn (.admitted item))
        { q with free := { permits := left } }
  | bounce {item : String} (hclosed : q.ring.closed = true) :
      Moves q (.admitted item) (.returns (.error .destroyed)) q
  | store {item : String} {ring : Ring} (hring : q.ring.store q.capacity item = some ring) :
      Moves q (.admitted item) (.goesOn .stored) { q with ring := ring }
  | finish : Moves q .stored (.returns (.ok ())) { q with filled := q.filled.release }

/-- The steps of a `put`, inverted: its item fits or not, the counter lets it in or not, the ring is
open or not. -/
theorem PutCall.moves_of_step {q q' : Queue} {call : PutCall}
    {progress : Progress PutCall (Except QueueError Unit)}
    (hstep : call.step q = some (progress, q')) : PutCall.Moves q call progress q' := by
  cases call with
  | entering item =>
    cases hfits : q.fits item with
    | false =>
      simp only [PutCall.step, hfits, Bool.false_eq_true, ↓reduceIte, Option.some.injEq,
        Prod.mk.injEq] at hstep
      obtain ⟨rfl, rfl⟩ := hstep
      exact .tooLarge hfits
    | true =>
      simp only [PutCall.step, hfits, ↓reduceIte, Permits.acquire] at hstep
      cases hclosed : q.free.closed with
      | true =>
        simp only [hclosed, ↓reduceIte, Option.some.injEq, Prod.mk.injEq] at hstep
        obtain ⟨rfl, rfl⟩ := hstep
        exact .refused hclosed
      | false =>
        cases hpermits : q.free.permits with
        -- without a permit there is no step
        | zero => simp [hclosed, hpermits] at hstep
        | succ left =>
          simp only [hclosed, hpermits, Bool.false_eq_true, ↓reduceIte, Option.some.injEq,
            Prod.mk.injEq] at hstep
          obtain ⟨rfl, rfl⟩ := hstep
          exact .enter hfits hclosed hpermits
  | admitted item =>
    cases hring : q.ring.store q.capacity item with
    | none =>
      simp only [PutCall.step, hring, Option.some.injEq, Prod.mk.injEq] at hstep
      obtain ⟨rfl, rfl⟩ := hstep
      -- a ring stores nothing only if it is closed
      refine .bounce ?_
      unfold Ring.store at hring
      split at hring
      · assumption
      · contradiction
    | some ring =>
      simp only [PutCall.step, hring, Option.some.injEq, Prod.mk.injEq] at hstep
      obtain ⟨rfl, rfl⟩ := hstep
      exact .store hring
  | stored =>
    simp only [PutCall.step, Option.some.injEq, Prod.mk.injEq] at hstep
    obtain ⟨rfl, rfl⟩ := hstep
    exact .finish

/-- A `put` is refused for the size of its item or at a closed queue. -/
theorem PutCall.Moves.refused_for {q q' : Queue} {call : PutCall} {error : QueueError}
    (h : PutCall.Moves q call (.returns (.error error)) q') :
    (∃ item, call = .entering item ∧ q.fits item = false ∧
      error = .itemTooLarge item.utf8ByteSize q.maxItemLength) ∨
    error = .destroyed ∧ (q.free.closed = true ∨ q.ring.closed = true) := by
  cases h with
  | tooLarge hsize => exact Or.inl ⟨_, rfl, hsize, rfl⟩
  | refused hclosed => exact Or.inr ⟨rfl, Or.inl hclosed⟩
  | bounce hclosed => exact Or.inr ⟨rfl, Or.inr hclosed⟩

/-- A `put` into an open queue comes back with the item put, or found too long. -/
theorem PutCall.Moves.returns_of_open {q q' : Queue} {call : PutCall}
    {result : Except QueueError Unit} (h : PutCall.Moves q call (.returns result) q')
    (hring : q.ring.closed = false) (hfree : q.free.closed = false) :
    (call = .stored ∧ result = .ok ()) ∨
      ∃ item, call = .entering item ∧ q.fits item = false ∧
        result = .error (.itemTooLarge item.utf8ByteSize q.maxItemLength) := by
  cases h with
  | tooLarge hsize => exact Or.inr ⟨_, rfl, hsize, rfl⟩
  -- an open queue refuses nobody
  | refused hclosed => simp [hfree] at hclosed
  | bounce hclosed => simp [hring] at hclosed
  | finish => exact Or.inl ⟨rfl, rfl⟩

/-- The steps of a `get`. -/
inductive GetCall.Moves (q : Queue) :
    GetCall → Progress GetCall (Except QueueError String) → Queue → Prop where
  | refused (hclosed : q.filled.closed = true) :
      Moves q .entering (.returns (.error .destroyed)) q
  | enter {left : Nat} (hopen : q.filled.closed = false) (hleft : q.filled.permits = left + 1) :
      Moves q .entering (.goesOn .admitted) { q with filled := { permits := left } }
  | bounce (hclosed : q.ring.closed = true) : Moves q .admitted (.returns (.error .destroyed)) q
  | take {item : String} {ring : Ring} (hring : q.ring.take q.capacity = some (item, ring)) :
      Moves q .admitted (.goesOn (.taken item)) { q with ring := ring }
  | finish {item : String} :
      Moves q (.taken item) (.returns (.ok item)) { q with free := q.free.release }

/-- The steps of a `get`, inverted. -/
theorem GetCall.moves_of_step {q q' : Queue} {call : GetCall}
    {progress : Progress GetCall (Except QueueError String)}
    (hstep : call.step q = some (progress, q')) : GetCall.Moves q call progress q' := by
  cases call with
  | entering =>
    simp only [GetCall.step, Permits.acquire] at hstep
    cases hclosed : q.filled.closed with
    | true =>
      simp only [hclosed, ↓reduceIte, Option.some.injEq, Prod.mk.injEq] at hstep
      obtain ⟨rfl, rfl⟩ := hstep
      exact .refused hclosed
    | false =>
      cases hpermits : q.filled.permits with
      | zero => simp [hclosed, hpermits] at hstep
      | succ left =>
        simp only [hclosed, hpermits, Bool.false_eq_true, ↓reduceIte, Option.some.injEq,
          Prod.mk.injEq] at hstep
        obtain ⟨rfl, rfl⟩ := hstep
        exact .enter hclosed hpermits
  | admitted =>
    cases hring : q.ring.take q.capacity with
    | none =>
      simp only [GetCall.step, hring, Option.some.injEq, Prod.mk.injEq] at hstep
      obtain ⟨rfl, rfl⟩ := hstep
      refine .bounce ?_
      unfold Ring.take at hring
      split at hring
      · assumption
      · contradiction
    | some taken =>
      obtain ⟨item, ring⟩ := taken
      simp only [GetCall.step, hring, Option.some.injEq, Prod.mk.injEq] at hstep
      obtain ⟨rfl, rfl⟩ := hstep
      exact .take hring
  | taken item =>
    simp only [GetCall.step, Option.some.injEq, Prod.mk.injEq] at hstep
    obtain ⟨rfl, rfl⟩ := hstep
    exact .finish

/-- The steps of a `close`. -/
inductive CloseCall.Moves (q : Queue) : CloseCall → Progress CloseCall Bool → Queue → Prop where
  | late (hclosed : q.ring.closed = true) : Moves q .marking (.returns false) q
  | mark (hopen : q.ring.closed = false) :
      Moves q .marking (.goesOn .closingFree) { q with ring := q.ring.close }
  | closeFree : Moves q .closingFree (.goesOn .closingFilled) { q with free := q.free.close }
  | closeFilled : Moves q .closingFilled (.returns true) { q with filled := q.filled.close }

/-- The steps of a `close`, inverted. None of them waits. -/
theorem CloseCall.moves_of_step {q q' : Queue} {call : CloseCall}
    {progress : Progress CloseCall Bool}
    (hstep : call.step q = (progress, q')) : CloseCall.Moves q call progress q' := by
  cases call with
  | marking =>
    cases hclosed : q.ring.closed with
    | true =>
      simp only [CloseCall.step, hclosed, ↓reduceIte, Prod.mk.injEq] at hstep
      obtain ⟨rfl, rfl⟩ := hstep
      exact .late hclosed
    | false =>
      simp only [CloseCall.step, hclosed, Bool.false_eq_true, ↓reduceIte, Prod.mk.injEq] at hstep
      obtain ⟨rfl, rfl⟩ := hstep
      exact .mark hclosed
  | closingFree =>
    simp only [CloseCall.step, Prod.mk.injEq] at hstep
    obtain ⟨rfl, rfl⟩ := hstep
    exact .closeFree
  | closingFilled =>
    simp only [CloseCall.step, Prod.mk.injEq] at hstep
    obtain ⟨rfl, rfl⟩ := hstep
    exact .closeFilled

/-- The steps of a `destroy`: those of a `close`, and then the release of the slots. -/
inductive DestroyCall.Moves (q : Queue) :
    DestroyCall → Progress DestroyCall (Except QueueError Unit) → Queue → Prop where
  | close {call call' : CloseCall} {q' : Queue}
      (hmove : CloseCall.Moves q call (.goesOn call') q') :
      Moves q (.closing call) (.goesOn (.closing call')) q'
  | closed {call : CloseCall} {first : Bool} {q' : Queue}
      (hmove : CloseCall.Moves q call (.returns first) q') :
      Moves q (.closing call) (.goesOn .releasing) q'
  | late (hdestroyed : q.ring.destroyed = true) :
      Moves q .releasing (.returns (.error .alreadyDestroyed)) q
  | release (hlive : q.ring.destroyed = false) :
      Moves q .releasing (.returns (.ok ())) { q with ring := q.ring.destroy }

/-- The steps of a `destroy`, inverted. -/
theorem DestroyCall.moves_of_step {q q' : Queue} {call : DestroyCall}
    {progress : Progress DestroyCall (Except QueueError Unit)}
    (hstep : call.step q = (progress, q')) : DestroyCall.Moves q call progress q' := by
  cases call with
  | closing call =>
    rcases hclose : call.step q with ⟨call' | first, q₁⟩
    · simp only [DestroyCall.step, hclose, Prod.mk.injEq] at hstep
      obtain ⟨rfl, rfl⟩ := hstep
      exact .close (CloseCall.moves_of_step hclose)
    · simp only [DestroyCall.step, hclose, Prod.mk.injEq] at hstep
      obtain ⟨rfl, rfl⟩ := hstep
      exact .closed (CloseCall.moves_of_step hclose)
  | releasing =>
    cases hdestroyed : q.ring.destroyed with
    | true =>
      simp only [DestroyCall.step, hdestroyed, ↓reduceIte, Prod.mk.injEq] at hstep
      obtain ⟨rfl, rfl⟩ := hstep
      exact .late hdestroyed
    | false =>
      simp only [DestroyCall.step, hdestroyed, Bool.false_eq_true, ↓reduceIte,
        Prod.mk.injEq] at hstep
      obtain ⟨rfl, rfl⟩ := hstep
      exact .release hdestroyed

/-- The steps of any call. -/
inductive Call.Moves (q : Queue) : Call → Progress Call Answer → Queue → Prop where
  | put {call : PutCall} {progress : Progress PutCall (Except QueueError Unit)} {q' : Queue}
      (hmove : PutCall.Moves q call progress q') : Moves q (.put call) (progress.map .put .put) q'
  | get {call : GetCall} {progress : Progress GetCall (Except QueueError String)} {q' : Queue}
      (hmove : GetCall.Moves q call progress q') : Moves q (.get call) (progress.map .get .get) q'
  | close {call : CloseCall} {progress : Progress CloseCall Bool} {q' : Queue}
      (hmove : CloseCall.Moves q call progress q') :
      Moves q (.close call) (progress.map .close .close) q'
  | destroy {call : DestroyCall} {progress : Progress DestroyCall (Except QueueError Unit)}
      {q' : Queue} (hmove : DestroyCall.Moves q call progress q') :
      Moves q (.destroy call) (progress.map .destroy .destroy) q'
  | count : Moves q .count (.returns (.count q.count)) q
  | enterDisplay : Moves q (.display .entering) (.goesOn (.display .readingFree)) q
  | readFree : Moves q (.display .readingFree)
      (.goesOn (.display (.readingFilled q.free.permits))) q
  | readFilled {freePermits : Nat} : Moves q (.display (.readingFilled freePermits))
      (.returns (.display (q.recordWith freePermits q.filled.permits))) q

/-- The steps of any call, inverted. -/
theorem Call.moves_of_step {q q' : Queue} {call : Call} {progress : Progress Call Answer}
    (hstep : call.step q = some (progress, q')) : Call.Moves q call progress q' := by
  cases call with
  | put call =>
    obtain ⟨⟨p, q₁⟩, hp, heq⟩ := Option.map_eq_some_iff.mp hstep
    obtain ⟨rfl, rfl⟩ := Prod.mk.injEq .. ▸ heq
    exact .put (PutCall.moves_of_step hp)
  | get call =>
    obtain ⟨⟨p, q₁⟩, hp, heq⟩ := Option.map_eq_some_iff.mp hstep
    obtain ⟨rfl, rfl⟩ := Prod.mk.injEq .. ▸ heq
    exact .get (GetCall.moves_of_step hp)
  | close call =>
    rcases hc : call.step q with ⟨p, q₁⟩
    simp only [Call.step, hc, Option.some.injEq, Prod.mk.injEq] at hstep
    obtain ⟨rfl, rfl⟩ := hstep
    exact .close (CloseCall.moves_of_step hc)
  | destroy call =>
    rcases hd : call.step q with ⟨p, q₁⟩
    simp only [Call.step, hd, Option.some.injEq, Prod.mk.injEq] at hstep
    obtain ⟨rfl, rfl⟩ := hstep
    exact .destroy (DestroyCall.moves_of_step hd)
  | count =>
    obtain ⟨rfl, rfl⟩ := Prod.mk.injEq .. ▸ Option.some.inj hstep
    exact .count
  | display call =>
    cases call with
    | entering =>
      obtain ⟨rfl, rfl⟩ := Prod.mk.injEq .. ▸ Option.some.inj hstep
      exact .enterDisplay
    | readingFree =>
      obtain ⟨rfl, rfl⟩ := Prod.mk.injEq .. ▸ Option.some.inj hstep
      exact .readFree
    | readingFilled freePermits =>
      obtain ⟨rfl, rfl⟩ := Prod.mk.injEq .. ▸ Option.some.inj hstep
      exact .readFilled

/-! ## Phases

Two calls in the same phase are the same to all others, whatever they carry. A call that has not yet
got past its first step, and one that only looks, is in no phase. -/

/-- How far a call has come, as far as it matters to the other calls of the queue. -/
inductive Phase where
  /-- A `put` that has its permit and not yet entered the ring. -/
  | putAdmitted
  /-- A `put` whose item is in the ring. -/
  | putStored
  /-- A `get` that has its permit and not yet entered the ring. -/
  | getAdmitted
  /-- A `get` whose item is out of the ring. -/
  | getTaken
  /-- A `close` that has marked the ring. -/
  | closingFree
  /-- A `close` that has closed the counter of free slots as well. -/
  | closingFilled
  /-- A `destroy` that has found or made the ring closed. -/
  | releasing
  deriving DecidableEq, Repr

/-- The phase of a `put`. -/
def PutCall.phase? : PutCall → Option Phase
  | .entering _ => none
  | .admitted _ => some .putAdmitted
  | .stored => some .putStored

/-- The phase of a `get`. -/
def GetCall.phase? : GetCall → Option Phase
  | .entering => none
  | .admitted => some .getAdmitted
  | .taken _ => some .getTaken

/-- The phase of a `close`. -/
def CloseCall.phase? : CloseCall → Option Phase
  | .marking => none
  | .closingFree => some .closingFree
  | .closingFilled => some .closingFilled

/-- A `destroy` is a `close` until the ring is closed. -/
def DestroyCall.phase? : DestroyCall → Option Phase
  | .closing call => call.phase?
  | .releasing => some .releasing

/-- The phase of a call. -/
def Call.phase? : Call → Option Phase
  | .put call => call.phase?
  | .get call => call.phase?
  | .close call => call.phase?
  | .destroy call => call.phase?
  | .count | .display _ => none

/-- The phase after a step; a call that has returned is in none. -/
def Progress.phase? {κ ρ : Type} (phase? : κ → Option Phase) : Progress κ ρ → Option Phase
  | .goesOn call => phase? call
  | .returns _ => none

@[simp] theorem Progress.phase?_goesOn {κ ρ : Type} (phase? : κ → Option Phase) (call : κ) :
    (goesOn call : Progress κ ρ).phase? phase? = phase? call := rfl

@[simp] theorem Progress.phase?_returns {κ ρ : Type} (phase? : κ → Option Phase) (answer : ρ) :
    (returns answer : Progress κ ρ).phase? phase? = none := rfl

theorem Progress.phase?_map {κ κ' ρ ρ' : Type} (phase? : κ' → Option Phase) (inside : κ → κ')
    (after : ρ → ρ') (progress : Progress κ ρ) :
    (progress.map inside after).phase? phase? =
      progress.phase? fun call => phase? (inside call) := by
  cases progress <;> rfl

/-- The item that a `put` still carries. -/
def PutCall.item? : PutCall → Option String
  | .entering item | .admitted item => some item
  | .stored => none

/-- A `put` carries its item until it has stored it, and never another one. -/
theorem PutCall.Moves.item?_of_goesOn {q q' : Queue} {call call' : PutCall} {item : String}
    (hmove : PutCall.Moves q call (.goesOn call') q') (hitem : call'.item? = some item) :
    call.item? = some item := by
  cases hmove with
  | enter => exact hitem
  | store => contradiction

theorem Call.isSome_step_of_phase {call : Call} {phase : Phase} (q : Queue)
    (hphase : call.phase? = some phase) : (call.step q).isSome = true := by
  cases call with
  | put call =>
    cases call with
    | entering item => simp [Call.phase?, PutCall.phase?] at hphase
    | admitted item => simp only [Call.step, PutCall.step]; split <;> rfl
    | stored => rfl
  | get call =>
    cases call with
    | entering => simp [Call.phase?, GetCall.phase?] at hphase
    | admitted => simp only [Call.step, GetCall.step]; split <;> rfl
    | taken item => rfl
  | close call => rfl
  | destroy call => rfl
  | count => rfl
  | display call => cases call <;> rfl

/-! ## Waiting

A call that cannot make its next step is about to claim a slot and finds an open counter without
permits. At no other place does a call wait for others. -/

/-- A `put` waits only at its start, for a permit of an open counter. -/
theorem PutCall.blocked_of_step {q : Queue} {call : PutCall} (hstep : call.step q = none) :
    ∃ item, call = .entering item ∧ q.fits item = true ∧ q.free.closed = false ∧
      q.free.permits = 0 := by
  cases call with
  | entering item =>
    simp only [PutCall.step] at hstep
    split at hstep
    · next hfits =>
      split at hstep
      · contradiction
      · contradiction
      · next hwaits =>
        obtain ⟨hopen, hpermits⟩ := (Permits.acquire_eq_waits_iff _).mp hwaits
        exact ⟨item, rfl, hfits, hopen, hpermits⟩
    · contradiction
  | admitted item =>
    simp only [PutCall.step] at hstep
    split at hstep <;> contradiction
  | stored => contradiction

theorem GetCall.blocked_of_step {q : Queue} {call : GetCall} (hstep : call.step q = none) :
    call = .entering ∧ q.filled.closed = false ∧ q.filled.permits = 0 := by
  cases call with
  | entering =>
    simp only [GetCall.step] at hstep
    split at hstep
    · contradiction
    · contradiction
    · next hwaits => exact ⟨rfl, (Permits.acquire_eq_waits_iff _).mp hwaits⟩
  | admitted =>
    simp only [GetCall.step] at hstep
    split at hstep <;> contradiction
  | taken item => contradiction

/-! ## Turns

Workers, drains and the driver all use queues through calls, each inside of something larger. To a
queue it does not matter what that is: it sees a step of a call, or none. -/

/-- One step of one thread, as a queue sees it: the thread makes a step of its call of this queue,
or it is in no phase of one and leaves the queue alone. -/
inductive Queue.Turn (q : Queue) (call : Option Call) : Option Phase → Queue → Prop where
  | idle (hidle : call.bind Call.phase? = none) : Turn q call none q
  | step {c : Call} {progress : Progress Call Answer} {q' : Queue} (hcall : call = some c)
      (hstep : c.step q = some (progress, q')) : Turn q call (progress.phase? Call.phase?) q'

namespace Queue.Turn

variable {q q' : Queue}

theorem of_put {call : PutCall} {progress : Progress PutCall (Except QueueError Unit)}
    (hstep : call.step q = some (progress, q')) :
    q.Turn (some (.put call)) (progress.phase? PutCall.phase?) q' := by
  have hcall : (Call.put call).step q = some (progress.map .put .put, q') := by
    simp [Call.step, hstep]
  have hturn : q.Turn (some (.put call)) _ q' := .step rfl hcall
  rwa [Progress.phase?_map] at hturn

theorem of_get {call : GetCall} {progress : Progress GetCall (Except QueueError String)}
    (hstep : call.step q = some (progress, q')) :
    q.Turn (some (.get call)) (progress.phase? GetCall.phase?) q' := by
  have hcall : (Call.get call).step q = some (progress.map .get .get, q') := by
    simp [Call.step, hstep]
  have hturn : q.Turn (some (.get call)) _ q' := .step rfl hcall
  rwa [Progress.phase?_map] at hturn

theorem of_close {call : CloseCall} {progress : Progress CloseCall Bool}
    (hstep : call.step q = (progress, q')) :
    q.Turn (some (.close call)) (progress.phase? CloseCall.phase?) q' := by
  have hcall : (Call.close call).step q = some (progress.map .close .close, q') := by
    simp [Call.step, hstep]
  have hturn : q.Turn (some (.close call)) _ q' := .step rfl hcall
  rwa [Progress.phase?_map] at hturn

theorem of_destroy {call : DestroyCall} {progress : Progress DestroyCall (Except QueueError Unit)}
    (hstep : call.step q = (progress, q')) :
    q.Turn (some (.destroy call)) (progress.phase? DestroyCall.phase?) q' := by
  have hcall : (Call.destroy call).step q = some (progress.map .destroy .destroy, q') := by
    simp [Call.step, hstep]
  have hturn : q.Turn (some (.destroy call)) _ q' := .step rfl hcall
  rwa [Progress.phase?_map] at hturn

end Queue.Turn

theorem Queue.Turn.geometry {q q' : Queue} {call : Option Call} {after : Option Phase}
    (hturn : q.Turn call after q') :
    q'.name = q.name ∧ q'.capacity = q.capacity ∧ q'.slotLength = q.slotLength := by
  have hclose : ∀ {call : CloseCall} {progress : Progress CloseCall Bool} {q₁ : Queue},
      CloseCall.Moves q call progress q₁ →
        q₁.name = q.name ∧ q₁.capacity = q.capacity ∧ q₁.slotLength = q.slotLength := by
    intro call progress q₁ hmove
    cases hmove <;> exact ⟨rfl, rfl, rfl⟩
  cases hturn with
  | idle => exact ⟨rfl, rfl, rfl⟩
  | step hcall hstep =>
    cases Call.moves_of_step hstep with
    | put hmove => cases hmove <;> exact ⟨rfl, rfl, rfl⟩
    | get hmove => cases hmove <;> exact ⟨rfl, rfl, rfl⟩
    | close hmove => exact hclose hmove
    | destroy hmove =>
      cases hmove with
      | close hmove | closed hmove => exact hclose hmove
      | late | release => exact ⟨rfl, rfl, rfl⟩
    | count | enterDisplay | readFree | readFilled => exact ⟨rfl, rfl, rfl⟩

theorem CloseCall.Moves.closed_mono {q q' : Queue} {call : CloseCall}
    {progress : Progress CloseCall Bool} (hmove : CloseCall.Moves q call progress q')
    (hclosed : q.ring.closed = true) : q'.ring.closed = true := by
  cases hmove with
  | late | closeFree | closeFilled => exact hclosed
  | mark => rfl

/-- A closed ring stays closed, whoever makes a step. -/
theorem Queue.Turn.closed_mono {q q' : Queue} {call : Option Call} {after : Option Phase}
    (hturn : q.Turn call after q') (hclosed : q.ring.closed = true) : q'.ring.closed = true := by
  cases hturn with
  | idle => exact hclosed
  | step hcall hstep =>
    cases Call.moves_of_step hstep with
    | put hmove =>
      cases hmove with
      | store hring => exact absurd hclosed (by simp [Ring.closed_of_store hring])
      | _ => exact hclosed
    | get hmove =>
      cases hmove with
      | take hring => exact absurd hclosed (by simp [Ring.closed_of_take hring])
      | _ => exact hclosed
    | close hmove => exact hmove.closed_mono hclosed
    | destroy hmove =>
      cases hmove with
      | close hmove | closed hmove => exact hmove.closed_mono hclosed
      | late | release => exact hclosed
    | count | enterDisplay | readFree | readFilled => exact hclosed

/-- Does a call leave the queue as open as it is? -/
def Call.leavesOpen : Call → Bool
  | .close _ | .destroy _ => false
  | .put _ | .get _ | .count | .display _ => true

/-- Such a call does not close the ring. -/
theorem Queue.Turn.closed_frame {q q' : Queue} {call : Option Call} {after : Option Phase}
    (hturn : q.Turn call after q') (hopen : ∀ c, call = some c → c.leavesOpen = true) :
    q'.ring.closed = q.ring.closed := by
  cases hturn with
  | idle => rfl
  | step hcall hstep =>
    have hopen := hopen _ hcall
    cases Call.moves_of_step hstep with
    | put hmove =>
      cases hmove with
      | store hring => exact (Ring.store_frame hring).2.2.1
      | _ => rfl
    | get hmove =>
      cases hmove with
      | take hring => exact (Ring.take_frame hring).2.2.1
      | _ => rfl
    | close | destroy => contradiction
    | count | enterDisplay | readFree | readFilled => rfl

/-- A `close` gives up no slots. -/
theorem CloseCall.Moves.destroyed_eq {q q' : Queue} {call : CloseCall}
    {progress : Progress CloseCall Bool} (hmove : CloseCall.Moves q call progress q') :
    q'.ring.destroyed = q.ring.destroyed := by
  cases hmove <;> rfl

/-- Only the last step of a `destroy` gives up the slots. -/
theorem Queue.Turn.destroyed_frame {q q' : Queue} {call : Option Call} {after : Option Phase}
    (hturn : q.Turn call after q') (hcall : call ≠ some (.destroy .releasing)) :
    q'.ring.destroyed = q.ring.destroyed := by
  cases hturn with
  | idle => rfl
  | step hsome hstep =>
    -- the items that go in and out leave the mark alone
    cases Call.moves_of_step hstep with
    | put hmove =>
      cases hmove with
      | store hring => exact (Ring.store_frame hring).2.2.2
      | _ => rfl
    | get hmove =>
      cases hmove with
      | take hring => exact (Ring.take_frame hring).2.2.2
      | _ => rfl
    | close hmove => exact hmove.destroyed_eq
    | destroy hmove =>
      cases hmove with
      | close hmove | closed hmove => exact hmove.destroyed_eq
      | late | release => exact absurd hsome hcall
    | count | enterDisplay | readFree | readFilled => rfl

end HostLookup
