import HostLookup.Proofs.Queue.Traffic

/-!
# The three views of the fill level

A queue knows how full it is in three ways: the count in the ring and the two counters of permits.
They agree up to the calls that are under way, and `Queue.Balanced` says how, given the number of
calls in each phase. The property belongs to the queue and those numbers alone, so it carries over
to every system of threads around a queue:

* **`Queue.Balanced.ofGeometry`**: a new queue is balanced when nobody calls it.
* **`Queue.Balanced.turn`**: a step of one thread keeps the balance, if the numbers change as the
  phase of that thread does (`Phase.Shift`).

The flags obey a law of the same kind: between the marking of the ring and the closing of a counter
there is exactly one `close` on its way.
-/

namespace HostLookup

/-! ## Counting calls by phase

The number of calls in a phase is a count over all threads. When one of them moves, the numbers of
at most two phases change, which is all that `Phase.Shift` says. So it does not matter whether the
threads are a list or a family with names. -/

/-- One for the phase that a thread is in, zero for all others. -/
def Phase.mark (at? : Option Phase) (p : Phase) : Nat :=
  if at? = some p then 1 else 0

@[simp] theorem Phase.mark_none (p : Phase) : Phase.mark none p = 0 := rfl

@[simp] theorem Phase.mark_some (p p' : Phase) :
    Phase.mark (some p) p' = if p = p' then 1 else 0 := by
  simp [Phase.mark]

/-- The numbers of calls by phase, before and after one thread has gone from one phase to another
and all others have stayed in theirs. -/
def Phase.Shift (before after : Option Phase) (calls calls' : Phase → Nat) : Prop :=
  ∀ p, calls' p + mark before p = calls p + mark after p

/-- Replacing one entry of a list replaces its share of a count. -/
theorem countP_set_add {α : Type} (p : α → Bool) {l : List α} {i : Nat} {a : α} (b : α)
    (ha : l[i]? = some a) :
    (l.set i b).countP p + (p a).toNat = l.countP p + (p b).toNat := by
  obtain ⟨hi, rfl⟩ := List.getElem?_eq_some_iff.mp ha
  have hpos : p l[i] = true → 0 < l.countP p := fun hp =>
    List.countP_pos_iff.mpr ⟨l[i], List.getElem_mem hi, hp⟩
  rw [List.countP_set hi]
  cases h : p l[i] with
  | false => cases p b <;> simp
  | true =>
    have := hpos h
    cases p b <;> simp <;> omega

/-- One thread of a list moves. -/
theorem Phase.Shift.of_set {α : Type} (f : α → Option Phase) {l : List α} {i : Nat} {a b : α}
    (ha : l[i]? = some a) :
    Shift (f a) (f b) (fun p => l.countP (f · = some p))
      (fun p => (l.set i b).countP (f · = some p)) := by
  intro p
  obtain ⟨hi, rfl⟩ := List.getElem?_eq_some_iff.mp ha
  have hpos : f l[i] = some p → 0 < l.countP (f · = some p) := fun hp =>
    List.countP_pos_iff.mpr ⟨l[i], List.getElem_mem hi, by simpa using hp⟩
  simp only [List.countP_set hi, decide_eq_true_eq, Phase.mark]
  split
  · next hp =>
    -- one call less in this phase, but there was one
    have := hpos hp
    omega
  · omega

/-- One of several named threads moves. -/
theorem Phase.Shift.of_update {α : Type} (f f' : α → Option Phase) {names : List α} {a : α}
    (hnodup : names.Nodup) (ha : a ∈ names) (hrest : ∀ b, b ≠ a → f' b = f b) :
    Shift (f a) (f' a) (fun p => names.countP (f · = some p))
      (fun p => names.countP (f' · = some p)) := by
  intro p
  -- the thread that moves stands between those in front and those behind it
  obtain ⟨front, back, rfl⟩ := List.append_of_mem ha
  have hnotin : a ∉ front ∧ a ∉ back := by
    simp only [List.nodup_append, List.nodup_cons, List.mem_cons] at hnodup
    obtain ⟨-, ⟨hback, -⟩, hfront⟩ := hnodup
    exact ⟨fun hmem => hfront a hmem a (Or.inl rfl) rfl, hback⟩
  have hsame : ∀ l : List α, a ∉ l → l.countP (f' · = some p) = l.countP (f · = some p) := by
    intro l hl
    refine List.countP_congr fun b hb => ?_
    have hne : b ≠ a := fun heq => hl (heq ▸ hb)
    simp [hrest b hne]
  simp only [List.countP_append, List.countP_cons, hsame front hnotin.1, hsame back hnotin.2,
    decide_eq_true_eq, Phase.mark]
  omega

/-- A `close` gives up no slots. -/
theorem CloseCall.mark_releasing (call : CloseCall) : Phase.mark call.phase? .releasing = 0 := by
  cases call <;> rfl

theorem CloseCall.mark_releasing_of_progress (progress : Progress CloseCall Bool) :
    Phase.mark (progress.phase? CloseCall.phase?) .releasing = 0 := by
  cases progress with
  | goesOn call => exact call.mark_releasing
  | returns => rfl

/-! ## The law

A permit is always in one of six places: it is free, it is filled, or a call that is under way has
it in one of four phases. At an open ring the six numbers add up to the capacity. -/

/-- The counters of a queue and its ring agree up to the calls that are under way. -/
structure Queue.Balanced (q : Queue) (calls : Phase → Nat) : Prop where
  /-- `head` is a slot, also of a ring that has given up its slots. -/
  head_lt : q.ring.head < q.capacity
  wellFormed : q.ring.destroyed = false → q.ring.WellFormed q.capacity
  count_destroyed : q.ring.destroyed = true → q.ring.count = 0
  closed_of_destroyed : q.ring.destroyed = true → q.ring.closed = true
  closed_of_releasing : 0 < calls .releasing → q.ring.closed = true
  /-- Permits are lost at a closed ring, but none is ever made. -/
  permits_le : q.free.permits + q.filled.permits + calls .putAdmitted + calls .putStored +
    calls .getAdmitted + calls .getTaken ≤ q.capacity
  permits_eq : q.ring.closed = false → q.free.permits + q.filled.permits + calls .putAdmitted +
    calls .putStored + calls .getAdmitted + calls .getTaken = q.capacity
  count_eq : q.ring.closed = false →
    q.ring.count = q.filled.permits + calls .putStored + calls .getAdmitted
  /-- The ring is marked; the counter of free slots is closed, or one `close` is about to do so. -/
  free_closed : calls .closingFree + q.free.closed.toNat = q.ring.closed.toNat
  filled_closed : calls .closingFree + calls .closingFilled + q.filled.closed.toNat =
    q.ring.closed.toNat

namespace Queue.Balanced

variable {q q' : Queue} {calls calls' : Phase → Nat}

/-- All slots are free, and nobody calls. -/
theorem ofGeometry (name : String) {capacity : Nat} (slotLength : Nat) (hpos : 0 < capacity) :
    (Queue.ofGeometry name capacity slotLength).Balanced fun _ => 0 where
  head_lt := hpos
  wellFormed _ := Ring.wellFormed_empty hpos
  count_destroyed _ := rfl
  closed_of_destroyed hd := by simp [Queue.ofGeometry, Ring.empty] at hd
  closed_of_releasing hpos := absurd hpos (Nat.lt_irrefl 0)
  permits_le := by simp [Queue.ofGeometry]
  permits_eq _ := by simp [Queue.ofGeometry]
  count_eq _ := rfl
  free_closed := rfl
  filled_closed := rfl

theorem live_of_open (h : q.Balanced calls) (hopen : q.ring.closed = false) :
    q.ring.destroyed = false := by
  cases hd : q.ring.destroyed with
  | false => rfl
  | true => exact absurd (h.closed_of_destroyed hd) (by simp [hopen])

theorem count_le (h : q.Balanced calls) : q.ring.count ≤ q.capacity := by
  cases hd : q.ring.destroyed with
  | false => exact (h.wellFormed hd).count_le
  | true => exact h.count_destroyed hd ▸ Nat.zero_le _

/-- A `put` that finds the ring open finds a free slot. -/
theorem room (h : q.Balanced calls) (hput : 0 < calls .putAdmitted)
    (hopen : q.ring.closed = false) : q.ring.count < q.capacity := by
  have hpermits := h.permits_eq hopen
  have hcount := h.count_eq hopen
  omega

/-- A `get` that finds the ring open finds an item. -/
theorem count_pos (h : q.Balanced calls) (hget : 0 < calls .getAdmitted)
    (hopen : q.ring.closed = false) : 0 < q.ring.count := by
  have hcount := h.count_eq hopen
  omega

theorem counters_open (h : q.Balanced calls) (hopen : q.ring.closed = false) :
    q.free.closed = false ∧ q.filled.closed = false := by
  have hfree := h.free_closed
  have hfilled := h.filled_closed
  simp only [hopen, Bool.toNat_false, Nat.add_eq_zero_iff, Bool.toNat_eq_zero] at hfree hfilled
  exact ⟨hfree.2, hfilled.2⟩

theorem closed_of_free (h : q.Balanced calls) (hclosed : q.free.closed = true) :
    q.ring.closed = true := by
  cases hring : q.ring.closed with
  | true => rfl
  | false => exact absurd hclosed (by simp [(h.counters_open hring).1])

theorem closed_of_filled (h : q.Balanced calls) (hclosed : q.filled.closed = true) :
    q.ring.closed = true := by
  cases hring : q.ring.closed with
  | true => rfl
  | false => exact absurd hclosed (by simp [(h.counters_open hring).2])

/-- At a closed ring that no `close` is about to leave, both counters are closed. -/
theorem counters_closed (h : q.Balanced calls) (hclosed : q.ring.closed = true)
    (hfree : calls .closingFree = 0) (hfilled : calls .closingFilled = 0) :
    q.free.closed = true ∧ q.filled.closed = true := by
  have h₁ := h.free_closed
  have h₂ := h.filled_closed
  simp only [hclosed, hfree, hfilled, Bool.toNat_true, Nat.zero_add] at h₁ h₂
  exact ⟨Bool.toNat_eq_one.mp h₁, Bool.toNat_eq_one.mp h₂⟩

/-- A `close` that is on its way has marked the ring. -/
theorem closed_of_closing (h : q.Balanced calls)
    (hclosing : 0 < calls .closingFree + calls .closingFilled) : q.ring.closed = true := by
  cases hc : q.ring.closed with
  | true => rfl
  | false =>
    have hfilled := h.filled_closed
    rw [hc, Bool.toNat_false] at hfilled
    omega

/-! ## Steps keep the balance

Most steps touch one counter, or the ring, or nothing at all, so most fields of the law carry over
as they are; what is left is the arithmetic of permits and calls. -/

/-- A thread that was in no phase and is in none leaves all numbers as they were. -/
theorem calls_eq (hshift : Phase.Shift none none calls calls') : calls' = calls :=
  funext fun p => by simpa using hshift p

/-- Permits change hands, between the counters and the calls. The ring stays as it is, and nobody
comes any further with closing. -/
theorem of_permits {free filled : Permits} (h : q.Balanced calls)
    (hfree : free.closed = q.free.closed) (hfilled : filled.closed = q.filled.closed)
    (hclosingFree : calls' .closingFree = calls .closingFree)
    (hclosingFilled : calls' .closingFilled = calls .closingFilled)
    (hreleasing : calls' .releasing = calls .releasing)
    (hle : free.permits + filled.permits + calls' .putAdmitted + calls' .putStored +
        calls' .getAdmitted + calls' .getTaken ≤
      q.free.permits + q.filled.permits + calls .putAdmitted + calls .putStored +
        calls .getAdmitted + calls .getTaken)
    (heq : q.ring.closed = false →
      free.permits + filled.permits + calls' .putAdmitted + calls' .putStored +
          calls' .getAdmitted + calls' .getTaken =
        q.free.permits + q.filled.permits + calls .putAdmitted + calls .putStored +
          calls .getAdmitted + calls .getTaken ∧
      filled.permits + calls' .putStored + calls' .getAdmitted =
        q.filled.permits + calls .putStored + calls .getAdmitted) :
    Queue.Balanced { q with free := free, filled := filled } calls' where
  head_lt := h.head_lt
  wellFormed := h.wellFormed
  count_destroyed := h.count_destroyed
  closed_of_destroyed := h.closed_of_destroyed
  closed_of_releasing hpos := h.closed_of_releasing (hreleasing ▸ hpos)
  permits_le := Nat.le_trans hle h.permits_le
  permits_eq hopen := (heq hopen).1.trans (h.permits_eq hopen)
  count_eq hopen := (h.count_eq hopen).trans (heq hopen).2.symm
  free_closed := by
    show calls' .closingFree + free.closed.toNat = q.ring.closed.toNat
    rw [hclosingFree, hfree]
    exact h.free_closed
  filled_closed := by
    show calls' .closingFree + calls' .closingFilled + filled.closed.toNat = q.ring.closed.toNat
    rw [hclosingFree, hclosingFilled, hfilled]
    exact h.filled_closed

/-- A section inside of an open ring: the items are one more or one less, and so are the calls that
account for them. -/
theorem of_ring {ring : Ring} (h : q.Balanced calls) (hopen : q.ring.closed = false)
    (hwf : ring.WellFormed q.capacity) (hclosed : ring.closed = q.ring.closed)
    (hdestroyed : ring.destroyed = q.ring.destroyed)
    (hclosingFree : calls' .closingFree = calls .closingFree)
    (hclosingFilled : calls' .closingFilled = calls .closingFilled)
    (hreleasing : calls' .releasing = calls .releasing)
    (hpermits : calls' .putAdmitted + calls' .putStored + calls' .getAdmitted + calls' .getTaken =
      calls .putAdmitted + calls .putStored + calls .getAdmitted + calls .getTaken)
    (hcount : ring.count + calls .putStored + calls .getAdmitted =
      q.ring.count + calls' .putStored + calls' .getAdmitted) :
    Queue.Balanced { q with ring := ring } calls' := by
  have hlive := h.live_of_open hopen
  have hle := h.permits_le
  have heq := h.permits_eq hopen
  have hlevel := h.count_eq hopen
  refine ⟨hwf.head_lt, fun _ => hwf, ?_, ?_, ?_, ?_, fun _ => ?_, fun _ => ?_, ?_, ?_⟩
  · simp [hdestroyed, hlive]
  · simp [hdestroyed, hlive]
  · rw [hreleasing, hclosed]
    exact h.closed_of_releasing
  · show q.free.permits + q.filled.permits + _ + _ + _ + _ ≤ q.capacity
    omega
  · show q.free.permits + q.filled.permits + _ + _ + _ + _ = q.capacity
    omega
  · show ring.count = q.filled.permits + _ + _
    omega
  · rw [hclosingFree, hclosed]
    exact h.free_closed
  · rw [hclosingFree, hclosingFilled, hclosed]
    exact h.filled_closed

/-- **Every step of a `put`** keeps the balance: its permit goes from the free ones through the call
to the filled ones. -/
theorem put {call : PutCall} {progress : Progress PutCall (Except QueueError Unit)}
    (h : q.Balanced calls) (hmove : PutCall.Moves q call progress q')
    (hshift : Phase.Shift call.phase? (progress.phase? PutCall.phase?) calls calls') :
    q'.Balanced calls' := by
  have h₁ := hshift .putAdmitted
  have h₂ := hshift .putStored
  have h₃ := hshift .getAdmitted
  have h₄ := hshift .getTaken
  have h₅ := hshift .closingFree
  have h₆ := hshift .closingFilled
  have h₇ := hshift .releasing
  cases hmove with
  | tooLarge | refused => exact calls_eq hshift ▸ h
  | enter hfits hopen hleft =>
    -- a permit for a free slot becomes a call that has one
    simp [PutCall.phase?] at h₁ h₂ h₃ h₄ h₅ h₆ h₇
    refine h.of_permits hopen.symm rfl h₅ h₆ h₇ ?_ fun _ => ⟨?_, ?_⟩
    · simp only; omega
    · simp only; omega
    · omega
  | bounce hclosed =>
    -- the permit of this call is lost, which only a closed ring allows
    simp [PutCall.phase?] at h₁ h₂ h₃ h₄ h₅ h₆ h₇
    refine h.of_permits rfl rfl h₅ h₆ h₇ ?_ fun hopen => ?_
    · omega
    · simp [hclosed] at hopen
  | store hring =>
    simp [PutCall.phase?] at h₁ h₂ h₃ h₄ h₅ h₆ h₇
    have hopen := Ring.closed_of_store hring
    -- the call itself is one of those that hold a permit, so there is room
    have hroom : q.ring.count < q.capacity := h.room (by omega) hopen
    obtain ⟨-, hcount, hclosed, hdestroyed⟩ := Ring.store_frame hring
    have hwf := (h.wellFormed (h.live_of_open hopen)).store hroom hring
    exact h.of_ring hopen hwf hclosed hdestroyed h₅ h₆ h₇ (by omega) (by omega)
  | finish =>
    -- the permit of the call becomes one for a filled slot
    simp [PutCall.phase?] at h₁ h₂ h₃ h₄ h₅ h₆ h₇
    refine h.of_permits rfl rfl h₅ h₆ h₇ ?_ fun _ => ⟨?_, ?_⟩
    · simp only [Permits.release]; omega
    · simp only [Permits.release]; omega
    · simp only [Permits.release]; omega

/-- **Every step of a `get`**: the way of the permit is the other one round. -/
theorem get {call : GetCall} {progress : Progress GetCall (Except QueueError String)}
    (h : q.Balanced calls) (hmove : GetCall.Moves q call progress q')
    (hshift : Phase.Shift call.phase? (progress.phase? GetCall.phase?) calls calls') :
    q'.Balanced calls' := by
  have h₁ := hshift .putAdmitted
  have h₂ := hshift .putStored
  have h₃ := hshift .getAdmitted
  have h₄ := hshift .getTaken
  have h₅ := hshift .closingFree
  have h₆ := hshift .closingFilled
  have h₇ := hshift .releasing
  cases hmove with
  | refused => exact calls_eq hshift ▸ h
  -- a permit for an item becomes a call that has one
  | enter hopen hleft =>
    simp [GetCall.phase?] at h₁ h₂ h₃ h₄ h₅ h₆ h₇
    refine h.of_permits rfl hopen.symm h₅ h₆ h₇ ?_ fun _ => ⟨?_, ?_⟩
    · simp only; omega
    · simp only; omega
    · simp only; omega
  | bounce hclosed =>
    simp [GetCall.phase?] at h₁ h₂ h₃ h₄ h₅ h₆ h₇
    refine h.of_permits rfl rfl h₅ h₆ h₇ ?_ fun hopen => ?_
    · omega
    · simp [hclosed] at hopen
  | take hring =>
    simp [GetCall.phase?] at h₁ h₂ h₃ h₄ h₅ h₆ h₇
    have hopen := Ring.closed_of_take hring
    -- the call itself holds a permit for an item, so there is one
    have hsome : 0 < q.ring.count := h.count_pos (by omega) hopen
    obtain ⟨-, hcount, hclosed, hdestroyed⟩ := Ring.take_frame hring
    have hwf := (h.wellFormed (h.live_of_open hopen)).take hsome hring
    exact h.of_ring hopen hwf hclosed hdestroyed h₅ h₆ h₇ (by omega) (by omega)
  -- the permit of the call becomes one for a free slot
  | finish =>
    simp [GetCall.phase?] at h₁ h₂ h₃ h₄ h₅ h₆ h₇
    refine h.of_permits rfl rfl h₅ h₆ h₇ ?_ fun _ => ⟨?_, ?_⟩
    · simp only [Permits.release]; omega
    · simp only [Permits.release]; omega
    · omega

/-- A step of a `close`, which may be part of a `destroy`: the calls that are about to give up the
slots are left to the caller. -/
theorem close {call : CloseCall} {progress : Progress CloseCall Bool}
    (h : q.Balanced calls) (hmove : CloseCall.Moves q call progress q')
    (hshift : ∀ p, p ≠ .releasing → calls' p + Phase.mark call.phase? p =
      calls p + Phase.mark (progress.phase? CloseCall.phase?) p)
    (hreleasing : 0 < calls' .releasing → q'.ring.closed = true) : q'.Balanced calls' := by
  have h₁ := hshift .putAdmitted (by decide)
  have h₂ := hshift .putStored (by decide)
  have h₃ := hshift .getAdmitted (by decide)
  have h₄ := hshift .getTaken (by decide)
  have h₅ := hshift .closingFree (by decide)
  have h₆ := hshift .closingFilled (by decide)
  have hle := h.permits_le
  have heq := h.permits_eq
  have hcount := h.count_eq
  have hfree := h.free_closed
  have hfilled := h.filled_closed
  cases hmove with
  | late hclosed =>
    simp [CloseCall.phase?] at h₁ h₂ h₃ h₄ h₅ h₆
    refine ⟨h.head_lt, h.wellFormed, h.count_destroyed, h.closed_of_destroyed, hreleasing,
      ?_, ?_, ?_, h₅ ▸ hfree, h₅ ▸ h₆ ▸ hfilled⟩
    · omega
    · simp [hclosed]
    · simp [hclosed]
  | mark hopen =>
    -- from now on this call owes the closing of both counters
    simp [CloseCall.phase?] at h₁ h₂ h₃ h₄ h₅ h₆
    rw [hopen, Bool.toNat_false] at hfree hfilled
    refine ⟨h.head_lt, fun hd => (h.wellFormed hd).close, h.count_destroyed, fun _ => rfl,
      fun _ => rfl, ?_, ?_, ?_, ?_, ?_⟩
    · simp only; omega
    · simp [Ring.close]
    · simp [Ring.close]
    · simp only [Ring.close, Bool.toNat_true]; omega
    · simp only [Ring.close, Bool.toNat_true]; omega
  | closeFree =>
    -- the ring must be marked already, so the laws of an open ring are void
    simp [CloseCall.phase?] at h₁ h₂ h₃ h₄ h₅ h₆
    have hclosed := h.closed_of_closing (by omega)
    refine ⟨h.head_lt, h.wellFormed, h.count_destroyed, h.closed_of_destroyed, hreleasing,
      ?_, ?_, ?_, ?_, ?_⟩
    · simp only [Permits.close]; omega
    · simp [hclosed]
    · simp [hclosed]
    · rw [hclosed] at hfree ⊢
      simp only [Permits.close, Bool.toNat_true] at hfree ⊢
      omega
    · simp only; omega
  | closeFilled =>
    simp [CloseCall.phase?] at h₁ h₂ h₃ h₄ h₅ h₆
    have hclosed := h.closed_of_closing (by omega)
    refine ⟨h.head_lt, h.wellFormed, h.count_destroyed, h.closed_of_destroyed, hreleasing,
      ?_, ?_, ?_, h₅ ▸ hfree, ?_⟩
    · simp only [Permits.close]; omega
    · simp [hclosed]
    · simp [hclosed]
    · rw [hclosed] at hfilled ⊢
      simp only [Permits.close, Bool.toNat_true] at hfilled ⊢
      omega

/-- A `close` returns only when the ring is marked. -/
theorem closed_of_close_returns {call : CloseCall} {first : Bool} (h : q.Balanced calls)
    (hmove : CloseCall.Moves q call (.returns first) q')
    (hcalls : ∀ p, Phase.mark call.phase? p ≤ calls p) : q'.ring.closed = true := by
  cases hmove with
  | late hclosed => exact hclosed
  | closeFilled =>
    have := hcalls .closingFilled
    simp only [CloseCall.phase?, Phase.mark_some, ↓reduceIte] at this
    exact h.closed_of_closing (by omega)

/-- **Every step of a `destroy`**: it is a `close` first, and then gives up the slots of a ring that
is marked. -/
theorem destroy {call : DestroyCall} {progress : Progress DestroyCall (Except QueueError Unit)}
    (h : q.Balanced calls) (hmove : DestroyCall.Moves q call progress q')
    (hshift : Phase.Shift call.phase? (progress.phase? DestroyCall.phase?) calls calls') :
    q'.Balanced calls' := by
  cases hmove with
  | @close call call' q' hmove =>
    refine h.close hmove (fun p _ => hshift p) fun hpos => hmove.closed_mono ?_
    refine h.closed_of_releasing ?_
    have := hshift .releasing
    simp only [DestroyCall.phase?, Progress.phase?_goesOn, CloseCall.mark_releasing] at this
    omega
  | @closed call first q' hmove =>
    -- the call that returns is itself among those under way
    have hcalls : ∀ p, Phase.mark call.phase? p ≤ calls p := by
      intro p
      have := hshift p
      simp only [DestroyCall.phase?, Progress.phase?_goesOn, Phase.mark_some] at this
      cases call <;> cases p <;> simp_all [CloseCall.phase?] <;> omega
    refine h.close hmove (fun p hp => ?_) fun _ => h.closed_of_close_returns hmove hcalls
    have := hshift p
    simpa [DestroyCall.phase?, Ne.symm hp] using this
  | late hdestroyed =>
    -- to the counters this is a `close` that comes too late
    have hfewer : ∀ p, p ≠ .releasing → calls' p = calls p := fun p hp => by
      simpa [DestroyCall.phase?, Ne.symm hp] using hshift p
    have hclosed := h.closed_of_destroyed hdestroyed
    refine h.close (.late hclosed) (fun p hp => ?_) fun _ => hclosed
    simpa [CloseCall.phase?] using hfewer p hp
  | release hlive =>
    have hfewer : ∀ p, p ≠ .releasing → calls' p = calls p := fun p hp => by
      simpa [DestroyCall.phase?, Ne.symm hp] using hshift p
    have hclosed : q.ring.closed = true := by
      have := hshift .releasing
      simp only [DestroyCall.phase?, Phase.mark_some, ↓reduceIte, Progress.phase?_returns,
        Phase.mark_none] at this
      exact h.closed_of_releasing (by omega)
    have h' : q.Balanced calls' := h.close (.late hclosed)
      (fun p hp => by simpa [CloseCall.phase?] using hfewer p hp) fun _ => hclosed
    exact ⟨h'.head_lt, by simp [Ring.destroy], fun _ => rfl, fun _ => hclosed, fun _ => hclosed,
      h'.permits_le, fun hopen => absurd (hclosed.symm.trans hopen) (by simp),
      fun hopen => absurd (hclosed.symm.trans hopen) (by simp), h'.free_closed, h'.filled_closed⟩

/-- **The balance is kept.** Every step of every thread keeps it, whichever call it is inside. -/
theorem turn {call : Option Call} {after : Option Phase} (h : q.Balanced calls)
    (hturn : q.Turn call after q')
    (hshift : Phase.Shift (call.bind Call.phase?) after calls calls') : q'.Balanced calls' := by
  cases hturn with
  | idle hidle =>
    rw [hidle] at hshift
    exact calls_eq hshift ▸ h
  | @step c progress q' hcall hstep =>
    subst hcall
    -- one case for each kind of call; those that only look change nothing
    cases Call.moves_of_step hstep with
    | put hmove =>
      rw [Progress.phase?_map] at hshift
      exact h.put hmove hshift
    | get hmove =>
      rw [Progress.phase?_map] at hshift
      exact h.get hmove hshift
    | @close call progress q' hmove =>
      rw [Progress.phase?_map] at hshift
      replace hshift : Phase.Shift call.phase? (progress.phase? CloseCall.phase?) calls calls' :=
        hshift
      refine h.close hmove (fun p _ => hshift p) fun hpos => hmove.closed_mono ?_
      refine h.closed_of_releasing ?_
      have := hshift .releasing
      simp only [CloseCall.mark_releasing, CloseCall.mark_releasing_of_progress] at this
      omega
    | destroy hmove =>
      rw [Progress.phase?_map] at hshift
      exact h.destroy hmove hshift
    | count | enterDisplay | readFree | readFilled => exact calls_eq hshift ▸ h

end Queue.Balanced

/-! ## Queues at rest

Where no call is in any phase the law speaks of the queue alone. -/

namespace Queue

/-- A `put` that begins now has to wait. -/
def Full (q : Queue) : Prop :=
  q.free.closed = false ∧ q.free.permits = 0

/-- A `get` that begins now has to wait. -/
def Empty (q : Queue) : Prop :=
  q.filled.closed = false ∧ q.filled.permits = 0

namespace Balanced

variable {q : Queue} {calls : Phase → Nat}

/-- A full queue that nobody is about to close is open. -/
theorem open_of_full (h : q.Balanced calls) (hquiet : ∀ p, calls p = 0) (hfull : q.Full) :
    q.ring.closed = false := by
  have hfree := h.free_closed
  rw [hquiet, hfull.1, Bool.toNat_false] at hfree
  exact Bool.toNat_eq_zero.mp hfree.symm

/-- So is an empty one. -/
theorem open_of_empty (h : q.Balanced calls) (hquiet : ∀ p, calls p = 0) (hempty : q.Empty) :
    q.ring.closed = false := by
  have hfilled := h.filled_closed
  rw [hquiet, hquiet, hempty.1, Bool.toNat_false] at hfilled
  exact Bool.toNat_eq_zero.mp hfilled.symm

/-- At rest a queue is not full and empty at once: it has a slot, and each slot has its permit. -/
theorem not_empty_of_full (h : q.Balanced calls) (hquiet : ∀ p, calls p = 0) (hfull : q.Full) :
    ¬ q.Empty := by
  intro hempty
  have hpermits := h.permits_eq (h.open_of_full hquiet hfull)
  have hslot := h.head_lt
  simp only [hquiet, hfull.2, hempty.2] at hpermits
  omega

/-- An empty queue holds nothing. -/
theorem items_of_empty (h : q.Balanced calls) (hquiet : ∀ p, calls p = 0) (hempty : q.Empty) :
    q.items = [] := by
  have hcount := h.count_eq (h.open_of_empty hquiet hempty)
  rw [hquiet, hquiet, hempty.2] at hcount
  refine List.eq_nil_of_length_eq_zero ?_
  rw [Queue.items, Ring.length_items, hcount]

end Balanced

end Queue

end HostLookup
