import HostLookup.Proofs.Queue.Conservation

/-!
# No wake-up is lost

A caller wakes others after it has given up the lock of a turnstile. By then another caller may have
taken the permit, the wake-up may find nobody, and whom it finds may have to park again. What
protects those that are parked is a law of numbers: while somebody is parked at an open turnstile,
there are no more permits than callers who will see to them, which are the callers about to wake
somebody there and those about to ask for a permit there themselves. At a closed turnstile nobody
is parked unless a caller is about to wake everyone.

* **`Crowd.Attended`**: the law of one turnstile.
* **`Crowd.Attended.move`**: every move keeps it, whoever is woken and whoever wakes for no reason.
* **`Crowd.rests_of_stuck`**: when nobody can move, whoever is inside a call waits for what only
  another call can bring.
-/

namespace HostLookup

/-! ## Who sees to a permit

Three sorts of callers will see to a permit that lies at a turnstile: who is about to ask for one,
who still owes a wake-up there, and who was woken and has to ask again. A permit is put back only by
a step that leaves such a caller behind. -/

/-- The counter of a turnstile. -/
def Queue.counter (q : Queue) : Turnstile → Permits
  | .free => q.free
  | .filled => q.filled

/-- Will the next step ask for a permit of the turnstile? -/
def Call.asksAt (q : Queue) (turnstile : Turnstile) : Call → Bool
  | .put (.entering item) => turnstile = .free && q.fits item
  | .get .entering => turnstile = .filled
  | _ => false

theorem Call.asksAt_congr {q q' : Queue} (hslot : q'.slotLength = q.slotLength)
    (turnstile : Turnstile) (call : Call) : call.asksAt q' turnstile = call.asksAt q turnstile := by
  cases call with
  | put call =>
    cases call with
    | entering item =>
      have hmax : q'.maxItemLength = q.maxItemLength := congrArg (· - 1) hslot
      have hfits : q'.fits item = q.fits item := decide_eq_decide.mpr (by rw [hmax])
      simp only [asksAt, hfits]
    | admitted | stored => rfl
  | get call => cases call <;> rfl
  | close | destroy | count | display => rfl

/-- A call asks for a permit at the turnstile where it would park. -/
theorem Call.turnstile_of_asksAt {q : Queue} {turnstile : Turnstile} {call : Call}
    (hasks : call.asksAt q turnstile = true) : call.turnstile = turnstile := by
  cases call with
  | put call =>
    cases call with
    | entering item =>
      simp only [asksAt, Bool.and_eq_true, decide_eq_true_eq] at hasks
      exact hasks.1.symm
    | admitted | stored => contradiction
  | get call =>
    cases call with
    | entering => exact (of_decide_eq_true hasks).symm
    | admitted | taken => contradiction
  | close | destroy | count | display => contradiction

/-- A call that has to wait asks for a permit of an open counter without permits. -/
theorem Call.blocked_of_step {q : Queue} {call : Call} (hstep : call.step q = none) :
    call.asksAt q call.turnstile = true ∧ (q.counter call.turnstile).closed = false ∧
      (q.counter call.turnstile).permits = 0 := by
  cases call with
  | put call =>
    obtain ⟨item, rfl, hfits, hopen, hnone⟩ :=
      PutCall.blocked_of_step (Option.map_eq_none_iff.mp hstep)
    exact ⟨by simp [asksAt, turnstile, hfits], hopen, hnone⟩
  | get call =>
    obtain ⟨rfl, hopen, hnone⟩ := GetCall.blocked_of_step (Option.map_eq_none_iff.mp hstep)
    exact ⟨rfl, hopen, hnone⟩
  | close | destroy | count => contradiction
  | display call => cases call <;> contradiction

/-- Does the call owe a wake-up at the turnstile after its next step? -/
def Call.wakesAt (turnstile : Turnstile) (call : Call) : Bool :=
  call.wakes.any fun owed => owed.1 = turnstile

/-- Will the caller see to a permit of the turnstile, or to those who are parked there? -/
def Caller.attends (q : Queue) (turnstile : Turnstile) : Caller → Bool
  | .running call => call.asksAt q turnstile
  | .waking at' _ _ => at' = turnstile
  | .parked _ | .returned _ => false

/-- The caller after a step of its call. -/
def Caller.after (call : Call) (progress : Progress Call Answer) : Caller :=
  match call.wakes with
  | some (turnstile, everyone) => .waking turnstile everyone progress
  | none => .ofProgress progress

theorem Caller.after_ne_parked (call : Call) (progress : Progress Call Answer) (parked : Call) :
    Caller.after call progress ≠ .parked parked := by
  unfold Caller.after
  split
  · exact Caller.noConfusion
  · cases progress <;> exact Caller.noConfusion

/-- Whoever owes a wake-up sees to the permit. -/
theorem Caller.wakesAt_le_attends_after (q : Queue) (turnstile : Turnstile) (call : Call)
    (progress : Progress Call Answer) :
    (call.wakesAt turnstile).toNat ≤
      ((Caller.after call progress).attends q turnstile).toNat := by
  unfold Caller.after Call.wakesAt
  cases call.wakes with
  | none => exact Nat.zero_le _
  | some owed => exact Nat.le_refl _

/-- **What a step of a call does to a turnstile.** Whoever closes it owes a wake-up to everyone
there. As long as it is open, a permit that comes in is matched by a wake-up that is owed, and a
call that no longer asks for a permit has taken one. -/
theorem Call.Moves.counter {q q' : Queue} {call : Call} {progress : Progress Call Answer}
    (hmove : Call.Moves q call progress q') (turnstile : Turnstile) :
    ((q'.counter turnstile).closed = true →
      (q.counter turnstile).closed = true ∨ call.wakes = some (turnstile, true)) ∧
    ((q'.counter turnstile).closed = false → (q.counter turnstile).closed = false ∧
      (q'.counter turnstile).permits + (call.asksAt q turnstile).toNat ≤
        (q.counter turnstile).permits + (call.wakesAt turnstile).toNat) := by
  -- most steps leave the counters alone, or this one of them
  have hidle : q'.counter turnstile = q.counter turnstile →
      ((q.counter turnstile).closed = false → call.asksAt q turnstile = false) →
      ((q'.counter turnstile).closed = true →
        (q.counter turnstile).closed = true ∨ call.wakes = some (turnstile, true)) ∧
      ((q'.counter turnstile).closed = false → (q.counter turnstile).closed = false ∧
        (q'.counter turnstile).permits + (call.asksAt q turnstile).toNat ≤
          (q.counter turnstile).permits + (call.wakesAt turnstile).toNat) := by
    intro hsame hasks
    rw [hsame]
    exact ⟨.inl, fun hopen => ⟨hopen, by simp [hasks hopen]⟩⟩
  cases hmove with
  | put hmove =>
    cases hmove with
    | tooLarge hsize => exact hidle rfl fun _ => by simp [asksAt, hsize]
    | refused hclosed =>
      refine hidle rfl fun hopen => ?_
      cases turnstile with
      | free => exact absurd hclosed (by simpa [Queue.counter] using hopen)
      | filled => rfl
    | enter hfits hopen hleft =>
      cases turnstile with
      | free => simp [asksAt, Queue.counter, hopen, hleft, hfits]
      | filled => exact hidle rfl fun _ => rfl
    | bounce | store => exact hidle (by cases turnstile <;> rfl) fun _ => rfl
    | finish =>
      cases turnstile with
      | free => exact hidle rfl fun _ => rfl
      | filled => simp [asksAt, Queue.counter, wakesAt, wakes, Permits.release]
  | get hmove =>
    cases hmove with
    | refused hclosed =>
      refine hidle rfl fun hopen => ?_
      cases turnstile with
      | free => rfl
      | filled => exact absurd hclosed (by simpa [Queue.counter] using hopen)
    | enter hopen hleft =>
      cases turnstile with
      | free => exact hidle rfl fun _ => rfl
      | filled => simp [asksAt, Queue.counter, hopen, hleft]
    | bounce | take => exact hidle (by cases turnstile <;> rfl) fun _ => rfl
    | finish =>
      cases turnstile with
      | free => simp [asksAt, Queue.counter, wakesAt, wakes, Permits.release]
      | filled => exact hidle rfl fun _ => rfl
  | close hmove =>
    cases hmove <;> cases turnstile <;> simp [asksAt, Queue.counter, wakes, Permits.close]
  | destroy hmove =>
    cases hmove with
    | close hmove | closed hmove =>
      cases hmove <;> cases turnstile <;> simp [asksAt, Queue.counter, wakes, Permits.close]
    | late | release => exact hidle (by cases turnstile <;> rfl) fun _ => rfl
  | count | enterDisplay | readFree | readFilled => exact hidle rfl fun _ => rfl

/-! ## Callers in a list

A step replaces one caller of the list, and waking changes others from parked to woken. What matters
about either is which callers are still there unchanged. -/

/-- An entry that differs from the one replaced is still there. -/
theorem mem_set_of_mem_of_ne {α : Type} {l : List α} {i : Nat} {a b c : α} (hmem : c ∈ l)
    (ha : l[i]? = some a) (hne : c ≠ a) : c ∈ l.set i b := by
  obtain ⟨j, hj⟩ := List.mem_iff_getElem?.mp hmem
  have hij : i ≠ j := by
    rintro rfl
    exact hne (Option.some.inj (hj.symm.trans ha))
  exact List.mem_of_getElem? ((List.getElem?_set_ne hij).trans hj)

theorem modify_woken {callers : List Caller} {i : Nat} {call : Call}
    (hcaller : callers[i]? = some (.parked call)) :
    callers.modify i Caller.woken = callers.set i (.running call) := by
  refine List.ext_getElem? fun j => ?_
  rw [List.getElem?_modify]
  by_cases hij : i = j
  · subst hij
    have hlt := (List.getElem?_eq_some_iff.mp hcaller).1
    simp [hcaller, List.getElem?_set_self hlt, Caller.woken]
  · simp [hij]

theorem modify_woken_of_not_parked {callers : List Caller} {i : Nat}
    (hcaller : ∀ call, callers[i]? ≠ some (.parked call)) :
    callers.modify i Caller.woken = callers := by
  refine List.ext_getElem? fun j => ?_
  rw [List.getElem?_modify]
  by_cases hij : i = j
  · subst hij
    cases hc : callers[i]? with
    | none => rfl
    | some caller =>
      cases caller with
      | parked call => exact absurd hc (hcaller call)
      | running | waking | returned => simp [Caller.woken]
  · simp [hij]

namespace Crowd

variable {crowd crowd' : Crowd} {turnstile : Turnstile}

/-- The places at a turnstile are those of the callers that are parked there. -/
theorem mem_parkedAt (crowd : Crowd) (turnstile : Turnstile) (i : Nat) :
    i ∈ crowd.parkedAt turnstile ↔
      ∃ call, crowd.callers[i]? = some (.parked call) ∧ call.turnstile = turnstile := by
  simp only [parkedAt, List.mem_map, List.mem_filter, List.mem_zipIdx_iff_getElem?, Prod.exists]
  constructor
  · rintro ⟨caller, j, ⟨hcaller, hparked⟩, rfl⟩
    cases caller with
    | parked call => exact ⟨call, hcaller, of_decide_eq_true hparked⟩
    | running | waking | returned => contradiction
  · rintro ⟨call, hcaller, hat⟩
    exact ⟨.parked call, i, ⟨hcaller, decide_eq_true hat⟩, rfl⟩

/-- Who goes on with a call is not parked. -/
theorem parked_of_mem_set {callers : List Caller} {i : Nat} {next : Progress Call Answer}
    {call : Call} (hmem : .parked call ∈ callers.set i (Caller.ofProgress next)) :
    .parked call ∈ callers := by
  refine (List.mem_or_eq_of_mem_set hmem).resolve_right ?_
  cases next <;> exact Caller.noConfusion

/-! ## The law of a turnstile

As long as a turnstile is open and somebody is parked there, each of its permits is attended by
somebody of its own. After it was closed, nobody is parked there without a wake-up to come. There is
one lemma for each way in which the callers can change; the theorem about a move only chooses
between them. -/

/-- Somebody is parked at the turnstile. -/
def IsQueuedAt (crowd : Crowd) (turnstile : Turnstile) : Prop :=
  ∃ call, .parked call ∈ crowd.callers ∧ call.turnstile = turnstile

/-- Those parked at a turnstile will hear of every permit, and of the closing. -/
structure Attended (turnstile : Turnstile) (crowd : Crowd) : Prop where
  /-- Whoever is parked there was about to ask for a permit. -/
  asks : ∀ call, .parked call ∈ crowd.callers → call.turnstile = turnstile →
    call.asksAt crowd.queue turnstile = true
  /-- No permit is left that nobody sees to. -/
  permits_le : (crowd.queue.counter turnstile).closed = false → crowd.IsQueuedAt turnstile →
    (crowd.queue.counter turnstile).permits ≤
      crowd.callers.countP (Caller.attends crowd.queue turnstile)
  /-- Somebody is about to tell of the closing. -/
  told : (crowd.queue.counter turnstile).closed = true → crowd.IsQueuedAt turnstile →
    ∃ next, .waking turnstile true next ∈ crowd.callers

namespace Attended

/-- Only the callers change, in such a way that nobody parks, no wake-up is forgotten and no one who
sees to a permit is missed. -/
theorem of_callers {callers : List Caller} (h : Attended turnstile crowd)
    (hparked : ∀ call, .parked call ∈ callers → call.turnstile = turnstile →
      .parked call ∈ crowd.callers)
    (hcount : (∃ call, .parked call ∈ callers ∧ call.turnstile = turnstile) →
      crowd.callers.countP (Caller.attends crowd.queue turnstile) ≤
        callers.countP (Caller.attends crowd.queue turnstile))
    (htold : (∃ call, .parked call ∈ callers ∧ call.turnstile = turnstile) →
      ∀ next, .waking turnstile true next ∈ crowd.callers → .waking turnstile true next ∈ callers) :
    Attended turnstile { crowd with callers := callers } where
  asks call hmem hat := h.asks call (hparked call hmem hat) hat
  permits_le hopen := by
    rintro ⟨call, hmem, hat⟩
    exact Nat.le_trans (h.permits_le hopen ⟨call, hparked call hmem hat, hat⟩)
      (hcount ⟨call, hmem, hat⟩)
  told hclosed := by
    rintro ⟨call, hmem, hat⟩
    obtain ⟨next, hnext⟩ := h.told hclosed ⟨call, hparked call hmem hat, hat⟩
    exact ⟨next, htold ⟨call, hmem, hat⟩ next hnext⟩

theorem start (name : String) (capacity slotLength : Nat) :
    Attended turnstile { queue := Queue.ofGeometry name capacity slotLength } where
  asks call hmem := absurd hmem List.not_mem_nil
  permits_le _ := by
    rintro ⟨call, hmem, -⟩
    exact absurd hmem List.not_mem_nil
  told _ := by
    rintro ⟨call, hmem, -⟩
    exact absurd hmem List.not_mem_nil

theorem join (h : Attended turnstile crowd) (call : Call) :
    Attended turnstile (crowd.join call) := by
  refine h.of_callers (fun c hmem _ => ?_) (fun _ => ?_) fun _ next hnext => ?_
  · simpa using hmem
  · simp
  · exact List.mem_append_left _ hnext

/-- A parked caller that wakes asks for its permit again. -/
theorem wakeOne (h : Attended turnstile crowd) {i : Nat} {call : Call}
    (hcaller : crowd.callers[i]? = some (.parked call)) :
    Attended turnstile { crowd with callers := crowd.callers.set i (.running call) } := by
  refine h.of_callers (fun c hmem _ => ?_) (fun _ => ?_) fun _ next hnext => ?_
  · exact (List.mem_or_eq_of_mem_set hmem).resolve_right (by simp)
  · have hadd := countP_set_add (Caller.attends crowd.queue turnstile) (.running call) hcaller
    simp only [Caller.attends, Bool.toNat_false] at hadd ⊢
    omega
  · exact mem_set_of_mem_of_ne hnext hcaller (by simp)

theorem rouse (h : Attended turnstile crowd) (i : Nat) : Attended turnstile (crowd.rouse i) := by
  unfold Crowd.rouse
  by_cases hparked : ∃ call, crowd.callers[i]? = some (.parked call)
  · obtain ⟨call, hcaller⟩ := hparked
    rw [modify_woken hcaller]
    exact h.wakeOne hcaller
  · rw [modify_woken_of_not_parked fun call hcaller => hparked ⟨call, hcaller⟩]
    exact h

/-- The next step of a call. Nobody parks, and whoever sees to a permit is replaced. -/
theorem advance (h : Attended turnstile crowd) {i : Nat} {call : Call}
    {progress : Progress Call Answer} {queue : Queue}
    (hcaller : crowd.callers[i]? = some (.running call))
    (hstep : call.step crowd.queue = some (progress, queue)) :
    Attended turnstile
      { queue := queue, callers := crowd.callers.set i (Caller.after call progress) } := by
  have hmove := Call.moves_of_step hstep
  have hslot : queue.slotLength = crowd.queue.slotLength :=
    (Queue.Turn.step rfl hstep : crowd.queue.Turn (some call) _ queue).geometry.2.2
  obtain ⟨hclosed, hopen⟩ := hmove.counter turnstile
  have hparked : ∀ c, .parked c ∈ crowd.callers.set i (Caller.after call progress) →
      .parked c ∈ crowd.callers := fun c hmem =>
    (List.mem_or_eq_of_mem_set hmem).resolve_right (Caller.after_ne_parked call progress c).symm
  have hattends : Caller.attends queue turnstile = Caller.attends crowd.queue turnstile := by
    funext caller
    cases caller with
    | running c => exact c.asksAt_congr hslot turnstile
    | parked | waking | returned => rfl
  refine ⟨fun c hmem hat => ?_, fun hopen' => ?_, fun hclosed' => ?_⟩
  · rw [Call.asksAt_congr hslot]
    exact h.asks c (hparked c hmem) hat
  · rintro ⟨c, hmem, hat⟩
    obtain ⟨hopen₀, hpermits⟩ := hopen hopen'
    have hle := h.permits_le hopen₀ ⟨c, hparked c hmem, hat⟩
    have hadd := countP_set_add (Caller.attends crowd.queue turnstile)
      (Caller.after call progress) hcaller
    have hwakes := Caller.wakesAt_le_attends_after crowd.queue turnstile call progress
    simp only [hattends]
    simp only [Caller.attends] at hadd hwakes
    omega
  · rintro ⟨c, hmem, hat⟩
    rcases hclosed hclosed' with hclosed₀ | howed
    · -- somebody is about to tell already, and it is not the caller that makes the step
      obtain ⟨next, hnext⟩ := h.told hclosed₀ ⟨c, hparked c hmem, hat⟩
      exact ⟨next, mem_set_of_mem_of_ne hnext hcaller (by simp)⟩
    · refine ⟨progress, ?_⟩
      have hafter : Caller.after call progress = .waking turnstile true progress := by
        simp [Caller.after, howed]
      rw [hafter]
      exact List.mem_set (List.getElem?_eq_some_iff.mp hcaller).1 _

/-- A call that finds no permit parks. There is none at its turnstile, so none is missed. -/
theorem park (h : Attended turnstile crowd) {i : Nat} {call : Call}
    (hcaller : crowd.callers[i]? = some (.running call)) (hstep : call.step crowd.queue = none) :
    Attended turnstile { crowd with callers := crowd.callers.set i (.parked call) } := by
  obtain ⟨hasks, hopen, hnone⟩ := Call.blocked_of_step hstep
  by_cases hat : call.turnstile = turnstile
  · subst hat
    refine ⟨fun c hmem hat => ?_, fun _ _ => ?_, fun hclosed => ?_⟩
    · rcases List.mem_or_eq_of_mem_set hmem with hmem | heq
      · exact h.asks c hmem hat
      · exact Caller.parked.inj heq ▸ hasks
    · exact hnone ▸ Nat.zero_le _
    · exact absurd hclosed (by simp [hopen])
  · -- another turnstile neither gains nor loses by it
    refine h.of_callers (fun c hmem hc => ?_) (fun _ => ?_) fun _ next hnext => ?_
    · refine (List.mem_or_eq_of_mem_set hmem).resolve_right fun heq => hat ?_
      exact Caller.parked.inj heq ▸ hc
    · have hnot : call.asksAt crowd.queue turnstile = false :=
        Bool.eq_false_iff.mpr fun hasks => hat (Call.turnstile_of_asksAt hasks)
      have hadd := countP_set_add (Caller.attends crowd.queue turnstile) (.parked call) hcaller
      simp only [Caller.attends, hnot, Bool.toNat_false] at hadd
      omega
    · exact mem_set_of_mem_of_ne hnext hcaller (by simp)

theorem of_empty (hempty : ¬ crowd.IsQueuedAt turnstile) : Attended turnstile crowd where
  asks call hmem hat := absurd ⟨call, hmem, hat⟩ hempty
  permits_le _ hqueued := absurd hqueued hempty
  told _ hqueued := absurd hqueued hempty

/-- Who has woken the others goes on. Other turnstiles than that one do not miss the caller. -/
theorem goOn {at' : Turnstile} {everyone : Bool} {next : Progress Call Answer} {i : Nat}
    (h : Attended turnstile crowd) (hne : at' ≠ turnstile)
    (hcaller : crowd.callers[i]? = some (.waking at' everyone next)) :
    Attended turnstile { crowd with callers := crowd.callers.set i (Caller.ofProgress next) } := by
  refine h.of_callers (fun c hmem _ => parked_of_mem_set hmem) (fun _ => ?_) fun _ next' hnext => ?_
  · have hadd := countP_set_add (Caller.attends crowd.queue turnstile) (Caller.ofProgress next)
      hcaller
    simp only [Caller.attends, hne, decide_false, Bool.toNat_false] at hadd
    omega
  · refine mem_set_of_mem_of_ne hnext hcaller fun heq => hne ?_
    injection heq with hat
    exact hat.symm

/-- That turnstile does not miss the caller either if nobody is parked there. -/
theorem goOn_of_empty {at' : Turnstile} {everyone : Bool} {next : Progress Call Answer} {i : Nat}
    (h : Attended turnstile crowd) (hempty : ¬ crowd.IsQueuedAt at')
    (hcaller : crowd.callers[i]? = some (.waking at' everyone next)) :
    Attended turnstile { crowd with callers := crowd.callers.set i (Caller.ofProgress next) } := by
  by_cases hat : at' = turnstile
  · subst hat
    refine .of_empty ?_
    rintro ⟨call, hmem, hturnstile⟩
    exact hempty ⟨call, parked_of_mem_set hmem, hturnstile⟩
  · exact h.goOn hat hcaller

/-- A caller wakes another one and goes on. Who was woken takes its place. -/
theorem goOn_of_woken {at' : Turnstile} {next : Progress Call Answer} {i which : Nat} {call : Call}
    (h : Attended turnstile crowd) (hcaller : crowd.callers[i]? = some (.waking at' false next))
    (hparked : crowd.callers[which]? = some (.parked call)) (hturnstile : call.turnstile = at') :
    Attended turnstile { crowd with
      callers := (crowd.callers.set which (.running call)).set i (Caller.ofProgress next) } := by
  have hne : which ≠ i := by
    rintro rfl
    rw [hparked] at hcaller
    exact Caller.noConfusion (Option.some.inj hcaller)
  have hwaker : (crowd.callers.set which (.running call))[i]? = some (.waking at' false next) :=
    (List.getElem?_set_ne hne).trans hcaller
  by_cases hat : at' = turnstile
  · subst hat
    have hasks := h.asks call (List.mem_of_getElem? hparked) hturnstile
    refine h.of_callers (fun c hmem _ => ?_) (fun _ => ?_) fun _ next' hnext => ?_
    · exact (List.mem_or_eq_of_mem_set (parked_of_mem_set hmem)).resolve_right Caller.noConfusion
    · have hadd := countP_set_add (Caller.attends crowd.queue at') (.running call) hparked
      have hadd' := countP_set_add (Caller.attends crowd.queue at') (Caller.ofProgress next) hwaker
      simp only [Caller.attends, hasks, decide_true, Bool.toNat_true, Bool.toNat_false]
        at hadd hadd'
      omega
    · refine mem_set_of_mem_of_ne (mem_set_of_mem_of_ne hnext hparked ?_) hwaker ?_
      · exact Caller.noConfusion
      · simp
  · exact (h.wakeOne hparked).goOn hat hwaker

end Attended

/-- After a wake-up to everyone nobody is parked there. -/
theorem parked_of_mem_wake {which : Nat} {call : Call}
    (hmem : .parked call ∈ crowd.wake turnstile true which) :
    .parked call ∈ crowd.callers ∧ call.turnstile ≠ turnstile := by
  simp only [wake, ↓reduceIte, List.mem_map] at hmem
  obtain ⟨caller, hcaller, heq⟩ := hmem
  split at heq
  · cases caller <;> simp_all [Caller.woken, Caller.isParkedAt]
  · next hnot =>
    subst heq
    exact ⟨hcaller, fun hat => hnot (decide_eq_true hat)⟩

/-- A wake-up to everyone at one turnstile leaves the others as they were, but for the callers
that ask for a permit again. -/
theorem Attended.wakeAll (h : Attended turnstile crowd) (at' : Turnstile) (which : Nat) :
    Attended turnstile { crowd with callers := crowd.wake at' true which } := by
  refine h.of_callers (fun c hmem _ => (parked_of_mem_wake hmem).1) (fun _ => ?_)
    fun _ next hnext => ?_
  · simp only [wake, ↓reduceIte, List.countP_map]
    refine List.countP_mono_left fun caller _ hattends => ?_
    cases caller with
    | parked => contradiction
    | running | waking | returned => exact hattends
  · simp only [wake, ↓reduceIte, List.mem_map]
    exact ⟨_, hnext, rfl⟩

/-- A wake-up at a turnstile, and the caller that gave it goes on. -/
theorem Attended.wakeUp {at' : Turnstile} {everyone : Bool} {next : Progress Call Answer}
    {i choice : Nat} (h : Attended turnstile crowd)
    (hcaller : crowd.callers[i]? = some (.waking at' everyone next))
    (hstep : crowd.step i choice = some crowd') (hchoice : crowd.isChoice i choice = true) :
    Attended turnstile crowd' := by
  simp only [step, hcaller, Option.some.injEq] at hstep
  subst hstep
  cases everyone with
  | true =>
    have hwaker : (crowd.wake at' true 0)[i]? = some (.waking at' true next) := by
      simp [wake, hcaller, Caller.isParkedAt]
    refine (h.wakeAll at' 0).goOn_of_empty ?_ hwaker
    rintro ⟨call, hmem, hturnstile⟩
    have hmem : .parked call ∈ crowd.wake at' true 0 := hmem
    exact (parked_of_mem_wake hmem).2 hturnstile
  | false =>
    cases hwhich : (crowd.parkedAt at')[choice]? with
    | none =>
      -- there is nobody to choose
      refine h.goOn_of_empty ?_ hcaller
      rintro ⟨call, hmem, hturnstile⟩
      obtain ⟨j, hj⟩ := List.mem_iff_getElem?.mp hmem
      have hplace := (crowd.mem_parkedAt at' j).mpr ⟨call, hj, hturnstile⟩
      have hlength := List.length_pos_of_mem hplace
      have hbeyond := List.getElem?_eq_none_iff.mp hwhich
      simp only [isChoice, hcaller, Bool.or_eq_true, decide_eq_true_eq] at hchoice
      omega
    | some which =>
      obtain ⟨call, hparked, hturnstile⟩ :=
        (crowd.mem_parkedAt at' which).mp (List.mem_of_getElem? hwhich)
      simp only [wake, Bool.false_eq_true, ↓reduceIte, modify_woken hparked]
      exact h.goOn_of_woken hcaller hparked hturnstile

/-- **No move loses a wake-up.** -/
theorem Attended.move {m : Move} (h : Attended turnstile crowd)
    (hmove : move m crowd = some crowd') : Attended turnstile crowd' := by
  cases m with
  | join call =>
    simp only [Crowd.move] at hmove
    split at hmove
    · exact Option.some.inj hmove ▸ h.join call
    · contradiction
  | rouse i => exact Option.some.inj hmove ▸ h.rouse i
  | step i choice =>
    simp only [Crowd.move] at hmove
    split at hmove
    · next hchoice =>
      have hstep := hmove
      unfold step at hmove
      split at hmove
      · next call hcaller =>
        split at hmove
        · contradiction
        · split at hmove
          · next hcall => exact Option.some.inj hmove ▸ h.park hcaller hcall
          · next progress queue hcall => exact Option.some.inj hmove ▸ h.advance hcaller hcall
      · next at' everyone next hcaller => exact h.wakeUp hcaller hstep hchoice
      · contradiction
    · contradiction

theorem attended_of_reaches {name : String} {capacity slotLength : Nat} (turnstile : Turnstile)
    (hreach : Reaches move { queue := Queue.ofGeometry name capacity slotLength } crowd) :
    Attended turnstile crowd :=
  hreach.invariant (.start name capacity slotLength) fun _ _ _ h hmove => h.move hmove

/-! ## When nobody can move

Whoever is not parked and has not returned can make a step, so a crowd that is stuck has only those
two. By the law of the turnstile the parked ones find an open counter without permits, and by the
conservation of permits that means a full queue for a `put` and an empty one for a `get`. -/

/-- No caller can make a step; all that can happen is that one wakes for no reason, or that another
thread comes. -/
def IsStuck (crowd : Crowd) : Prop :=
  ∀ i choice, move (.step i choice) crowd = none

/-- Whoever is about to wake others can do so, and whoever holds the ring can read on, so all who
are left are parked or have returned. -/
theorem IsStuck.parked_or_returned (hstuck : crowd.IsStuck) {caller : Caller}
    (hmem : caller ∈ crowd.callers) :
    (∃ call, caller = .parked call) ∨ ∃ answer, caller = .returned answer := by
  have hholder : ∀ (i : Nat) (call : Call), crowd.callers[i]? = some (.running call) →
      call.entersRing = true := by
    intro i call hcaller
    cases henters : call.entersRing with
    | true => rfl
    | false =>
      have hnone := hstuck i 0
      simp only [move, isChoice, step, hcaller, henters, Bool.false_and, ↓reduceIte,
        Bool.false_eq_true] at hnone
      split at hnone <;> contradiction
  obtain ⟨i, hcaller⟩ := List.mem_iff_getElem?.mp hmem
  cases caller with
  | parked call => exact Or.inl ⟨call, rfl⟩
  | returned answer => exact Or.inr ⟨answer, rfl⟩
  | waking turnstile everyone next =>
    have hnone := hstuck i 0
    have hchoice : crowd.isChoice i 0 = true := by cases everyone <;> simp [isChoice, hcaller]
    simp [move, hchoice, step, hcaller] at hnone
  | running call =>
    -- it must find the ring held, but nobody who holds the ring has to wait
    have hnone := hstuck i 0
    have hheld : crowd.ringIsHeld i = true := by
      cases hheld : crowd.ringIsHeld i with
      | true => rfl
      | false =>
        simp only [move, isChoice, step, hcaller, hheld, Bool.and_false, ↓reduceIte,
          Bool.false_eq_true] at hnone
        split at hnone <;> contradiction
    simp only [ringIsHeld, List.any_eq_true, Bool.and_eq_true, Prod.exists] at hheld
    obtain ⟨holder, j, hj, -, hholds⟩ := hheld
    have hj := List.mem_zipIdx_iff_getElem?.mp hj
    cases holder with
    | running call' =>
      have henters := hholder j call' hj
      cases call' with
      | display call' => cases call' <;> contradiction
      | put | get | close | destroy | count => contradiction
    | parked | waking | returned => contradiction

/-- How a caller stands when nobody can move. A `put` waits at an open queue without free slots, a
`get` at an open and empty one, and every other call has returned. -/
inductive Rests (q : Queue) : Caller → Prop where
  | returned (answer : Answer) : Rests q (.returned answer)
  | put (item : String) (hfits : q.fits item = true) (hopen : q.ring.closed = false)
      (hfull : q.ring.count = q.capacity) : Rests q (.parked (.put (.entering item)))
  | get (hopen : q.ring.closed = false) (hempty : q.ring.count = 0) :
      Rests q (.parked (.get .entering))

/-- A crowd at rest. -/
structure AtRest (capacity : Nat) (crowd : Crowd) : Prop where
  capacity_eq : crowd.queue.capacity = capacity
  rests : ∀ caller ∈ crowd.callers, Rests crowd.queue caller
  /-- A `put` and a `get` are never both stuck. -/
  not_both : ∀ item, .parked (.put (.entering item)) ∈ crowd.callers →
    .parked (.get .entering) ∉ crowd.callers
  /-- Nobody is stuck at a queue that is closed, or half closed, or destroyed. -/
  returned_of_closed : (crowd.queue.ring.closed || crowd.queue.ring.destroyed ||
      crowd.queue.free.closed || crowd.queue.filled.closed) = true →
    ∀ caller ∈ crowd.callers, ∃ answer, caller = .returned answer

/-- A stuck caller is parked at an open turnstile without permits. -/
theorem Attended.counter_of_stuck (h : Attended turnstile crowd) (hstuck : crowd.IsStuck)
    {call : Call} (hmem : .parked call ∈ crowd.callers) (hat : call.turnstile = turnstile) :
    (crowd.queue.counter turnstile).closed = false ∧
      (crowd.queue.counter turnstile).permits = 0 := by
  have hopen : (crowd.queue.counter turnstile).closed = false := by
    refine Bool.eq_false_iff.mpr fun hclosed => ?_
    obtain ⟨next, hnext⟩ := h.told hclosed ⟨call, hmem, hat⟩
    rcases hstuck.parked_or_returned hnext with ⟨_, heq⟩ | ⟨_, heq⟩ <;> contradiction
  refine ⟨hopen, Nat.le_zero.mp ?_⟩
  refine Nat.le_trans (h.permits_le hopen ⟨call, hmem, hat⟩) (Nat.le_of_eq ?_)
  refine List.countP_eq_zero.mpr fun caller hcaller => ?_
  rcases hstuck.parked_or_returned hcaller with ⟨_, rfl⟩ | ⟨_, rfl⟩ <;> exact Bool.false_ne_true

/-- Who is parked was about to claim a slot. -/
theorem Attended.eq_of_parked (hfree : Attended .free crowd) (hfilled : Attended .filled crowd)
    {call : Call} (hmem : .parked call ∈ crowd.callers) :
    (∃ item, call = .put (.entering item) ∧ crowd.queue.fits item = true) ∨
      call = .get .entering := by
  have hasks : call.asksAt crowd.queue call.turnstile = true := by
    cases hat : call.turnstile with
    | free => exact hfree.asks call hmem hat
    | filled => exact hfilled.asks call hmem hat
  cases call with
  | put call =>
    cases call with
    | entering item =>
      simp only [Call.asksAt, Bool.and_eq_true] at hasks
      exact Or.inl ⟨item, rfl, hasks.2⟩
    | admitted | stored => contradiction
  | get call =>
    cases call with
    | entering => exact Or.inr rfl
    | admitted | taken => contradiction
  | close | destroy | count | display => contradiction

/-- **No wake-up is lost.** Around a new queue with at least one slot any number of threads call
`put`, `get`, `close` and `destroy`, read the count and show the state, and callers may wake for no
reason. Whenever no caller can make a step, each one has returned or waits at the open queue for
what only another call can bring. -/
theorem rests_of_stuck {name : String} {capacity slotLength : Nat} (hpos : 0 < capacity)
    (hreach : Reaches move { queue := Queue.ofGeometry name capacity slotLength } crowd)
    (hstuck : crowd.IsStuck) : AtRest capacity crowd := by
  obtain ⟨hcap, hbalanced⟩ := accounted_of_reaches hpos hreach
  have hfree := attended_of_reaches .free hreach
  have hfilled := attended_of_reaches .filled hreach
  -- nobody is under way any more
  have hcalls : ∀ p, crowd.calls p = 0 := by
    intro p
    refine List.countP_eq_zero.mpr fun position hposition => ?_
    obtain ⟨caller, hmem, rfl⟩ := List.mem_map.mp hposition
    rcases hstuck.parked_or_returned hmem with ⟨call, rfl⟩ | ⟨answer, rfl⟩
    · rcases hfree.eq_of_parked hfilled hmem with ⟨item, rfl, -⟩ | rfl <;>
        simp [Caller.position, Call.phase?, PutCall.phase?, GetCall.phase?]
    · simp [Caller.position]
  have hring : ∀ call, .parked call ∈ crowd.callers → crowd.queue.ring.closed = false := by
    intro call hmem
    refine Bool.eq_false_iff.mpr fun hclosed => ?_
    obtain ⟨hfreeClosed, hfilledClosed⟩ :=
      hbalanced.counters_closed hclosed (hcalls _) (hcalls _)
    cases hat : call.turnstile with
    | free =>
      have hopen : crowd.queue.free.closed = false :=
        (hfree.counter_of_stuck hstuck hmem hat).1
      rw [hfreeClosed] at hopen
      contradiction
    | filled =>
      have hopen : crowd.queue.filled.closed = false :=
        (hfilled.counter_of_stuck hstuck hmem hat).1
      rw [hfilledClosed] at hopen
      contradiction
  have hput : ∀ item, .parked (.put (.entering item)) ∈ crowd.callers →
      crowd.queue.ring.count = crowd.queue.capacity := by
    intro item hmem
    have hnone := (hfree.counter_of_stuck hstuck hmem rfl).2
    have hpermits := hbalanced.permits_eq (hring _ hmem)
    have hcount := hbalanced.count_eq (hring _ hmem)
    simp only [hcalls, Queue.counter] at hnone hpermits hcount
    omega
  have hget : .parked (.get .entering) ∈ crowd.callers → crowd.queue.ring.count = 0 := by
    intro hmem
    have hnone := (hfilled.counter_of_stuck hstuck hmem rfl).2
    have hcount := hbalanced.count_eq (hring _ hmem)
    simp only [hcalls, Queue.counter] at hnone hcount
    omega
  refine ⟨hcap, fun caller hmem => ?_, fun item hmem hmem' => ?_, fun hclosed caller hmem => ?_⟩
  · rcases hstuck.parked_or_returned hmem with ⟨call, rfl⟩ | ⟨answer, rfl⟩
    · rcases hfree.eq_of_parked hfilled hmem with ⟨item, rfl, hfits⟩ | rfl
      · exact .put item hfits (hring _ hmem) (hput item hmem)
      · exact .get (hring _ hmem) (hget hmem)
    · exact .returned answer
  · have hfull := hput item hmem
    have hempty := hget hmem'
    omega
  · rcases hstuck.parked_or_returned hmem with ⟨call, rfl⟩ | hreturned
    · -- an open ring has open counters, and its slots
      have hopen := hring call hmem
      have hcounters := hbalanced.counters_open hopen
      simp [hopen, hcounters, hbalanced.live_of_open hopen] at hclosed
    · exact hreturned

/-- A `get` that is parked at an empty queue. -/
theorem rests_of_stuck_get_parked :
    AtRest 1
      { queue := Queue.ofGeometry "files" 1 8, callers := [.parked (.get .entering)] } := by
  have hstart : Reaches move { queue := Queue.ofGeometry "files" 1 8 }
    { queue := Queue.ofGeometry "files" 1 8 } := .refl
  refine rests_of_stuck Nat.one_pos
    ((hstart.tail (.join (.get .entering)) rfl).tail (.step 0 0) rfl) fun i choice => ?_
  cases i with
  | zero => rfl
  | succ i => rfl

end Crowd

end HostLookup
