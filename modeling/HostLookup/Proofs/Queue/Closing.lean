import HostLookup.Proofs.Queue.Order
import HostLookup.Proofs.Queue.Wakeups

/-!
# Closing and giving up

A `close` sets the flag of the ring and then closes the two counters, in three steps of its own; a
`destroy` does the same and gives up the slots in a fourth. Meanwhile other calls are parked, have a
permit and have not yet come to the ring, or are past it. Whoever sets the flag holds the claim to
have closed the queue until its call has returned, and nobody else gets it (`Crowd.Claimed`). All
others find out at one point only, which is the moment at which they enter the ring.

* **`Crowd.Fate`**: where a call that was begun can be, and what it can have returned, given the
  flags of the queue.
* **`Crowd.Shuts`**: what the callers of a queue can rely on when it is closed or destroyed.
* **`Crowd.shuts_of_path`** proves it of everything that can happen around a new queue.
-/

namespace HostLookup

/-! ## Who has closed the queue

A `close` learns in the section that sets the flag whether it was the first, and a `destroy` in that
section and once more in the one that gives up the slots. `claims` follows what was learnt until the
call returns, so that claims and answers can be counted together: there is one of them exactly if
the flag is set. -/

/-- Did this call close the queue? -/
def Answer.hasClosed : Answer → Bool
  | .close first => first
  | _ => false

/-- Did this call give up the slots? -/
def Answer.hasDestroyed : Answer → Bool
  | .destroy (.ok ()) => true
  | _ => false

/-- Is it the answer of a `close` or of a `destroy`? -/
def Answer.isOfShutting : Answer → Bool
  | .close _ | .destroy _ => true
  | _ => false

/-- Has the call returned such an answer? -/
def Progress.hasReturned {κ ρ : Type} (p : ρ → Bool) : Progress κ ρ → Bool
  | .goesOn _ => false
  | .returns answer => p answer

/-- Is the ring marked by this call? -/
def CloseCall.hasMarked : CloseCall → Bool
  | .marking => false
  | .closingFree | .closingFilled => true

/-- Does the call hold the claim to have closed the queue? A `destroy` gives it away. -/
def Call.claims : Call → Bool
  | .close call | .destroy (.closing call) => call.hasMarked
  | _ => false

/-- Is the claim held here? -/
def Progress.claims : Progress Call Answer → Bool
  | .goesOn call => call.claims
  | .returns answer => answer.hasClosed

/-- Is this a `destroy`, under way or returned? -/
def Progress.isDestroy : Progress Call Answer → Bool
  | .goesOn (.destroy _) | .returns (.destroy _) => true
  | _ => false

theorem Call.Moves.isDestroy {q q' : Queue} {call : Call} {progress : Progress Call Answer}
    (hmove : Call.Moves q call progress q') :
    progress.isDestroy = (Progress.goesOn call : Progress Call Answer).isDestroy := by
  cases hmove with
  | put hmove => cases hmove <;> rfl
  | get hmove => cases hmove <;> rfl
  | close hmove => cases hmove <;> rfl
  | destroy hmove => cases hmove <;> rfl
  | count | enterDisplay | readFree | readFilled => rfl

/-- The claim comes with the flag, and only a `destroy` lets go of it. -/
theorem Call.Moves.claims_add {q q' : Queue} {call : Call} {progress : Progress Call Answer}
    (hmove : Call.Moves q call progress q') :
    progress.claims.toNat + q.ring.closed.toNat ≤ call.claims.toNat + q'.ring.closed.toNat ∧
      (progress.isDestroy = false →
        progress.claims.toNat + q.ring.closed.toNat =
          call.claims.toNat + q'.ring.closed.toNat) := by
  cases hmove with
  | put hmove =>
    cases hmove with
    | store hring =>
      obtain ⟨-, -, hclosed, -⟩ := Ring.store_frame hring
      simp [Progress.claims, Call.claims, Progress.map, hclosed]
    | tooLarge | refused | enter | bounce | finish =>
      simp [Progress.claims, Call.claims, Progress.map, Answer.hasClosed]
  | get hmove =>
    cases hmove with
    | take hring =>
      obtain ⟨-, -, hclosed, -⟩ := Ring.take_frame hring
      simp [Progress.claims, Call.claims, Progress.map, hclosed]
    | refused | enter | bounce | finish =>
      simp [Progress.claims, Call.claims, Progress.map, Answer.hasClosed]
  | close hmove =>
    cases hmove with
    | mark hopen =>
      simp [Progress.claims, Call.claims, Progress.map, CloseCall.hasMarked, Ring.close, hopen]
    | late | closeFree | closeFilled =>
      simp [Progress.claims, Call.claims, Progress.map, CloseCall.hasMarked, Answer.hasClosed]
  | destroy hmove =>
    cases hmove with
    | close hmove =>
      cases hmove with
      | mark hopen =>
        simp [Progress.claims, Call.claims, Progress.map, CloseCall.hasMarked, Ring.close, hopen]
      | closeFree => simp [Progress.claims, Call.claims, Progress.map, CloseCall.hasMarked]
    | closed hmove =>
      cases hmove with
      | late | closeFilled =>
        simp [Progress.claims, Call.claims, Progress.map, CloseCall.hasMarked, Progress.isDestroy]
    | late | release =>
      simp [Progress.claims, Call.claims, Progress.map, Answer.hasClosed, Ring.destroy]
  | count | enterDisplay | readFree | readFilled =>
    simp [Progress.claims, Call.claims, Answer.hasClosed]

/-- The slots are given up in the step in which a `destroy` returns that it did so. -/
theorem Call.Moves.destroyed_add {q q' : Queue} {call : Call} {progress : Progress Call Answer}
    (hmove : Call.Moves q call progress q') :
    (progress.hasReturned Answer.hasDestroyed).toNat + q.ring.destroyed.toNat =
      q'.ring.destroyed.toNat := by
  cases hmove with
  | put hmove =>
    cases hmove with
    | store hring =>
      obtain ⟨-, -, -, hdestroyed⟩ := Ring.store_frame hring
      simp [Progress.hasReturned, Progress.map, hdestroyed]
    | tooLarge | refused | enter | bounce | finish =>
      simp [Progress.hasReturned, Progress.map, Answer.hasDestroyed]
  | get hmove =>
    cases hmove with
    | take hring =>
      obtain ⟨-, -, -, hdestroyed⟩ := Ring.take_frame hring
      simp [Progress.hasReturned, Progress.map, hdestroyed]
    | refused | enter | bounce | finish =>
      simp [Progress.hasReturned, Progress.map, Answer.hasDestroyed]
  | close hmove =>
    cases hmove <;> simp [Progress.hasReturned, Progress.map, Answer.hasDestroyed, Ring.close]
  | destroy hmove =>
    cases hmove with
    | close hmove | closed hmove =>
      rw [hmove.destroyed_eq]
      simp [Progress.hasReturned, Progress.map]
    | late => simp [Progress.hasReturned, Progress.map, Answer.hasDestroyed]
    | release hlive =>
      simp [Progress.hasReturned, Progress.map, Answer.hasDestroyed, Ring.destroy, hlive]
  | count | enterDisplay | readFree | readFilled =>
    simp [Progress.hasReturned, Answer.hasDestroyed]

theorem Call.Moves.destroyed_mono {q q' : Queue} {call : Call} {progress : Progress Call Answer}
    (hmove : Call.Moves q call progress q') (hdestroyed : q.ring.destroyed = true) :
    q'.ring.destroyed = true := by
  have hadd := hmove.destroyed_add
  rw [hdestroyed, Bool.toNat_true] at hadd
  exact Bool.toNat_eq_one.mp (by have := Bool.toNat_le q'.ring.destroyed; omega)

/-- Is this a call that may copy an item? -/
def Call.isOfItems : Call → Bool
  | .put _ | .get _ => true
  | _ => false

/-- Is the call about to copy an item into the ring or out of it? -/
def Call.isAdmitted : Call → Bool
  | .put (.admitted _) | .get .admitted => true
  | _ => false

/-- A call that is admitted copies an item exactly if it finds the ring open. -/
theorem Call.isSome_section?_iff {q : Queue} {call : Call} :
    (call.section? q).isSome = true ↔ call.isAdmitted = true ∧ q.ring.closed = false := by
  rcases call with (_ | _ | _) | (_ | _ | _) | _ | _ | _ | _ <;>
    simp [Call.section?, Call.isAdmitted, Ring.store, Ring.take]

/-- A `put` or a `get` touches the ring only where it copies an item. -/
theorem Call.Moves.ring_eq {q q' : Queue} {call : Call} {progress : Progress Call Answer}
    (hmove : Call.Moves q call progress q') (hitems : call.isOfItems = true)
    (hnothing : call.section? q = none) : q'.ring = q.ring := by
  cases hmove with
  | put hmove =>
    cases hmove with
    | store hring => simp [Call.section?, hring] at hnothing
    | tooLarge | refused | enter | bounce | finish => rfl
  | get hmove =>
    cases hmove with
    | take hring => simp [Call.section?, hring] at hnothing
    | refused | enter | bounce | finish => rfl
  | close | destroy | count | enterDisplay | readFree | readFilled => contradiction

namespace Crowd

variable {crowd crowd' : Crowd} {m : Move} {capacity slotLength : Nat} {path : List (Move × Crowd)}

/-- At most one call holds the claim to have closed the queue, and no more calls than one have given
up its slots. -/
structure Claimed (crowd : Crowd) : Prop where
  claims_le : crowd.positions.countP Progress.claims ≤ crowd.queue.ring.closed.toNat
  claims_eq : (∀ position ∈ crowd.positions, position.isDestroy = false) →
    crowd.positions.countP Progress.claims = crowd.queue.ring.closed.toNat
  destroyed_eq : crowd.positions.countP (Progress.hasReturned Answer.hasDestroyed) =
    crowd.queue.ring.destroyed.toNat

theorem Claimed.start (name : String) (capacity slotLength : Nat) :
    Claimed { queue := Queue.ofGeometry name capacity slotLength } :=
  ⟨Nat.le_refl 0, fun _ => rfl, rfl⟩

theorem Claimed.move (h : Claimed crowd) (hmove : move m crowd = some crowd') :
    Claimed crowd' := by
  cases effect_of_move hmove with
  | @begins call hfresh =>
    have hclaims : call.claims = false := by
      rcases call with _ | _ | (_ | _ | _) | ((_ | _ | _) | _) | _ | _ <;>
        first | rfl | cases hfresh
    have hqueue : (crowd.join call).queue = crowd.queue := rfl
    refine ⟨?_, fun hnone => ?_, ?_⟩
    · simpa [Progress.claims, hclaims, hqueue] using h.claims_le
    · rw [positions_join] at hnone
      have hold := h.claims_eq fun position hmem => hnone position (List.mem_append_left _ hmem)
      simpa [Progress.claims, hclaims, hqueue] using hold
    · simpa [Progress.hasReturned, hqueue] using h.destroyed_eq
  | @advances i choice call progress queue callers hcaller hstep hpositions =>
    have hi : crowd.positions[i]? = some (.goesOn call) := getElem?_positions hcaller
    have hmoves := Call.moves_of_step hstep
    obtain ⟨hle, heq⟩ := hmoves.claims_add
    have hadd := countP_set_add Progress.claims progress hi
    simp only [Progress.claims] at hadd
    refine ⟨?_, fun hnone => ?_, ?_⟩
    · have hclaims := h.claims_le
      rw [positions_mk, hpositions]
      show _ ≤ queue.ring.closed.toNat
      simp only [Progress.claims] at hclaims hle ⊢
      omega
    · -- nobody has let go of the claim, also not this call
      rw [positions_mk, hpositions] at hnone ⊢
      have hlt := (List.getElem?_eq_some_iff.mp hi).1
      have hself : progress.isDestroy = false := hnone _ (List.mem_set hlt progress)
      have hold := h.claims_eq fun position hmem => by
        by_cases hcall : position = .goesOn call
        · rw [hcall, ← hmoves.isDestroy, hself]
        · exact hnone _ (mem_set_of_mem_of_ne hmem hi hcall)
      have heq := heq hself
      show _ = queue.ring.closed.toNat
      simp only [Progress.claims] at hold heq ⊢
      omega
    · have hold := h.destroyed_eq
      have hdestroyed := hmoves.destroyed_add
      have hadd := countP_set_add (Progress.hasReturned Answer.hasDestroyed) progress hi
      simp only [Progress.hasReturned, Bool.toNat_false, Nat.add_zero] at hadd
      rw [positions_mk, hpositions]
      show _ = queue.ring.destroyed.toNat
      simp only [Progress.hasReturned] at hold hdestroyed ⊢
      omega
  | @shuffles m callers hnothing hpositions =>
    have hpositions' : Crowd.positions { crowd with callers := callers } = crowd.positions :=
      hpositions
    exact ⟨hpositions' ▸ h.claims_le, hpositions' ▸ h.claims_eq, hpositions' ▸ h.destroyed_eq⟩

/-! ## What becomes of a call

A `Fate` lists the places that a call can be at, with what the flags must be for it to be there. It
is kept by the steps of others since no flag is ever cleared, and by a step of the call itself since
every section looks at the flags before it does anything. For a call that has returned it says what
the answer tells of the queue. -/

/-- Where a call that was begun can be, and what it can have returned, given the flags of the
queue. -/
inductive Fate (q : Queue) : Call → Progress Call Answer → Prop
  | putEntering {item : String} : Fate q (.put (.entering item)) (.goesOn (.put (.entering item)))
  | putAdmitted {item : String} (hfits : q.fits item = true) :
      Fate q (.put (.entering item)) (.goesOn (.put (.admitted item)))
  | putStored {item : String} (hfits : q.fits item = true) :
      Fate q (.put (.entering item)) (.goesOn (.put .stored))
  | putOk {item : String} (hfits : q.fits item = true) :
      Fate q (.put (.entering item)) (.returns (.put (.ok ())))
  | putTooLarge {item : String} (hsize : q.fits item = false) :
      Fate q (.put (.entering item))
        (.returns (.put (.error (.itemTooLarge item.utf8ByteSize q.maxItemLength))))
  | putDestroyed {item : String} (hfits : q.fits item = true) (hclosed : q.ring.closed = true) :
      Fate q (.put (.entering item)) (.returns (.put (.error .destroyed)))
  | getting {call : GetCall} : Fate q (.get .entering) (.goesOn (.get call))
  | getOk {item : String} : Fate q (.get .entering) (.returns (.get (.ok item)))
  | getDestroyed (hclosed : q.ring.closed = true) :
      Fate q (.get .entering) (.returns (.get (.error .destroyed)))
  | closing {call : CloseCall} : Fate q (.close .marking) (.goesOn (.close call))
  | closed {first : Bool} (hclosed : q.ring.closed = true) :
      Fate q (.close .marking) (.returns (.close first))
  | destroying {call : DestroyCall} :
      Fate q (.destroy (.closing .marking)) (.goesOn (.destroy call))
  | destroyedFirst (hdestroyed : q.ring.destroyed = true) :
      Fate q (.destroy (.closing .marking)) (.returns (.destroy (.ok ())))
  | destroyedLate (hdestroyed : q.ring.destroyed = true) :
      Fate q (.destroy (.closing .marking)) (.returns (.destroy (.error .alreadyDestroyed)))
  | counting : Fate q .count (.goesOn .count)
  | counted {items : Nat} : Fate q .count (.returns (.count items))
  | displaying {call : ShowCall} : Fate q (.display .entering) (.goesOn (.display call))
  | displayed {shown : Text.Record} : Fate q (.display .entering) (.returns (.display shown))

namespace Fate

variable {q q' : Queue} {begun call : Call} {progress : Progress Call Answer}

theorem of_isFresh (hfresh : call.isFresh = true) : Fate q call (.goesOn call) := by
  cases call with
  | put call => cases call <;> first | exact .putEntering | cases hfresh
  | get call => cases call <;> first | exact .getting | cases hfresh
  | close call => cases call <;> first | exact .closing | cases hfresh
  | destroy call =>
    cases call with
    | closing call => cases call <;> first | exact .destroying | cases hfresh
    | releasing => cases hfresh
  | count => exact .counting
  | display call => cases call <;> first | exact .displaying | cases hfresh

/-- The flags are never cleared, so what others do does not make a fate untrue. -/
theorem mono (h : Fate q begun progress) (hslot : q'.slotLength = q.slotLength)
    (hclosed : q.ring.closed = true → q'.ring.closed = true)
    (hdestroyed : q.ring.destroyed = true → q'.ring.destroyed = true) :
    Fate q' begun progress := by
  have hmax : q'.maxItemLength = q.maxItemLength := congrArg (· - 1) hslot
  have hfits : ∀ item, q'.fits item = q.fits item := fun item =>
    decide_eq_decide.mpr (by rw [hmax])
  cases h with
  | putEntering => exact .putEntering
  | putAdmitted h => exact .putAdmitted ((hfits _).trans h)
  | putStored h => exact .putStored ((hfits _).trans h)
  | putOk h => exact .putOk ((hfits _).trans h)
  | putTooLarge h => exact hmax ▸ .putTooLarge ((hfits _).trans h)
  | putDestroyed h hc => exact .putDestroyed ((hfits _).trans h) (hclosed hc)
  | getting => exact .getting
  | getOk => exact .getOk
  | getDestroyed hc => exact .getDestroyed (hclosed hc)
  | closing => exact .closing
  | closed hc => exact .closed (hclosed hc)
  | destroying => exact .destroying
  | destroyedFirst hd => exact .destroyedFirst (hdestroyed hd)
  | destroyedLate hd => exact .destroyedLate (hdestroyed hd)
  | counting => exact .counting
  | counted => exact .counted
  | displaying => exact .displaying
  | displayed => exact .displayed

/-- A step of the call itself. A call is refused where it finds a counter or the ring closed, and a
closed counter tells of a closed ring. -/
theorem step {calls : Phase → Nat} (h : Fate q begun (.goesOn call)) (hbalanced : q.Balanced calls)
    (hcalls : ∀ p, call.phase? = some p → 0 < calls p)
    (hstep : call.step q = some (progress, q')) : Fate q' begun progress := by
  have hturn : q.Turn (some call) _ q' := .step rfl hstep
  have hmove := Call.moves_of_step hstep
  -- no fate tells of the permits, so it is enough to have it with the new ring
  refine Fate.mono (q := { q with ring := q'.ring }) ?_ hturn.geometry.2.2 id id
  cases hmove with
  | put hmove =>
    cases hmove with
    | tooLarge hsize => cases h; exact .putTooLarge hsize
    | @refused item hclosed =>
      cases h
      cases hfits : q.fits item with
      | true => exact .putDestroyed hfits (hbalanced.closed_of_free hclosed)
      | false => simp [Call.step, PutCall.step, hfits, Progress.map] at hstep
    | enter hfits => cases h; exact .putAdmitted hfits
    | bounce hclosed =>
      cases h with
      | putAdmitted hfits => exact .putDestroyed hfits hclosed
    | store =>
      cases h with
      | putAdmitted hfits => exact .putStored hfits
    | finish =>
      cases h with
      | putStored hfits => exact .putOk hfits
  | get hmove =>
    cases h
    cases hmove with
    | refused hclosed => exact .getDestroyed (hbalanced.closed_of_filled hclosed)
    | bounce hclosed => exact .getDestroyed hclosed
    | enter | take => exact .getting
    | finish => exact .getOk
  | close hmove =>
    cases h
    cases hmove with
    | late hclosed => exact .closed hclosed
    | mark | closeFree => exact .closing
    | closeFilled =>
      -- a `close` on its way to the counters has set the flag before
      refine .closed (hbalanced.closed_of_closing ?_)
      exact Nat.add_pos_right _ (hcalls .closingFilled rfl)
  | destroy hmove =>
    cases h
    cases hmove with
    | close | closed => exact .destroying
    | late hdestroyed => exact .destroyedLate hdestroyed
    | release => exact .destroyedFirst rfl
  | count => cases h; exact .counted
  | enterDisplay | readFree => cases h; exact .displaying
  | readFilled => cases h; exact .displayed

/-- Whoever has returned from closing or destroying leaves a closed queue behind. -/
theorem closed_of_isOfShutting {answer : Answer} {calls : Phase → Nat}
    (h : Fate q begun (.returns answer)) (hbalanced : q.Balanced calls)
    (hanswer : answer.isOfShutting = true) : q.ring.closed = true := by
  cases h with
  | closed hclosed => exact hclosed
  | destroyedFirst hdestroyed | destroyedLate hdestroyed =>
    exact hbalanced.closed_of_destroyed hdestroyed
  | putOk | putTooLarge | putDestroyed | getOk | getDestroyed | counted | displayed => contradiction

end Fate

/-! ## What is seen of a call on a path

Everything that a caller can rely on is said about a path and never about hidden state: when the
call began, whether its section found the ring open, whether any of its steps changed the ring, and
what is in its buffer. `Watched` puts the laws of permits, flags, stories and fates together, and a
path of a new queue keeps them all. -/

/-- The call that was begun at a place. -/
def Began (path : List (Move × Crowd)) (place : Nat) (call : Call) : Prop :=
  ∃ state, (.join call, state) ∈ path ∧ state.callers.length = place

/-- The section of the caller at a place ran at a time at which the flag was not set. -/
def FoundOpen (path : List (Move × Crowd)) (place : Nat) : Prop :=
  ∃ choice state call, (.step place choice, state) ∈ path ∧
    state.callers[place]? = some (.running call) ∧ call.isAdmitted = true ∧
    state.queue.ring.closed = false

/-- No step of the caller at a place has changed the ring: neither slots nor head, tail and
count. -/
def SparesRing (path : List (Move × Crowd)) (place : Nat) : Prop :=
  ∀ choice state next, (.step place choice, state) ∈ path →
    move (.step place choice) state = some next → next.queue.ring = state.queue.ring

/-- The record of a path. -/
def recordOf (path : List (Move × Crowd)) : List (Nat × Happening) :=
  path.flatMap fun p => happenings p.1 p.2

/-- The buffer into which the caller at a place copies what it takes out, given what was in it at
the beginning. -/
def bufferAt (path : List (Move × Crowd)) (place : Nat) (before : String) : String :=
  ((deeds place (recordOf path)).filterMap Happening.taken?).getLastD before

theorem recordOf_append (path more : List (Move × Crowd)) :
    recordOf (path ++ more) = recordOf path ++ recordOf more :=
  List.flatMap_append

@[simp] theorem recordOf_singleton (m : Move) (crowd : Crowd) :
    recordOf [(m, crowd)] = happenings m crowd :=
  List.flatMap_singleton ..

/-- A call has begun before the last move, or it is the one that begins with it. -/
theorem began_append {place : Nat} {begun : Call} :
    Began (path ++ [(m, crowd)]) place begun ↔
      Began path place begun ∨ m = .join begun ∧ crowd.callers.length = place := by
  simp only [Began, List.mem_append, List.mem_singleton, Prod.mk.injEq]
  constructor
  · rintro ⟨state, hmem | ⟨heq, rfl⟩, hlength⟩
    · exact .inl ⟨state, hmem, hlength⟩
    · exact .inr ⟨heq.symm, hlength⟩
  · rintro (⟨state, hmem, hlength⟩ | ⟨heq, hlength⟩)
    · exact ⟨state, .inl hmem, hlength⟩
    · exact ⟨crowd, .inr ⟨heq.symm, rfl⟩, hlength⟩

/-- Everything that is kept along a path around a queue that may be closed: the laws of the permits
and of the flags, the stories, and the fate of every call. -/
structure Watched (capacity slotLength : Nat) (path : List (Move × Crowd)) (crowd : Crowd) :
    Prop where
  accounted : Accounted capacity crowd
  slotLength_eq : crowd.queue.slotLength = slotLength
  claimed : Claimed crowd
  told : Told (recordOf path) crowd
  /-- Every caller has begun some call. -/
  begun : ∀ place, place < crowd.positions.length → ∃ call, Began path place call
  fate : ∀ place call, Began path place call →
    ∃ position, crowd.positions[place]? = some position ∧ Fate crowd.queue call position

namespace Watched

theorem start (name : String) (hpos : 0 < capacity) :
    Watched capacity slotLength [] { queue := Queue.ofGeometry name capacity slotLength } where
  accounted := .start name slotLength hpos
  slotLength_eq := rfl
  claimed := .start name capacity slotLength
  told := .start _
  begun place hlt := absurd hlt (Nat.not_lt_zero place)
  fate := by
    rintro place call ⟨state, hmem, -⟩
    exact absurd hmem List.not_mem_nil

/-- Nobody comes without a call, and it is the call with which the newcomer is entered. -/
theorem begun_move (h : Watched capacity slotLength path crowd) (hmove : move m crowd = some crowd')
    (place : Nat) (hlt : place < crowd'.positions.length) :
    ∃ call, Began (path ++ [(m, crowd)]) place call := by
  cases effect_of_move hmove with
  | @begins call hfresh =>
    rw [positions_join, List.length_append, List.length_singleton] at hlt
    by_cases hlast : place = crowd.positions.length
    · refine ⟨call, began_append.mpr (.inr ⟨rfl, ?_⟩)⟩
      rw [hlast, positions, List.length_map]
    · obtain ⟨begun, hbegan⟩ := h.begun place (by omega)
      exact ⟨begun, began_append.mpr (.inl hbegan)⟩
  | @advances i choice call progress queue callers hcaller hstep hpositions =>
    have hlength := congrArg List.length hpositions
    rw [List.length_set] at hlength
    obtain ⟨begun, hbegan⟩ := h.begun place (hlength ▸ hlt)
    exact ⟨begun, began_append.mpr (.inl hbegan)⟩
  | @shuffles m callers hnothing hpositions =>
    have hlength := congrArg List.length hpositions
    obtain ⟨begun, hbegan⟩ := h.begun place (hlength ▸ hlt)
    exact ⟨begun, began_append.mpr (.inl hbegan)⟩

/-- Every call has a fate after the move: the newcomer that of a fresh call, the caller that moves
the next one of its own, and all others the one they had. -/
theorem fate_move (h : Watched capacity slotLength path crowd) (hmove : move m crowd = some crowd')
    (place : Nat) (begun : Call) (hbegan : Began (path ++ [(m, crowd)]) place begun) :
    ∃ position, crowd'.positions[place]? = some position ∧ Fate crowd'.queue begun position := by
  rw [began_append] at hbegan
  cases effect_of_move hmove with
  | @begins call hfresh =>
    rw [positions_join]
    rcases hbegan with hbegan | ⟨heq, rfl⟩
    · obtain ⟨position, hplace, hfate⟩ := h.fate place begun hbegan
      have hlt := (List.getElem?_eq_some_iff.mp hplace).1
      exact ⟨position, (List.getElem?_append_left hlt).trans hplace, hfate⟩
    · -- the newcomer
      obtain rfl := Move.join.inj heq
      refine ⟨.goesOn call, ?_, .of_isFresh hfresh⟩
      simp [positions]
  | @advances i choice call progress queue callers hcaller hstep hpositions =>
    obtain ⟨position, hplace, hfate⟩ := h.fate place begun (hbegan.resolve_right (by simp))
    rw [positions_mk, hpositions]
    by_cases hself : place = i
    · subst hself
      have hlt := (List.getElem?_eq_some_iff.mp hplace).1
      obtain rfl := Option.some.inj (hplace.symm.trans (getElem?_positions hcaller))
      refine ⟨progress, List.getElem?_set_self hlt, ?_⟩
      exact hfate.step h.accounted.balanced (fun p hp => calls_pos hcaller hp) hstep
    · -- the step of somebody else
      have hturn : crowd.queue.Turn (some call) _ queue := .step rfl hstep
      refine ⟨position, (List.getElem?_set_ne (Ne.symm hself)).trans hplace, ?_⟩
      exact hfate.mono hturn.geometry.2.2 hturn.closed_mono
        (Call.moves_of_step hstep).destroyed_mono
  | @shuffles m callers hnothing hpositions =>
    rw [positions_mk, hpositions]
    refine h.fate place begun (hbegan.resolve_right ?_)
    rintro ⟨rfl, -⟩
    exact absurd hnothing (by simp [happenings])

/-- **Every move keeps what is watched.** -/
theorem move (h : Watched capacity slotLength path crowd) (hmove : move m crowd = some crowd') :
    Watched capacity slotLength (path ++ [(m, crowd)]) crowd' where
  accounted := h.accounted.move hmove
  slotLength_eq := by
    obtain ⟨call, after, hturn, -⟩ := (effect_of_move hmove).turn
    exact hturn.geometry.2.2.trans h.slotLength_eq
  claimed := h.claimed.move hmove
  told := by
    rw [recordOf_append, recordOf_singleton]
    exact h.told.move hmove
  begun := h.begun_move hmove
  fate := h.fate_move hmove

end Watched

/-- **What is watched on any path** of a new queue, however many callers come to it. -/
theorem watched_of_path {name : String} (hpos : 0 < capacity)
    (hpath : Path Crowd.move { queue := Queue.ofGeometry name capacity slotLength } path crowd) :
    Watched capacity slotLength path crowd := by
  refine hpath.invariant (.start name hpos) ?_
  exact fun m path mid next h hmove => h.move hmove

/-! ## Sections and flags on a path

A caller runs at most one section, and it leaves a record exactly if it finds the ring open. This
ties the two halves together: what is on record for a caller tells what the flag was when it
came. -/

/-- The section of a caller is on record exactly if it found the ring open. -/
theorem foundOpen_iff {place : Nat} :
    FoundOpen path place ↔ ∃ part, .ran part ∈ deeds place (recordOf path) := by
  constructor
  · rintro ⟨choice, state, call, hmem, hcaller, hadmitted, hopen⟩
    obtain ⟨part, hpart⟩ :=
      Option.isSome_iff_exists.mp (Call.isSome_section?_iff.mpr ⟨hadmitted, hopen⟩)
    refine ⟨part, List.mem_filterMap.mpr ⟨(place, .ran part), ?_, by simp⟩⟩
    -- the section is the one that runs in this very step
    refine List.mem_flatMap.mpr ⟨_, hmem, ?_⟩
    simp [happenings, hcaller, hpart]
  · rintro ⟨part, hdeed⟩
    obtain ⟨⟨place', happening⟩, hentry, heq⟩ := List.mem_filterMap.mp hdeed
    simp only [Option.ite_none_right_eq_some, Option.some.injEq] at heq
    obtain ⟨rfl, rfl⟩ := heq
    obtain ⟨⟨m, state⟩, hmem, hentry⟩ := List.mem_flatMap.mp hentry
    -- only a step puts anything on record
    cases m with
    | join call => simp [happenings] at hentry
    | rouse i => simp [happenings] at hentry
    | step i choice =>
      simp only [happenings] at hentry
      split at hentry
      · next call hcaller =>
        simp only [Option.mem_toList, Option.map_eq_some_iff, Prod.mk.injEq] at hentry
        obtain ⟨part', hpart, rfl, heq⟩ := hentry
        obtain ⟨hadmitted, hopen⟩ := Call.isSome_section?_iff.mp (Option.isSome_of_eq_some hpart)
        exact ⟨choice, state, call, hmem, hcaller, hadmitted, hopen⟩
      · simp at hentry

/-- No move clears the flag that marks the queue as closed. -/
theorem closed_move (hmove : move m crowd = some crowd')
    (hclosed : crowd.queue.ring.closed = true) :
    crowd'.queue.ring.closed = true := by
  obtain ⟨call, after, hturn, -⟩ := (effect_of_move hmove).turn
  exact hturn.closed_mono hclosed

/-- Nor the one that marks its slots as given up. -/
theorem destroyed_move (hmove : move m crowd = some crowd')
    (hdestroyed : crowd.queue.ring.destroyed = true) : crowd'.queue.ring.destroyed = true := by
  cases effect_of_move hmove with
  | begins | shuffles => exact hdestroyed
  | advances hcaller hstep => exact (Call.moves_of_step hstep).destroyed_mono hdestroyed

/-- Callers come and do not leave. -/
theorem length_move (hmove : move m crowd = some crowd') :
    crowd.callers.length ≤ crowd'.callers.length := by
  cases effect_of_move hmove with
  | begins => simp [join]
  | advances hcaller hstep hpositions =>
    have hlength := congrArg List.length hpositions
    simp only [List.length_map, List.length_set, positions] at hlength
    exact Nat.le_of_eq hlength.symm
  | shuffles hnothing hpositions =>
    have hlength := congrArg List.length hpositions
    simp only [List.length_map, positions] at hlength
    exact Nat.le_of_eq hlength.symm

/-- A caller that is not parked stays where it is until it makes a step itself. -/
theorem callers_move {place : Nat} {caller : Caller} (hmove : move m crowd = some crowd')
    (hcaller : crowd.callers[place]? = some caller) (hparked : ∀ call, caller ≠ .parked call)
    (hother : ∀ choice, m ≠ .step place choice) : crowd'.callers[place]? = some caller := by
  have hwoken : caller.woken = caller := by
    cases caller with
    | parked call => exact absurd rfl (hparked call)
    | running | waking | returned => rfl
  have hmodify : ∀ i, (crowd.callers.modify i Caller.woken)[place]? = some caller := by
    intro i
    rw [List.getElem?_modify, hcaller]
    split <;> simp [hwoken]
  cases m with
  | join call =>
    simp only [move] at hmove
    split at hmove
    · obtain rfl := Option.some.inj hmove
      exact (List.getElem?_append_left (List.getElem?_eq_some_iff.mp hcaller).1).trans hcaller
    · contradiction
  | rouse i =>
    obtain rfl := Option.some.inj hmove
    exact hmodify i
  | step i choice =>
    have hne : i ≠ place := by
      rintro rfl
      exact hother choice rfl
    simp only [move] at hmove
    split at hmove
    · unfold step at hmove
      split at hmove
      · split at hmove
        · contradiction
        · split at hmove
          · obtain rfl := Option.some.inj hmove
            exact (List.getElem?_set_ne hne).trans hcaller
          · obtain rfl := Option.some.inj hmove
            exact (List.getElem?_set_ne hne).trans hcaller
      · next turnstile everyone next hwaking =>
        obtain rfl := Option.some.inj hmove
        refine (List.getElem?_set_ne hne).trans ?_
        split
        · simp only [wake, ↓reduceIte, List.getElem?_map, hcaller, Option.map_some]
          split <;> simp [hwoken]
        · exact hmodify _
        · exact hcaller
      · contradiction
    · contradiction

theorem Story.isOfItems {call : Call} {past : List Happening} (h : Story (.goesOn call) past) :
    ∃ begun rest, past = .began begun :: rest ∧ call.isOfItems = begun.isOfItems := by
  cases h <;> exact ⟨_, _, rfl, rfl⟩

/-! ## What callers can rely on

What each kind of call returns is read off its fate, with the record of the path for the two that
copy an item. A call that comes late finds the flags set at its first section, so it is turned back
before it touches anything; nothing else is left for it, whatever others do meanwhile. -/

/-- The answers of the calls that have returned. -/
def answers (crowd : Crowd) : List Answer :=
  crowd.callers.filterMap Caller.answer?

/-- All calls that were begun in one way have returned, and there is one. -/
def AllReturned (path : List (Move × Crowd)) (crowd : Crowd) (begun : Call) : Prop :=
  (∃ place, Began path place begun) ∧
    ∀ place, Began path place begun → ∃ answer, crowd.callers[place]? = some (.returned answer)

/-- What the callers of a queue can rely on when it is closed and destroyed, told from the path. -/
structure Shuts (slotLength : Nat) (path : List (Move × Crowd)) (crowd : Crowd) : Prop where
  closed_of_destroyed :
    crowd.queue.ring.destroyed = true → crowd.queue.ring.closed = true
  /-- The flag is never cleared. -/
  closed_for_good : ∀ p ∈ path, p.2.queue.ring.closed = true → crowd.queue.ring.closed = true
  /-- At most one `close` learns that it closed the queue. -/
  closers_le : crowd.answers.countP Answer.hasClosed ≤ 1
  /-- One does if nobody but them closes it. -/
  closers_eq : AllReturned path crowd (.close .marking) →
    (∀ place, ¬ Began path place (.destroy (.closing .marking))) →
    crowd.answers.countP Answer.hasClosed = 1
  /-- One `destroy` learns that it gave up the slots. -/
  destroyers_eq : AllReturned path crowd (.destroy (.closing .marking)) →
    crowd.answers.countP Answer.hasDestroyed = 1
  /-- Every other one learns that it comes too late. -/
  destroy_returns : ∀ result, .destroy result ∈ crowd.answers →
    result = .ok () ∨ result = .error .alreadyDestroyed
  /-- A `destroy` that begins after another one has returned changes nothing. -/
  late_destroy : ∀ before state after,
    path = before ++ (.join (.destroy (.closing .marking)), state) :: after →
    (∃ result, .destroy result ∈ state.answers) →
    (∀ choice mid next, (.step state.callers.length choice, mid) ∈ after →
      move (.step state.callers.length choice) mid = some next → next.queue = mid.queue) ∧
    ∀ answer, crowd.callers[state.callers.length]? = some (.returned answer) →
      answer = .destroy (.error .alreadyDestroyed)
  /-- A `put` of an item that fits returns `ok` if its section found the ring open; otherwise it
  changes nothing in the ring. -/
  put_returns : ∀ place item answer, Began path place (.put (.entering item)) →
    item.utf8ByteSize ≤ slotLength - 1 → crowd.callers[place]? = some (.returned answer) →
    answer = .put (.ok ()) ∧ FoundOpen path place ∨
    answer = .put (.error .destroyed) ∧ ¬ FoundOpen path place ∧ SparesRing path place
  /-- The same of a `get`, and of the buffer of its caller. -/
  get_returns : ∀ place answer, Began path place (.get .entering) →
    crowd.callers[place]? = some (.returned answer) →
    (∃ item, answer = .get (.ok item) ∧ FoundOpen path place ∧
      ∀ before, bufferAt path place before = item) ∨
    answer = .get (.error .destroyed) ∧ ¬ FoundOpen path place ∧ SparesRing path place ∧
      ∀ before, bufferAt path place before = before
  /-- What begins after a `close` or a `destroy` has returned is refused. -/
  late_calls : ∀ before call state after, path = before ++ (.join call, state) :: after →
    (∃ answer ∈ state.answers, answer.isOfShutting = true) →
    ∀ answer, crowd.callers[state.callers.length]? = some (.returned answer) →
    (∀ item, call = .put (.entering item) → item.utf8ByteSize ≤ slotLength - 1 →
      answer = .put (.error .destroyed)) ∧
    (call = .get .entering → answer = .get (.error .destroyed))
  /-- An item that fits no slot is refused for its size, at once and whatever the queue is like. -/
  too_large : ∀ place item, Began path place (.put (.entering item)) →
    slotLength - 1 < item.utf8ByteSize →
    let refusal : Caller :=
      .returned (.put (.error (.itemTooLarge item.utf8ByteSize (slotLength - 1))))
    crowd.callers[place]? = some refusal ∨
    crowd.callers[place]? = some (.running (.put (.entering item))) ∧
      ∀ choice, move (.step place choice) crowd =
        some { crowd with callers := crowd.callers.set place refusal }

section Shuts

variable {name : String}

theorem Watched.fate_returned (h : Watched capacity slotLength path crowd) {place : Nat}
    {begun : Call} {answer : Answer} (hbegan : Began path place begun)
    (hcaller : crowd.callers[place]? = some (.returned answer)) :
    Fate crowd.queue begun (.returns answer) ∧
      Story (.returns answer) (deeds place (recordOf path)) := by
  obtain ⟨position, hplace, hfate⟩ := h.fate place begun hbegan
  obtain rfl := Option.some.inj (hplace.symm.trans (getElem?_positions hcaller))
  exact ⟨hfate, h.told.story_of_caller hcaller⟩

theorem Watched.fate_of_caller (h : Watched capacity slotLength path crowd) {place : Nat}
    {caller : Caller} (hcaller : crowd.callers[place]? = some caller) :
    ∃ begun, Began path place begun ∧ Fate crowd.queue begun caller.position := by
  have hposition := getElem?_positions hcaller
  obtain ⟨begun, hbegan⟩ := h.begun place (List.getElem?_eq_some_iff.mp hposition).1
  obtain ⟨position, hplace, hfate⟩ := h.fate place begun hbegan
  obtain rfl := Option.some.inj (hplace.symm.trans hposition)
  exact ⟨begun, hbegan, hfate⟩

theorem mem_answers {answer : Answer} :
    answer ∈ crowd.answers ↔ ∃ place : Nat, crowd.callers[place]? = some (.returned answer) := by
  rw [answers, List.mem_filterMap]
  constructor
  · rintro ⟨caller, hmem, hanswer⟩
    obtain ⟨place, hcaller⟩ := List.mem_iff_getElem?.mp hmem
    cases caller with
    | returned => exact ⟨place, Option.some.inj hanswer ▸ hcaller⟩
    | running | parked | waking => contradiction
  · rintro ⟨place, hcaller⟩
    exact ⟨_, List.mem_of_getElem? hcaller, rfl⟩

/-- Among the answers are no more of a kind than calls that have come so far. -/
theorem countP_answers_le (crowd : Crowd) (p : Answer → Bool) (p' : Progress Call Answer → Bool)
    (hp : ∀ answer, p answer = p' (.returns answer)) :
    crowd.answers.countP p ≤ crowd.positions.countP p' := by
  rw [answers, positions, List.countP_filterMap, List.countP_map]
  refine List.countP_mono_left fun caller _ hanswer => ?_
  cases caller with
  | returned answer => exact (hp answer).symm.trans hanswer
  | running | parked | waking => contradiction

theorem countP_answers_eq (p : Answer → Bool) (p' : Progress Call Answer → Bool)
    (hp : ∀ answer, p answer = p' (.returns answer))
    (hall : ∀ caller ∈ crowd.callers, p' caller.position = true →
      ∃ answer, caller = .returned answer) :
    crowd.answers.countP p = crowd.positions.countP p' := by
  rw [answers, positions, List.countP_filterMap, List.countP_map]
  refine List.countP_congr fun caller hmem => ?_
  constructor
  · intro hanswer
    cases caller with
    | returned answer => exact (hp answer).symm.trans hanswer
    | running | parked | waking => contradiction
  · intro hposition
    obtain ⟨answer, rfl⟩ := hall caller hmem hposition
    exact (hp answer).trans hposition

theorem Watched.closed_of_mem_answers (h : Watched capacity slotLength path crowd)
    {answer : Answer} (hmem : answer ∈ crowd.answers) (hanswer : answer.isOfShutting = true) :
    crowd.queue.ring.closed = true := by
  obtain ⟨place, hcaller⟩ := mem_answers.mp hmem
  obtain ⟨begun, -, hfate⟩ := h.fate_of_caller hcaller
  exact hfate.closed_of_isOfShutting h.accounted.balanced hanswer

theorem Watched.closers_eq (h : Watched capacity slotLength path crowd)
    (hall : AllReturned path crowd (.close .marking))
    (hnone : ∀ place, ¬ Began path place (.destroy (.closing .marking))) :
    crowd.answers.countP Answer.hasClosed = 1 := by
  obtain ⟨⟨place, hbegan⟩, hreturned⟩ := hall
  obtain ⟨answer, hcaller⟩ := hreturned place hbegan
  have hclosed : crowd.queue.ring.closed = true := by
    obtain ⟨hfate, -⟩ := h.fate_returned hbegan hcaller
    cases hfate with
    | closed hclosed => exact hclosed
  -- the flag is set and no claim was given away: as many answers as claims, and that is one
  have hfates : ∀ caller ∈ crowd.callers, ∃ begun place, crowd.callers[place]? = some caller ∧
      Began path place begun ∧ Fate crowd.queue begun caller.position := by
    intro caller hmem
    obtain ⟨place, hplace⟩ := List.mem_iff_getElem?.mp hmem
    obtain ⟨begun, hbegan, hfate⟩ := h.fate_of_caller hplace
    exact ⟨begun, place, hplace, hbegan, hfate⟩
  rw [countP_answers_eq Answer.hasClosed Progress.claims (fun _ => rfl),
    h.claimed.claims_eq, hclosed]
  · rfl
  · intro position hmem
    obtain ⟨caller, hcaller, rfl⟩ := List.mem_map.mp hmem
    obtain ⟨begun, place, -, hbegan, hfate⟩ := hfates caller hcaller
    generalize caller.position = position at hfate
    cases hfate with
    | destroying | destroyedFirst | destroyedLate => exact absurd hbegan (hnone place)
    | _ => rfl
  · -- only a `close` can hold the claim, and it has returned
    intro caller hmem hclaims
    obtain ⟨begun, place, hplace, hbegan, hfate⟩ := hfates caller hmem
    generalize caller.position = position at hfate hclaims
    cases hfate with
    | closing | closed =>
      obtain ⟨answer, hanswer⟩ := hreturned place hbegan
      exact ⟨answer, Option.some.inj (hplace.symm.trans hanswer)⟩
    | destroying => exact absurd hbegan (hnone place)
    | _ => contradiction

theorem Watched.destroyers_eq (h : Watched capacity slotLength path crowd)
    (hall : AllReturned path crowd (.destroy (.closing .marking))) :
    crowd.answers.countP Answer.hasDestroyed = 1 := by
  obtain ⟨⟨place, hbegan⟩, hreturned⟩ := hall
  obtain ⟨answer, hcaller⟩ := hreturned place hbegan
  have hdestroyed : crowd.queue.ring.destroyed = true := by
    obtain ⟨hfate, -⟩ := h.fate_returned hbegan hcaller
    cases hfate with
    | destroyedFirst hdestroyed | destroyedLate hdestroyed => exact hdestroyed
  rw [countP_answers_eq Answer.hasDestroyed (Progress.hasReturned Answer.hasDestroyed)
    (fun _ => rfl), h.claimed.destroyed_eq, hdestroyed]
  · rfl
  · intro caller hmem hgaveUp
    obtain ⟨place, hplace⟩ := List.mem_iff_getElem?.mp hmem
    obtain ⟨begun, hbegan, hfate⟩ := h.fate_of_caller hplace
    generalize caller.position = position at hfate hgaveUp
    cases hfate with
    | destroyedFirst | destroyedLate =>
      obtain ⟨answer, hanswer⟩ := hreturned place hbegan
      exact ⟨answer, Option.some.inj (hplace.symm.trans hanswer)⟩
    | _ => contradiction

/-- A `put` or a `get` with nothing but its beginning on record has left the ring alone. -/
theorem sparesRing_of_deeds (hpos : 0 < capacity)
    (hpath : Path move { queue := Queue.ofGeometry name capacity slotLength } path crowd)
    {place : Nat} {begun : Call} (hdeeds : deeds place (recordOf path) = [.began begun])
    (hitems : begun.isOfItems = true) : SparesRing path place := by
  intro choice state next hmem hmove
  obtain ⟨before, after, rfl⟩ := List.append_of_mem hmem
  have hbefore := watched_of_path hpos hpath.split.1
  cases effect_of_move hmove with
  | shuffles => rfl
  | @advances _ _ call progress queue callers hcaller hstep =>
    have hstory := hbefore.told.story_of_caller hcaller
    obtain ⟨first, rest, hpast, hkind⟩ := Story.isOfItems hstory
    have hsplit : recordOf (before ++ (.step place choice, state) :: after) =
        recordOf before ++ (happenings (.step place choice) state ++ recordOf after) := by
      rw [← List.singleton_append, recordOf_append, recordOf_append, recordOf_singleton]
    rw [hsplit, deeds_append, hpast, List.cons_append, List.cons.injEq] at hdeeds
    obtain ⟨hfirst, hrest⟩ := hdeeds
    obtain rfl := Happening.began.inj hfirst
    -- a section of this step would be on record as well
    have hnothing : call.section? state.queue = none := by
      cases hsection : call.section? state.queue with
      | none => rfl
      | some part => simp [happenings, hcaller, hsection, deeds] at hrest
    exact (Call.moves_of_step hstep).ring_eq (hkind.trans hitems) hnothing

theorem not_foundOpen_of_deeds {place : Nat} {begun : Call}
    (hdeeds : deeds place (recordOf path) = [.began begun]) : ¬ FoundOpen path place := by
  rw [foundOpen_iff, hdeeds]
  simp

theorem put_returns (hpos : 0 < capacity)
    (hpath : Path move { queue := Queue.ofGeometry name capacity slotLength } path crowd)
    {place : Nat} {item : String} {answer : Answer}
    (hbegan : Began path place (.put (.entering item)))
    (hfits : item.utf8ByteSize ≤ slotLength - 1)
    (hcaller : crowd.callers[place]? = some (.returned answer)) :
    answer = .put (.ok ()) ∧ FoundOpen path place ∨
    answer = .put (.error .destroyed) ∧ ¬ FoundOpen path place ∧ SparesRing path place := by
  have h := watched_of_path hpos hpath
  obtain ⟨hfate, hstory⟩ := h.fate_returned hbegan hcaller
  generalize hpast : deeds place (recordOf path) = past at hstory
  cases hfate with
  | putOk =>
    cases hstory with
    | @putOk item' =>
      exact .inl ⟨rfl, foundOpen_iff.mpr ⟨.stored item', by simp [hpast]⟩⟩
  | putTooLarge hsize =>
    -- it would not fit
    have hfits' := (Queue.fits_iff crowd.queue item).mpr (h.slotLength_eq ▸ hfits)
    exact absurd (hsize.symm.trans hfits') Bool.false_ne_true
  | putDestroyed =>
    cases hstory
    exact .inr ⟨rfl, not_foundOpen_of_deeds hpast, sparesRing_of_deeds hpos hpath hpast rfl⟩

theorem get_returns (hpos : 0 < capacity)
    (hpath : Path move { queue := Queue.ofGeometry name capacity slotLength } path crowd)
    {place : Nat} {answer : Answer} (hbegan : Began path place (.get .entering))
    (hcaller : crowd.callers[place]? = some (.returned answer)) :
    (∃ item, answer = .get (.ok item) ∧ FoundOpen path place ∧
      ∀ before, bufferAt path place before = item) ∨
    answer = .get (.error .destroyed) ∧ ¬ FoundOpen path place ∧ SparesRing path place ∧
      ∀ before, bufferAt path place before = before := by
  have h := watched_of_path hpos hpath
  obtain ⟨hfate, hstory⟩ := h.fate_returned hbegan hcaller
  generalize hpast : deeds place (recordOf path) = past at hstory
  cases hfate with
  | @getOk item =>
    cases hstory
    refine .inl ⟨item, rfl, foundOpen_iff.mpr ⟨.taken item, by simp [hpast]⟩, fun before => ?_⟩
    rw [bufferAt, hpast]
    rfl
  | getDestroyed =>
    cases hstory
    refine .inr ⟨rfl, not_foundOpen_of_deeds hpast, sparesRing_of_deeds hpos hpath hpast rfl,
      fun before => ?_⟩
    rw [bufferAt, hpast]
    rfl

/-- A caller that comes to a closed queue never finds it open. -/
theorem not_foundOpen_of_late {before after : List (Move × Crowd)} {state start : Crowd}
    {call : Call} (hpath : Path move start (before ++ (.join call, state) :: after) crowd)
    (hclosed : state.queue.ring.closed = true) :
    ¬ FoundOpen (before ++ (.join call, state) :: after) state.callers.length := by
  rintro ⟨choice, mid, caller, hmem, hcaller, -, hopen⟩
  have hlater := (hpath.holds_after (P := fun c => c.queue.ring.closed = true)
    (fun _ _ _ h hmove => closed_move hmove h) fun _ hmove => closed_move hmove hclosed).1
  rcases List.mem_append.mp hmem with hearlier | hmem
  · -- the place was not taken then
    obtain ⟨first, second, rfl⟩ := List.append_of_mem hearlier
    obtain ⟨-, next, hnext, hrest⟩ := hpath.split.1.split
    have hlength : mid.callers.length ≤ state.callers.length :=
      hrest.reaches.invariant (P := fun c => mid.callers.length ≤ c.callers.length)
        (length_move hnext) fun _ _ _ h hmove => Nat.le_trans h (length_move hmove)
    have hlt := (List.getElem?_eq_some_iff.mp hcaller).1
    omega
  · rcases List.mem_cons.mp hmem with heq | hmem
    · simp at heq
    · have hstill : mid.queue.ring.closed = true := hlater _ hmem
      exact absurd hopen (by simp [hstill])

/-- What a `destroy` is like that found everything done when it began. -/
def IsLate (place : Nat) (crowd : Crowd) : Prop :=
  crowd.queue.ring.closed = true ∧ crowd.queue.ring.destroyed = true ∧
    ∃ position, crowd.positions[place]? = some position ∧
      (position = .goesOn (.destroy (.closing .marking)) ∨
        position = .goesOn (.destroy .releasing) ∨
        position = .returns (.destroy (.error .alreadyDestroyed)))

/-- It stays so, and its own steps leave the queue alone. -/
theorem IsLate.move {place : Nat} (h : IsLate place crowd) (hmove : move m crowd = some crowd') :
    IsLate place crowd' ∧ ∀ choice, m = .step place choice → crowd'.queue = crowd.queue := by
  obtain ⟨hclosed, hdestroyed, position, hplace, hposition⟩ := h
  have hclosed' := closed_move hmove hclosed
  have hdestroyed' := destroyed_move hmove hdestroyed
  have hlt := (List.getElem?_eq_some_iff.mp hplace).1
  cases effect_of_move hmove with
  | @begins call hfresh =>
    refine ⟨⟨hclosed', hdestroyed', position, ?_, hposition⟩, fun choice heq => rfl⟩
    rw [positions_join, List.getElem?_append_left hlt, hplace]
  | @advances i choice call progress queue callers hcaller hstep hpositions =>
    by_cases hself : place = i
    · subst hself
      obtain rfl := Option.some.inj (hplace.symm.trans (getElem?_positions hcaller))
      have hset : (Crowd.positions { queue := queue, callers := callers })[place]? =
          some progress := by
        rw [positions_mk, hpositions, List.getElem?_set_self hlt]
      rcases hposition with heq | heq | heq
      · -- it finds the ring marked
        obtain rfl := Progress.goesOn.inj heq
        simp only [Call.step, DestroyCall.step, CloseCall.step, hclosed, ↓reduceIte, Progress.map,
          Option.some.injEq, Prod.mk.injEq] at hstep
        obtain ⟨rfl, rfl⟩ := hstep
        exact ⟨⟨hclosed, hdestroyed, _, hset, .inr (.inl rfl)⟩, fun _ _ => rfl⟩
      · -- and the slots given up
        obtain rfl := Progress.goesOn.inj heq
        simp only [Call.step, DestroyCall.step, hdestroyed, ↓reduceIte, Progress.map,
          Option.some.injEq, Prod.mk.injEq] at hstep
        obtain ⟨rfl, rfl⟩ := hstep
        exact ⟨⟨hclosed, hdestroyed, _, hset, .inr (.inr rfl)⟩, fun _ _ => rfl⟩
      · contradiction
    · refine ⟨⟨hclosed', hdestroyed', position, ?_, hposition⟩, fun choice' heq => ?_⟩
      · rw [positions_mk, hpositions, List.getElem?_set_ne (Ne.symm hself), hplace]
      · injection heq with hi
        exact absurd hi.symm hself
  | @shuffles m callers hnothing hpositions =>
    refine ⟨⟨hclosed', hdestroyed', position, ?_, hposition⟩, fun _ _ => rfl⟩
    rw [positions_mk, hpositions, hplace]

theorem late_destroy (hpos : 0 < capacity) {before after : List (Move × Crowd)} {state : Crowd}
    (hpath : Path move { queue := Queue.ofGeometry name capacity slotLength }
      (before ++ (.join (.destroy (.closing .marking)), state) :: after) crowd)
    {result : Except QueueError Unit} (hanswer : .destroy result ∈ state.answers) :
    (∀ choice mid next, (.step state.callers.length choice, mid) ∈ after →
      move (.step state.callers.length choice) mid = some next → next.queue = mid.queue) ∧
    ∀ answer, crowd.callers[state.callers.length]? = some (.returned answer) →
      answer = .destroy (.error .alreadyDestroyed) := by
  have h := watched_of_path hpos hpath.split.1
  have hdestroyed : state.queue.ring.destroyed = true := by
    obtain ⟨place, hcaller⟩ := mem_answers.mp hanswer
    obtain ⟨begun, -, hfate⟩ := h.fate_of_caller hcaller
    simp only [Caller.position] at hfate
    cases hfate with
    | destroyedFirst hdestroyed | destroyedLate hdestroyed => exact hdestroyed
  have hbegins : ∀ next, move (.join (.destroy (.closing .marking))) state = some next →
      IsLate state.callers.length next := by
    intro next hmove
    obtain rfl := Option.some.inj hmove
    refine ⟨h.accounted.balanced.closed_of_destroyed hdestroyed, hdestroyed, _, ?_, .inl rfl⟩
    rw [positions_join]
    simp [positions]
  obtain ⟨hlater, hlast⟩ := hpath.holds_after (fun _ _ _ h hmove => (h.move hmove).1) hbegins
  refine ⟨fun choice mid next hmem hmove => ((hlater _ hmem).move hmove).2 choice rfl,
    fun answer hcaller => ?_⟩
  obtain ⟨-, -, position, hplace, hposition⟩ := hlast
  obtain rfl := Option.some.inj (hplace.symm.trans (getElem?_positions hcaller))
  rcases hposition with heq | heq | heq
  · contradiction
  · contradiction
  · exact Progress.returns.inj heq

theorem late_calls (hpos : 0 < capacity) {before after : List (Move × Crowd)} {state : Crowd}
    {call : Call}
    (hpath : Path move { queue := Queue.ofGeometry name capacity slotLength }
      (before ++ (.join call, state) :: after) crowd)
    {answer answer' : Answer} (hanswer : answer ∈ state.answers)
    (hshuts : answer.isOfShutting = true)
    (hcaller : crowd.callers[state.callers.length]? = some (.returned answer')) :
    (∀ item, call = .put (.entering item) → item.utf8ByteSize ≤ slotLength - 1 →
      answer' = .put (.error .destroyed)) ∧
    (call = .get .entering → answer' = .get (.error .destroyed)) := by
  have hclosed := (watched_of_path hpos hpath.split.1).closed_of_mem_answers hanswer hshuts
  have hnever := not_foundOpen_of_late hpath hclosed
  have hbegan : Began (before ++ (.join call, state) :: after) state.callers.length call :=
    ⟨state, by simp, rfl⟩
  constructor
  · rintro item rfl hfits
    rcases put_returns hpos hpath hbegan hfits hcaller with ⟨-, hfound⟩ | ⟨hanswer, -⟩
    · exact absurd hfound hnever
    · exact hanswer
  · rintro rfl
    rcases get_returns hpos hpath hbegan hcaller with ⟨item, -, hfound, -⟩ | ⟨hanswer, -⟩
    · exact absurd hfound hnever
    · exact hanswer

/-- A `put` of an item that fits no slot returns with its first step, which nothing can hold up. -/
theorem move_of_too_large {place : Nat} {item : String}
    (hsize : crowd.queue.slotLength - 1 < item.utf8ByteSize)
    (hcaller : crowd.callers[place]? = some (.running (.put (.entering item)))) (choice : Nat) :
    move (.step place choice) crowd =
      some { crowd with callers := crowd.callers.set place (.returned
        (.put (.error (.itemTooLarge item.utf8ByteSize (crowd.queue.slotLength - 1))))) } := by
  have hfits : crowd.queue.fits item = false := decide_eq_false (Nat.not_le.mpr hsize)
  simp [move, isChoice, hcaller, Crowd.step, Call.entersRing, Call.step, PutCall.step, hfits,
    Progress.map, Call.wakes, Caller.ofProgress, Queue.maxItemLength]

theorem too_large (hpos : 0 < capacity)
    (hpath : Path move { queue := Queue.ofGeometry name capacity slotLength } path crowd)
    {place : Nat} {item : String} (hbegan : Began path place (.put (.entering item)))
    (hsize : slotLength - 1 < item.utf8ByteSize) :
    crowd.callers[place]? = some (.returned
      (.put (.error (.itemTooLarge item.utf8ByteSize (slotLength - 1))))) ∨
    crowd.callers[place]? = some (.running (.put (.entering item))) := by
  obtain ⟨state, hmem, rfl⟩ := hbegan
  obtain ⟨before, after, rfl⟩ := List.append_of_mem hmem
  refine (hpath.holds_after (P := fun c => c.queue.slotLength = slotLength ∧
    (c.callers[state.callers.length]? = some (.returned
      (.put (.error (.itemTooLarge item.utf8ByteSize (slotLength - 1))))) ∨
    c.callers[state.callers.length]? = some (.running (.put (.entering item)))))
    ?_ ?_).2.2
  · rintro m mid next ⟨hslot, hplace⟩ hmove
    have hslot' : next.queue.slotLength = slotLength := by
      obtain ⟨call, after, hturn, -⟩ := (effect_of_move hmove).turn
      exact hturn.geometry.2.2.trans hslot
    refine ⟨hslot', ?_⟩
    by_cases hself : ∃ choice, m = .step state.callers.length choice
    · obtain ⟨choice, rfl⟩ := hself
      rcases hplace with hreturned | hrunning
      · -- who has returned makes no step
        simp [Crowd.move, Crowd.step, hreturned] at hmove
      · subst hslot
        rw [move_of_too_large hsize hrunning] at hmove
        obtain rfl := Option.some.inj hmove
        exact .inl (List.getElem?_set_self (List.getElem?_eq_some_iff.mp hrunning).1)
    · have hother := fun choice heq => hself ⟨choice, heq⟩
      exact hplace.imp (fun h => callers_move hmove h (fun _ => Caller.noConfusion) hother)
        fun h => callers_move hmove h (fun _ => Caller.noConfusion) hother
  · intro next hmove
    have h := watched_of_path hpos hpath.split.1
    obtain rfl := Option.some.inj hmove
    exact ⟨h.slotLength_eq, .inr (by simp [join])⟩

/-- **Closing and destroying**, whatever the callers of a new queue do, and in whatever order. -/
theorem shuts_of_path (hpos : 0 < capacity)
    (hpath : Path move { queue := Queue.ofGeometry name capacity slotLength } path crowd) :
    Shuts slotLength path crowd := by
  have h := watched_of_path hpos hpath
  refine
    { closed_of_destroyed := h.accounted.balanced.closed_of_destroyed
      closed_for_good := fun p hmem hclosed => ?_
      closers_le := ?_
      closers_eq := h.closers_eq
      destroyers_eq := h.destroyers_eq
      destroy_returns := fun result hmem => ?_
      late_destroy := ?_
      put_returns := fun place item answer => put_returns hpos hpath
      get_returns := fun place answer => get_returns hpos hpath
      late_calls := ?_
      too_large := fun place item hbegan hsize => ?_ }
  · obtain ⟨before, after, rfl⟩ := List.append_of_mem hmem
    exact (hpath.holds_after (P := fun c => c.queue.ring.closed = true)
      (fun _ _ _ h hmove => closed_move hmove h) fun _ hmove => closed_move hmove hclosed).2
  · have hle := crowd.countP_answers_le Answer.hasClosed Progress.claims fun _ => rfl
    exact Nat.le_trans hle (Nat.le_trans h.claimed.claims_le (Bool.toNat_le _))
  · obtain ⟨place, hcaller⟩ := mem_answers.mp hmem
    obtain ⟨begun, -, hfate⟩ := h.fate_of_caller hcaller
    simp only [Caller.position] at hfate
    cases hfate with
    | destroyedFirst => exact .inl rfl
    | destroyedLate => exact .inr rfl
  · rintro before state after rfl ⟨result, hanswer⟩
    exact late_destroy hpos hpath hanswer
  · rintro before call state after rfl ⟨answer, hanswer, hshuts⟩ answer' hcaller
    exact late_calls hpos hpath hanswer hshuts hcaller
  · refine (too_large hpos hpath hbegan hsize).imp id fun hrunning => ⟨hrunning, fun choice => ?_⟩
    have hslot := h.slotLength_eq
    subst hslot
    exact move_of_too_large hsize hrunning choice

/-- A queue is marked by a `close`, destroyed meanwhile, and refuses a `put` that was let in before
and a `get` that comes later. -/
theorem shuts_of_path_destroyed_while_closing :
    let start : Crowd := { queue := Queue.ofGeometry "files" 1 8 }
    let crowd : Crowd :=
      { queue :=
          { Queue.ofGeometry "files" 1 8 with
            ring := { slots := [], closed := true, destroyed := true }
            free := { permits := 0, closed := true }
            filled := { permits := 0, closed := true } }
        callers := [.returned (.put (.error .destroyed)), .returned (.close true),
          .returned (.destroy (.ok ())), .returned (.get (.error .destroyed))] }
    ∃ path, Path move start path crowd ∧ Shuts 8 path crowd := by
  intro start crowd
  have hfollow : Path.follow move
      [.join (.put (.entering "a")), .step 0 0, .join (.close .marking), .step 1 0,
        .join (.destroy (.closing .marking)), .step 2 0, .step 2 0, .step 0 0,
        .step 1 0, .step 1 0, .step 1 0, .step 1 0, .join (.get .entering), .step 3 0]
      start = some crowd := by
    decide +kernel
  obtain ⟨path, hpath⟩ := Path.of_follow hfollow
  exact ⟨path, hpath, shuts_of_path Nat.one_pos hpath⟩

end Shuts

end Crowd

end HostLookup
