import HostLookup.Proofs.Queue.Ledger
import HostLookup.Proofs.Traces

/-!
# A crowd, move by move

Everything that can happen around a queue is one of three kinds of move: another thread starts a
call, a caller makes its next step, or a parked caller wakes without reason. `Reaches Crowd.move`
are the reachable crowds, `Traces Crowd.move Crowd.happenings` the same with the record of the calls
that were begun and of the sections of the ring, each with the place of its caller.

Parking and waking change where a caller stands, and not how far its call has come. So the queue
and the *positions* of the calls are all that the laws of the queue need:

* **`Crowd.effect_of_move`**: a move lets a call begin, lets one call make a step, or leaves the
  queue and the positions alone.
* **`Crowd.Effect.turn`**: a move is a turn of the queue that runs the sections on record.
-/

namespace HostLookup

/-! ## Positions

A caller that is parked or about to wake others stands in the middle of a call all the same. Its
position forgets who waits for whom, so that the laws of the permits need not know of waiting. -/

/-- Is the call only about to begin? -/
def Call.isFresh : Call → Bool
  | .put (.entering _) | .get .entering => true
  | .close .marking | .destroy (.closing .marking) => true
  | .count | .display .entering => true
  | _ => false

theorem Call.phase?_of_isFresh {call : Call} (hfresh : call.isFresh = true) :
    call.phase? = none := by
  cases call with
  | put call => cases call <;> first | rfl | cases hfresh
  | get call => cases call <;> first | rfl | cases hfresh
  | close call => cases call <;> first | rfl | cases hfresh
  | destroy call =>
    cases call with
    | closing call => cases call <;> first | rfl | cases hfresh
    | releasing => cases hfresh
  | count | display => rfl

/-- How far the call of a caller has come. -/
def Caller.position : Caller → Progress Call Answer
  | .running call | .parked call => .goesOn call
  | .waking _ _ next => next
  | .returned answer => .returns answer

@[simp] theorem Caller.position_woken (caller : Caller) :
    caller.woken.position = caller.position := by
  cases caller <;> rfl

@[simp] theorem Caller.position_ofProgress (progress : Progress Call Answer) :
    (Caller.ofProgress progress).position = progress := by
  cases progress <;> rfl

namespace Crowd

/-- How far all calls have come. -/
def positions (crowd : Crowd) : List (Progress Call Answer) :=
  crowd.callers.map Caller.position

theorem positions_mk (queue : Queue) (callers : List Caller) :
    positions { queue := queue, callers := callers } = callers.map Caller.position :=
  rfl

@[simp] theorem positions_join (crowd : Crowd) (call : Call) :
    (crowd.join call).positions = crowd.positions ++ [.goesOn call] := by
  simp [positions, join, Caller.position]

theorem getElem?_positions {crowd : Crowd} {i : Nat} {caller : Caller}
    (hcaller : crowd.callers[i]? = some caller) :
    crowd.positions[i]? = some caller.position := by
  simp [positions, hcaller]

/-- The number of calls in a phase. -/
def calls (crowd : Crowd) (p : Phase) : Nat :=
  crowd.positions.countP fun position => position.phase? Call.phase? = some p

theorem calls_pos {crowd : Crowd} {i : Nat} {caller : Caller} {p : Phase}
    (hcaller : crowd.callers[i]? = some caller)
    (hphase : caller.position.phase? Call.phase? = some p) : 0 < crowd.calls p := by
  have hmem : caller.position ∈ crowd.positions :=
    List.mem_map_of_mem (List.mem_of_getElem? hcaller)
  exact List.countP_pos_iff.mpr ⟨_, hmem, by simpa using hphase⟩

/-- Waking whom it may concern leaves every call as far as it was. -/
theorem map_position_wake (crowd : Crowd) (turnstile : Turnstile) (everyone : Bool) (which : Nat) :
    (crowd.wake turnstile everyone which).map Caller.position = crowd.positions := by
  unfold wake positions
  cases everyone with
  | true =>
    simp only [↓reduceIte, List.map_map]
    refine List.map_congr_left fun caller _ => ?_
    simp only [Function.comp]
    split
    · exact Caller.position_woken caller
    · rfl
  | false =>
    simp only [Bool.false_eq_true, ↓reduceIte]
    apply List.ext_getElem?
    intro j
    simp only [List.getElem?_map, List.getElem?_modify]
    cases crowd.callers[j]? with
    | none => rfl
    | some caller => simp only [Option.map_eq_map, Option.map_some]; split <;> simp

/-! ## Moves

A move changes at most one position and at most one section of the ring, and `Effect` says which. It
is proved once by going through the steps of a crowd; later modules take cases on it and do not open
the step function again. -/

/-- What can happen next. -/
inductive Move where
  /-- Another thread starts a call. -/
  | join (call : Call)
  /-- The `i`-th caller makes a step; `choice` picks whom it wakes. -/
  | step (i choice : Nat)
  /-- The `i`-th caller wakes without reason, if it is parked. -/
  | rouse (i : Nat)

/-- Can this be the choice of whom the `i`-th caller wakes? If somebody is parked where it has to
wake one caller, somebody has to be chosen. -/
def isChoice (crowd : Crowd) (i choice : Nat) : Bool :=
  match crowd.callers[i]? with
  | some (.waking turnstile false _) => choice = 0 || choice < (crowd.parkedAt turnstile).length
  | _ => true

/-- A crowd after a move. -/
def move : Move → Crowd → Option Crowd
  | .join call, crowd => if call.isFresh then some (crowd.join call) else none
  | .step i choice, crowd => if crowd.isChoice i choice then crowd.step i choice else none
  | .rouse i, crowd => some (crowd.rouse i)

/-- What one caller does to the knowledge of all. -/
inductive Happening where
  | began (call : Call)
  | ran (part : Section)

namespace Happening

def stored? : Happening → Option String
  | .ran part => part.stored?
  | .began _ => none

def taken? : Happening → Option String
  | .ran part => part.taken?
  | .began _ => none

end Happening

/-- What happens in a move, and at whose place. -/
def happenings : Move → Crowd → List (Nat × Happening)
  | .join call, crowd => [(crowd.callers.length, .began call)]
  | .step i _, crowd =>
    match crowd.callers[i]? with
    | some (.running call) => ((call.section? crowd.queue).map fun part => (i, .ran part)).toList
    | _ => []
  | .rouse _, _ => []

/-- The items that went in, oldest first. -/
def storedItems (record : List (Nat × Happening)) : List String :=
  record.filterMap fun entry => entry.2.stored?

/-- The items that came out, oldest first. -/
def takenItems (record : List (Nat × Happening)) : List String :=
  record.filterMap fun entry => entry.2.taken?

@[simp] theorem storedItems_append (record more : List (Nat × Happening)) :
    storedItems (record ++ more) = storedItems record ++ storedItems more :=
  List.filterMap_append

@[simp] theorem takenItems_append (record more : List (Nat × Happening)) :
    takenItems (record ++ more) = takenItems record ++ takenItems more :=
  List.filterMap_append

/-- What a move does to the queue and to the positions of the calls. -/
inductive Effect (crowd : Crowd) : Move → Crowd → Prop where
  /-- A call begins. -/
  | begins {call : Call} (hfresh : call.isFresh = true) :
      Effect crowd (.join call) (crowd.join call)
  /-- One call makes a step. -/
  | advances {i choice : Nat} {call : Call} {progress : Progress Call Answer} {queue : Queue}
      {callers : List Caller} (hcaller : crowd.callers[i]? = some (.running call))
      (hstep : call.step crowd.queue = some (progress, queue))
      (hpositions : callers.map Caller.position = crowd.positions.set i progress) :
      Effect crowd (.step i choice) { queue := queue, callers := callers }
  /-- Somebody parks or wakes. -/
  | shuffles {m : Move} {callers : List Caller} (hnothing : happenings m crowd = [])
      (hpositions : callers.map Caller.position = crowd.positions) :
      Effect crowd m { crowd with callers := callers }

theorem section?_of_step_none {q : Queue} {call : Call} (hstep : call.step q = none) :
    call.section? q = none := by
  cases hphase : call.phase? with
  | none => exact Call.section?_of_phase q hphase
  | some p =>
    have hsome := Call.isSome_step_of_phase q hphase
    simp [hstep] at hsome

theorem set_positions {crowd : Crowd} {i : Nat} {caller : Caller}
    (hcaller : crowd.callers[i]? = some caller) :
    crowd.positions.set i caller.position = crowd.positions := by
  obtain ⟨hlt, heq⟩ := List.getElem?_eq_some_iff.mp (getElem?_positions hcaller)
  rw [← heq]
  exact List.set_getElem_self hlt

theorem effect_of_step {crowd crowd' : Crowd} {i choice : Nat}
    (hstep : crowd.step i choice = some crowd') : Effect crowd (.step i choice) crowd' := by
  unfold step at hstep
  split at hstep
  · next call hcaller =>
    split at hstep
    · contradiction
    · split at hstep
      · next hcall =>
        -- the call has to wait, and its caller parks
        obtain rfl := Option.some.inj hstep
        refine .shuffles (by simp [happenings, hcaller, section?_of_step_none hcall]) ?_
        rw [List.map_set]
        have hset := set_positions hcaller
        exact hset
      · next progress queue hcall =>
        obtain rfl := Option.some.inj hstep
        refine .advances hcaller hcall ?_
        rw [List.map_set]
        cases call.wakes with
        | none => simp [positions]
        | some wakes => rfl
  · next turnstile everyone next hcaller =>
    -- the call has made its step before; now its caller wakes others
    obtain rfl := Option.some.inj hstep
    refine .shuffles (by simp [happenings, hcaller]) ?_
    rw [List.map_set, Caller.position_ofProgress]
    split
    · rw [map_position_wake]
      exact set_positions hcaller
    · rw [map_position_wake]
      exact set_positions hcaller
    · exact set_positions hcaller
  · contradiction

/-- **What a move does.** -/
theorem effect_of_move {crowd crowd' : Crowd} {m : Move} (hmove : move m crowd = some crowd') :
    Effect crowd m crowd' := by
  cases m with
  | join call =>
    simp only [move] at hmove
    split at hmove
    · next hfresh =>
      obtain rfl := Option.some.inj hmove
      exact .begins hfresh
    · contradiction
  | step i choice =>
    simp only [move] at hmove
    split at hmove
    · exact effect_of_step hmove
    · contradiction
  | rouse i =>
    obtain rfl := Option.some.inj hmove
    exact .shuffles rfl (crowd.map_position_wake .free false i)

/-! ## Moves as turns

The ledger of a queue counts the calls in each phase before and after. A move is a turn of that
kind, so every law that turns keep is kept by moves. -/

/-- **A move is a turn of the queue**, of a call whose phase is counted before and afterwards. The
sections on record are those of that call. -/
theorem Effect.turn {crowd crowd' : Crowd} {m : Move} (h : Effect crowd m crowd') :
    ∃ call after, crowd.queue.Turn call after crowd'.queue ∧
      Phase.Shift (call.bind Call.phase?) after crowd.calls crowd'.calls ∧
      storedItems (happenings m crowd) = crowd.queue.stored call ∧
      takenItems (happenings m crowd) = crowd.queue.taken call := by
  cases h with
  | @begins call hfresh =>
    refine ⟨none, none, .idle rfl, fun p => ?_, rfl, rfl⟩
    simp [calls, Call.phase?_of_isFresh hfresh]
  | @advances i choice call progress queue callers hcaller hstep hpositions =>
    have hi : crowd.positions[i]? = some (.goesOn call) := getElem?_positions hcaller
    refine ⟨some call, _, .step rfl hstep, ?_, ?_, ?_⟩
    · have hshift := Phase.Shift.of_set (fun p => p.phase? Call.phase?) (b := progress) hi
      rw [← hpositions] at hshift
      exact hshift
    · cases hsection : call.section? crowd.queue with
      | none => simp [happenings, hcaller, hsection, storedItems, Queue.stored]
      | some part => cases part <;> simp [happenings, hcaller, hsection, storedItems,
          Queue.stored, Happening.stored?, Section.stored?]
    · cases hsection : call.section? crowd.queue with
      | none => simp [happenings, hcaller, hsection, takenItems, Queue.taken]
      | some part => cases part <;> simp [happenings, hcaller, hsection, takenItems,
          Queue.taken, Happening.taken?, Section.taken?]
  | shuffles hnothing hpositions =>
    refine ⟨none, none, .idle rfl, fun p => ?_, by rw [hnothing]; rfl, by rw [hnothing]; rfl⟩
    simp [calls, positions, hpositions]

end Crowd

end HostLookup
