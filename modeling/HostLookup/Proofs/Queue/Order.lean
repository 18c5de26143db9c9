import HostLookup.Proofs.Queue.Conservation

/-!
# First in, first out, and exactly once

The record of a crowd lists the sections of the ring in the order in which they ran. Two invariants
tell what the callers can rely on:

* the ledger (`Queue.Ledger`), which puts the items that came out beside those that went in;
* **`Crowd.Story`**, which says what one caller has on record, given how far its call has come. A
  `put` has its section on record exactly from the moment in which it can only return `ok`, and a
  `get` the section in which it took what it is going to return.

**`Crowd.delivers_of_traces`** puts them together.
-/

namespace HostLookup

namespace Crowd

variable {crowd crowd' : Crowd} {m : Move} {capacity : Nat} {record : List (Nat × Happening)}

/-- What the caller at one place has on record. -/
def deeds (place : Nat) (record : List (Nat × Happening)) : List Happening :=
  record.filterMap fun entry => if entry.1 = place then some entry.2 else none

@[simp] theorem deeds_append (place : Nat) (record more : List (Nat × Happening)) :
    deeds place (record ++ more) = deeds place record ++ deeds place more :=
  List.filterMap_append

/-- Nobody has anything on record at a place to which nobody has come. -/
theorem deeds_of_lt {place : Nat} (hlt : ∀ entry ∈ record, entry.1 < place) :
    deeds place record = [] :=
  List.filterMap_eq_nil_iff.mpr fun entry hmem => if_neg (Nat.ne_of_lt (hlt entry hmem))

/-- What a caller has on record, given how far its call has come. -/
inductive Story : Progress Call Answer → List Happening → Prop where
  | putEntering {item : String} :
      Story (.goesOn (.put (.entering item))) [.began (.put (.entering item))]
  | putAdmitted {item : String} :
      Story (.goesOn (.put (.admitted item))) [.began (.put (.entering item))]
  | putStored {item : String} :
      Story (.goesOn (.put .stored)) [.began (.put (.entering item)), .ran (.stored item)]
  | putOk {item : String} :
      Story (.returns (.put (.ok ()))) [.began (.put (.entering item)), .ran (.stored item)]
  | putFailed {item : String} {e : QueueError} :
      Story (.returns (.put (.error e))) [.began (.put (.entering item))]
  | getEntering : Story (.goesOn (.get .entering)) [.began (.get .entering)]
  | getAdmitted : Story (.goesOn (.get .admitted)) [.began (.get .entering)]
  | getTaken {item : String} :
      Story (.goesOn (.get (.taken item))) [.began (.get .entering), .ran (.taken item)]
  | getOk {item : String} :
      Story (.returns (.get (.ok item))) [.began (.get .entering), .ran (.taken item)]
  | getFailed {e : QueueError} :
      Story (.returns (.get (.error e))) [.began (.get .entering)]
  | closing {call : CloseCall} : Story (.goesOn (.close call)) [.began (.close .marking)]
  | closed {first : Bool} : Story (.returns (.close first)) [.began (.close .marking)]
  | destroying {call : DestroyCall} :
      Story (.goesOn (.destroy call)) [.began (.destroy (.closing .marking))]
  | destroyed {result : Except QueueError Unit} :
      Story (.returns (.destroy result)) [.began (.destroy (.closing .marking))]
  | counting : Story (.goesOn .count) [.began .count]
  | counted {items : Nat} : Story (.returns (.count items)) [.began .count]
  | displaying {call : ShowCall} : Story (.goesOn (.display call)) [.began (.display .entering)]
  | displayed {shown : Text.Record} :
      Story (.returns (.display shown)) [.began (.display .entering)]

/-- The story of a call begins with its beginning. -/
theorem Story.of_isFresh {call : Call} (hfresh : call.isFresh = true) :
    Story (.goesOn call) [.began call] := by
  cases call with
  | put call => cases call <;> first | exact .putEntering | cases hfresh
  | get call => cases call <;> first | exact .getEntering | cases hfresh
  | close call => cases call <;> first | exact .closing | cases hfresh
  | destroy call =>
    cases call with
    | closing call => cases call <;> first | exact .destroying | cases hfresh
    | releasing => cases hfresh
  | count => exact .counting
  | display call => cases call <;> first | exact .displaying | cases hfresh

/-- A step of a call adds its section to the story, if it runs one. -/
theorem Story.step {q q' : Queue} {call : Call} {progress : Progress Call Answer}
    {past : List Happening} (h : Story (.goesOn call) past)
    (hstep : call.step q = some (progress, q')) :
    Story progress (past ++ ((call.section? q).map .ran).toList) := by
  cases Call.moves_of_step hstep with
  | put hmove =>
    cases hmove with
    | tooLarge | refused => cases h; exact .putFailed
    | enter => cases h; exact .putAdmitted
    | bounce hclosed =>
      cases h
      simpa [Call.section?, Ring.store, hclosed] using .putFailed
    | store hring =>
      cases h
      simpa [Call.section?, hring] using .putStored
    | finish => cases h; exact .putOk
  | get hmove =>
    cases hmove with
    | refused => cases h; exact .getFailed
    | enter => cases h; exact .getAdmitted
    | bounce hclosed =>
      cases h
      simpa [Call.section?, Ring.take, hclosed] using .getFailed
    | take hring =>
      cases h
      simpa [Call.section?, hring] using .getTaken
    | finish => cases h; exact .getOk
  | @close call progress q' =>
    cases h
    cases progress with
    | goesOn => exact .closing
    | returns => exact .closed
  | @destroy call progress q' =>
    cases h
    cases progress with
    | goesOn => exact .destroying
    | returns => exact .destroyed
  | count => cases h; exact .counted
  | enterDisplay | readFree => cases h; exact .displaying
  | readFilled => cases h; exact .displayed

/-- The record of a crowd tells the story of each of its callers and of nobody else. -/
structure Told (record : List (Nat × Happening)) (crowd : Crowd) : Prop where
  places : ∀ entry ∈ record, entry.1 < crowd.positions.length
  story : ∀ (place : Nat) (position : Progress Call Answer),
    crowd.positions[place]? = some position → Story position (deeds place record)

theorem Told.start (q : Queue) : Told [] { queue := q } :=
  ⟨by simp, fun place position hplace => by simp [positions] at hplace⟩

/-- A move goes on with the story of the caller that makes it, begins that of a newcomer, and adds
nothing to any other. -/
theorem Told.move (h : Told record crowd) (hmove : move m crowd = some crowd') :
    Told (record ++ happenings m crowd) crowd' := by
  cases effect_of_move hmove with
  | @begins call hfresh =>
    have hlength : crowd.callers.length = crowd.positions.length := by simp [positions]
    refine ⟨fun entry hmem => ?_, fun place position hplace => ?_⟩
    · rw [positions_join, List.length_append, List.length_singleton]
      rcases List.mem_append.mp hmem with hold | hnew
      · exact Nat.lt_succ_of_lt (h.places entry hold)
      · simp only [happenings, List.mem_singleton] at hnew
        rw [hnew, hlength]
        exact Nat.lt_succ_self _
    · rw [positions_join] at hplace
      rw [deeds_append]
      by_cases hlast : place = crowd.positions.length
      · -- the newcomer
        subst hlast
        rw [List.getElem?_concat_length, Option.some.injEq] at hplace
        subst hplace
        rw [deeds_of_lt h.places]
        simpa [deeds, happenings, hlength] using Story.of_isFresh hfresh
      · have hlt : place < crowd.positions.length := by
          have := (List.getElem?_eq_some_iff.mp hplace).1
          rw [List.length_append, List.length_singleton] at this
          omega
        rw [List.getElem?_append_left hlt] at hplace
        simpa [deeds, happenings, hlength, Ne.symm hlast] using h.story place position hplace
  | @advances i choice call progress queue callers hcaller hstep hpositions =>
    have hi : crowd.positions[i]? = some (.goesOn call) := getElem?_positions hcaller
    have hlt : i < crowd.positions.length := (List.getElem?_eq_some_iff.mp hi).1
    have hhappened : happenings (.step i choice) crowd =
        ((call.section? crowd.queue).map fun part => (i, Happening.ran part)).toList := by
      simp [happenings, hcaller]
    rw [hhappened]
    refine ⟨fun entry hmem => ?_, fun place position hplace => ?_⟩
    · rw [positions_mk, hpositions, List.length_set]
      rcases List.mem_append.mp hmem with hold | hnew
      · exact h.places entry hold
      · -- only the call that makes the step is put on record
        cases hsection : call.section? crowd.queue with
        | none => simp [hsection] at hnew
        | some part =>
          simp only [hsection, Option.map_some, Option.toList_some, List.mem_singleton] at hnew
          rw [hnew]
          exact hlt
    · rw [positions_mk, hpositions] at hplace
      rw [deeds_append]
      by_cases hself : place = i
      · -- the caller that makes the step: its story goes on
        subst hself
        rw [List.getElem?_set_self hlt, Option.some.injEq] at hplace
        subst hplace
        have hstory := (h.story place _ hi).step hstep
        cases hsection : call.section? crowd.queue with
        | none => simpa [hsection, deeds] using hstory
        | some part => simpa [hsection, deeds] using hstory
      · -- nothing is added to the story of anybody else
        rw [List.getElem?_set_ne (Ne.symm hself)] at hplace
        have hnone : deeds place
            ((call.section? crowd.queue).map fun part => (i, Happening.ran part)).toList = [] := by
          cases call.section? crowd.queue with
          | none => rfl
          | some part => simp [deeds, Ne.symm hself]
        rw [hnone, List.append_nil]
        exact h.story place position hplace
  | @shuffles m callers hnothing hpositions =>
    have hpositions' : Crowd.positions { crowd with callers := callers } = crowd.positions :=
      hpositions
    rw [hnothing, List.append_nil]
    exact ⟨hpositions' ▸ h.places, hpositions' ▸ h.story⟩

/-- What the callers of a queue can rely on, told from the record. -/
structure Delivers (record : List (Nat × Happening)) (crowd : Crowd) : Prop where
  /-- At every moment the `k`-th item that came out is the `k`-th item that went in. -/
  in_order : ∀ n, takenItems (record.take n) <+: storedItems (record.take n)
  /-- What has not come out lies in the slots from `head` on, in a circle, oldest first. -/
  undelivered : crowd.queue.ring.destroyed = false →
    (storedItems record).drop (takenItems record).length =
      (List.range crowd.queue.ring.count).map fun k =>
        crowd.queue.ring.slots.getD ((crowd.queue.ring.head + k) % crowd.queue.capacity) ""
  /-- Every section is that of a caller, whose story it belongs to. -/
  story : ∀ (place : Nat) (happening : Happening), (place, happening) ∈ record →
    ∃ caller, crowd.callers[place]? = some caller ∧ Story caller.position (deeds place record)
  /-- A `put` that returned `ok` has stored its item, once. -/
  put_ok : ∀ place : Nat, crowd.callers[place]? = some (.returned (.put (.ok ()))) →
    ∃ item, deeds place record = [.began (.put (.entering item)), .ran (.stored item)]
  /-- A `put` that failed has stored nothing. -/
  put_error : ∀ (place : Nat) (e : QueueError),
    crowd.callers[place]? = some (.returned (.put (.error e))) →
    ∃ item, deeds place record = [.began (.put (.entering item))]
  /-- A `get` returns what it took. -/
  get_ok : ∀ (place : Nat) (item : String),
    crowd.callers[place]? = some (.returned (.get (.ok item))) →
    deeds place record = [.began (.get .entering), .ran (.taken item)]
  /-- A `get` that failed has taken nothing. -/
  get_error : ∀ (place : Nat) (e : QueueError),
    crowd.callers[place]? = some (.returned (.get (.error e))) →
    deeds place record = [.began (.get .entering)]

/-- Everything that is kept along a record: the law of the permits, the ledger at this moment and at
all earlier ones, and the stories. -/
structure Kept (capacity : Nat) (record : List (Nat × Happening)) (crowd : Crowd) : Prop where
  accounted : Accounted capacity crowd
  ledger : crowd.queue.Ledger (storedItems record) (takenItems record)
  in_order : ∀ n, takenItems (record.take n) <+: storedItems (record.take n)
  told : Told record crowd

/-- A move puts one thing on record at most, so there are no moments between two moves. -/
theorem length_happenings (m : Move) (crowd : Crowd) : (happenings m crowd).length ≤ 1 := by
  cases m with
  | join => exact Nat.le_refl 1
  | step i choice =>
    simp only [happenings]
    split
    · next call _ =>
      cases call.section? crowd.queue with
      | none => exact Nat.zero_le 1
      | some part => exact Nat.le_refl 1
    · exact Nat.zero_le 1
  | rouse => exact Nat.zero_le 1

/-- **Every move keeps the record**, and what it says of all moments before. -/
theorem Kept.move (h : Kept capacity record crowd) (hmove : move m crowd = some crowd') :
    Kept capacity (record ++ happenings m crowd) crowd' := by
  obtain ⟨call, after, hturn, hshift, hstored, htaken⟩ := (effect_of_move hmove).turn
  have hledger : crowd'.queue.Ledger (storedItems (record ++ happenings m crowd))
      (takenItems (record ++ happenings m crowd)) := by
    rw [storedItems_append, takenItems_append, hstored, htaken]
    exact h.ledger.turn h.accounted.balanced hturn hshift
  refine ⟨h.accounted.move hmove, hledger, fun n => ?_, h.told.move hmove⟩
  -- an earlier moment is known; the present one is what the ledger says
  by_cases hn : n ≤ record.length
  · rw [List.take_append_of_le_length hn]
    exact h.in_order n
  · have hlength := length_happenings m crowd
    rw [List.take_of_length_le (by rw [List.length_append]; omega)]
    exact hledger.outs_prefix

/-- The story of a caller is told by its position, whether it is parked or not. -/
theorem Told.story_of_caller (h : Told record crowd) {place : Nat} {caller : Caller}
    (hcaller : crowd.callers[place]? = some caller) :
    Story caller.position (deeds place record) :=
  h.story place _ (by simp [positions, hcaller])

theorem Kept.delivers (h : Kept capacity record crowd) : Delivers record crowd where
  in_order := h.in_order
  undelivered hlive := by
    -- what went in is what came out and behind it what is in the slots
    rw [h.ledger.items_eq hlive, List.drop_left]
    rfl
  story place happening hmem := by
    have hlt := h.told.places _ hmem
    simp only [positions, List.length_map] at hlt
    exact ⟨_, List.getElem?_eq_getElem hlt, h.told.story_of_caller (List.getElem?_eq_getElem hlt)⟩
  put_ok place hcaller := by
    have hstory := h.told.story_of_caller hcaller
    generalize deeds place record = past at hstory ⊢
    cases hstory
    exact ⟨_, rfl⟩
  put_error place e hcaller := by
    have hstory := h.told.story_of_caller hcaller
    generalize deeds place record = past at hstory ⊢
    cases hstory
    exact ⟨_, rfl⟩
  get_ok place item hcaller := by
    have hstory := h.told.story_of_caller hcaller
    generalize deeds place record = past at hstory ⊢
    cases hstory
    rfl
  get_error place e hcaller := by
    have hstory := h.told.story_of_caller hcaller
    generalize deeds place record = past at hstory ⊢
    cases hstory
    rfl

/-- **First in, first out, exactly once.** Whatever the callers of a new queue do, and in whatever
order. -/
theorem delivers_of_traces {name : String} {slotLength : Nat} (hpos : 0 < capacity)
    (htrace : Traces move happenings { queue := Queue.ofGeometry name capacity slotLength }
      record crowd) : Delivers record crowd := by
  have hkept : Kept capacity record crowd := by
    refine htrace.invariant ⟨Accounted.start name slotLength hpos,
      Queue.Ledger.ofGeometry name capacity slotLength, fun n => ?_, Told.start _⟩ ?_
    · rw [List.take_nil]
      exact List.prefix_refl _
    · exact fun m record mid next h hmove => h.move hmove
  exact hkept.delivers

/-- One item through a queue with one slot. -/
theorem delivers_of_traces_one_item :
    Delivers
      [(0, .began (.put (.entering "a"))), (0, .ran (.stored "a")),
        (1, .began (.get .entering)), (1, .ran (.taken "a"))]
      { queue := Queue.ofGeometry "files" 1 8
        callers := [.returned (.put (.ok ())), .returned (.get (.ok "a"))] } := by
  have hstart : Traces move happenings { queue := Queue.ofGeometry "files" 1 8 } []
    { queue := Queue.ofGeometry "files" 1 8 } := .refl
  have hput := ((((hstart.tail (.join (.put (.entering "a"))) rfl).tail (.step 0 0) rfl).tail
    (.step 0 0) rfl).tail (.step 0 0) rfl).tail (.step 0 0) rfl
  have hget := ((((hput.tail (.join (.get .entering)) rfl).tail (.step 1 0) rfl).tail
    (.step 1 0) rfl).tail (.step 1 0) rfl).tail (.step 1 0) rfl
  exact delivers_of_traces Nat.one_pos hget

end Crowd

end HostLookup
