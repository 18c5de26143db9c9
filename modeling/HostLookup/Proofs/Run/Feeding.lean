import HostLookup.Proofs.Run.Launch
import HostLookup.Proofs.Run.Outcome
import HostLookup.Proofs.Run.Sources

/-!
# What the driver puts in front of the requesters

The driver puts the names of the data files that fit a slot, and behind them a sentinel for each
requester. Names are not compared with the sentinel, whatever they are: a data file that is called
like it is one sentinel too many. Host names are compared, so no requester adds another one.

* **`DriverActivity.upcoming`**: everything that the driver may still put there, each item with its
  `Errand`.
* **`Run.Moves.spends`**: a step puts the first of it, or drops some of it for a failure that is
  kept.
* **`Run.Fed`** is what this comes to on a path, whatever the names are, and **`Run.fed_of_path`**
  proves it. A run whose drain has ended well has put as many sentinels too many as there are data
  files called like the sentinel.
-/

namespace HostLookup

/-- Why the driver puts an item in front of the requesters. -/
inductive Errand where
  | feeding
  | draining
  deriving DecidableEq

/-! ## What is still to come

Two things can still bring items: the names that the driver has not fed yet, and the sentinels of a
drain that has not begun or is under way. `upcoming` reads both off the place where the driver
stands. -/

/-- The items that a drain of so many workers has still to put. -/
def DrainCall.upcoming (sentinel : Sentinel) (max workers : Nat) : DrainCall → List String
  | .checking | .refusing | .claiming => List.replicate workers sentinel.text
  | .putting later call => call.upcoming max ++ List.replicate later sentinel.text
  | .counting later => List.replicate later sentinel.text

/-- The items that are still to be put after a step of a drain. -/
def DrainCall.upcomingAfter (sentinel : Sentinel) (max workers : Nat) :
    Progress DrainCall (Except Failure Unit) → List String
  | .goesOn call => call.upcoming sentinel max workers
  | .returns _ => []

/-- The errands of a driver that has fed all but these names. -/
def Run.errands (sentinel : Sentinel) (workers : Nat) (names : List String) :
    List (Errand × String) :=
  names.map (Errand.feeding, ·) ++
    (List.replicate workers sentinel.text).map (Errand.draining, ·)

namespace DriverActivity

/-- The errand on which the driver is with the queue in front of the requesters. -/
def errand : DriverActivity → Errand
  | .feeding .. | .rejecting .. => .feeding
  | _ => .draining

/-- Everything that the driver may still put in front of the requesters. -/
def upcoming (sentinel : Sentinel) (max workers : Nat) :
    DriverActivity → List (Errand × String)
  | .feeding _ call later =>
    Run.errands sentinel workers
      (call.upcoming max ++ later.filter fun file => file.utf8ByteSize ≤ max)
  | .rejecting _ later =>
    Run.errands sentinel workers (later.filter fun file => file.utf8ByteSize ≤ max)
  | .draining .requester call => (call.upcoming sentinel max workers).map (Errand.draining, ·)
  | _ => []

theorem upcoming_feed (sentinel : Sentinel) (max workers : Nat) (files : List String) :
    (Run.feed files).upcoming sentinel max workers =
      Run.errands sentinel workers (files.filter fun file => file.utf8ByteSize ≤ max) := by
  cases files with
  | nil => rfl
  | cons file later =>
    by_cases hle : file.utf8ByteSize ≤ max <;>
      simp [Run.feed, upcoming, PutCall.upcoming, hle]

end DriverActivity

/-- Is the drain of the stage behind the driver? -/
def Standing.isDrained : Standing → Bool
  | .ahead | .draining _ => false
  | .joining _ | .finishing | .done => true

namespace DrainCall

variable {sentinel : Sentinel} {before stage stage' : Shutdown} {q q' : Queue} {call : DrainCall}
  {max workers : Nat}

theorem upcomingAfter_proceed (later : Nat) (hfits : sentinel.text.utf8ByteSize ≤ max) :
    upcomingAfter sentinel max workers (proceed sentinel later) =
      List.replicate later sentinel.text := by
  cases later with
  | zero => rfl
  | succ later =>
    show PutCall.upcoming max (.entering sentinel.text) ++ List.replicate later sentinel.text = _
    rw [PutCall.upcoming, if_pos hfits]
    rfl

/-- **A drain puts what was still to come**, unless it fails. -/
theorem Moves.upcoming {progress : Progress DrainCall (Except Failure Unit)}
    (h : Moves sentinel before stage q call progress stage' q')
    (hfits : sentinel.text.utf8ByteSize ≤ max) (hlimit : q.maxItemLength = max)
    (hworkers : stage.workers = workers)
    (hgoes : ∀ failure, progress ≠ .returns (.error failure)) :
    q.stored call.putCall ++ upcomingAfter sentinel max workers progress =
      call.upcoming sentinel max workers := by
  cases h with
  | allow | hold => rfl
  | refuse | late | fail => exact absurd rfl (hgoes _)
  | claim hclaim =>
    rw [upcomingAfter_proceed _ hfits, (Shutdown.eq_of_claim hclaim).1, hworkers]
    rfl
  | count =>
    rw [upcomingAfter_proceed _ hfits]
    rfl
  | @put later put put' q' hstep =>
    have hput := PutCall.moves_of_step hstep
    show q.stored (some (.put put)) ++
      (put'.upcoming max ++ List.replicate later sentinel.text) = _
    rw [hput.stored, ← List.append_assoc, Worker.upcoming_goesOn hput hlimit]
    rfl
  | @sent later put q' hstep =>
    have hput := PutCall.moves_of_step hstep
    show q.stored (some (.put put)) ++ List.replicate later sentinel.text = _
    rw [hput.stored]
    cases hput
    rfl

/-- A drain that returns puts nothing by that. -/
theorem Moves.stored_of_returns {result : Except Failure Unit}
    (h : Moves sentinel before stage q call (.returns result) stage' q') :
    q.stored call.putCall = [] := by
  generalize hprogress : (Progress.returns result : Progress DrainCall _) = progress at h
  cases h with
  | refuse | late | claim | count => rfl
  | fail hstep =>
    have hput := PutCall.moves_of_step hstep
    show q.stored (some (.put _)) = []
    rw [hput.stored]
    cases hput <;> rfl
  | allow | hold | put | sent => contradiction

end DrainCall

namespace Run

variable {told : Instructions} {run run' : Run} {actor : Actor} {sentinel : Sentinel}
  {max workers : Nat} {path : List (Actor × Run)}

/-! ## What one step puts

A step of the driver puts the head of what is still to come, or nothing, or gives some of it up. It
gives up only for a failure that it keeps in the same step, and `Spends` says so as one equation
between before and after. -/

/-- What the next step of a thread puts in front of the requesters, with the errand of the
driver. -/
def putsNow (run : Run) (actor : Actor) : List (Errand × String) :=
  ((run.queue .requester).stored (run.callOn actor .requester)).map
    (run.driver.activity.errand, ·)

theorem putsNow_feeding {file : String} {call : PutCall} {later : List String}
    (hactivity : run.driver.activity = .feeding file call later) :
    run.putsNow .driver =
      ((run.queue .requester).stored (some (.put call))).map (Errand.feeding, ·) := by
  simp only [putsNow, callOn, hactivity]
  rfl

theorem putsNow_draining {call : DrainCall}
    (hactivity : run.driver.activity = .draining .requester call) :
    run.putsNow .driver =
      ((run.queue .requester).stored call.putCall).map (Errand.draining, ·) := by
  simp only [putsNow, callOn, hactivity]
  rfl

/-- What was put in front of the requesters on a path. -/
def putsOn (path : List (Actor × Run)) : List (Errand × String) :=
  path.flatMap fun p => p.2.putsNow p.1

theorem putsOn_append (path : List (Actor × Run)) (actor : Actor) (run : Run) :
    putsOn (path ++ [(actor, run)]) = putsOn path ++ run.putsNow actor := by
  rw [putsOn, List.flatMap_append, List.flatMap_singleton]
  rfl

/-- Without the errands these are the items that have gone into the queue. -/
theorem map_putsOn (told : Instructions) (path : List (Actor × Run)) :
    (putsOn path).map Prod.snd = (historyOf told path).stored .requester := by
  rw [stored_historyOf, putsOn, List.map_flatMap]
  refine congrArg (path.flatMap ·) (funext fun p => ?_)
  rw [putsNow, List.map_map]
  exact List.map_id _

/-- Of what was still to come some is put now and the rest comes later. What is dropped is dropped
for a failure that is kept. -/
structure Spends (kept : Option Failure) (now later before : List (Errand × String)) : Prop where
  sublist : (now ++ later).Sublist before
  whole : kept = none → now ++ later = before

theorem Spends.of_eq {kept : Option Failure} {now later before : List (Errand × String)}
    (h : now ++ later = before) : Spends kept now later before :=
  ⟨h ▸ .refl _, fun _ => h⟩

theorem Spends.drop {kept : Option Failure} {later before : List (Errand × String)}
    (hkept : kept ≠ none) (hlater : later.Sublist before) : Spends kept [] later before :=
  ⟨hlater, fun hnone => absurd hnone hkept⟩

/-- Who notes an error keeps a failure. -/
theorem kept_note_error {ε : Type} (account : Account) (wrap : ε → Failure) (error : ε) :
    (account.note wrap (.error error)).kept ≠ none := by
  obtain ⟨later, hlater, -⟩ := keepFirst_some account.kept (wrap error)
  exact fun hnone => Option.some_ne_none later (hlater.symm.trans hnone)

/-- A driver that goes on to the names that are left. -/
theorem errands_append (sentinel : Sentinel) (workers : Nat) (now later : List String) :
    errands sentinel workers (now ++ later) =
      now.map (Errand.feeding, ·) ++ errands sentinel workers later := by
  rw [errands, errands, List.map_append, List.append_assoc]

/-- A driver that gives the names up. -/
theorem errands_nil_sublist (sentinel : Sentinel) (workers : Nat) (names : List String) :
    (errands sentinel workers []).Sublist (errands sentinel workers names) :=
  List.sublist_append_right _ _

namespace Moves

/-- The `put` of a name returns. It has put the name before, or the name fits no slot and was not to
come, or the queue is closed and all the names are given up. -/
theorem spends_fed {file : String} {call : PutCall} {later : List String}
    {result : Except QueueError Unit} {files : Queue}
    (hactivity : run.driver.activity = .feeding file call later)
    (hstep : call.step run.files = some (.returns result, files))
    (hlimit : (run.queue .requester).maxItemLength = max) :
    Spends ((run.setQueue .requester files).fed file later result).driver.account.kept
      (run.putsNow .driver)
      (((run.setQueue .requester files).fed file later result).driver.activity.upcoming sentinel max
        workers)
      (run.driver.activity.upcoming sentinel max workers) := by
  have hput := PutCall.moves_of_step hstep
  have hnone : run.putsNow .driver = [] := by
    have hstored := hput.stored
    rw [putsNow_feeding hactivity]
    show (run.files.stored (some (.put call))).map _ = []
    rw [hstored]
    cases hput <;> rfl
  rw [hnone, hactivity]
  cases result with
  | ok =>
    -- the name is in
    cases hput
    exact .of_eq (DriverActivity.upcoming_feed sentinel max workers later)
  | error error =>
    rcases hput.refused_for with ⟨item, rfl, hlong, rfl⟩ | ⟨rfl, -⟩
    · -- it fits no slot, so it was not to come
      refine .of_eq ?_
      have hle : ¬item.utf8ByteSize ≤ max := by
        rw [← hlimit]
        exact fun hle => by simp [(Queue.fits_iff run.files item).mpr hle] at hlong
      show errands sentinel workers _ = errands sentinel workers _
      rw [PutCall.upcoming, if_neg hle, List.nil_append]
    · -- the queue was closed
      exact .drop (kept_note_error _ _ _) (errands_nil_sublist sentinel workers _)

/-- A drain puts the next of its sentinels, or it does something else. -/
theorem spends_drain {own : Stage} {call call' : DrainCall} {shutdown : Shutdown} {queue : Queue}
    (hblameless : Blameless told.sentinel run)
    (hlimit : (run.queue .requester).maxItemLength = max)
    (hworkers : (run.shutdown .requester).workers = workers)
    (hactivity : run.driver.activity = .draining own call)
    (hmove : DrainCall.Moves told.sentinel run.requesterStage (run.shutdown own)
      (run.queue own) call (.goesOn call') shutdown queue) (kept : Option Failure) :
    Spends kept (run.putsNow .driver)
      ((DriverActivity.draining own call').upcoming told.sentinel max workers)
      (run.driver.activity.upcoming told.sentinel max workers) := by
  refine .of_eq ?_
  rw [hactivity]
  cases own with
  -- the drain of the other stage does not concern this queue
  | resolver =>
    simp only [putsNow, callOn, hactivity, DriverActivity.callOn]
    rfl
  | requester =>
    have hfits : told.sentinel.text.utf8ByteSize ≤ max :=
      hlimit ▸ (Queue.fits_iff _ _).mp (hblameless.fits .requester)
    have hupcoming := hmove.upcoming hfits hlimit hworkers (by simp)
    show run.putsNow .driver ++ (call'.upcoming told.sentinel max workers).map _ =
      (call.upcoming told.sentinel max workers).map _
    rw [putsNow_draining hactivity, ← hupcoming, List.map_append]
    rfl

/-- A drain returns. If it has failed, the sentinels that are left are dropped with its failure. -/
theorem spends_drained {own : Stage} {call : DrainCall} {result : Except Failure Unit}
    {shutdown : Shutdown} {queue : Queue} (hblameless : Blameless told.sentinel run)
    (hlimit : (run.queue .requester).maxItemLength = max)
    (hworkers : (run.shutdown .requester).workers = workers)
    (hactivity : run.driver.activity = .draining own call)
    (hmove : DrainCall.Moves told.sentinel run.requesterStage (run.shutdown own)
      (run.queue own) call (.returns result) shutdown queue) (account : Account) :
    Spends (account.note id result).kept (run.putsNow .driver)
      ((DriverActivity.joining own 0).upcoming told.sentinel max workers)
      (run.driver.activity.upcoming told.sentinel max workers) := by
  have hnone : run.putsNow .driver = [] := by
    cases own with
    | requester => rw [putsNow_draining hactivity, hmove.stored_of_returns, List.map_nil]
    | resolver =>
      simp only [putsNow, callOn, hactivity]
      rfl
  rw [hnone, hactivity]
  cases own with
  | resolver => exact .of_eq rfl
  | requester =>
    cases result with
    | error => exact .drop (kept_note_error _ _ _) (List.nil_sublist _)
    | ok =>
      have hfits : told.sentinel.text.utf8ByteSize ≤ max :=
        hlimit ▸ (Queue.fits_iff _ _).mp (hblameless.fits .requester)
      have hupcoming := hmove.upcoming hfits hlimit hworkers (by simp)
      rw [hmove.stored_of_returns] at hupcoming
      refine .of_eq ?_
      show [] = (call.upcoming told.sentinel max workers).map _
      rw [← hupcoming]
      rfl

/-- **What was still to come is put, or dropped for a failure.** -/
theorem spends (h : Moves told run actor run') (hblameless : Blameless told.sentinel run)
    (hlimit : (run.queue .requester).maxItemLength = max)
    (hworkers : (run.shutdown .requester).workers = workers) :
    Spends run'.driver.account.kept (run.putsNow actor)
      (run'.driver.activity.upcoming told.sentinel max workers)
      (run.driver.activity.upcoming told.sentinel max workers) := by
  by_cases hne : actor = .driver
  · subst hne
    -- a driver that is on neither errand puts nothing and has nothing to put
    have hidle : run.driver.activity.callOn .requester = none ∨
        (∃ call, run.driver.activity.callOn .requester = some (.destroy call)) →
        run.driver.activity.upcoming told.sentinel max workers = [] →
        run'.driver.activity.upcoming told.sentinel max workers = [] →
        Spends run'.driver.account.kept (run.putsNow .driver)
          (run'.driver.activity.upcoming told.sentinel max workers)
          (run.driver.activity.upcoming told.sentinel max workers) := by
      intro hcall hbefore hafter
      have hnone : run.putsNow .driver = [] := by
        rcases hcall with hcall | ⟨call, hcall⟩ <;> simp [putsNow, callOn, hcall]
      rw [hnone, hbefore, hafter]
      exact .of_eq rfl
    cases h with
    | @feed file call call' later files hactivity hstep =>
      have hput := PutCall.moves_of_step hstep
      refine .of_eq ?_
      rw [putsNow_feeding hactivity]
      show (run.files.stored (some (.put call))).map _ ++ errands told.sentinel workers _ = _
      rw [hput.stored, ← errands_append, ← List.append_assoc, Worker.upcoming_goesOn hput hlimit,
        hactivity]
      rfl
    | fed hactivity hstep => exact spends_fed hactivity hstep hlimit
    | @reject failure later hactivity =>
      have hnone : run.putsNow .driver = [] := by
        simp only [putsNow, callOn, hactivity, DriverActivity.callOn]
        rfl
      rw [hnone, hactivity]
      cases (run.sinks.writeLine .stderr (rejection failure)).1 with
      -- the name that was reported is too long, so nothing is lost with it
      | ok => exact .of_eq (DriverActivity.upcoming_feed told.sentinel max workers later)
      | error => exact .drop (kept_note_error _ _ _) (errands_nil_sublist _ _ _)
    | drain hactivity hmove => exact spends_drain hblameless hlimit hworkers hactivity hmove _
    | drained hactivity hmove => exact spends_drained hblameless hlimit hworkers hactivity hmove _
    | @joined own next w result hactivity | @joinedAll own next hactivity =>
      exact hidle (by rw [hactivity]; cases own <;> exact Or.inl rfl) (by rw [hactivity]; rfl) rfl
    | @finish own hactivity =>
      exact hidle (by rw [hactivity]; exact Or.inl rfl) (by rw [hactivity]; rfl)
        (by cases own <;> rfl)
    | @clear own call call' queue hactivity =>
      exact hidle
        (by rw [hactivity]; cases own <;> first | exact Or.inr ⟨_, rfl⟩ | exact Or.inl rfl)
        (by rw [hactivity]; rfl) rfl
    | clearedFirst hactivity =>
      exact hidle (by rw [hactivity]; exact Or.inr ⟨_, rfl⟩) (by rw [hactivity]; rfl) rfl
    | clearedSecond hactivity =>
      exact hidle (by rw [hactivity]; exact Or.inl rfl) (by rw [hactivity]; rfl) rfl
  · rw [h.driver_eq hne, putsNow, stored_requester_of_ne run hne]
    exact .of_eq rfl

end Moves

/-! ## What a whole run puts

`Spends` is transitive: what is put on a path, with what is still to come at its end and what was
dropped on the way, makes up what was to come at its beginning. Workers put nothing into this queue,
by the law of the marks. -/

theorem Spends.trans {kept kept' : Option Failure} {done now later before total :
    List (Errand × String)} (h : Spends kept done before total)
    (hnext : Spends kept' now later before) (hkept : kept' = none → kept = none) :
    Spends kept' (done ++ now) later total where
  sublist := by
    rw [List.append_assoc]
    exact (hnext.sublist.append_left done).trans h.sublist
  whole hnone := by rw [List.append_assoc, hnext.whole hnone, h.whole (hkept hnone)]

/-- What holds at every moment of a run that is to put no more than `total`. -/
structure Feeding (sentinel : Sentinel) (max workers : Nat) (total : List (Errand × String))
    (path : List (Actor × Run)) (run : Run) : Prop where
  blameless : Blameless sentinel run
  limit : (run.queue .requester).maxItemLength = max
  hands : (run.shutdown .requester).workers = workers
  spent : Spends run.driver.account.kept (putsOn path)
    (run.driver.activity.upcoming sentinel max workers) total
  /-- No worker carries a sentinel in a `put`. -/
  offers : ∀ stage, ∀ w ∈ run.workers stage, Worker.Offers sentinel w.activity

namespace Feeding

variable {total : List (Errand × String)}

/-- **Every step puts what is next.** -/
theorem move (h : Feeding told.sentinel max workers total path run)
    (hmove : Moves told run actor run') :
    Feeding told.sentinel max workers total (path ++ [(actor, run)]) run' where
  blameless := h.blameless.move hmove
  limit := by
    have hgeometry := (hmove.turn .requester).geometry.2.2
    rw [← h.limit, Queue.maxItemLength, Queue.maxItemLength, hgeometry]
  hands := (hmove.shutdown_workers .requester).trans h.hands
  spent := by
    rw [putsOn_append]
    exact h.spent.trans (hmove.spends h.blameless h.limit h.hands) hmove.kept_eq_none
  offers stage := hmove.offers (h.offers stage)

theorem tick (h : Feeding sentinel max workers total path run) (moment : Nat) :
    Feeding sentinel max workers total path { run with moment := moment } :=
  ⟨h.blameless.tick moment, h.limit, h.hands, h.spent, h.offers⟩

/-- No worker puts a sentinel. -/
theorem marks_eq_false (h : Feeding sentinel max workers total path run) {own stage : Stage}
    {i : Nat}
    {item : String} (hmem : item ∈ (run.queue stage).stored (run.callOn (.worker own i) stage)) :
    sentinel.marks item = false := by
  have hcall := Queue.eq_of_mem_stored hmem
  simp only [callOn, Option.bind_eq_some_iff] at hcall
  obtain ⟨w, hplace, hcall⟩ := hcall
  split at hcall
  · -- at the queue that it takes from a worker puts nothing
    cases hactivity : w.activity <;> simp [hactivity, Activity.sourceCall] at hcall
  · split at hcall
    · have hoffers := h.offers own w (List.mem_of_getElem? hplace)
      cases hactivity : w.activity with
      | offering host put file =>
        rw [hactivity] at hcall hoffers
        obtain rfl : put = .admitted item := by simpa [Activity.targetCall] using hcall
        rw [hoffers.2 item rfl]
        exact hoffers.1
      | _ => simp [hactivity, Activity.targetCall] at hcall
    · contradiction

end Feeding

section Path

variable {plan : Plan} {request : RunRequest} {sinks : Sinks} {memory : Allocator}
  {outsider : Option SinkCall} {environment : Environment} {start now : Run}

theorem feeding_initial (husable : plan.Usable)
    (hstart : Run.start plan request sinks memory = .ok start) (outsider : Option SinkCall) :
    Feeding plan.sentinel (plan.settings.maxFileNameLength - 1) request.requesters
      (errands plan.sentinel request.requesters (plan.fedFiles request)) []
      { start with outsider := outsider } where
  blameless := by
    have hlaunch : launch plan request sinks { memory := memory } = .ok start := hstart
    exact blameless_of_launch husable hlaunch outsider
  limit := by
    obtain ⟨-, rfl⟩ := eq_of_start hstart
    rfl
  hands := by
    obtain ⟨-, rfl⟩ := eq_of_start hstart
    show ((initial plan request sinks {} none).shutdown .requester).workers = _
    rw [shutdown_initial]
    exact length_pool_none request .requester
  spent := by
    obtain ⟨-, rfl⟩ := eq_of_start hstart
    refine .of_eq ?_
    show (initial plan request sinks {} none).driver.activity.upcoming _ _ _ = _
    rw [activity_initial, DriverActivity.upcoming_feed, namesToFeed_spawnPools]
    rfl
  offers stage w hmem := by
    obtain ⟨-, rfl⟩ := eq_of_start hstart
    have hplace : w ∈ (initial plan request sinks {} none).workers stage := by
      cases stage <;> exact hmem
    rw [activity_of_mem_initial hplace]
    trivial

theorem feeding_of_path (husable : plan.Usable)
    (hstart : Run.start plan request sinks memory = .ok start)
    (hpath : Path (step (plan.instructions environment)) { start with outsider := outsider } path
      now) :
    Feeding plan.sentinel (plan.settings.maxFileNameLength - 1) request.requesters
      (errands plan.sentinel request.requesters (plan.fedFiles request)) path now := by
  induction hpath with
  | refl => exact feeding_initial husable hstart outsider
  | tail actor _ hstep ih =>
    obtain ⟨next, hmove, rfl⟩ := moves_of_step hstep
    exact (Feeding.move ih hmove).tick _

/-! ## Sentinels among the names

A sentinel fits every slot that names of files fit, and the driver does not look whether a name is
one. So the sentinels that are fed are counted among the names. -/

theorem countP_errands (sentinel : Sentinel) (workers : Nat) (names : List String) :
    ((errands sentinel workers names).map Prod.snd).countP sentinel.marks =
      names.countP sentinel.marks + workers := by
  have hnames : ∀ (errand : Errand) (items : List String),
      (items.map (errand, ·)).map Prod.snd = items := by
    intro errand items
    rw [List.map_map]
    exact List.map_id _
  rw [errands, List.map_append, hnames, hnames, List.countP_append, List.countP_replicate,
    if_pos sentinel.marks_text]

/-- The sentinel fits a slot, so a data file that is called like it is fed like any other. -/
theorem countP_fedFiles (husable : plan.Usable) (hsome : 0 < request.requesters) :
    (plan.fedFiles request).countP plan.sentinel.marks =
      request.files.countP plan.sentinel.marks := by
  rw [Plan.fedFiles, RunRequest.namesToFeed, if_neg (Nat.pos_iff_ne_zero.mp hsome),
    List.countP_filter]
  refine List.countP_congr fun file _ => ?_
  rw [Bool.and_eq_true, and_iff_left_iff_imp]
  intro hmarks
  obtain rfl : plan.sentinel.text = file := of_decide_eq_true hmarks
  exact decide_eq_true (Nat.le_sub_one_of_lt husable.sentinel_lt_fileName)

theorem countP_marks_eq_zero_iff (sentinel : Sentinel) (files : List String) :
    files.countP sentinel.marks = 0 ↔ sentinel.text ∉ files := by
  rw [List.countP_eq_zero]
  constructor
  · exact fun hnone hmem => hnone _ hmem sentinel.marks_text
  · rintro hnot file hmem hmarks
    obtain rfl : sentinel.text = file := of_decide_eq_true hmarks
    exact hnot hmem

/-! ## Every run

At the end of the drain nothing is to come any more, and what was put is known unless a failure was
kept. -/

/-- What was put in front of the requesters on a path, whatever the data files are called. -/
structure Fed (told : Instructions) (plan : Plan) (request : RunRequest)
    (path : List (Actor × Run)) (now : Run) : Prop where
  stored : (historyOf told path).stored .requester = (putsOn path).map Prod.snd
  /-- Only the driver puts anything there. -/
  alone : ∀ p ∈ path, p.1 ≠ .driver → p.2.putsNow p.1 = []
  /-- First come names that fit, in the order of the request, and then no more sentinels than there
  are requesters. -/
  puts : ∃ names sent, names.Sublist (plan.fedFiles request) ∧ sent ≤ request.requesters ∧
    putsOn path = errands plan.sentinel sent names
  /-- When the drain has ended well, all names that fit are in, and a sentinel for each
  requester. -/
  whole : now.driver.account.kept = none →
    (now.driver.activity.standing .requester).isDrained = true →
    putsOn path = errands plan.sentinel request.requesters (plan.fedFiles request)
  /-- Feeding puts a sentinel only if a data file is called like it. -/
  clean : plan.sentinel.text ∉ request.files →
    ∀ item, (Errand.feeding, item) ∈ putsOn path → plan.sentinel.marks item = false
  /-- Each data file that is called like the sentinel is one sentinel too many. -/
  surplus : 0 < request.requesters → now.driver.account.kept = none →
    (now.driver.activity.standing .requester).isDrained = true →
    ((historyOf told path).stored .requester).countP plan.sentinel.marks =
      request.files.countP plan.sentinel.marks + request.requesters
  /-- The sentinels are those of the drain exactly where no data file is called like them. -/
  exact_iff : 0 < request.requesters → now.driver.account.kept = none →
    (now.driver.activity.standing .requester).isDrained = true →
    (((historyOf told path).stored .requester).countP plan.sentinel.marks = request.requesters ↔
      plan.sentinel.text ∉ request.files)
  /-- No worker puts a sentinel into a queue. -/
  offered : ∀ p ∈ path, ∀ own i, p.1 = .worker own i → ∀ stage,
    ∀ item ∈ (p.2.queue stage).stored (p.2.callOn p.1 stage), plan.sentinel.marks item = false

theorem upcoming_of_isDrained {activity : DriverActivity}
    (hdrained : (activity.standing .requester).isDrained = true) (sentinel : Sentinel)
    (max workers : Nat) : activity.upcoming sentinel max workers = [] := by
  cases activity with
  | feeding | rejecting => contradiction
  | draining own =>
    cases own with
    | requester => contradiction
    | resolver => rfl
  | joining | finishing | clearing | returned => rfl

namespace Feeding

variable {names : List String}

theorem exists_errands
    (h : Feeding sentinel max workers (errands sentinel workers names) path run) :
    ∃ fed sent, fed.Sublist names ∧ sent ≤ workers ∧ putsOn path = errands sentinel sent fed := by
  have hputs := (List.sublist_append_left _ _).trans h.spent.sublist
  obtain ⟨front, back, hsplit, hfront, hback⟩ := List.sublist_append_iff.mp hputs
  obtain ⟨fed, hfed, rfl⟩ := List.sublist_map_iff.mp hfront
  obtain ⟨sent, hsent, rfl⟩ := List.sublist_map_iff.mp hback
  obtain ⟨count, hcount, rfl⟩ := List.sublist_replicate_iff.mp hsent
  exact ⟨fed, count, hfed, hcount, hsplit⟩

theorem putsOn_eq (h : Feeding sentinel max workers (errands sentinel workers names) path run)
    (hkept : run.driver.account.kept = none)
    (hdrained : (run.driver.activity.standing .requester).isDrained = true) :
    putsOn path = errands sentinel workers names := by
  have hwhole := h.spent.whole hkept
  rwa [upcoming_of_isDrained hdrained, List.append_nil] at hwhole

end Feeding

/-- **What the driver feeds and what it drains.** On every path of a run, whatever the names of
the data files are and whatever happens, the driver puts names that fit and then sentinels in
front of the requesters, and nobody else puts anything there. If nothing was kept when the stage
is drained, it has put a sentinel for each requester and another one for each data file that is
called like it. -/
theorem fed_of_path {settings : Settings} (hplan : Plan.create settings = .ok plan)
    (hstart : Run.start plan request sinks memory = .ok start)
    (hpath : Path (step (plan.instructions environment)) { start with outsider := outsider } path
      now) :
    Fed (plan.instructions environment) plan request path now := by
  have husable := Plan.usable_of_create hplan
  have hnow := feeding_of_path husable hstart hpath
  have hstored := (map_putsOn (plan.instructions environment) path).symm
  have hsurplus : 0 < request.requesters → now.driver.account.kept = none →
      (now.driver.activity.standing .requester).isDrained = true →
      ((historyOf (plan.instructions environment) path).stored .requester).countP
          plan.sentinel.marks =
        request.files.countP plan.sentinel.marks + request.requesters := by
    intro hsome hkept hdrained
    rw [hstored, hnow.putsOn_eq hkept hdrained, countP_errands, countP_fedFiles husable hsome]
  refine ⟨hstored, ?_, hnow.exists_errands, hnow.putsOn_eq, ?_, hsurplus, ?_, ?_⟩
  · intro p _ hne
    rw [putsNow, stored_requester_of_ne p.2 hne, List.map_nil]
  · intro hclean item hmem
    obtain ⟨fed, sent, hfed, -, hputs⟩ := hnow.exists_errands
    rw [hputs, errands, List.mem_append] at hmem
    have hitem : item ∈ fed := by simpa using hmem
    refine decide_eq_false fun heq => hclean ?_
    have hnames := (hfed.trans List.filter_sublist).trans (sublist_namesToFeed request)
    exact heq ▸ hnames.subset hitem
  · intro hsome hkept hdrained
    rw [hsurplus hsome hkept hdrained, ← countP_marks_eq_zero_iff]
    omega
  · rintro p hp own i hactor stage item hmem
    obtain ⟨before, hbefore, -⟩ := hpath.of_mem hp
    rw [hactor] at hmem
    exact (feeding_of_path husable hstart hbefore).marks_eq_false hmem

/-- The driver alone feeds two names, one of them called like the sentinel, and drains two
requesters that have not moved: three sentinels are in. -/
theorem fed_of_path_marked_name :
    let plan : Plan := { settings := {}, sentinel := .standard }
    let request : RunRequest :=
      { requesters := 2, resolvers := 0, files := ["a", Sentinel.standard.text] }
    let told := plan.instructions (Environment.steady (fun _ => .opened []) (fun _ => .panicked) {})
    let start := initial plan request (.ofDevices fun _ => .memory) {} none
    ∃ path now, Path (step told) start path now ∧
      now.driver.activity.standing .requester = .joining 0 ∧ Fed told plan request path now ∧
      ((historyOf told path).stored .requester).countP plan.sentinel.marks = 3 := by
  intro plan request told start
  have hplan : Plan.create {} = .ok { settings := {}, sentinel := .standard } := rfl
  have hstart := start_eq_ok (.ofDevices fun _ => .memory)
    (show Plan.check { settings := {}, sentinel := .standard }
      { requesters := 2, resolvers := 0, files := ["a", Sentinel.standard.text] } = .ok () from rfl)
    rfl rfl
  have hfollow : (Path.follow (step told) (List.replicate 15 .driver) start).map (fun now =>
      (now.driver.account.kept, now.driver.activity.standing .requester)) =
        some (none, .joining 0) := by
    decide +kernel
  obtain ⟨now, hnow, hall⟩ := Option.map_eq_some_iff.mp hfollow
  obtain ⟨hkept, hstanding⟩ := Prod.mk.inj hall
  obtain ⟨path, hpath⟩ := Path.of_follow hnow
  have hfed : Fed told plan request path now := fed_of_path hplan hstart hpath
  have hdrained : (now.driver.activity.standing .requester).isDrained = true := by
    rw [hstanding]
    rfl
  refine ⟨path, now, hpath, hstanding, hfed, ?_⟩
  rw [hfed.surplus (by decide) hkept hdrained]
  decide

/-- A sole requester whose only data file is called like the sentinel: settings and request are
accepted, the driver feeds the name, the drain ends well, and two sentinels are in for one
worker. -/
theorem marked_name_is_fed :
    let plan : Plan := { settings := {}, sentinel := .standard }
    let request : RunRequest :=
      { requesters := 1, resolvers := 0, files := [Sentinel.standard.text] }
    let told := plan.instructions (Environment.steady (fun _ => .opened []) (fun _ => .panicked) {})
    let start := initial plan request (.ofDevices fun _ => .memory) {} none
    (plan.settings.check = .ok () ∧ plan.check request = .ok () ∧
        Run.start plan request (.ofDevices fun _ => .memory) = .ok start) ∧
      ∃ path now, Path (step told) start path now ∧
        now.driver.activity.standing .requester = .joining 0 ∧ now.driver.account.kept = none ∧
        (Errand.feeding, plan.sentinel.text) ∈ putsOn path ∧
        ((historyOf told path).stored .requester).countP plan.sentinel.marks = 2 := by
  intro plan request told start
  have hplan : Plan.create {} = .ok { settings := {}, sentinel := .standard } := rfl
  have hcheck : Plan.check { settings := {}, sentinel := .standard }
    { requesters := 1, resolvers := 0, files := [Sentinel.standard.text] } = .ok () := rfl
  have hstart := start_eq_ok (.ofDevices fun _ => .memory) hcheck rfl rfl
  have hfollow : (Path.follow (step told) (List.replicate 8 .driver) start).map (fun now =>
      (now.driver.account.kept, now.driver.activity.standing .requester)) =
        some (none, .joining 0) := by
    decide +kernel
  obtain ⟨now, hnow, hall⟩ := Option.map_eq_some_iff.mp hfollow
  obtain ⟨hkept, hstanding⟩ := Prod.mk.inj hall
  obtain ⟨path, hpath⟩ := Path.of_follow hnow
  have hdrained : (now.driver.activity.standing .requester).isDrained = true := by
    rw [hstanding]
    rfl
  have hfeeding := feeding_of_path (Plan.usable_of_create hplan) hstart hpath
  have hputs : putsOn path = errands .standard 1 [Sentinel.standard.text] :=
    hfeeding.putsOn_eq hkept hdrained
  refine ⟨⟨by decide, hcheck, hstart⟩, path, now, hpath, hstanding, hkept, ?_, ?_⟩
  · rw [hputs]
    exact List.mem_cons_self
  · rw [← map_putsOn, hputs, countP_errands]
    decide

end Path

end Run

end HostLookup
