import HostLookup.Proofs.Worker.Moves

/-!
# How workers wait and how they end

A worker that is over has either taken its sentinel or closed the queue that it takes from, so
nobody who waits at that queue is left behind:

* **`Worker.Moves.hasSentinel`**: a worker comes to hold a sentinel by the section in which it takes
  one out of its queue, and holds it for ever.
* **`Worker.Moves.hasClosed`**: a worker comes to have closed its queue by the last step of a
  `close`.
* **`Worker.ends_of_isOver`**: every worker that is over has done one of the two.
* **`Worker.blocked_of_step`**: a worker that cannot move and is not over waits at the start of a
  call, for a permit of an open counter.
-/

namespace HostLookup

namespace Worker

variable {told : Instructions} {moment : Nat} {w w' : Worker} {desk desk' : Desk}

/-! ## Sentinels

A sentinel passes from the queue to a worker in the section of a `get`, and the worker has it from
then on, until its report says so. Every rule is checked against this count; at plain places there
is nothing to check. -/

/-- Going on from a plain place, a worker has taken nothing and holds no sentinel. -/
theorem GoesOn.hasSentinel (h : GoesOn w w') (sentinel : Sentinel) (q : Queue)
    (hbefore : w.activity.hasSentinel sentinel = false)
    (hidle : w.activity.sourceCall.bind Call.phase? = none) :
    (w'.activity.hasSentinel sentinel).toNat =
      (w.activity.hasSentinel sentinel).toNat +
        (q.taken w.activity.sourceCall).count sentinel.text := by
  rw [Activity.hasSentinel_of_isPlain sentinel h.isPlain, hbefore, Queue.taken_of_phase hidle]
  rfl

/-- A worker that begins with a sentinel has it, and with any other item it has none. -/
theorem hasSentinel_begin (w : Worker) (sentinel : Sentinel) (item : String) :
    (w.begin sentinel item).activity.hasSentinel sentinel = sentinel.marks item := by
  cases hmarks : sentinel.marks item with
  | true =>
    unfold begin
    rw [hmarks]
    rfl
  | false => exact Activity.hasSentinel_of_isPlain sentinel (goesOn_begin w hmarks).isPlain

/-- **Sentinels are taken out of the queue**, one by each worker that holds one. -/
theorem Moves.hasSentinel (h : Moves told moment w desk w' desk') :
    (w'.activity.hasSentinel told.sentinel).toNat =
      (w.activity.hasSentinel told.sentinel).toNat +
        (desk.source.taken w.activity.sourceCall).count told.sentinel.text := by
  cases h with
  | take hactivity hstep =>
    rw [hactivity]
    have hmove := GetCall.moves_of_step hstep
    simp only [Activity.sourceCall, hmove.taken]
    cases hmove with
    | enter => rfl
    | @take item ring hring =>
      -- the section itself: the item is in the hands of the worker from now on
      simp only [Activity.hasSentinel, Sentinel.marks, GetCall.takenOut]
      by_cases hmarks : told.sentinel.text = item
      · simp [hmarks]
      · simp [hmarks, Ne.symm hmarks]
  | receive hactivity hstep =>
    -- what the `get` returns was counted when it was taken
    rw [hactivity, hasSentinel_begin]
    have hmove := GetCall.moves_of_step hstep
    simp only [Activity.sourceCall, hmove.taken]
    cases hmove
    rfl
  | starve hactivity hstep =>
    rw [hactivity]
    have hmove := GetCall.moves_of_step hstep
    simp only [Activity.sourceCall, hmove.taken]
    cases hmove <;> rfl
  | acknowledge hactivity | keep hactivity | offer hactivity | closeSource hactivity
  | closedSource hactivity | closeTarget hactivity =>
    rw [hactivity]
    rfl
  | openFile hactivity =>
    exact (goesOn_takeUp w _ _).hasSentinel _ _ (by rw [hactivity]; rfl) (by rw [hactivity]; rfl)
  | read hactivity =>
    exact (goesOn_read w _ _ _).hasSentinel _ _ (by rw [hactivity]; rfl) (by rw [hactivity]; rfl)
  | offered hactivity =>
    exact (goesOn_offered w _ _ _).hasSentinel _ _ (by rw [hactivity]; rfl) (by rw [hactivity]; rfl)
  | lookUp hactivity =>
    exact (goesOn_lookedUp w _ _ _).hasSentinel _ _ (by rw [hactivity]; rfl)
      (by rw [hactivity]; rfl)
  | log hactivity =>
    exact (goesOn_logged w _ _).hasSentinel _ _ (by rw [hactivity]; rfl) (by rw [hactivity]; rfl)
  | @report failure file hactivity =>
    rw [hactivity, Activity.hasSentinel_of_isPlain told.sentinel (isPlain_resume file)]
    rfl
  | @conclude call ending hactivity =>
    rw [hactivity]
    cases ending <;> rfl
  | @closedTarget call first ending target target' hactivity =>
    rw [hactivity]
    cases ending <;> rfl
  | @announce exit hactivity =>
    rw [hactivity]
    cases exit <;> rfl

/-! ## Closed queues

A worker that leaves without a sentinel closes the queue that it has taken from, so that nobody
waits for a worker that takes no more. Only then it turns to the queue that it hands on to. -/

/-- **A worker that will take no more has closed its queue**: if it has done so by this step, the
step was the last one of its `close`. -/
theorem Moves.hasClosed (h : Moves told moment w desk w' desk')
    (hclosed : w'.activity.hasClosed = true) :
    w.activity.hasClosed = true ∨ ∃ (call : CloseCall) (first : Bool),
      w.activity.sourceCall = some (.close call) ∧
        call.step desk.source = (.returns first, desk'.source) := by
  -- a worker that goes on has closed nothing
  have hplain : ∀ {w' : Worker}, GoesOn w w' → w'.activity.hasClosed = true → False := by
    intro w' hgo h'
    rw [Activity.hasClosed_of_isPlain hgo.isPlain] at h'
    contradiction
  cases h with
  | take | acknowledge | keep | offer | closeSource => contradiction
  | @receive call item source hactivity =>
    cases hmarks : told.sentinel.marks item with
    | true =>
      unfold begin at hclosed
      rw [hmarks] at hclosed
      contradiction
    | false => exact (hplain (goesOn_begin w hmarks) hclosed).elim
  | starve => exact (hplain (goesOn_leave w _) hclosed).elim
  | openFile => exact (hplain (goesOn_takeUp w _ _) hclosed).elim
  | read => exact (hplain (goesOn_read w _ _ _) hclosed).elim
  | offered => exact (hplain (goesOn_offered w _ _ _) hclosed).elim
  | lookUp => exact (hplain (goesOn_lookedUp w _ _ _) hclosed).elim
  | log => exact (hplain (goesOn_logged w _ _) hclosed).elim
  | @report failure file hactivity =>
    rw [Activity.hasClosed_of_isPlain (isPlain_resume file)] at hclosed
    contradiction
  | @closedSource call first ending source hactivity hstep =>
    exact Or.inr ⟨call, first, by rw [hactivity]; rfl, hstep⟩
  | conclude hactivity | closeTarget hactivity | closedTarget hactivity =>
    -- whoever closes the target has closed the source before
    exact Or.inl (by rw [hactivity]; rfl)
  | @announce exit hactivity =>
    cases exit with
    | ok => contradiction
    | error => exact Or.inl (by rw [hactivity]; rfl)

/-- A worker that is over has taken its sentinel or closed its queue. -/
theorem ends_of_isOver (sentinel : Sentinel) (hover : w.isOver = true) :
    w.activity.hasSentinel sentinel = true ∨ w.activity.hasClosed = true := by
  unfold isOver at hover
  split at hover
  · next report hactivity =>
    rw [hactivity]
    simp only [Activity.hasSentinel, Activity.hasClosed]
    -- a report without a failure is that of a worker with a sentinel
    cases report.exit <;> simp [Except.isOk, Except.toBool]
  · next hactivity => exact Or.inr (by rw [hactivity]; rfl)
  · contradiction

/-! ## Offers

A requester hands on nothing that looks like a sentinel, so only the driver puts sentinels. -/

/-- A host name that is offered is not the sentinel, and it is what the `put` carries. -/
def Offers (sentinel : Sentinel) : Activity → Prop
  | .offering host call _ =>
    sentinel.marks host = false ∧ ∀ item, call.item? = some item → item = host
  | _ => True

/-- A failure is reported, and nothing is offered. -/
theorem offers_raise (sentinel : Sentinel) (w : Worker) (failure : Failure)
    (file : Option Reading) : Offers sentinel (w.raise failure file).activity := by
  unfold raise
  split <;> trivial

/-- A worker that goes on with a file reads it first. -/
theorem offers_resume (sentinel : Sentinel) (file : Option Reading) :
    Offers sentinel (resume file) := by
  cases file <;> trivial

/-- A host name is compared with the sentinel before it is offered. -/
theorem offers_read (sentinel : Sentinel) (w : Worker) (hasTarget : Bool) (file : Reading) :
    Offers sentinel (w.read sentinel hasTarget file).activity := by
  unfold read
  split
  · trivial
  · split
    · split
      · trivial
      · next host _ =>
        unfold handOn
        split
        · exact offers_raise _ _ _ _
        · next hmarks =>
          split
          · refine ⟨by simpa using hmarks, fun item hitem => ?_⟩
            exact (Option.some.inj hitem).symm
          · trivial
    · split <;> exact offers_raise _ _ _ _
    · trivial

/-- **No worker offers a sentinel**, before a step and after it. -/
theorem Moves.offers (h : Moves told moment w desk w' desk')
    (hoffers : Offers told.sentinel w.activity) : Offers told.sentinel w'.activity := by
  cases h with
  | @receive call item source hactivity =>
    unfold begin
    split
    · trivial
    · cases w.stage <;> trivial
  | @openFile file hactivity =>
    cases told.environment.opening moment file with
    | refused => exact offers_raise _ _ _ _
    | opened | panicked => trivial
  | read => exact offers_read _ _ _ _
  | offer hactivity htarget hstep =>
    rw [hactivity] at hoffers
    exact ⟨hoffers.1, fun item hitem =>
      hoffers.2 item ((PutCall.moves_of_step hstep).item?_of_goesOn hitem)⟩
  | @offered host call file result =>
    cases result with
    | ok => trivial
    | error => exact offers_raise _ _ _ _
  | @lookUp host hactivity => cases told.environment.lookup moment host <;> trivial
  | @log line file hactivity =>
    cases (desk.sinks.writeLine w.output line).1 with
    | ok => exact offers_resume _ _
    | error => exact offers_raise _ _ _ _
  | report => exact offers_resume _ _
  | @conclude call ending => cases ending <;> trivial
  | @closedTarget call first ending => cases ending <;> trivial
  | take | starve | acknowledge | keep | closeSource | closedSource | closeTarget | announce =>
    trivial

/-! ## The end of the stage

The stage counts the workers that have stopped. A worker is counted once, in the step after it has
taken its sentinel. -/

/-- A worker touches the end of its stage once, when it says that it has taken its sentinel. -/
theorem Moves.shutdown (h : Moves told moment w desk w' desk') :
    desk'.shutdown = desk.shutdown ∨
      w.activity = .acknowledging ∧ desk'.shutdown = desk.shutdown.workerStopped := by
  cases h with
  | acknowledge hactivity => exact Or.inr ⟨hactivity, rfl⟩
  | _ => exact Or.inl rfl

/-! ## Waiting

The step function says `none` for a worker that waits. It is opened once here; otherwise a worker
that cannot move is told by its place. -/

/-- A worker that makes a step is not over. -/
theorem Moves.isOver_eq_false (h : Moves told moment w desk w' desk') : w.isOver = false := by
  unfold isOver
  cases h <;> simp only [*]

/-- **A worker that cannot move** is over, or waits for an item, or for a free slot of the next
queue. -/
theorem blocked_of_step (hstep : w.step told moment desk = none) :
    w.isOver = true ∨
    (w.activity = .taking .entering ∧ desk.source.filled.closed = false ∧
      desk.source.filled.permits = 0) ∨
    ∃ host item file target, w.activity = .offering host (.entering item) file ∧
      desk.target = some target ∧ target.free.closed = false ∧ target.free.permits = 0 := by
  unfold step at hstep
  split at hstep
  · next call hactivity =>
    -- a `get` waits for an item at its beginning only
    obtain ⟨rfl, hopen, hpermits⟩ := GetCall.blocked_of_step (Option.map_eq_none_iff.mp hstep)
    exact Or.inr (Or.inl ⟨hactivity, hopen, hpermits⟩)
  · contradiction
  · contradiction
  · contradiction
  · next host call file hactivity =>
    split at hstep
    · contradiction
    · next target htarget =>
      -- and a `put` for a free slot
      obtain ⟨item, rfl, -, hopen, hpermits⟩ :=
        PutCall.blocked_of_step (Option.map_eq_none_iff.mp hstep)
      exact Or.inr (Or.inr ⟨host, item, file, target, hactivity, htarget, hopen, hpermits⟩)
  · contradiction
  · contradiction
  · contradiction
  · contradiction
  · split at hstep <;> contradiction
  · contradiction
  · next hactivity => exact Or.inl (by rw [isOver, hactivity])
  · next hactivity => exact Or.inl (by rw [isOver, hactivity])

end Worker

end HostLookup
