import HostLookup.Proofs.Queue.Ledger
import HostLookup.Stage.Drain

/-!
# What a step of a drain can do

A drain claims its stage once and puts one sentinel for each worker. `DrainCall.Moves` has one rule
for each way in which a step can go; to the queue a drain is a `put` now and then
(**`DrainCall.Moves.turn`**).

Whoever ends a stage goes through a few places: `Standing` is the place at which it is, and
`Standing.Law` what the end of the stage looks like meanwhile, which is how many sentinels are on
their way and in which state the stage is. A worker of a stage can only be given a sentinel by the
drain of that stage, so as long as the drain has not begun, nobody stops.
-/

namespace HostLookup

theorem Shutdown.eq_of_claim {s claimed : Shutdown} (hclaim : s.claim = .ok claimed) :
    claimed.workers = s.workers ∧ claimed.sentinelsSent = s.sentinelsSent := by
  unfold Shutdown.claim at hclaim
  split at hclaim
  · contradiction
  · cases hclaim
    exact ⟨rfl, rfl⟩

theorem Shutdown.claim_ne_error {s : Shutdown} (hrunning : s.state = .running) (failure : Failure) :
    s.claim ≠ .error failure := by
  simp [Shutdown.claim, hrunning]

namespace DrainCall

/-- The `put` that a drain is inside of. -/
def putCall : DrainCall → Option Call
  | .putting _ call => some (.put call)
  | _ => none

/-- The steps of a drain of `stage` through `queue`, behind the stage `before`. -/
inductive Moves (sentinel : Sentinel) (before stage : Shutdown) (queue : Queue) :
    DrainCall → Progress DrainCall (Except Failure Unit) → Shutdown → Queue → Prop where
  | allow (hstopped : before.state = .stopped) :
      Moves sentinel before stage queue .checking (.goesOn .claiming) stage queue
  | hold (hgoing : before.state ≠ .stopped) :
      Moves sentinel before stage queue .checking (.goesOn .refusing) stage queue
  | refuse :
      Moves sentinel before stage queue .refusing (.returns (.error (stage.notYet before))) stage
        queue
  | late {failure : Failure} (hclaim : stage.claim = .error failure) :
      Moves sentinel before stage queue .claiming (.returns (.error failure)) stage queue
  | claim {claimed : Shutdown} (hclaim : stage.claim = .ok claimed) :
      Moves sentinel before stage queue .claiming (proceed sentinel claimed.workers) claimed queue
  | put {later : Nat} {call call' : PutCall} {queue' : Queue}
      (hstep : call.step queue = some (.goesOn call', queue')) :
      Moves sentinel before stage queue (.putting later call) (.goesOn (.putting later call')) stage
        queue'
  | sent {later : Nat} {call : PutCall} {queue' : Queue}
      (hstep : call.step queue = some (.returns (.ok ()), queue')) :
      Moves sentinel before stage queue (.putting later call) (.goesOn (.counting later)) stage
        queue'
  | fail {later : Nat} {call : PutCall} {error : QueueError} {queue' : Queue}
      (hstep : call.step queue = some (.returns (.error error), queue')) :
      Moves sentinel before stage queue (.putting later call) (.returns (.error (.queue error)))
        stage queue'
  | count {later : Nat} :
      Moves sentinel before stage queue (.counting later) (proceed sentinel later)
        stage.countSentinel queue

theorem moves_of_step {sentinel : Sentinel} {before stage stage' : Shutdown} {queue queue' : Queue}
    {call : DrainCall} {progress : Progress DrainCall (Except Failure Unit)}
    (hstep : call.step sentinel before stage queue = some (progress, stage', queue')) :
    Moves sentinel before stage queue call progress stage' queue' := by
  unfold step at hstep
  split at hstep
  · obtain ⟨rfl, rfl, rfl⟩ := by simpa using hstep
    split
    · next hstopped => exact .allow hstopped
    · next hgoing => exact .hold hgoing
  · obtain ⟨rfl, rfl, rfl⟩ := by simpa using hstep
    exact .refuse
  · split at hstep
    · next hclaim =>
      obtain ⟨rfl, rfl, rfl⟩ := by simpa using hstep
      exact .late hclaim
    · next hclaim =>
      obtain ⟨rfl, rfl, rfl⟩ := by simpa using hstep
      exact .claim hclaim
  · split at hstep
    · contradiction
    · next hput =>
      obtain ⟨rfl, rfl, rfl⟩ := by simpa using hstep
      exact .put hput
    · next hput =>
      obtain ⟨rfl, rfl, rfl⟩ := by simpa using hstep
      exact .sent hput
    · next hput =>
      obtain ⟨rfl, rfl, rfl⟩ := by simpa using hstep
      exact .fail hput
  · obtain ⟨rfl, rfl, rfl⟩ := by simpa using hstep
    exact .count

theorem phase?_proceed (sentinel : Sentinel) (later : Nat) :
    (proceed sentinel later).phase? (fun call => call.putCall.bind Call.phase?) = none := by
  cases later <;> rfl

/-- **A step of a drain is a turn of its queue.** -/
theorem Moves.turn {sentinel : Sentinel} {before stage stage' : Shutdown} {queue queue' : Queue}
    {call : DrainCall} {progress : Progress DrainCall (Except Failure Unit)}
    (h : Moves sentinel before stage queue call progress stage' queue') :
    queue.Turn call.putCall (progress.phase? fun call => call.putCall.bind Call.phase?) queue' := by
  cases h with
  | allow | hold | refuse | late => exact .idle rfl
  | claim | count =>
    rw [phase?_proceed]
    exact .idle rfl
  | put hstep | sent hstep | fail hstep => exact .of_put hstep

/-- A drain waits only for a free slot. -/
theorem blocked_of_step {sentinel : Sentinel} {before stage : Shutdown} {queue : Queue}
    {call : DrainCall} (hstep : call.step sentinel before stage queue = none) :
    ∃ later item, call = .putting later (.entering item) ∧ queue.fits item = true ∧
      queue.free.closed = false ∧ queue.free.permits = 0 := by
  unfold step at hstep
  split at hstep
  · contradiction
  · contradiction
  · split at hstep <;> contradiction
  · next later put =>
    split at hstep
    · next hput =>
      obtain ⟨item, rfl, hfits, hopen, hpermits⟩ := PutCall.blocked_of_step hput
      exact ⟨later, item, rfl, hfits, hopen, hpermits⟩
    · contradiction
    · contradiction
    · contradiction
  · contradiction

/-- A drain does not change for how many workers its stage waits. -/
theorem Moves.workers_eq {sentinel : Sentinel} {before stage stage' : Shutdown}
    {queue queue' : Queue} {call : DrainCall} {progress : Progress DrainCall (Except Failure Unit)}
    (h : Moves sentinel before stage queue call progress stage' queue') :
    stage'.workers = stage.workers := by
  cases h with
  | claim hclaim => exact (Shutdown.eq_of_claim hclaim).1
  | _ => rfl

/-- Nor does it stop any of them. -/
theorem Moves.workersStopped_eq {sentinel : Sentinel} {before stage stage' : Shutdown}
    {queue queue' : Queue} {call : DrainCall} {progress : Progress DrainCall (Except Failure Unit)}
    (h : Moves sentinel before stage queue call progress stage' queue') :
    stage'.workersStopped = stage.workersStopped := by
  cases h with
  | claim hclaim =>
    unfold Shutdown.claim at hclaim
    split at hclaim
    · contradiction
    · cases hclaim
      rfl
  | _ => rfl

end DrainCall

/-! ## How far the end of a stage has come

The driver drains a stage and then joins its workers; before, in between and afterwards it is busy
with something else. `Standing` is its place as seen from one stage, and `Law` says what must be
true of the stage, its queue and the sentinels at each such place. -/

/-- How far the end of a stage has come. -/
inductive Standing where
  /-- Nothing has been done to end the stage. -/
  | ahead
  | draining (call : DrainCall)
  | joining (next : Nat)
  | finishing
  /-- All workers have ended. -/
  | done
  deriving DecidableEq, Repr

namespace Standing

/-- How far the driver has come with a stage while it is at this place with another one, or the
same. -/
def seenFrom (own stage : Stage) (standing : Standing) : Standing :=
  match own, stage with
  | .requester, .resolver => .ahead
  | .resolver, .requester => .done
  | .requester, .requester | .resolver, .resolver => standing

@[simp] theorem seenFrom_self (stage : Stage) (standing : Standing) :
    seenFrom stage stage standing = standing := by
  cases stage <;> rfl

/-- Where the driver is with another stage does not depend on the step that it makes at its own. -/
theorem seenFrom_of_ne {own stage : Stage} (hne : own ≠ stage) (standing standing' : Standing) :
    seenFrom own stage standing = seenFrom own stage standing' := by
  cases own <;> cases stage <;> first | rfl | exact absurd rfl hne

/-- Where the driver is with a stage after a step of its drain. -/
def ofDrain : Progress DrainCall (Except Failure Unit) → Standing
  | .goesOn call => .draining call
  | .returns _ => .joining 0

/-- Has the drain of the stage begun to put sentinels? -/
def hasBegun : Standing → Bool
  | .ahead | .draining .checking | .draining .refusing | .draining .claiming => false
  | _ => true

/-- One for a sentinel that is in the queue and not yet counted. -/
def pending : Standing → Nat
  | .draining (.putting _ .stored) | .draining (.counting _) => 1
  | _ => 0

/-- Has the driver joined the `j`-th worker of the stage? -/
def HasJoined (j : Nat) : Standing → Prop
  | .joining next => j < next
  | .finishing | .done => True
  | .ahead | .draining _ => False

/-- What holds of the end `s` of a stage and of the queue `q` in front of it, behind a stage with
the end `before`. -/
def Law (sentinel : Sentinel) (before s : Shutdown) (q : Queue) : Standing → Prop
  | .ahead | .draining .claiming => s.state = .running ∧ s.sentinelsSent = 0
  | .draining .checking => before.state = .stopped ∧ s.state = .running ∧ s.sentinelsSent = 0
  | .draining .refusing => False
  | .draining (.putting later call) =>
    s.sentinelsSent + later + 1 = s.workers ∧
      ∀ item, call.item? = some item → item = sentinel.text
  | .draining (.counting later) => s.sentinelsSent + later + 1 = s.workers
  | .joining _ | .finishing => s.sentinelsSent = s.workers ∨ q.ring.closed = true
  | .done => s.state = .stopped ∧ (s.sentinelsSent = s.workers ∨ q.ring.closed = true)

variable {sentinel : Sentinel} {before before' s s' : Shutdown} {q q' : Queue}
  {standing : Standing}

/-- In front of a drain its law says that the stage is running and has no sentinel yet. -/
theorem law_of_hasBegun (hstanding : standing = .ahead ∨ standing = .draining .claiming)
    (hs : s.state = .running ∧ s.sentinelsSent = 0) : standing.Law sentinel before s q := by
  rcases hstanding with rfl | rfl <;> exact hs

/-- The drain goes on while there are workers without a sentinel. -/
theorem Law.proceed {later : Nat} (hcount : s.sentinelsSent + later = s.workers) :
    (ofDrain (DrainCall.proceed sentinel later)).Law sentinel before s q := by
  cases later with
  | zero => exact Or.inl hcount
  | succ later => exact ⟨hcount, fun item heq => (Option.some.inj heq).symm⟩

/-- Before a drain has begun no sentinel is counted and none is pending. -/
theorem Law.sent_eq_zero (h : standing.Law sentinel before s q)
    (hbegun : standing.hasBegun = false) : s.sentinelsSent + standing.pending = 0 := by
  cases standing with
  | ahead => exact h.2
  | draining call =>
    cases call with
    | checking => exact h.2.2
    | refusing => exact h.elim
    | claiming => exact h.2
    | putting | counting => contradiction
  | joining | finishing | done => contradiction

/-- What other threads do keeps the law: they may close the queue, and once the drain has begun
workers may stop. -/
theorem Law.mono (h : standing.Law sentinel before s q)
    (hbefore : before.state = .stopped → before'.state = .stopped)
    (hs : s' = s ∨ standing.hasBegun = true ∧ s' = s.workerStopped)
    (hclosed : q.ring.closed = true → q'.ring.closed = true) :
    standing.Law sentinel before' s' q' := by
  have hsent : s'.sentinelsSent = s.sentinelsSent ∧ s'.workers = s.workers := by
    rcases hs with rfl | ⟨-, rfl⟩ <;> exact ⟨rfl, rfl⟩
  have hstopped : s.state = .stopped → s'.state = .stopped := by
    intro hstopped
    rcases hs with rfl | ⟨-, rfl⟩
    · exact hstopped
    · simp [Shutdown.workerStopped, hstopped]
  -- before the drain has begun no worker can stop, so the stage is the same
  have hrunning : standing.hasBegun = false → s' = s := fun hbegun =>
    hs.resolve_right fun hno => by simp [hbegun] at hno
  cases standing with
  | ahead => exact hrunning rfl ▸ h
  | draining call =>
    cases call with
    | checking => exact ⟨hbefore h.1, hrunning rfl ▸ h.2⟩
    | refusing => exact h
    | claiming => exact hrunning rfl ▸ h
    | putting | counting => simpa only [Law, hsent.1, hsent.2] using h
  | joining | finishing =>
    simp only [Law, hsent.1, hsent.2]
    exact h.imp_right hclosed
  | done =>
    simp only [Law, hsent.1, hsent.2]
    exact ⟨hstopped h.1, h.2.imp_right hclosed⟩

/-- A step of the drain moves its stage on. Its `put` fails only at a queue that is then closed. -/
theorem Law.ofDrain {call : DrainCall} {progress : Progress DrainCall (Except Failure Unit)}
    (h : (Standing.draining call).Law sentinel before s q)
    (hmove : DrainCall.Moves sentinel before s q call progress s' q')
    (hfail : ∀ later put error, call = .putting later put →
      put.step q = some (.returns (.error error), q') → q'.ring.closed = true) :
    (Standing.ofDrain progress).Law sentinel before' s' q' := by
  cases hmove with
  | allow => exact h.2
  | hold hgoing => exact absurd h.1 hgoing
  | refuse => exact h.elim
  | late hclaim => exact absurd hclaim (Shutdown.claim_ne_error h.1 _)
  | claim hclaim =>
    obtain ⟨hworkers, hsent⟩ := Shutdown.eq_of_claim hclaim
    have hzero := h.2
    exact .proceed (by omega)
  | put hstep =>
    have hput := PutCall.moves_of_step hstep
    exact ⟨h.1, fun item heq => h.2 item (hput.item?_of_goesOn heq)⟩
  | sent => exact h.1
  | fail hstep => exact Or.inr (hfail _ _ _ rfl hstep)
  -- one more is counted and one less is to come
  | count =>
    simp only [Standing.Law] at h
    refine .proceed ?_
    simp only [Shutdown.countSentinel]
    omega

/-- A drain that goes on to its next sentinel has counted the one before. -/
theorem pending_proceed (sentinel : Sentinel) (later : Nat) :
    (ofDrain (DrainCall.proceed sentinel later)).pending = 0 := by
  cases later <;> rfl

/-- A drain puts nothing but sentinels, and it keeps count of them. -/
theorem sentinels_of_drain {call : DrainCall} {progress : Progress DrainCall (Except Failure Unit)}
    (hmove : DrainCall.Moves sentinel before s q call progress s' q')
    (hitem : ∀ later put, call = .putting later put → ∀ item, put.item? = some item →
      item = sentinel.text) :
    ∃ new, q.stored call.putCall = List.replicate new sentinel.text ∧
      s'.sentinelsSent + (ofDrain progress).pending =
        s.sentinelsSent + (Standing.draining call).pending + new := by
  cases hmove with
  | allow | hold | refuse | late => exact ⟨0, rfl, rfl⟩
  | claim hclaim =>
    refine ⟨0, rfl, ?_⟩
    rw [pending_proceed, (Shutdown.eq_of_claim hclaim).2]
    rfl
  | @put later call call' queue' hstep =>
    have hput := PutCall.moves_of_step hstep
    simp only [DrainCall.putCall, hput.stored]
    cases hput with
    | enter => exact ⟨0, rfl, rfl⟩
    | @store item ring hring =>
      -- the one step that stores: what it stores is pending until it is counted
      obtain rfl := hitem later _ rfl item rfl
      exact ⟨1, rfl, rfl⟩
  | sent hstep =>
    have hput := PutCall.moves_of_step hstep
    simp only [DrainCall.putCall, hput.stored]
    cases hput
    exact ⟨0, rfl, rfl⟩
  | fail hstep =>
    have hput := PutCall.moves_of_step hstep
    simp only [DrainCall.putCall, hput.stored]
    cases hput <;> exact ⟨0, rfl, rfl⟩
  | count =>
    refine ⟨0, rfl, ?_⟩
    rw [pending_proceed]
    rfl

end Standing

/-- A drain of a running stage through an open queue goes well, if the sentinel fits. -/
theorem DrainCall.Moves.returns_of_open {sentinel : Sentinel} {before stage stage' : Shutdown}
    {queue queue' : Queue} {call : DrainCall} {result : Except Failure Unit}
    (h : Moves sentinel before stage queue call (.returns result) stage' queue')
    (hring : queue.ring.closed = false) (hfree : queue.free.closed = false)
    (hfits : queue.fits sentinel.text = true)
    (hlaw : (Standing.draining call).Law sentinel before stage queue) : result = .ok () := by
  generalize hprogress : (Progress.returns result : Progress DrainCall _) = progress at h
  have hproceed : ∀ later, Progress.returns result = DrainCall.proceed sentinel later →
      result = .ok () := by
    intro later heq
    cases later with
    | zero => exact Progress.returns.inj heq
    | succ => contradiction
  cases h with
  | allow | hold | put | sent => contradiction
  | refuse => exact hlaw.elim
  | late hclaim => exact absurd hclaim (Shutdown.claim_ne_error hlaw.1 _)
  | claim | count => exact hproceed _ hprogress
  | fail hstep =>
    -- a `put` into an open queue fails only if its item does not fit, and the sentinel does
    exfalso
    rcases (PutCall.moves_of_step hstep).returns_of_open hring hfree with
      ⟨-, hno⟩ | ⟨item, rfl, hsize, -⟩
    · contradiction
    · obtain rfl := hlaw.2 item rfl
      rw [hfits] at hsize
      contradiction

end HostLookup
