import HostLookup.Proofs.Run.Causes
import HostLookup.Proofs.Run.Chronicle

/-!
# Sentinels come last

Into the queue in front of a stage go items, and behind them sentinels: one for each worker, unless
the drain of the stage has met a closed queue. Nothing that fails in a run changes the order. A
worker takes one of them at most, and nothing after it.

* **`Run.Puts`**: who puts what, and **`Run.Orderly.puts`**: nobody else puts anything.
* **`Run.Allotted`**: how many sentinels there are, and what each worker has taken.
* **`Run.Sealed`** lists what all this comes to, and **`Run.sealed_of_path`** says that it holds of
  every run, also of one that is not over.
-/

namespace HostLookup

/-- A worker that has its sentinel takes nothing out of its queue any more. -/
theorem Activity.taken_of_hasSentinel {sentinel : Sentinel} {a : Activity} (q : Queue)
    (h : a.hasSentinel sentinel = true) : q.taken a.sourceCall = [] := by
  cases a with
  | taking call =>
    cases call with
    | taken item => rfl
    | entering | admitted => contradiction
  | closingSource => contradiction
  | _ => rfl

/-- What a worker has taken after a step: its items, and behind them the sentinel if it has it. -/
theorem Worker.Moves.taken_append {told : Instructions} {moment : Nat} {w w' : Worker}
    {desk desk' : Desk} (h : Moves told moment w desk w' desk') {items : List String}
    (hitems : told.sentinel.text ∉ items) :
    ∃ items', told.sentinel.text ∉ items' ∧
      items ++ List.replicate (w.activity.hasSentinel told.sentinel).toNat told.sentinel.text ++
          desk.source.taken w.activity.sourceCall =
        items' ++
          List.replicate (w'.activity.hasSentinel told.sentinel).toNat told.sentinel.text := by
  have hcount := h.hasSentinel
  cases hbefore : w.activity.hasSentinel told.sentinel with
  | true =>
    rw [Activity.taken_of_hasSentinel desk.source hbefore] at hcount ⊢
    -- the worker takes nothing more, so nothing changes
    refine ⟨items, hitems, ?_⟩
    rw [hcount, hbefore, List.append_nil]
    rfl
  | false =>
    rw [hbefore] at hcount
    -- one item at most has come out of the queue
    have hle := Queue.length_taken_le desk.source w.activity.sourceCall
    generalize desk.source.taken w.activity.sourceCall = taken at hcount hle ⊢
    rcases taken with _ | ⟨item, _ | ⟨_, _⟩⟩
    · exact ⟨items, hitems, by simp [hcount]⟩
    · by_cases hitem : item = told.sentinel.text
      · -- it was the sentinel: it is the last that the worker takes
        subst hitem
        exact ⟨items, hitems, by simp [hcount]⟩
      · refine ⟨items ++ [item], ?_, by simp [hcount, hitem]⟩
        rw [List.mem_append, List.mem_singleton, not_or]
        exact ⟨hitems, Ne.symm hitem⟩
    · simp at hle

namespace Run

variable {told : Instructions} {run run' : Run} {actor : Actor} {history : History}
  {sentinel : Sentinel} {path : List (Actor × Run)}

/-! ## Who puts what

There are three places in a run at which something is copied into a queue: the driver feeds the name
of a data file, the driver drains a stage, and a requester hands on a host name. Only the drain may
put the sentinel. That it does put nothing else, and that the other two never put it, is read off
the invariant of the run (`Orderly`): it knows what a drain carries, that the names of the data
files hold no sentinel, and that a requester has compared a host name with the sentinel before it
offers it. -/

/-- What the next step of a thread copies into the queue in front of a stage. -/
def stores (run : Run) (actor : Actor) (stage : Stage) : List String :=
  (run.queue stage).stored (run.callOn actor stage)

/-- What the next step of a thread copies out of it. -/
def takes (run : Run) (actor : Actor) (stage : Stage) : List String :=
  (run.queue stage).taken (run.callOn actor stage)

/-- How an item gets into the queue in front of a stage. -/
inductive Puts (sentinel : Sentinel) (run : Run) : Stage → Actor → String → Prop where
  /-- The driver feeds the name of a data file. -/
  | feed {file item : String} {later : List String}
      (hactivity : run.driver.activity = .feeding file (.admitted item) later)
      (hitem : item ≠ sentinel.text) : Puts sentinel run .requester .driver item
  /-- The driver drains the stage. -/
  | drain {stage : Stage} {later : Nat}
      (hactivity : run.driver.activity =
        .draining stage (.putting later (.admitted sentinel.text))) :
      Puts sentinel run stage .driver sentinel.text
  /-- A requester hands on a host name. -/
  | handOn {i : Nat} {w : Worker} {host item : String} {file : Reading}
      (hplace : (run.workers .requester)[i]? = some w)
      (hactivity : w.activity = .offering host (.admitted item) file)
      (htarget : run.hasTarget .requester = true) (hitem : item ≠ sentinel.text) :
      Puts sentinel run .resolver (.worker .requester i) item

namespace Orderly

/-- What a worker carries in a `put` is not the sentinel. -/
theorem ne_of_offers (h : Orderly sentinel history run) {own stage : Stage} {i : Nat}
    {call : PutCall} {item : String} (hcall : run.callOn (.worker own i) stage = some (.put call))
    (hitem : call.item? = some item) :
    item ≠ sentinel.text ∧ own = .requester ∧ stage = .resolver ∧
      run.hasTarget .requester = true ∧ ∃ w host file, (run.workers .requester)[i]? = some w ∧
        w.activity = .offering host call file := by
  simp only [callOn, Option.bind_eq_some_iff] at hcall
  obtain ⟨w, hplace, hcall⟩ := hcall
  split at hcall
  · -- at the queue of its own stage a worker only takes
    cases hactivity : w.activity <;> simp [hactivity, Activity.sourceCall] at hcall
  · next hother =>
    split at hcall
    · next htarget =>
      cases own with
      | resolver => contradiction
      | requester =>
        -- what requesters hand on goes to the other stage
        obtain rfl : stage = .resolver := by cases stage <;> first | rfl | exact absurd rfl hother
        cases hactivity : w.activity with
        | offering host put file =>
          rw [hactivity] at hcall
          obtain rfl : put = call := by simpa [Activity.targetCall] using hcall
          have hoffers := h.offers .requester w (List.mem_of_getElem? hplace)
          rw [hactivity] at hoffers
          refine ⟨?_, rfl, rfl, htarget, w, host, file, hplace, hactivity⟩
          rintro rfl
          -- a requester has looked at the host name before it offers it
          have hmarks := hoffers.1
          rw [← hoffers.2 _ hitem, Sentinel.marks_text] at hmarks
          contradiction
        | _ => simp [hactivity, Activity.targetCall] at hcall
    · contradiction

/-- **Nobody else puts anything.** -/
theorem puts (h : Orderly sentinel history run) {stage : Stage} {item : String}
    (hmem : item ∈ run.stores actor stage) : Puts sentinel run stage actor item := by
  have hcall := Queue.eq_of_mem_stored hmem
  cases actor with
  | outsider => contradiction
  | worker own i =>
    obtain ⟨hitem, rfl, rfl, htarget, w, host, file, hplace, hactivity⟩ := h.ne_of_offers hcall rfl
    exact .handOn hplace hactivity htarget hitem
  | driver =>
    simp only [callOn] at hcall
    have hnames := h.names
    cases hactivity : run.driver.activity with
    | feeding file call later =>
      rw [hactivity] at hcall hnames
      cases stage with
      | resolver => contradiction
      | requester =>
        cases hcall
        -- a name in the hands of the driver is one of the names of the data files
        refine .feed hactivity fun heq => hnames ?_
        simp [DriverActivity.names, PutCall.item?, heq]
    | draining own call =>
      rw [hactivity] at hcall
      simp only [DriverActivity.callOn] at hcall
      split at hcall
      · next hown =>
        subst hown
        cases call with
        | putting later put =>
          cases hcall
          -- a drain carries the sentinel, and nothing else
          have hlaw := h.law own
          rw [hactivity] at hlaw
          simp only [DriverActivity.standing, Standing.seenFrom_self] at hlaw
          obtain rfl := hlaw.2 item rfl
          exact .drain hactivity
        | _ => contradiction
      · contradiction
    | clearing own call =>
      rw [hactivity] at hcall
      -- a queue that is destroyed is not put into
      simp [DriverActivity.callOn] at hcall
    | _ =>
      rw [hactivity] at hcall
      contradiction

/-- Nothing is put in front of a stage without workers. -/
theorem length_pos_of_puts (h : Orderly sentinel history run) {stage : Stage} {item : String}
    (hputs : Puts sentinel run stage actor item) : 0 < (run.workers stage).length := by
  refine List.length_pos_iff.mpr fun hnil => ?_
  cases hputs with
  | feed hactivity => exact h.feeding (by rw [hactivity]; rfl) hnil
  | drain hactivity =>
    -- a sentinel is left to put, so there is a worker to stop
    have hlaw := h.law stage
    rw [hactivity] at hlaw
    simp only [DriverActivity.standing, Standing.seenFrom_self] at hlaw
    have hsent := hlaw.1
    rw [h.workers_eq, hnil] at hsent
    exact absurd hsent (Nat.succ_ne_zero _)
  | handOn _ _ htarget =>
    have hnone : run.resolvers = [] := hnil
    simp [hasTarget, hnone] at htarget

/-- A sentinel is put only if a worker is left that has none: a drain that is about to put one has
not yet counted it, and its count together with what is left is the number of workers. -/
theorem sentinelsPut_lt (h : Orderly sentinel history run) {stage : Stage}
    (hmem : sentinel.text ∈ run.stores actor stage) :
    run.sentinelsPut stage < (run.workers stage).length := by
  generalize hitem : sentinel.text = item at hmem
  cases h.puts hmem with
  | feed _ hne | handOn _ _ _ hne => exact absurd hitem.symm hne
  | drain hactivity =>
    have hlaw := h.law stage
    rw [hactivity] at hlaw
    simp only [DriverActivity.standing, Standing.seenFrom_self] at hlaw
    have hsent := hlaw.1
    rw [h.workers_eq] at hsent
    simp only [sentinelsPut, hactivity, DriverActivity.standing, Standing.seenFrom_self,
      Standing.pending]
    omega

end Orderly

/-! ## How many there are

The drain of a stage counts down from the number of workers, so it puts no more sentinels than that
(`put_le`), and none at all where there is no worker (`unattended`). On the other side a worker
stops at the first sentinel that it takes (`own`). `Allotted` says both at once and is kept by every
step. -/

/-- No stage is given more sentinels than it has workers, and no worker has more than one. -/
structure Allotted (sentinel : Sentinel) (history : History) (run : Run) : Prop where
  put_le : ∀ stage, run.sentinelsPut stage ≤ (run.workers stage).length
  unattended : ∀ stage, run.workers stage = [] → history.stored stage = []
  own : ∀ (stage : Stage) (i : Nat) (w : Worker), (run.workers stage)[i]? = some w →
    ∃ items, sentinel.text ∉ items ∧ (history.of (.worker stage i)).taken stage =
      items ++ List.replicate (w.activity.hasSentinel sentinel).toNat sentinel.text

namespace Allotted

/-- No drain puts more sentinels than there are workers. What has been put is counted on record, so
it is enough to look at what the step copies into the queue. -/
theorem put_le_move (h : Allotted told.sentinel history run)
    (horderly : Orderly told.sentinel history run) (hmove : Moves told run actor run')
    (stage : Stage) : run'.sentinelsPut stage ≤ (run'.workers stage).length := by
  have hput := (horderly.move hmove).count_stored stage
  rw [History.stored_append, List.count_append, horderly.count_stored, stored_events] at hput
  rw [← hput, hmove.length_workers]
  by_cases hmem : told.sentinel.text ∈ run.stores actor stage
  · -- one more has been put, for a worker that is left
    have hlt := horderly.sentinelsPut_lt hmem
    have hone : (run.stores actor stage).count told.sentinel.text ≤ 1 :=
      Nat.le_trans List.count_le_length (Queue.length_stored_le _ _)
    unfold stores at hone
    omega
  · have hnone : (run.stores actor stage).count told.sentinel.text = 0 :=
      List.count_eq_zero.mpr hmem
    rw [stores] at hnone
    rw [hnone]
    exact h.put_le stage

/-- Without workers nothing is put at all. -/
theorem unattended_move (h : Allotted told.sentinel history run)
    (horderly : Orderly told.sentinel history run) (hmove : Moves told run actor run')
    (stage : Stage) (hnil : run'.workers stage = []) :
    (history ++ events told actor run).stored stage = [] := by
  have hlength := hmove.length_workers stage
  rw [hnil, List.length_nil] at hlength
  rw [History.stored_append, stored_events,
    h.unattended stage (List.eq_nil_of_length_eq_zero hlength.symm)]
  refine List.eq_nil_iff_forall_not_mem.mpr fun item hmem => ?_
  have hpos := horderly.length_pos_of_puts (horderly.puts hmem)
  omega

/-- What a worker has taken, by the record: only its own steps add to it, and they leave the
sentinel at the end. -/
theorem own_move (h : Allotted told.sentinel history run) (hmove : Moves told run actor run')
    (stage : Stage) (i : Nat) (w : Worker) (hplace : (run'.workers stage)[i]? = some w) :
    ∃ items, told.sentinel.text ∉ items ∧
      ((history ++ events told actor run).of (.worker stage i)).taken stage =
        items ++ List.replicate (w.activity.hasSentinel told.sentinel).toNat
          told.sentinel.text := by
  rw [History.of_append, of_events]
  rcases hmove.ownWorker stage with
    ⟨j, u, u', desk, rfl, hplace', hworker, hset, -⟩ | ⟨hother, hsame⟩
  · rw [hset] at hplace
    by_cases hij : j = i
    · subst hij
      have hlt := (List.getElem?_eq_some_iff.mp hplace').1
      rw [List.getElem?_set_self hlt] at hplace
      obtain rfl := Option.some.inj hplace
      obtain ⟨items, hitems, htaken⟩ := h.own stage j u hplace'
      rw [if_pos rfl, History.taken_append, taken_events_worker hplace', htaken]
      exact hworker.taken_append hitems
    · rw [List.getElem?_set_ne hij] at hplace
      rw [if_neg (by simp [hij]), List.append_nil]
      exact h.own stage i w hplace
  · -- somebody else has made the step
    rw [hsame] at hplace
    rw [if_neg (hother i), List.append_nil]
    exact h.own stage i w hplace

/-- **Every step keeps it.** -/
theorem move (h : Allotted told.sentinel history run)
    (horderly : Orderly told.sentinel history run) (hmove : Moves told run actor run') :
    Allotted told.sentinel (history ++ events told actor run) run' where
  put_le := h.put_le_move horderly hmove
  unattended := h.unattended_move horderly hmove
  own := h.own_move hmove

theorem tick (h : Allotted sentinel history run) (moment : Nat) :
    Allotted sentinel history { run with moment := moment } :=
  ⟨h.put_le, h.unattended, h.own⟩

end Allotted

/-! ## Workers that have their sentinel

Once a worker has taken a sentinel it never enters its queue again. A single step shows it: the
number of sentinels that a worker has can only grow with what it takes, and it is one already. -/

/-- The worker at this place has its sentinel. -/
def HasSentinel (sentinel : Sentinel) (run : Run) (stage : Stage) (i : Nat) : Prop :=
  ∃ w, (run.workers stage)[i]? = some w ∧ w.activity.hasSentinel sentinel = true

/-- The worker at this place enters its queue no more: if it is inside of a `get`, the `get` is
about to return a sentinel. -/
def TakesNoMore (sentinel : Sentinel) (run : Run) (stage : Stage) (i : Nat) : Prop :=
  ∀ call, run.callOn (.worker stage i) stage = some (.get call) → call = .taken sentinel.text

/-- A worker that has its sentinel is done with taking, or its last `get` is about to return that
sentinel. -/
theorem HasSentinel.takesNoMore {stage : Stage} {i : Nat} (h : HasSentinel sentinel run stage i) :
    TakesNoMore sentinel run stage i := by
  obtain ⟨w, hplace, hsentinel⟩ := h
  intro call hcall
  rw [callOn_worker_self hplace] at hcall
  cases hactivity : w.activity with
  | taking own =>
    rw [hactivity] at hcall hsentinel
    obtain rfl : own = call := by simpa [Activity.sourceCall] using hcall
    cases own with
    | taken item =>
      have hmarks : sentinel.text = item := by simpa [Activity.hasSentinel, Sentinel.marks]
        using hsentinel
      rw [hmarks]
    | entering | admitted => contradiction
  | _ => simp [hactivity, Activity.sourceCall] at hcall

/-- What a worker has got it keeps. -/
theorem Moves.hasSentinel_mono (h : Moves told run actor run') {stage : Stage} {i : Nat}
    (hhas : HasSentinel told.sentinel run stage i) : HasSentinel told.sentinel run' stage i := by
  obtain ⟨w, hplace, hsentinel⟩ := hhas
  rcases h.ownWorker stage with ⟨j, u, u', desk, -, hu, hworker, hset, -⟩ | ⟨-, hsame⟩
  · by_cases hij : j = i
    · subst hij
      obtain rfl := Option.some.inj (hu.symm.trans hplace)
      have hlt := (List.getElem?_eq_some_iff.mp hu).1
      refine ⟨u', by rw [hset, List.getElem?_set_self hlt], ?_⟩
      have hcount := hworker.hasSentinel
      rw [hsentinel] at hcount
      cases hafter : u'.activity.hasSentinel told.sentinel with
      | true => rfl
      | false =>
        -- one sentinel and what was taken would have to add up to none
        rw [hafter, Bool.toNat_false, Bool.toNat_true] at hcount
        omega
    · exact ⟨w, by rw [hset, List.getElem?_set_ne hij]; exact hplace, hsentinel⟩
  · exact ⟨w, by rw [hsame]; exact hplace, hsentinel⟩

/-- Who takes a sentinel has it. -/
theorem Moves.hasSentinel_of_takes {stage : Stage} {i : Nat}
    (h : Moves told run (.worker stage i) run')
    (hmem : told.sentinel.text ∈ run.takes (.worker stage i) stage) :
    HasSentinel told.sentinel run' stage i := by
  rcases h.ownWorker stage with ⟨j, w, w', desk, heq, hplace, hworker, hset, -⟩ | ⟨hother, -⟩
  · injection heq with _ hij
    subst hij
    have hlt := (List.getElem?_eq_some_iff.mp hplace).1
    refine ⟨w', by rw [hset, List.getElem?_set_self hlt], ?_⟩
    unfold takes at hmem
    rw [callOn_worker_self hplace, ← source_desk] at hmem
    have hcount := hworker.hasSentinel
    have hpos := List.count_pos_iff.mpr hmem
    cases hafter : w'.activity.hasSentinel told.sentinel with
    | true => rfl
    | false =>
      -- what was taken holds a sentinel, so the worker cannot be left with none
      rw [hafter, Bool.toNat_false] at hcount
      omega
  · exact absurd rfl (hother i)

/-! ## Runs that have gone well

If no failure is kept, no worker has ended with one, and a worker that ends without a failure ends
because it was given a sentinel. So when all workers are joined there are as many sentinels as
workers, all of them have been taken, and since they come last nothing is left behind them. -/

/-- In a run that has joined all workers and keeps no failure all of them have their sentinels. -/
theorem Rooted.hasSentinel (h : Rooted path run) (horderly : Orderly sentinel history run)
    (hdone : run.driver.activity.standing .resolver = .done)
    (hkept : run.driver.account.kept = none) (stage : Stage) :
    ∀ w ∈ run.workers stage, w.activity.hasSentinel sentinel = true := by
  intro w hmem
  obtain ⟨j, hplace⟩ := List.mem_iff_getElem?.mp hmem
  have hstage : run.driver.activity.standing stage = .done := by
    cases stage with
    | requester => exact DriverActivity.standing_requester (by rw [hdone]; nofun)
    | resolver => exact hdone
  have hjoined : (run.driver.activity.standing stage).HasJoined j := by
    rw [hstage]
    trivial
  -- a worker that the driver has joined is over, and nothing is held against it
  have hover := horderly.joined stage j w hplace hjoined
  have hending := h.ending?_eq_none hkept hplace hjoined
  cases hactivity : w.activity with
  | ended report =>
    rw [hactivity] at hending
    -- a report without a failure is that of a worker with a sentinel
    have hfailure : report.failure? = none := by simpa [Activity.ending?] using hending
    unfold WorkerReport.failure? at hfailure
    cases hexit : report.exit with
    | ok => simp [Activity.hasSentinel, hexit, Except.isOk, Except.toBool]
    | error => simp [hexit] at hfailure
  | panicked => simp [hactivity, Activity.ending?] at hending
  | _ => simp [Worker.isOver, hactivity] at hover

/-- If all workers of a stage have their sentinels, there are as many as workers, and nothing else
is left in the queue. -/
theorem Allotted.taken_eq (h : Allotted sentinel history run)
    (horderly : Orderly sentinel history run) {stage : Stage}
    (hall : ∀ w ∈ run.workers stage, w.activity.hasSentinel sentinel = true) :
    run.sentinelsPut stage = (run.workers stage).length ∧
      history.taken stage = history.stored stage := by
  have hheld : (run.workers stage).countP (fun w => w.activity.hasSentinel sentinel) =
      (run.workers stage).length := List.countP_eq_length.mpr hall
  have hle := horderly.holding_le stage
  have hput := h.put_le stage
  refine ⟨by omega, ?_⟩
  have htaken := horderly.holding stage
  have hstored := horderly.count_stored stage
  -- what was taken is the front of what was put; the rest has to be empty
  obtain ⟨rest, hrest⟩ := Queue.Ledger.outs_prefix (horderly.sound.ledger stage)
  suffices hnil : rest = [] by rw [← hrest, hnil, List.append_nil]
  -- without workers nothing was put either
  by_cases hempty : run.workers stage = []
  · rw [h.unattended stage hempty] at hrest
    exact (List.append_eq_nil_iff.mp hrest).2
  · -- all sentinels have come out of the queue, and behind the first there is nothing else
    have hnone : sentinel.text ∉ rest := by
      rw [← hrest, List.count_append] at hstored
      exact List.count_eq_zero.mp (by omega)
    have hpos := List.length_pos_iff.mpr hempty
    have hsome : sentinel.text ∈ history.taken stage := List.count_pos_iff.mp (by omega)
    obtain ⟨items, hitems, heq⟩ := horderly.storing stage
    refine List.eq_nil_iff_forall_not_mem.mpr fun item hitem => hnone ?_
    exact eq_of_mem_behind (hrest.trans heq) hitems hsome hitem ▸ hitem

/-- A queue out of which everything has come is empty, also when it has given up its slots. -/
theorem Sound.items_eq_nil (h : Sound history run) {stage : Stage}
    (heq : history.taken stage = history.stored stage) : (run.queue stage).items = [] := by
  cases hdestroyed : (run.queue stage).ring.destroyed with
  | true =>
    -- slots that are given up count for nothing
    refine List.eq_nil_of_length_eq_zero ?_
    rw [Queue.items, Ring.length_items]
    exact (h.balanced stage).count_destroyed hdestroyed
  | false =>
    have hitems := (h.ledger stage).items_eq hdestroyed
    rw [heq] at hitems
    exact List.append_cancel_left ((List.append_nil _).trans hitems).symm

/-! ## Every run

The parts are put together for every path from the first state of a run, whatever threads were
refused to it. Statements about two moments of a path cut the path at the earlier of them: what the
first step has brought about is then kept by all steps behind it. -/

/-- What the sentinels of a run come to, as far as it has come. -/
structure Sealed (told : Instructions) (requested started : Stage → Nat)
    (path : List (Actor × Run)) (now : Run) : Prop where
  /-- Threads may be missing, but there are never too many. -/
  started_le : ∀ stage, started stage ≤ requested stage
  /-- Items went into each queue, and behind them sentinels, no more than there are workers. -/
  blocks : ∀ stage, ∃ items sent, told.sentinel.text ∉ items ∧ sent ≤ started stage ∧
    (historyOf told path).stored stage = items ++ List.replicate sent told.sentinel.text
  /-- The drain of the stage has put them all. -/
  drained : ∀ stage, ∀ p ∈ path, told.sentinel.text ∈ p.2.stores p.1 stage →
    p.1 = .driver ∧ ∃ call, p.2.driver.activity = .draining stage call
  /-- No worker is ever inside of a `put` with a sentinel. -/
  offered : ∀ p ∈ path, ∀ own i stage call, p.2.callOn (.worker own i) stage = some (.put call) →
    call.item? ≠ some told.sentinel.text
  /-- Behind the first sentinel no worker puts anything. -/
  silent : ∀ before p after, path = before ++ p :: after → ∀ stage,
    told.sentinel.text ∈ p.2.stores p.1 stage → ∀ q ∈ after, ∀ own i, q.1 = .worker own i →
      q.2.stores q.1 stage = []
  /-- A worker takes one sentinel at most, and it is the last that the worker takes. -/
  own : ∀ stage i, i < started stage → ∃ items had, told.sentinel.text ∉ items ∧ had ≤ 1 ∧
    ((historyOf told path).of (.worker stage i)).taken stage =
      items ++ List.replicate had told.sentinel.text
  /-- It does not even try to take more. -/
  resting : ∀ before p after, path = before ++ p :: after → ∀ stage i, p.1 = .worker stage i →
    told.sentinel.text ∈ p.2.takes p.1 stage →
      (∀ q ∈ after, TakesNoMore told.sentinel q.2 stage i) ∧
        TakesNoMore told.sentinel now stage i
  /-- If the run has gone well, no thread is missing, every worker was given its sentinel and has
  taken it, and the driver has found both queues empty. -/
  completed : ∀ summary, now.result? = some (.ok summary) → ∀ stage,
    started stage = requested stage ∧
    (∃ items, told.sentinel.text ∉ items ∧ (historyOf told path).stored stage =
      items ++ List.replicate (started stage) told.sentinel.text) ∧
    (∀ i, i < started stage → ∃ items, told.sentinel.text ∉ items ∧
      ((historyOf told path).of (.worker stage i)).taken stage =
        items ++ [told.sentinel.text]) ∧
    ∀ p ∈ path, ∀ call, p.2.driver.activity = .clearing stage call →
      (p.2.queue stage).items = []

section Path

variable {plan : Plan} {request : RunRequest} {sinks : Sinks} {refusals : Refusals}
  {outsider : Option SinkCall} {environment : Environment} {now : Run}

/-- At the beginning nobody has put or taken anything. -/
theorem allotted_initial :
    Allotted sentinel [] (initial plan request sinks refusals outsider) where
  put_le stage := by
    rw [sentinelsPut_initial]
    exact Nat.zero_le _
  unattended _ _ := rfl
  own stage i w hplace := by
    refine ⟨[], List.not_mem_nil, ?_⟩
    rw [activity_of_mem_initial (List.mem_of_getElem? hplace)]
    rfl

/-- Induction on the path, with the invariant of the run beside it. -/
theorem allotted_of_path (husable : plan.Usable) (hfiles : plan.sentinel.text ∉ request.files)
    (hpath : Path (step (plan.instructions environment))
      (initial plan request sinks refusals outsider) path now) :
    Allotted plan.sentinel (historyOf (plan.instructions environment) path) now := by
  induction hpath with
  | refl => exact allotted_initial
  | tail actor hbefore hstep ih =>
    obtain ⟨next, hmove, rfl⟩ := moves_of_step hstep
    rw [historyOf_append, historyOf_singleton]
    exact (Allotted.move ih (orderly_of_path husable hfiles hbefore) hmove).tick _

/-- No worker comes or goes while a run lasts. -/
theorem length_workers_of_reachable {start : Run} (hreach : Reachable told start now)
    (stage : Stage) : (now.workers stage).length = (start.workers stage).length := by
  refine hreach.invariant
    (P := fun run => (run.workers stage).length = (start.workers stage).length) rfl
    fun actor mid next h hstep => ?_
  obtain ⟨next, hmove, rfl⟩ := moves_of_step hstep
  exact (hmove.length_workers stage).trans h

/-- With all its threads a run has as many workers at any moment as were requested. -/
theorem length_workers_of_path
    (hpath : Path (step told) (initial plan request sinks {} outsider) path now) (stage : Stage) :
    (now.workers stage).length = request.threads stage :=
  (length_workers_of_reachable hpath.reaches stage).trans (length_workers_initial stage)

/-- A driver that keeps no failure has kept none before. -/
theorem kept_eq_none_of_reachable {start : Run} (hreach : Reachable told start now)
    (hkept : now.driver.account.kept = none) : start.driver.account.kept = none := by
  cases hstart : start.driver.account.kept with
  | none => rfl
  | some failure =>
    -- a failure that is kept may give way to another one, but never to none
    obtain ⟨later, hlater⟩ : ∃ later, now.driver.account.kept = some later := by
      refine hreach.invariant (P := fun run => ∃ later, run.driver.account.kept = some later)
        ⟨failure, hstart⟩ fun actor mid next h hstep => ?_
      obtain ⟨earlier, hearlier⟩ := h
      obtain ⟨next, hmove, rfl⟩ := moves_of_step hstep
      obtain ⟨later, hlater, -⟩ := hmove.kept_mono hearlier
      exact ⟨later, hlater⟩
    rw [hkept] at hlater
    contradiction

/-- The same for every moment of a path that ends without a failure. -/
theorem kept_eq_none_of_mem {start : Run} (hpath : Path (step told) start path now)
    (hkept : now.driver.account.kept = none) {p : Actor × Run} (hmem : p ∈ path) :
    p.2.driver.account.kept = none := by
  obtain ⟨before, after, rfl⟩ := List.append_of_mem hmem
  obtain ⟨-, next, hstep, hlater⟩ := hpath.split
  exact kept_eq_none_of_reachable (hlater.cons hstep).reaches hkept

/-- A run that has gone well has begun with all its threads: a missing one is a failure, and that is
kept to the end. -/
theorem initial_of_result
    (hpath : Path (step (plan.instructions environment))
      (initial plan request sinks refusals outsider) path now)
    {summary : RunSummary} (hresult : now.result? = some (.ok summary)) :
    initial plan request sinks refusals outsider = initial plan request sinks {} outsider := by
  have hkept := (tidy_of_reachable hpath.reaches).kept_eq_none (activity_of_result? hresult)
  exact initial_of_kept (kept_eq_none_of_reachable hpath.reaches hkept)

/-- Behind the first sentinel there is nothing else: what has been put is a block of items and then
a block of sentinels, so whatever is put behind a sentinel is one itself. -/
theorem stores_behind {before after : List (Actor × Run)} {p : Actor × Run} {items : List String}
    {sent : Nat} {stage : Stage}
    (hstored : (historyOf told (before ++ p :: after)).stored stage =
      items ++ List.replicate sent sentinel.text)
    (hitems : sentinel.text ∉ items) (hmem : sentinel.text ∈ p.2.stores p.1 stage)
    {q : Actor × Run} (hq : q ∈ after) {item : String} (hitem : item ∈ q.2.stores q.1 stage) :
    item = sentinel.text := by
  rw [stored_historyOf, List.append_cons, List.flatMap_append] at hstored
  refine eq_of_mem_behind hstored hitems ?_ (List.mem_flatMap.mpr ⟨q, hq, hitem⟩)
  exact List.mem_flatMap.mpr ⟨p, by simp, hmem⟩

/-- Behind the first sentinel the workers are silent. -/
theorem stores_eq_nil_behind (husable : plan.Usable)
    (hfiles : plan.sentinel.text ∉ request.files) {before after : List (Actor × Run)}
    {p q : Actor × Run}
    (hpath : Path (step (plan.instructions environment))
      (initial plan request sinks refusals outsider) (before ++ p :: after) now)
    {stage own : Stage} {i : Nat} (hmem : plan.sentinel.text ∈ p.2.stores p.1 stage)
    (hq : q ∈ after) (hactor : q.1 = .worker own i) : q.2.stores q.1 stage = [] := by
  obtain ⟨items, hitems, heq⟩ := (orderly_of_path husable hfiles hpath).storing stage
  refine List.eq_nil_iff_forall_not_mem.mpr fun item hitem => ?_
  have hsentinel := stores_behind heq hitems hmem hq hitem
  -- but no worker puts a sentinel
  obtain ⟨history, next, hbefore, -⟩ :=
    orderly_of_mem husable hfiles hpath (List.mem_append_right before (List.mem_cons_of_mem p hq))
  obtain ⟨actor, run⟩ := q
  subst hactor
  cases hbefore.puts hitem with
  | handOn _ _ _ hne => exact hne hsentinel

/-- A worker that takes a sentinel has it from then on. -/
theorem takesNoMore_behind {start : Run} {before after : List (Actor × Run)} {p : Actor × Run}
    (hpath : Path (step told) start (before ++ p :: after) now) {stage : Stage} {i : Nat}
    (hactor : p.1 = .worker stage i) (hmem : told.sentinel.text ∈ p.2.takes p.1 stage) :
    (∀ q ∈ after, TakesNoMore told.sentinel q.2 stage i) ∧
      TakesNoMore told.sentinel now stage i := by
  obtain ⟨actor, run⟩ := p
  subst hactor
  -- the worker has its sentinel after this step, and no step takes it away
  have hlater := hpath.holds_after
    (P := fun run => HasSentinel told.sentinel run stage i)
    (fun actor mid next hhas hstep => by
      obtain ⟨next, hmove, rfl⟩ := moves_of_step hstep
      exact hmove.hasSentinel_mono hhas)
    (fun next hstep => by
      obtain ⟨next, hmove, rfl⟩ := moves_of_step hstep
      exact hmove.hasSentinel_of_takes hmem)
  exact ⟨fun q hq => (hlater.1 q hq).takesNoMore, hlater.2.takesNoMore⟩

/-- If a run answers with its summary all workers have their sentinels. -/
theorem hasSentinel_of_result (husable : plan.Usable)
    (hfiles : plan.sentinel.text ∉ request.files)
    (hpath : Path (step (plan.instructions environment))
      (initial plan request sinks {} outsider) path now)
    {summary : RunSummary} (hresult : now.result? = some (.ok summary)) (stage : Stage) :
    ∀ w ∈ now.workers stage, w.activity.hasSentinel plan.sentinel = true := by
  have hreturned := activity_of_result? hresult
  exact (rooted_of_path husable hfiles hpath).hasSentinel (orderly_of_path husable hfiles hpath)
    (by rw [hreturned]; rfl) ((tidy_of_reachable hpath.reaches).kept_eq_none hreturned) stage

/-- And that is the last that each of them has taken. -/
theorem taken_of_result (husable : plan.Usable) (hfiles : plan.sentinel.text ∉ request.files)
    (hpath : Path (step (plan.instructions environment))
      (initial plan request sinks {} outsider) path now)
    {summary : RunSummary} (hresult : now.result? = some (.ok summary)) {stage : Stage} {i : Nat}
    {w : Worker} (hplace : (now.workers stage)[i]? = some w) :
    ∃ items, plan.sentinel.text ∉ items ∧
      ((historyOf (plan.instructions environment) path).of (.worker stage i)).taken stage =
        items ++ [plan.sentinel.text] := by
  obtain ⟨items, hitems, heq⟩ := (allotted_of_path husable hfiles hpath).own stage i w hplace
  have hhas := hasSentinel_of_result husable hfiles hpath hresult stage w
    (List.mem_of_getElem? hplace)
  rw [hhas] at heq
  exact ⟨items, hitems, heq⟩

/-- When the driver of a run that will go well destroys a queue there is nothing in it. The failure
that would be kept for a worker without a sentinel is not there at the end, so it was not there
before. -/
theorem items_of_clearing (husable : plan.Usable) (hfiles : plan.sentinel.text ∉ request.files)
    (hpath : Path (step (plan.instructions environment))
      (initial plan request sinks {} outsider) path now)
    (hkept : now.driver.account.kept = none) {p : Actor × Run} (hmem : p ∈ path) {stage : Stage}
    {call : DestroyCall} (hclearing : p.2.driver.activity = .clearing stage call) :
    (p.2.queue stage).items = [] := by
  obtain ⟨before, hbefore, -⟩ := hpath.of_mem hmem
  have horderly := orderly_of_path husable hfiles hbefore
  -- the driver has joined all workers, and it keeps no failure yet
  have hall := (rooted_of_path husable hfiles hbefore).hasSentinel horderly
    (by rw [hclearing]; rfl) (kept_eq_none_of_mem hpath hkept hmem) stage
  have htaken := ((allotted_of_path husable hfiles hbefore).taken_eq horderly hall).2
  exact horderly.sound.items_eq_nil htaken

/-- What a run that has gone well has come to. -/
theorem completed_of_result (husable : plan.Usable) (hfiles : plan.sentinel.text ∉ request.files)
    (hpath : Path (step (plan.instructions environment))
      (initial plan request sinks {} outsider) path now)
    {summary : RunSummary} (hresult : now.result? = some (.ok summary)) (stage : Stage) :
    (∃ items, plan.sentinel.text ∉ items ∧
      (historyOf (plan.instructions environment) path).stored stage =
        items ++ List.replicate (request.threads stage) plan.sentinel.text) ∧
    (∀ i, i < request.threads stage → ∃ items, plan.sentinel.text ∉ items ∧
      ((historyOf (plan.instructions environment) path).of (.worker stage i)).taken stage =
        items ++ [plan.sentinel.text]) ∧
    ∀ p ∈ path, ∀ call, p.2.driver.activity = .clearing stage call →
      (p.2.queue stage).items = [] := by
  have horderly := orderly_of_path husable hfiles hpath
  have hallotted := allotted_of_path husable hfiles hpath
  have hthreads := length_workers_of_path hpath
  have hkept := (tidy_of_reachable hpath.reaches).kept_eq_none (activity_of_result? hresult)
  have hall := hasSentinel_of_result husable hfiles hpath hresult stage
  refine ⟨?_, fun i hlt => ?_, fun p hp call hclearing => ?_⟩
  · -- as many as there are workers
    obtain ⟨items, hitems, heq⟩ := horderly.storing stage
    rw [(hallotted.taken_eq horderly hall).1, hthreads] at heq
    exact ⟨items, hitems, heq⟩
  · exact taken_of_result husable hfiles hpath hresult
      (List.getElem?_eq_getElem (hthreads stage ▸ hlt))
  · exact items_of_clearing husable hfiles hpath hkept hp hclearing

/-- **The sentinels of every run come last**, whichever threads were refused to it, whatever fails
in it and whoever moves when. -/
theorem sealed_of_path {settings : Settings} {begun : Run}
    (hplan : Plan.create settings = .ok plan)
    (hlaunch : Run.launch plan request sinks refusals = .ok begun)
    (hfiles : plan.sentinel.text ∉ request.files)
    (hpath : Path (step (plan.instructions environment)) { begun with outsider := outsider } path
      now) :
    Sealed (plan.instructions environment) request.threads
      (fun stage => (begun.workers stage).length) path now := by
  have husable := Plan.usable_of_create hplan
  obtain ⟨-, rfl⟩ := eq_of_launch hlaunch
  replace hpath : Path (step (plan.instructions environment))
    (initial plan request sinks refusals outsider) path now := hpath
  have horderly := orderly_of_path husable hfiles hpath
  have hallotted := allotted_of_path husable hfiles hpath
  have hthreads : ∀ stage, (now.workers stage).length =
      ((initial plan request sinks refusals none).workers stage).length := fun stage =>
    (length_workers_of_reachable hpath.reaches stage).trans (by cases stage <;> rfl)
  refine
    { started_le := length_workers_initial_le
      blocks := fun stage => ?_
      drained := fun stage p hp hmem => ?_
      offered := fun p hp own i stage call hcall hitem => ?_
      silent := ?_
      own := fun stage i hlt => ?_
      resting := ?_
      completed := fun summary hresult stage => ?_ }
  · obtain ⟨items, hitems, heq⟩ := horderly.storing stage
    exact ⟨items, _, hitems, hthreads stage ▸ hallotted.put_le stage, heq⟩
  · obtain ⟨history, next, hbefore, -⟩ := orderly_of_mem husable hfiles hpath hp
    generalize hitem : (plan.instructions environment).sentinel.text = item at hmem
    obtain ⟨actor, run⟩ := p
    -- of the three ways to put something only the drain puts the sentinel
    cases hbefore.puts hmem with
    | feed _ hne | handOn _ _ _ hne => exact absurd hitem.symm hne
    | drain hactivity => exact ⟨rfl, _, hactivity⟩
  · obtain ⟨history, next, hbefore, -⟩ := orderly_of_mem husable hfiles hpath hp
    exact (hbefore.ne_of_offers hcall hitem).1 rfl
  · rintro before p after rfl stage hmem q hq own i hactor
    exact stores_eq_nil_behind husable hfiles hpath hmem hq hactor
  · obtain ⟨items, hitems, heq⟩ :=
      hallotted.own stage i _ (List.getElem?_eq_getElem (hthreads stage ▸ hlt))
    exact ⟨items, _, hitems, Bool.toNat_le _, heq⟩
  · rintro before p after rfl stage i hactor hmem
    exact takesNoMore_behind hpath hactor hmem
  · -- the run has begun with all its threads
    have hbegun := initial_of_result hpath hresult
    have hstarted : ((initial plan request sinks refusals none).workers stage).length =
        request.threads stage := by
      rw [← hthreads, length_workers_of_path (hbegun ▸ hpath)]
    exact ⟨hstarted, hstarted ▸ completed_of_result husable hfiles (hbegun ▸ hpath) hresult stage⟩

/-- Two requesters and one resolver that come to their ends without a failure; and the same run when
the second requester is refused. Then nothing is fed, the first takes the one sentinel that is put
for it, and the run fails. -/
theorem sealed_of_path_two_requesters :
    let plan : Plan := { settings := { queueCapacity := 1 }, sentinel := .standard }
    let request : RunRequest := { requesters := 2, resolvers := 1, files := ["a"] }
    let told := plan.instructions (.steady (fun _ => .opened [.line " b ", .line ""])
      (fun _ => .found "::") {})
    let refusals : Refusals :=
      { thread := fun stage i => if stage = .requester ∧ i = 1 then some "no room" else none }
    let start := initial plan request (.ofDevices fun _ => .memory) {} none
    let short := initial plan request (.ofDevices fun _ => .memory) refusals none
    (∃ summary path, (execute told 60 start).result? = some (.ok summary) ∧
      Path (step told) start path (execute told 60 start) ∧
      Sealed told request.threads (fun stage => (start.workers stage).length) path
        (execute told 60 start)) ∧
    ∃ failure path, (execute told 60 short).result? = some (.error failure) ∧
      (short.workers .requester).length = 1 ∧
      Path (step told) short path (execute told 60 short) ∧
      Sealed told request.threads (fun stage => (short.workers stage).length) path
        (execute told 60 short) := by
  have hplan : Plan.create { queueCapacity := 1 } =
    .ok { settings := { queueCapacity := 1 }, sentinel := .standard } := rfl
  intro plan request told refusals start short
  have hfiles : Queue.create "files" 1 4096 = .ok (.ofGeometry "files" 1 4096) := rfl
  have hhosts : Queue.create "hosts" 1 1025 = .ok (.ofGeometry "hosts" 1 1025) := rfl
  have hstart : Run.launch plan request (.ofDevices fun _ => .memory) {} = .ok start :=
    launch_eq_ok _ {} rfl hfiles hhosts
  have hshort : Run.launch plan request (.ofDevices fun _ => .memory) refusals = .ok short :=
    launch_eq_ok _ refusals rfl hfiles hhosts
  obtain ⟨path, hpath⟩ :=
    (reachable_execute told 60 start).traces fun actor state => [(actor, state)]
  obtain ⟨other, hother⟩ :=
    (reachable_execute told 60 short).traces fun actor state => [(actor, state)]
  have hover : (execute told 60 start).result?.any Except.isOk = true := by decide +kernel
  have hfails : (execute told 60 short).result?.any (fun result => !result.isOk) = true := by
    decide +kernel
  obtain ⟨summary, hsummary⟩ := exists_ok_of_any hover
  obtain ⟨failure, hfailure⟩ := exists_error_of_any hfails
  exact ⟨⟨summary, path, hsummary, hpath, sealed_of_path hplan hstart (by decide) hpath⟩,
    failure, other, hfailure, by decide +kernel, hother,
    sealed_of_path hplan hshort (by decide) hother⟩

end Path

end Run

end HostLookup
