import HostLookup.Run.Launch

/-!
# The pools that a run begins with

The system may refuse any thread, and then a pool ends in front of it. Whatever it refuses, the
workers that are there have the first names of their stage, and the stage waits for as many as there
are. If a worker is missing the run has kept a failure from its beginning, so a run without a
failure has begun with everybody.

* **`Pool.spawned_eq_ok_iff`**: a pool says of itself whether a thread is missing.
* **`Run.spawnWorkers_eq`**: a stage lets go of the workers that are missing, and never complains.
* **`Run.members_spawnPools`**, **`Run.names_spawnPools`**: the workers and their names, whatever
  was refused.
* **`Run.spawnPools_of_kept`**: without a failure nothing was refused.
-/

namespace HostLookup

/-- The number of workers of a stage that a request asks for. -/
def RunRequest.threads (request : RunRequest) : Stage → Nat
  | .requester => request.requesters
  | .resolver => request.resolvers

namespace Pool

variable {α : Type} {stage : String} {count : Nat} {routine : String → Nat → α}
  {refused : Nat → Option String}

theorem startable_le (refused : Nat → Option String) (count : Nat) :
    startable refused count ≤ count := by
  have hle : startable refused count ≤ (List.range count).length := List.findIdx_le_length
  rwa [List.length_range] at hle

@[simp] theorem startable_none (count : Nat) : startable (fun _ => none) count = count := by
  have hall : startable (fun _ => none) count = (List.range count).length :=
    List.findIdx_eq_length_of_false fun _ _ => rfl
  rwa [List.length_range] at hall

@[simp] theorem length_spawn :
    (spawn stage count routine refused).length = startable refused count := by
  simp [spawn, length]

theorem members_spawn : (spawn stage count routine refused).members =
    (List.range (startable refused count)).map fun i => routine (Worker.nameOf stage i) i := by
  simp [spawn, members, Function.comp_def]

/-- The names of the threads, in the order in which they were started. -/
def names (pool : Pool α) : List String :=
  pool.threads.map Prod.fst

theorem names_spawn : (spawn stage count routine refused).names =
    (List.range (startable refused count)).map (Worker.nameOf stage) := by
  simp [spawn, names, Function.comp_def]

/-- A thread that is missing was refused, and the pool tells why. -/
theorem spawnError_spawn (stage : String) (routine : String → Nat → α)
    (hmissing : startable refused count < count) :
    ∃ reason, (spawn stage count routine refused).spawnError =
      some (notStarted stage count (startable refused count) reason) := by
  have hlt : (List.range count).findIdx (fun i => (refused i).isSome) <
      (List.range count).length := by
    rwa [List.length_range]
  have hsome : (refused (startable refused count)).isSome = true := by
    have hfound := List.findIdx_getElem (w := hlt)
    rwa [List.getElem_range] at hfound
  obtain ⟨reason, hreason⟩ := Option.isSome_iff_exists.mp hsome
  refine ⟨reason, ?_⟩
  show (if startable refused count < count then _ else none) = _
  rw [if_pos hmissing, hreason]
  rfl

/-- What a pool says if it has all its threads, and if not. -/
theorem spawned_spawn (stage : String) (count : Nat) (routine : String → Nat → α)
    (refused : Nat → Option String) :
    (startable refused count = count ∧ (spawn stage count routine refused).spawned = .ok ()) ∨
      ∃ reason, startable refused count < count ∧ (spawn stage count routine refused).spawned =
        .error (notStarted stage count (startable refused count) reason) := by
  rcases Nat.lt_or_eq_of_le (startable_le refused count) with hmissing | hall
  · obtain ⟨reason, hreason⟩ := spawnError_spawn stage routine hmissing
    exact Or.inr ⟨reason, hmissing, by rw [spawned, hreason]⟩
  · refine Or.inl ⟨hall, ?_⟩
    have hnone : (spawn stage count routine refused).spawnError = none :=
      if_neg (Nat.not_lt.mpr (Nat.le_of_eq hall.symm))
    rw [spawned, hnone]

/-- **A pool is spawned exactly when no thread is missing.** -/
theorem spawned_eq_ok_iff :
    (spawn stage count routine refused).spawned = .ok () ↔ startable refused count = count := by
  rcases spawned_spawn stage count routine refused with ⟨hall, hok⟩ | ⟨reason, hmissing, herror⟩
  · exact iff_of_true hok hall
  · exact iff_of_false (by rw [herror]; exact nofun) (Nat.ne_of_lt hmissing)

/-- A pool in which no thread is missing is the same as on a system that refuses none. -/
theorem spawn_of_startable (hall : startable refused count = count) :
    spawn stage count routine refused = spawn stage count routine := by
  simp [spawn, hall]

end Pool

/-- A stage that has just begun lets any of its workers go. -/
theorem Shutdown.retainStarted_start {name : String} {workers started : Nat}
    (hle : started ≤ workers) :
    (start name workers).retainStarted started = (.ok (), start name started) := by
  have hsome : ¬ ((start name workers).state ≠ .running ∨ (start name workers).workers < started) :=
    fun h => h.elim (fun hstate => hstate rfl) (Nat.not_lt.mpr hle)
  rw [retainStarted, retain, if_neg hsome]
  rfl

namespace Account

variable {account : Account} {result : Except Failure Unit}

/-- Whoever notes a failure has one to keep. -/
theorem kept_note_eq_none (hkept : (account.note id result).kept = none) :
    account.kept = none ∧ result = .ok () := by
  cases result with
  | ok => exact ⟨hkept, rfl⟩
  | error failure =>
    -- the failure that was kept before stays, or the new one takes its place
    simp only [note, keepFirst] at hkept
    split at hkept
    · contradiction
    · contradiction
    · split at hkept <;> contradiction

theorem summary_note : (account.note id result).summary = account.summary := by
  cases result <;> rfl

end Account

namespace Run

variable {request : RunRequest} {refused : Stage → Nat → Option String}

/-- **A stage lets go of the workers that are missing**, and keeps as many as there are. -/
theorem spawnWorkers_eq {stage : Stage} {refused : Nat → Option String} {requested count : Nat}
    {account : Account} (hle : count ≤ requested) :
    spawnWorkers stage refused requested count account =
      (poolOf stage count refused,
        Shutdown.start stage.name (poolOf stage count refused).length,
        account.note id (poolOf stage count refused).spawned) := by
  have hstarted : (poolOf stage count refused).length ≤ requested := by
    rw [poolOf, Pool.length_spawn]
    exact Nat.le_trans (Pool.startable_le refused count) hle
  simp only [spawnWorkers, Shutdown.retainStarted_start hstarted]
  rfl

theorem requestersAfter_le (request : RunRequest) (account : Account) :
    requestersAfter request account ≤ request.requesters := by
  unfold requestersAfter
  split
  · exact Nat.zero_le _
  · exact Nat.le_refl _

/-- What is spawned. The resolvers decide how many requesters are tried. -/
theorem spawnPools_eq (request : RunRequest) (refused : Stage → Nat → Option String) :
    let resolvers := poolOf .resolver request.resolvers (refused .resolver)
    let account := ({} : Account).note id resolvers.spawned
    let requesters :=
      poolOf .requester (requestersAfter request account) (refused .requester)
    spawnPools request refused =
      { requesters := requesters
        resolvers := resolvers
        requesterStage := Shutdown.start Stage.requester.name requesters.length
        resolverStage := Shutdown.start Stage.resolver.name resolvers.length
        account := account.note id requesters.spawned } := by
  simp only [spawnPools, spawnWorkers_eq (Nat.le_refl _),
    spawnWorkers_eq (requestersAfter_le request _)]

theorem pool_spawnPools (request : RunRequest) (refused : Stage → Nat → Option String)
    (stage : Stage) :
    ∃ count, count ≤ request.threads stage ∧
      (spawnPools request refused).pool stage = poolOf stage count (refused stage) := by
  rw [spawnPools_eq]
  cases stage with
  | requester => exact ⟨_, requestersAfter_le request _, rfl⟩
  | resolver => exact ⟨_, Nat.le_refl _, rfl⟩

/-- No more workers are started than were requested. -/
theorem length_pool_le (request : RunRequest) (refused : Stage → Nat → Option String)
    (stage : Stage) : ((spawnPools request refused).pool stage).length ≤ request.threads stage := by
  obtain ⟨count, hle, heq⟩ := pool_spawnPools request refused stage
  rw [heq, poolOf, Pool.length_spawn]
  exact Nat.le_trans (Pool.startable_le _ count) hle

/-- **The workers that are there** have the first names of their stage, and all are at their
places. -/
theorem members_spawnPools (request : RunRequest) (refused : Stage → Nat → Option String)
    (stage : Stage) :
    ((spawnPools request refused).pool stage).members =
      (List.range ((spawnPools request refused).pool stage).length).map fun i =>
        Worker.start stage (Worker.nameOf stage.name i) := by
  obtain ⟨count, -, heq⟩ := pool_spawnPools request refused stage
  rw [heq, poolOf, Pool.members_spawn, Pool.length_spawn]

theorem names_spawnPools (request : RunRequest) (refused : Stage → Nat → Option String)
    (stage : Stage) :
    ((spawnPools request refused).pool stage).names =
      (List.range ((spawnPools request refused).pool stage).length).map
        (Worker.nameOf stage.name) := by
  obtain ⟨count, -, heq⟩ := pool_spawnPools request refused stage
  rw [heq, poolOf, Pool.names_spawn, Pool.length_spawn]

/-! ## When nothing was refused

Then all threads are there, and the run begins as its request says. Conversely a run that begins
without a failure has all the threads that it asked for. -/

/-- Workers of a stage none of which is missing. -/
theorem poolOf_of_spawned {stage : Stage} {count : Nat} {refused : Nat → Option String}
    (hspawned : (poolOf stage count refused).spawned = .ok ()) :
    poolOf stage count refused = poolOf stage count fun _ => none :=
  Pool.spawn_of_startable (Pool.spawned_eq_ok_iff.mp hspawned)

/-- The pools of a run to which nothing is refused. -/
theorem spawnPools_none (request : RunRequest) :
    spawnPools request (fun _ _ => none) =
      { requesters := poolOf .requester request.requesters fun _ => none
        resolvers := poolOf .resolver request.resolvers fun _ => none
        requesterStage := Shutdown.start Stage.requester.name request.requesters
        resolverStage := Shutdown.start Stage.resolver.name request.resolvers
        account := {} } := by
  have hspawned : ∀ stage count, (poolOf stage count fun _ => none).spawned = .ok () :=
    fun _ _ => Pool.spawned_eq_ok_iff.mpr (Pool.startable_none _)
  simp only [spawnPools_eq, hspawned]
  simp [poolOf, requestersAfter, Account.note]

theorem length_pool_none (request : RunRequest) (stage : Stage) :
    ((spawnPools request fun _ _ => none).pool stage).length = request.threads stage := by
  rw [spawnPools_none]
  cases stage <;> simp [Pools.pool, poolOf, RunRequest.threads]

/-- Somebody is fed if there is a requester at all. -/
theorem feeds_none (request : RunRequest) :
    (spawnPools request fun _ _ => none).feeds = decide (request.requesters ≠ 0) := by
  rw [spawnPools_none]
  simp [Pools.feeds, poolOf]

/-- **Without a failure nothing was refused.** -/
theorem spawnPools_of_kept (hkept : (spawnPools request refused).account.kept = none) :
    spawnPools request refused = spawnPools request fun _ _ => none := by
  rw [spawnPools_eq] at hkept
  obtain ⟨hresolved, hrequesters⟩ := Account.kept_note_eq_none hkept
  obtain ⟨-, hresolvers⟩ := Account.kept_note_eq_none hresolved
  have hspawned : (poolOf .resolver request.resolvers fun _ => none).spawned = .ok () :=
    Pool.spawned_eq_ok_iff.mpr (Pool.startable_none _)
  rw [spawnPools_eq, spawnPools_eq]
  simp only [poolOf_of_spawned hresolvers, hspawned] at hrequesters ⊢
  simp only [poolOf_of_spawned hrequesters]

/-- Nothing is in the summary of a run that begins. -/
theorem summary_spawnPools (request : RunRequest) (refused : Stage → Nat → Option String) :
    (spawnPools request refused).account.summary = {} := by
  rw [spawnPools_eq, Account.summary_note, Account.summary_note]

end Run

end HostLookup
