import HostLookup.Worker.Step

/-!
# Pools of threads

The threads of a stage are numbered from 0 and named after it. Each works on a copy of its own of
what they all start from. The system may refuse to start a thread. Then the spawning stops there,
the threads before it go on, and the pool keeps what was said about the refusal.

Joining a pool waits for its threads in order; one that has panicked leaves a failure that names it
in the place of a result.
-/

namespace HostLookup

/-- The threads of one stage that were started, each with its name and with what there is to say
about it: the state in which it begins, or, once it has ended, its result unless it panicked. -/
structure Pool (α : Type) where
  stage : String
  threads : List (String × α)
  /-- The failure to start one thread more, if that has ended the spawning. -/
  spawnError : Option Failure := none

namespace Pool

variable {α : Type}

/-! ## Spawning -/

/-- How many of `count` threads are started: those in front of the first that the system refuses. -/
def startable (refused : Nat → Option String) (count : Nat) : Nat :=
  (List.range count).findIdx fun i => (refused i).isSome

/-- The failure to start the `i`-th thread of `count`. -/
def notStarted (stage : String) (count i : Nat) (reason : String) : Failure :=
  .resource ("failed to create " ++ stage ++ " thread " ++ toString i ++ " of " ++
    toString count ++ ": " ++ reason)

/-- Starts so many threads, as far as the system lets it, each on `routine` with its name and
number. -/
def spawn (stage : String) (count : Nat) (routine : String → Nat → α)
    (refused : Nat → Option String := fun _ => none) : Pool α :=
  let started := startable refused count
  { stage := stage
    threads := (List.range started).map fun i =>
      let name := Worker.nameOf stage i
      (name, routine name i)
    spawnError := if started < count then (refused started).map (notStarted stage count started)
      else none }

/-- The number of threads that were started. -/
def length (pool : Pool α) : Nat :=
  pool.threads.length

/-- What there is to say about the threads, in the order in which they were started. -/
def members (pool : Pool α) : List α :=
  pool.threads.map Prod.snd

/-- Were all threads started? -/
def spawned (pool : Pool α) : Except Failure Unit :=
  match pool.spawnError with
  | none => .ok ()
  | some failure => .error failure

@[simp] theorem length_members (pool : Pool α) : pool.members.length = pool.length := by
  simp [members, length]

/-! ## Joining -/

/-- What comes of joining a thread that has ended with a result, or with a panic (`none`). -/
def outcome (stage name : String) : Option α → Except Failure α
  | some value => .ok value
  | none => .error (.workerPanicked stage name)

/-- The results of all threads, in the order in which they were started. -/
def join (pool : Pool (Option α)) : List (Except Failure α) :=
  pool.threads.map fun (name, result) => outcome pool.stage name result

end Pool

namespace Worker

/-- What joining a worker gives, once the worker has ended. -/
def result? (w : Worker) : Option (Except Failure WorkerReport) :=
  match w.activity with
  | .ended report => some (Pool.outcome w.stage.name w.name (some report))
  | .panicked => some (Pool.outcome w.stage.name w.name none)
  | _ => none

/-- A worker has a result exactly when it has ended. -/
theorem isSome_result?_eq_isOver (w : Worker) : w.result?.isSome = w.isOver := by
  unfold result? isOver
  cases w.activity <;> rfl

end Worker

end HostLookup
