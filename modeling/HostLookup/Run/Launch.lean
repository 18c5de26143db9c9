import HostLookup.Run.Basic

/-!
# Starting the threads of a run

A run begins with its queues, for which there has to be memory, and with its threads, each of which
the system may refuse to start. The resolvers are spawned first, then the requesters, and a pool is
given up at its first refusal. The threads that run by then are ended in the usual way, so the
driver goes on; but after a refusal it spawns no further pool and feeds no data file, and the run
fails in the end.

All workers begin at their places. They find their queues empty, so none of them can move before the
driver does.

`Run.launch` begins a run with whatever the system refuses; `Run.start` is the case in which all
threads are started.
-/

namespace HostLookup

/-- What the system refuses to a run that begins. -/
structure Refusals where
  /-- Why the thread with a number is not started in a stage, if it is not. -/
  thread : Stage → Nat → Option String := fun _ _ => none
  /-- Who hands out the memory for the queues. -/
  memory : Allocator := .standard

namespace Shutdown

/-- Gives up the workers of a stage that were not started. A stage that does not let them go is left
as it is. -/
def retainStarted (s : Shutdown) (started : Nat) : Except Failure Unit × Shutdown :=
  match s.retain started with
  | .ok s => (.ok (), s)
  | .error failure => (.error failure, s)

end Shutdown

namespace Run

/-- Spawns so many workers of a stage, each at its place. -/
def poolOf (stage : Stage) (count : Nat) (refused : Nat → Option String) : Pool Worker :=
  Pool.spawn stage.name count (fun name _ => Worker.start stage name) refused

/-- Spawns `count` workers of a stage of which so many are requested, and makes the stage give up
those that were not started. What goes wrong is noted. -/
def spawnWorkers (stage : Stage) (refused : Nat → Option String) (requested count : Nat)
    (account : Account) : Pool Worker × Shutdown × Account :=
  let pool := poolOf stage count refused
  let (retained, shutdown) := (Shutdown.start stage.name requested).retainStarted pool.length
  (pool, shutdown, (account.note id pool.spawned).note id retained)

/-- The pools of a run as far as they were spawned, and what went wrong with it. -/
structure Pools where
  requesters : Pool Worker
  resolvers : Pool Worker
  requesterStage : Shutdown
  resolverStage : Shutdown
  account : Account

/-- The requesters to be spawned: all that are requested, but none if something has gone wrong. -/
def requestersAfter (request : RunRequest) (account : Account) : Nat :=
  if account.kept.isSome then 0 else request.requesters

-- what is spawned hangs on every refusal, so proofs go by its lemmas and are kept from unfolding it
/-- Spawns the resolvers, and then the requesters. -/
@[irreducible]
def spawnPools (request : RunRequest) (refused : Stage → Nat → Option String) : Pools :=
  let (resolvers, resolverStage, account) :=
    spawnWorkers .resolver (refused .resolver) request.resolvers request.resolvers {}
  let (requesters, requesterStage, account) :=
    spawnWorkers .requester (refused .requester) request.requesters
      (requestersAfter request account) account
  { requesters := requesters
    resolvers := resolvers
    requesterStage := requesterStage
    resolverStage := resolverStage
    account := account }

namespace Pools

/-- The pool of a stage. -/
def pool (pools : Pools) : Stage → Pool Worker
  | .requester => pools.requesters
  | .resolver => pools.resolvers

/-- Is there anybody to feed data files to? -/
def feeds (pools : Pools) : Bool :=
  pools.account.kept.isNone && pools.requesters.length ≠ 0

/-- The driver once the threads are there. If nobody is to be fed, all data files are left out. -/
def driver (pools : Pools) (files : List String) : Driver :=
  if pools.feeds then { activity := feed files, account := pools.account }
  else { activity := feed [], account := pools.account.countSkipped files.length }

/-- The run that begins with these pools and queues. -/
def run (pools : Pools) (request : RunRequest) (files hosts : Queue) (sinks : Sinks) : Run where
  files := files
  hosts := hosts
  requesterStage := pools.requesterStage
  resolverStage := pools.resolverStage
  sinks := sinks
  requesters := pools.requesters.members
  resolvers := pools.resolvers.members
  driver := pools.driver request.files

end Pools

/-- A run that is about to begin, unless the request or one of the queues is impossible. -/
def launch (plan : Plan) (request : RunRequest) (sinks : Sinks) (refusals : Refusals) :
    Except Failure Run := do
  plan.check request
  let files ← Queue.create "files" plan.settings.queueCapacity plan.settings.maxFileNameLength
    refusals.memory
  let hosts ← Queue.create "hosts" plan.settings.queueCapacity plan.settings.maxNameLength
    refusals.memory
  return (spawnPools request refusals.thread).run request files hosts sinks

/-- A run that is about to begin with all its threads. -/
def start (plan : Plan) (request : RunRequest) (sinks : Sinks)
    (memory : Allocator := .standard) : Except Failure Run :=
  launch plan request sinks { memory := memory }

end Run

end HostLookup
