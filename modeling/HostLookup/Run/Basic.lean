import HostLookup.Config.Settings
import HostLookup.Run.Account
import HostLookup.Run.Pool
import HostLookup.Sink.Session
import HostLookup.Stage.Drain

/-!
# Runs

A run has two stages of workers, a queue in front of each, and a driver. The driver feeds the names
of the data files to the requesters, drains their stage and waits for them to end; then it does the
same with the resolvers, whose queue the requesters have filled; then it destroys the queues and
answers with the summary or with the failure that it kept. It waits for every worker, whatever has
happened before.

`Run` is the state of all this at a moment. Beside the driver and the workers there may be an
outsider who releases the sinks while the run goes on. How a run comes to its first state is told in
`HostLookup.Run.Launch`.
-/

namespace HostLookup

/-- Settings that were found usable, and the sentinel in them. -/
structure Plan where
  settings : Settings
  sentinel : Sentinel
  deriving DecidableEq, Repr

/-- What to run. -/
structure RunRequest where
  requesters : Nat
  resolvers : Nat
  /-- The names of the data files. -/
  files : List String
  deriving DecidableEq, Repr

namespace Plan

/-- Takes settings that pass all checks. -/
def create (settings : Settings) : Except Failure Plan := do
  settings.check
  let sentinel ← Sentinel.create settings.sentinel
  return { settings := settings, sentinel := sentinel }

/-- No more threads of a stage than allowed. -/
def checkThreads (parameter : String) (count max : Nat) : Except Failure Unit :=
  if max < count then
    .error (.config parameter (toString count ++ " threads requested, at most " ++ toString max ++
      " allowed"))
  else .ok ()

/-- Does a request keep to the limits? -/
def check (plan : Plan) (request : RunRequest) : Except Failure Unit := do
  checkThreads "requesters" request.requesters plan.settings.maxRequesterThreads
  checkThreads "resolvers" request.resolvers plan.settings.maxResolverThreads
  if plan.settings.maxInputFiles < request.files.length then
    .error (.config "data files" (toString request.files.length ++ " files given, at most " ++
      toString plan.settings.maxInputFiles ++ " allowed"))
  else .ok ()

/-- What the workers of a run are told. -/
def instructions (plan : Plan) (environment : Environment) : Instructions where
  sentinel := plan.sentinel
  notResolved := plan.settings.notResolved
  environment := environment

end Plan

/-- What the driver of a run is about to do. -/
inductive DriverActivity where
  /-- Puts the name of a data file into the queue. -/
  | feeding (file : String) (call : PutCall) (later : List String)
  /-- Reports a name that fits no slot. -/
  | rejecting (failure : Failure) (later : List String)
  | draining (stage : Stage) (call : DrainCall)
  /-- Waits for the workers of a stage from the `next`-th on. -/
  | joining (stage : Stage) (next : Nat)
  /-- About to mark the stage as stopped. -/
  | finishing (stage : Stage)
  /-- Destroys the queue in front of a stage. -/
  | clearing (stage : Stage) (call : DestroyCall)
  | returned (result : Except Failure RunSummary)
  deriving Repr

/-- The thread that drives a run. -/
structure Driver where
  activity : DriverActivity
  account : Account := {}
  /-- The first failure to destroy a queue. -/
  teardown : Except QueueError Unit := .ok ()
  deriving Repr

/-- The state of a run. -/
structure Run where
  /-- The queue of names of data files. -/
  files : Queue
  /-- The queue of host names. -/
  hosts : Queue
  requesterStage : Shutdown
  resolverStage : Shutdown
  sinks : Sinks
  requesters : List Worker
  resolvers : List Worker
  driver : Driver
  /-- A release of the sinks by somebody else, as far as it has come. -/
  outsider : Option SinkCall := none
  /-- The steps taken so far. -/
  moment : Nat := 0

/-- The threads of a run. -/
inductive Actor where
  | driver
  | worker (stage : Stage) (i : Nat)
  | outsider
  deriving DecidableEq, Repr

namespace Run

/-- The queue in front of a stage. -/
def queue (run : Run) : Stage → Queue
  | .requester => run.files
  | .resolver => run.hosts

def setQueue (run : Run) (stage : Stage) (queue : Queue) : Run :=
  match stage with
  | .requester => { run with files := queue }
  | .resolver => { run with hosts := queue }

def shutdown (run : Run) : Stage → Shutdown
  | .requester => run.requesterStage
  | .resolver => run.resolverStage

def setShutdown (run : Run) (stage : Stage) (shutdown : Shutdown) : Run :=
  match stage with
  | .requester => { run with requesterStage := shutdown }
  | .resolver => { run with resolverStage := shutdown }

/-- The workers of a stage, in the order in which they were started. -/
def workers (run : Run) : Stage → List Worker
  | .requester => run.requesters
  | .resolver => run.resolvers

def setWorkers (run : Run) (stage : Stage) (workers : List Worker) : Run :=
  match stage with
  | .requester => { run with requesters := workers }
  | .resolver => { run with resolvers := workers }

/-- Feeds the names that are left, and drains the first stage when none is. -/
def feed : List String → DriverActivity
  | [] => .draining .requester .claiming
  | file :: later => .feeding file (.entering file) later

/-- The answer of a run that is over. -/
def result? (run : Run) : Option (Except Failure RunSummary) :=
  match run.driver.activity with
  | .returned result => some result
  | _ => none

end Run

end HostLookup
