import HostLookup.Failure.Io
import HostLookup.Sink.Name

/-!
# What can go wrong in a run

The causes are sorted by what is done about them. A bad configuration and a missing resource stop
the run; a bad item and a file that cannot be read are reported and the worker moves on; the use of
a queue or of the sinks after they are gone ends the worker. `Failure.isRecoverable` draws that
line, and `Failure.message` is the only place that words a failure.
-/

namespace HostLookup

/-- A refused call of a bounded queue. -/
inductive QueueError where
  /-- The item does not fit a slot, of which one byte is reserved. -/
  | itemTooLarge (length max : Nat)
  /-- The queue was closed or destroyed before the call took effect. -/
  | destroyed
  /-- The queue had been destroyed by an earlier call. -/
  | alreadyDestroyed
  deriving DecidableEq, Repr

/-- A refused or failed use of the output sinks. -/
inductive SinkError where
  /-- The sink has been released. -/
  | destroyed (sink : Sink)
  /-- All sinks had been released by an earlier call. -/
  | alreadyDestroyed
  /-- The destination refused bytes. -/
  | write (sink : Sink) (source : IoFailure)
  deriving DecidableEq, Repr

/-- A host name without an address. -/
inductive ResolveError where
  /-- The lookup itself failed. -/
  | lookup (host : String) (source : IoFailure)
  /-- The lookup found nothing. -/
  | noAddress (host : String)
  deriving DecidableEq, Repr

/-- Any failure of a run. -/
inductive Failure where
  /-- Bad arguments or settings, found before anything is allocated. -/
  | config (parameter reason : String)
  /-- An allocation failed or a thread ended by a panic. -/
  | resource (message : String)
  /-- One work item could not be processed. -/
  | item (item reason : String)
  /-- A file could not be opened, read or created. -/
  | io (path : String) (source : IoFailure)
  | queue (error : QueueError)
  | sink (error : SinkError)
  deriving DecidableEq, Repr

def QueueError.message : QueueError → String
  | .itemTooLarge length max =>
    "item of " ++ toString length ++ " bytes exceeds slot capacity (" ++ toString max ++
      " bytes usable)"
  | .destroyed => "queue has been destroyed"
  | .alreadyDestroyed => "queue was already destroyed"

def SinkError.message : SinkError → String
  | .destroyed sink => "output sink '" ++ sink.name ++ "' has been destroyed"
  | .alreadyDestroyed => "output sinks were already destroyed"
  | .write sink source => "write to output sink '" ++ sink.name ++ "' failed: " ++ source.message

/-- The texts of the failures behind a sink error. -/
def SinkError.causes : SinkError → List String
  | .write _ source => [source.message]
  | _ => []

def ResolveError.message : ResolveError → String
  | .lookup host source => "lookup of '" ++ host ++ "' failed: " ++ source.message
  | .noAddress host => "no address found for '" ++ host ++ "'"

/-- The texts of the failures behind a failed lookup. -/
def ResolveError.causes : ResolveError → List String
  | .lookup _ source => [source.message]
  | .noAddress _ => []

namespace Failure

def message : Failure → String
  | .config parameter reason => "Invalid configuration '" ++ parameter ++ "': " ++ reason
  | .resource text => "Resource error: " ++ text
  | .item text reason => "Invalid item '" ++ text ++ "': " ++ reason
  | .io path source => "I/O error on '" ++ path ++ "': " ++ source.message
  | .queue error => error.message
  | .sink error => error.message

/-- The texts of the failures behind a failure, outermost first. -/
def causes : Failure → List String
  | .io _ source => [source.message]
  | .sink error => error.causes
  | _ => []

/-- The failure of a stage one of whose workers has panicked. -/
def workerPanicked (stage worker : String) : Failure :=
  .resource (stage ++ " worker " ++ worker ++ " panicked")

/-- May the worker that met the failure report it and go on? -/
def isRecoverable : Failure → Bool
  | .item .. | .io .. | .queue (.itemTooLarge ..) | .sink (.write ..) => true
  | _ => false

/-- Was the failure met at a queue that somebody else had closed? -/
def isClosedQueue : Failure → Bool
  | .queue .destroyed => true
  | _ => false

/-- The line that reports a recovered failure; an unreadable file is named first. -/
def report : Failure → String
  | .io path source => "Invalid file: " ++ path ++ ": " ++ source.message
  | failure => failure.message

end Failure

end HostLookup
