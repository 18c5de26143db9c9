/-!
# The four destinations of a run

Requesters and resolvers each have a log; the summary lines of the workers go to the standard
output and the reports of failed items to the standard error.
-/

namespace HostLookup

/-- A destination that workers share. -/
inductive Sink where
  /-- One host name a line, written by requesters. -/
  | requesterLog
  /-- A host name and its address a line, written by resolvers. -/
  | resolverLog
  /-- One summary line for each worker. -/
  | stdout
  /-- One line for each failed item. -/
  | stderr
  deriving DecidableEq, Repr

namespace Sink

/-- All sinks, in the order in which they are flushed. -/
def all : List Sink :=
  [.requesterLog, .resolverLog, .stdout, .stderr]

/-- The name of a sink in messages. -/
def name : Sink → String
  | .requesterLog => "requester-log"
  | .resolverLog => "resolver-log"
  | .stdout => "stdout"
  | .stderr => "stderr"

/-- No sink is left out. -/
theorem mem_all (sink : Sink) : sink ∈ all := by
  cases sink <;> decide

end Sink

end HostLookup
