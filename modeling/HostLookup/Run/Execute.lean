import HostLookup.Run.Launch
import HostLookup.Run.Step

/-!
# Executing a plan

A run from beginning to end, with the threads taking turns. Every round of turns moves at least one
of them, so the number of rounds is bounded by what all threads together have to do: a few steps for
each data file, each line of one, and each worker.
-/

namespace HostLookup

/-- How many line events a file has. -/
def Opening.size : Opening → Nat
  | .opened events => events.length
  | _ => 0

namespace RunRequest

/-- As many rounds as the threads of a run may need. -/
def rounds (request : RunRequest) (opening : String → Opening) : Nat :=
  let lines := request.files.foldr (fun file lines => (opening file).size + lines) 0
  12 * request.files.length + 14 * lines + 24 * (request.requesters + request.resolvers) + 40

end RunRequest

namespace Plan

/-- Runs both stages to their end, with all their threads, in a world in which everything takes the
given time. -/
def run (plan : Plan) (request : RunRequest) (opening : String → Opening)
    (lookup : String → Lookup) (elapsed : Elapsed) (sinks : Sinks)
    (memory : Allocator := .standard) : Except Failure RunSummary × Sinks :=
  match Run.start plan request sinks memory with
  | .error failure => (.error failure, sinks)
  | .ok run =>
    let told := plan.instructions (.steady opening lookup elapsed)
    let last := run.execute told (request.rounds opening)
    (last.result?.getD (Run.conclusion last.driver {}), last.sinks)

end Plan

end HostLookup
