import HostLookup.Proofs.Run.Calm
import HostLookup.Proofs.Run.Paths
import HostLookup.Proofs.Sink.Closing

/-!
# The sinks in the hands of a run

A run is given its sinks and does nothing with them but to write lines. If nobody else releases them
meanwhile, then whatever a run has gone through, it gives back sinks that can still be released; and
where the device behind a sink refuses nothing, all lines for it have been written there, whatever
has become of the others.

* **`Run.Custody`**: what a run has written is in its history, and nothing else has happened to its
  sinks.
* **`Run.Custody.move`**: every step keeps the sinks in custody, and
  **`Run.custody_of_launch`**: so does every run that was launched.
-/

namespace HostLookup

namespace Run

variable {told : Instructions} {run run' : Run} {actor : Actor} {start : Sinks}
  {history : History} {sink : Sink}

/-- A run that has nobody beside it keeps the sinks that it was given, and writes to them what is in
its history. -/
structure Custody (start : Sinks) (history : History) (run : Run) : Prop where
  outsider : run.outsider = none
  kept : start.Kept (fun sink => (history.lines sink).flatMap Sinks.lineBytes) run.sinks

namespace Custody

/-- **Every step keeps the sinks in custody.** -/
theorem move (h : Custody start history run) (hmove : Moves told run actor run') :
    Custody start (history ++ events told actor run) run' where
  outsider := hmove.outsider_of_none h.outsider
  kept := by
    rw [hmove.sinks_eq (hmove.ne_outsider h.outsider)]
    simp only [History.lines_append, List.flatMap_append, bytes_events]
    exact h.kept.receive _

theorem tick (h : Custody start history run) (moment : Nat) :
    Custody start history { run with moment := moment } :=
  ⟨h.outsider, h.kept⟩

end Custody

/-- A run that is launched has just been given its sinks. -/
theorem custody_launched {plan : Plan} {request : RunRequest} {refusals : Refusals}
    (hlaunch : launch plan request start refusals = .ok run) : Custody start [] run := by
  obtain ⟨-, rfl⟩ := eq_of_launch hlaunch
  exact ⟨rfl, .refl start⟩

/-- **Every run keeps its sinks in custody**, whichever threads the system refuses and whatever
happens. -/
theorem custody_of_launch {plan : Plan} {request : RunRequest} {refusals : Refusals} {begun : Run}
    {path : List (Actor × Run)} (hlaunch : launch plan request start refusals = .ok begun)
    (hpath : Path (step told) begun path run) : Custody start (historyOf told path) run := by
  refine (hpath.traces (events told)).invariant (custody_launched hlaunch) ?_
  intro actor history mid next h hstep
  obtain ⟨next, hmove, rfl⟩ := moves_of_step hstep
  exact (h.move hmove).tick _

end Run

end HostLookup
