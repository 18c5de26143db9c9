import HostLookup.Proofs.Run.Start

/-!
# Runs step by step

A path of a run lists its steps, each with the state in which the thread made it. It tells more than
the history, which only knows what went through the queues and to the sinks; the history can be read
off it.

* **`Run.historyOf`**: the history of a path.
* **`Run.orderly_of_path`**, **`Run.orderly_of_mem`**: runs are orderly at the end of a path and
  wherever a step on it was made.
-/

namespace HostLookup.Run

variable {told : Instructions} {run : Run}

/-- What happened on a path. -/
def historyOf (told : Instructions) (path : List (Actor × Run)) : History :=
  path.flatMap fun p => events told p.1 p.2

/-- A path that goes on adds to the history what happens behind it. -/
theorem historyOf_append (told : Instructions) (path more : List (Actor × Run)) :
    historyOf told (path ++ more) = historyOf told path ++ historyOf told more :=
  List.flatMap_append

@[simp] theorem historyOf_singleton (told : Instructions) (actor : Actor) (run : Run) :
    historyOf told [(actor, run)] = events told actor run :=
  List.flatMap_singleton ..

/-- What went into a queue, read off the path: step by step what the thread that made the step has
copied into it. Induction on the path. -/
theorem stored_historyOf (told : Instructions) (path : List (Actor × Run)) (stage : Stage) :
    (historyOf told path).stored stage =
      path.flatMap fun p => (p.2.queue stage).stored (p.2.callOn p.1 stage) := by
  induction path with
  | nil => rfl
  | cons p path ih =>
    rw [← List.singleton_append, historyOf_append, History.stored_append, ih, List.flatMap_append,
      List.flatMap_singleton, historyOf_singleton, stored_events]

section Orderly

variable {plan : Plan} {request : RunRequest} {sinks : Sinks} {refusals : Refusals}
  {outsider : Option SinkCall} {environment : Environment} {path : List (Actor × Run)}

/-- At the end of a path a run is orderly, for the history of this path. -/
theorem orderly_of_path (husable : plan.Usable) (hfiles : plan.sentinel.text ∉ request.files)
    (hpath : Path (step (plan.instructions environment))
      (initial plan request sinks refusals outsider) path run) :
    Orderly plan.sentinel (historyOf (plan.instructions environment) path) run :=
  orderly_of_traces husable hfiles (hpath.traces _)

/-- Every step on a path follows the rules, in a run that is orderly. -/
theorem orderly_of_mem (husable : plan.Usable) (hfiles : plan.sentinel.text ∉ request.files)
    (hpath : Path (step (plan.instructions environment))
      (initial plan request sinks refusals outsider) path run) {p : Actor × Run} (hmem : p ∈ path) :
    ∃ history next, Orderly plan.sentinel history p.2 ∧
      Moves (plan.instructions environment) p.2 p.1 next := by
  obtain ⟨before, hbefore, next, hstep⟩ := hpath.of_mem hmem
  obtain ⟨next, hmove, -⟩ := moves_of_step hstep
  exact ⟨_, next, orderly_of_path husable hfiles hbefore, hmove⟩

end Orderly

/-! ## Answers of executed runs

The answer of a run that is executed on given input is a large term, and only its kind is evaluated.
From there on the answer itself is taken as it comes. -/

section Answer

variable {ε α : Type} {result : Option (Except ε α)}

/-- An execution that answers with its summary, by a test that can be evaluated. -/
theorem exists_ok_of_any (hok : result.any Except.isOk = true) : ∃ a, result = some (.ok a) := by
  match result, hok with
  | some (.ok a), _ => exact ⟨a, rfl⟩

/-- An execution that answers with a failure. -/
theorem exists_error_of_any (herror : result.any (fun result => !result.isOk) = true) :
    ∃ error, result = some (.error error) := by
  match result, herror with
  | some (.error error), _ => exact ⟨error, rfl⟩

end Answer

end HostLookup.Run
