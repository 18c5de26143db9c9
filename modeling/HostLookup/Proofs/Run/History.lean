import HostLookup.Proofs.Run.Threads

/-!
# The history of a run

What can be told about a run afterwards: which items went into the queues and came out of them, and
which lines were written, in the order in which it happened and with the thread that did it.
`Traces (Run.step told) (Run.events told)` relates a run to the histories that lead to it.

* **`Run.events`**: what one step adds to the history.
* **`Run.Sound`**: both queues are balanced, and their ledgers are those of the history. Every step
  keeps it (**`Run.Sound.move`**).
-/

namespace HostLookup

/-- What a thread of a run does to the knowledge of all. -/
inductive Event where
  /-- A section of the queue in front of a stage. -/
  | ran (stage : Stage) (part : Section)
  | wrote (sink : Sink) (line : String)
  deriving DecidableEq, Repr

namespace Event

/-- The section at the queue in front of a stage. -/
def section? (stage : Stage) : Event → Option Section
  | .ran own part => if own = stage then some part else none
  | .wrote .. => none

/-- The line that was written to a sink. -/
def line? (sink : Sink) : Event → Option String
  | .wrote at' line => if at' = sink then some line else none
  | .ran .. => none

end Event

/-- What happened in a run, oldest first, and who did it. -/
abbrev History := List (Actor × Event)

namespace History

/-- The part of a history that is about one thread. -/
def of (history : History) (actor : Actor) : History :=
  history.filter fun entry => entry.1 = actor

/-- The sections at the queue in front of a stage. -/
def sections (history : History) (stage : Stage) : List Section :=
  history.filterMap fun entry => entry.2.section? stage

/-- The items that went into the queue in front of a stage. -/
def stored (history : History) (stage : Stage) : List String :=
  (history.sections stage).filterMap Section.stored?

/-- The items that came out of it. -/
def taken (history : History) (stage : Stage) : List String :=
  (history.sections stage).filterMap Section.taken?

/-- The lines that were written to a sink. -/
def lines (history : History) (sink : Sink) : List String :=
  history.filterMap fun entry => entry.2.line? sink

variable (history more : History) (stage : Stage) (sink : Sink) (actor : Actor)

theorem of_append : of (history ++ more) actor = of history actor ++ of more actor :=
  List.filter_append _ _

theorem sections_append :
    sections (history ++ more) stage = sections history stage ++ sections more stage :=
  List.filterMap_append

/-- What was put before, and what is put now. -/
theorem stored_append :
    stored (history ++ more) stage = stored history stage ++ stored more stage := by
  rw [stored, sections_append, List.filterMap_append]
  rfl

theorem taken_append :
    taken (history ++ more) stage = taken history stage ++ taken more stage := by
  rw [taken, sections_append, List.filterMap_append]
  rfl

theorem lines_append : lines (history ++ more) sink = lines history sink ++ lines more sink :=
  List.filterMap_append

end History

namespace Run

variable {told : Instructions} {run run' : Run} {actor : Actor} {history : History}

/-! ## What a step adds to the history

A step runs at most one section at each queue and writes at most one line. What it stores, takes and
writes is read off the state before the step, by the call that the thread is in. -/

/-- The line that the next step of a thread writes, and where to. -/
def lineOf (told : Instructions) (run : Run) : Actor → Option (Sink × String)
  | .driver =>
    match run.driver.activity with
    | .rejecting failure _ => some (.stderr, rejection failure)
    | _ => none
  | .worker stage i =>
    (run.workers stage)[i]?.bind fun w =>
      match w.activity with
      | .logging line _ => some (w.output, line)
      | .reporting failure _ => some (.stderr, failure.report)
      | .announcing _ => some (.stdout, w.announcement (told.environment.elapsed run.moment))
      | _ => none
  | .outsider => none

/-- The section that the next step of a thread runs at the queue in front of a stage. -/
def sectionOf (run : Run) (actor : Actor) (stage : Stage) : Option Section :=
  (run.callOn actor stage).bind (Call.section? (run.queue stage))

/-- What happens in a step. -/
def events (told : Instructions) (actor : Actor) (run : Run) : History :=
  ((run.sectionOf actor .requester).map fun part => (actor, Event.ran .requester part)).toList ++
    (((run.sectionOf actor .resolver).map fun part => (actor, Event.ran .resolver part)).toList ++
      ((run.lineOf told actor).map fun line => (actor, Event.wrote line.1 line.2)).toList)

/-- A step runs the section that its thread has come to, if it has come to one. -/
theorem sections_events (told : Instructions) (actor : Actor) (run : Run) (stage : Stage) :
    (events told actor run).sections stage = (run.sectionOf actor stage).toList := by
  unfold events
  rw [History.sections_append, History.sections_append]
  have hline : History.sections ((run.lineOf told actor).map fun line =>
      (actor, Event.wrote line.1 line.2)).toList stage = [] := by
    cases run.lineOf told actor <;> rfl
  have hsection : ∀ own, History.sections ((run.sectionOf actor own).map fun part =>
      (actor, Event.ran own part)).toList stage =
        if own = stage then (run.sectionOf actor own).toList else [] := by
    intro own
    cases run.sectionOf actor own with
    | none => simp [History.sections]
    | some part => by_cases hown : own = stage <;> simp [History.sections, Event.section?, hown]
  rw [hline, List.append_nil, hsection, hsection]
  cases stage <;> simp

/-- What a step stores in a queue is what the call of its thread stores there. -/
theorem stored_events (told : Instructions) (actor : Actor) (run : Run) (stage : Stage) :
    (events told actor run).stored stage = (run.queue stage).stored (run.callOn actor stage) := by
  rw [History.stored, sections_events, Queue.stored, ← sectionOf]
  cases run.sectionOf actor stage with
  | none => rfl
  | some part => cases part <;> rfl

theorem taken_events (told : Instructions) (actor : Actor) (run : Run) (stage : Stage) :
    (events told actor run).taken stage = (run.queue stage).taken (run.callOn actor stage) := by
  rw [History.taken, sections_events, Queue.taken, ← sectionOf]
  cases run.sectionOf actor stage with
  | none => rfl
  | some part => cases part <;> rfl

/-- A step writes the line that its thread has come to. -/
theorem lines_events (told : Instructions) (actor : Actor) (run : Run) (sink : Sink) :
    (events told actor run).lines sink =
      ((run.lineOf told actor).bind fun line =>
        if line.1 = sink then some line.2 else none).toList := by
  unfold events
  rw [History.lines_append, History.lines_append]
  have hsection : ∀ own, History.lines ((run.sectionOf actor own).map fun part =>
      (actor, Event.ran own part)).toList sink = [] := by
    intro own
    cases run.sectionOf actor own <;> rfl
  rw [hsection, hsection]
  cases run.lineOf told actor with
  | none => rfl
  | some line => by_cases hsink : line.1 = sink <;> simp [History.lines, Event.line?, hsink]

/-- Whatever happens in a step is done by the thread that makes it. -/
theorem actor_of_mem_events {told : Instructions} {actor : Actor} {run : Run}
    {entry : Actor × Event} (hmem : entry ∈ events told actor run) : entry.1 = actor := by
  simp only [events, List.mem_append, Option.mem_toList, Option.map_eq_some_iff] at hmem
  obtain ⟨part, -, rfl⟩ | ⟨part, -, rfl⟩ | ⟨line, -, rfl⟩ := hmem <;> rfl

/-- A step is on record for the thread that makes it, and for no other. -/
theorem of_events (told : Instructions) (actor other : Actor) (run : Run) :
    (events told actor run).of other = if actor = other then events told actor run else [] := by
  split
  · next heq =>
    refine List.filter_eq_self.mpr fun entry hentry => ?_
    simp [actor_of_mem_events hentry, heq]
  · next hne =>
    refine List.filter_eq_nil_iff.mpr fun entry hentry => ?_
    simp [actor_of_mem_events hentry, hne]

/-! ## Queues along the history

A queue counts its permits against all calls that are under way, and its ring against all items that
went through it. Both accounts are kept by every step, whoever makes it. -/

/-- Both queues are balanced, and the history is their ledger. -/
structure Sound (history : History) (run : Run) : Prop where
  balanced : ∀ stage, (run.queue stage).Balanced (run.calls stage)
  ledger : ∀ stage, (run.queue stage).Ledger (history.stored stage) (history.taken stage)

/-- **Every step keeps both accounts.** -/
theorem Sound.move (h : Sound history run) (hmove : Moves told run actor run') :
    Sound (history ++ events told actor run) run' where
  balanced stage := (h.balanced stage).turn (hmove.turn stage) (hmove.shift stage)
  ledger stage := by
    rw [History.stored_append, History.taken_append, stored_events, taken_events]
    exact (h.ledger stage).turn (h.balanced stage) (hmove.turn stage) (hmove.shift stage)

end Run

end HostLookup
