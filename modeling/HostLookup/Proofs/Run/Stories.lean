import HostLookup.Proofs.Run.Calm

/-!
# What the history of a calm run says about its workers

Each worker has a part of the history of its own. What it has taken there are the items that it has
begun with; what it has put and written are deeds for these items; and together with the deeds that
are left to do where it stands they are all the deeds for them.

* **`Worker.Story`** says so of one worker, **`Worker.Story.goesOn`** that a step continues it.
* **`Run.Tale`** says so of all workers of a run, beside what was written to the sinks.
-/

namespace HostLookup

/-- The summary line of the worker that has handed in a report. -/
def WorkerReport.announcement (report : WorkerReport) : String :=
  "thread " ++ report.worker ++
    (match report.stage with
      | .requester => " serviced " ++ toString report.serviced ++ " files in "
      | .resolver => " resolved " ++ toString report.serviced ++ " hosts in ") ++
    Decimal.twoPlaces report.elapsed.toFloat ++ " seconds"

/-- The summary line of a worker that has ended. -/
def Activity.announced : Activity → List String
  | .ended report => [report.announcement]
  | _ => []

/-- A worker that has not ended has announced nothing. -/
theorem Activity.announced_of_ne {a : Activity} (h : ∀ report, a ≠ .ended report) :
    a.announced = [] := by
  cases a with
  | ended report => exact absurd rfl (h report)
  | _ => rfl

namespace Worker

/-- The part of the history that is about a worker. It has begun with `items` and done the deeds
`done`. -/
structure Story (t : Terms) (own : History) (stage : Stage) (i : Nat) (w : Worker)
    (items : List String) (done : List Deed) : Prop where
  name : w.name = nameOf stage.name i
  stage_eq : w.stage = stage
  output : w.output = stage.logSink
  taken : own.taken stage = items ++ w.activity.held t.sentinel
  unmarked : t.sentinel.text ∉ items
  left : done ++ t.left w.activity = items.flatMap (t.deeds stage)
  serviced : w.tally.serviced = items.length
  produced : w.tally.produced = done.count .produced
  misses : w.tally.misses = done.count .missed
  itemErrors : w.tally.itemErrors = done.count .erred
  stored : own.stored .resolver = done.filterMap Deed.put?
  lines : ∀ sink, sink ≠ .stdout →
    own.lines sink = done.filterMap (Deed.lineTo stage.logSink sink)
  announced : own.lines .stdout = w.activity.announced
  ended : ∀ report, w.activity = .ended report → ∃ elapsed exit, report = w.report elapsed exit

variable {t : Terms} {told : Instructions} {moment : Nat} {w w' : Worker} {desk desk' : Desk}
  {own new : History} {stage : Stage} {i : Nat} {items begun : List String} {done now : List Deed}

/-- The log of a worker is not the stream to which it announces its end. -/
theorem Story.output_ne_stdout (h : Story t own stage i w items done) : w.output ≠ .stdout := by
  rw [h.output]
  cases stage <;> decide

/-- **A step continues the story of the worker that makes it.** -/
theorem Story.goesOn (h : Story t own stage i w items done)
    (hmove : Moves told moment w desk w' desk') (hdoes : Does t told moment w desk w' begun now)
    (htaken : new.taken stage = desk.source.taken w.activity.sourceCall)
    (hstored : new.stored .resolver = w.puts desk)
    (hlines : ∀ sink, new.lines sink = (w.lineTo told moment sink).toList) :
    Story t (own ++ new) stage i w' (items ++ begun) (done ++ now) where
  name := hdoes.name.trans h.name
  stage_eq := hdoes.stage.trans h.stage_eq
  output := hdoes.output.trans h.output
  taken := by
    rw [History.taken_append, h.taken, htaken, List.append_assoc, hdoes.takes, List.append_assoc]
  unmarked := by
    rw [List.mem_append]
    exact not_or.mpr ⟨h.unmarked, hdoes.unmarked⟩
  left := by
    rw [List.append_assoc, hdoes.left, ← List.append_assoc, h.left, List.flatMap_append, h.stage_eq]
  serviced := by rw [hdoes.serviced, h.serviced, List.length_append]
  produced := by rw [hdoes.produced, h.produced, List.count_append]
  misses := by rw [hdoes.misses, h.misses, List.count_append]
  itemErrors := by rw [hdoes.itemErrors, h.itemErrors, List.count_append]
  stored := by rw [History.stored_append, h.stored, hstored, List.filterMap_append, hdoes.puts]
  lines sink hsink := by
    rw [History.lines_append, h.lines sink hsink, hlines, List.filterMap_append, ← h.output,
      hdoes.lines sink hsink]
  announced := by
    -- a worker that makes a step has not ended
    have hgoing : ∀ report, w.activity ≠ .ended report := by
      intro report hended
      have hover := hmove.isOver_eq_false
      rw [isOver, hended] at hover
      contradiction
    -- before its last step a worker has announced nothing, and that step writes its summary line
    rw [History.lines_append, h.announced, hlines, Activity.announced_of_ne hgoing]
    rcases hmove.ends h.output_ne_stdout with ⟨exit, hactivity, rfl⟩ | ⟨hnone, hgoing'⟩
    · rw [lineTo, line?, hactivity]
      rfl
    · rw [hnone, Activity.announced_of_ne hgoing']
      rfl
  ended := by
    intro report hended
    rcases hmove.ends h.output_ne_stdout with ⟨exit, -, rfl⟩ | ⟨-, hgoing⟩
    · exact ⟨_, exit, (Activity.ended.inj hended).symm⟩
    · exact absurd hended (hgoing report)

/-- At its beginning a worker has no item and has done nothing. -/
theorem story_start (t : Terms) (stage : Stage) (i : Nat) :
    Story t [] stage i (start stage (nameOf stage.name i)) [] [] where
  name := rfl
  stage_eq := rfl
  output := rfl
  taken := rfl
  unmarked := List.not_mem_nil
  left := rfl
  serviced := rfl
  produced := rfl
  misses := rfl
  itemErrors := rfl
  stored := rfl
  lines _ _ := rfl
  announced := rfl
  ended := nofun

end Worker

namespace Run

variable {told : Instructions} {run run' : Run} {actor : Actor} {history : History} {t : Terms}
  {start : Sinks}

/-! ## What a worker adds to the history

The history of a run knows threads and queues, while a story is told by a worker about its own desk.
The lemmas translate: what a step of a worker adds to the history is what it takes from the source
on its desk, what it puts into the target, and the line that it writes. -/

section Events

variable {stage : Stage} {i : Nat} {w : Worker}

/-- What the step of a worker takes, by the history and by its desk. -/
theorem taken_events_worker (hplace : (run.workers stage)[i]? = some w) :
    (events told (.worker stage i) run).taken stage =
      (run.desk stage).source.taken w.activity.sourceCall := by
  rw [taken_events, callOn_worker_self hplace, source_desk]

/-- What the step of a worker hands on. A resolver hands on nothing, and a requester only if there
is a resolver. -/
theorem stored_events_worker (hplace : (run.workers stage)[i]? = some w) :
    (events told (.worker stage i) run).stored .resolver = w.puts (run.desk stage) := by
  rw [stored_events]
  cases stage with
  | resolver => exact stored_of_own
  | requester =>
    have hcall : run.callOn (.worker .requester i) .resolver =
        if run.hasTarget .requester then w.activity.targetCall else none := by
      simp only [callOn, hplace, Option.bind_some]
      rfl
    rw [hcall]
    by_cases hnone : run.resolvers.isEmpty = true
    · simp [hasTarget, hnone, Worker.puts, desk]
    · simp [hasTarget, hnone, Worker.puts, desk, queue]

/-- The line that the step of a worker writes. -/
theorem lines_events_worker (hplace : (run.workers stage)[i]? = some w) (sink : Sink) :
    (events told (.worker stage i) run).lines sink =
      (w.lineTo told run.moment sink).toList := by
  rw [lines_events, lineOf_worker hplace]
  rfl

end Events

/-! ## All workers

Every worker of a calm run has a story, and the sinks hold the lines of the history. A step of one
worker continues its own story and leaves the stories of the others as they are. -/

/-- What the history of a calm run tells. -/
structure Tale (t : Terms) (start : Sinks) (history : History) (run : Run) : Prop where
  workers : ∀ (stage : Stage) (i : Nat) (w : Worker), (run.workers stage)[i]? = some w →
    ∃ items done,
      Worker.Story (t.seenBy stage) (history.of (.worker stage i)) stage i w items done
  written : ∀ sink, run.sinks.written sink =
    start.written sink ++ (history.lines sink).flatMap Sinks.lineBytes

namespace Tale

/-- The stories after a step: one of them goes on, and the others are what they were. -/
theorem workers_move (h : Tale t start history run) (hcalm : Calm t run) (hhold : t.Hold told)
    (horderly : Orderly told.sentinel history run) (hmove : Moves told run actor run')
    (stage : Stage) (i : Nat) (w : Worker) (hplace : (run'.workers stage)[i]? = some w) :
    ∃ items done, Worker.Story (t.seenBy stage)
      ((history ++ events told actor run).of (.worker stage i)) stage i w items done := by
  rw [History.of_append, of_events]
  rcases hmove.ownWorker stage with
    ⟨j, u, u', desk, rfl, hplace', hworker, hset, -⟩ | ⟨hother, hsame⟩
  · rw [hset] at hplace
    by_cases hij : j = i
    · subst hij
      have hlt := (List.getElem?_eq_some_iff.mp hplace').1
      rw [List.getElem?_set_self hlt] at hplace
      obtain rfl := Option.some.inj hplace
      -- the worker that has made the step: what it adds to the history are its own deeds
      obtain ⟨items, done, hstory⟩ := h.workers stage j u hplace'
      obtain ⟨begun, now, hdoes⟩ := hcalm.does hhold horderly hplace' hworker
      rw [if_pos rfl]
      exact ⟨_, _, hstory.goesOn hworker hdoes (taken_events_worker hplace')
        (stored_events_worker hplace') (lines_events_worker hplace')⟩
    · -- another worker of the same stage
      rw [List.getElem?_set_ne hij] at hplace
      rw [if_neg (by simp [hij]), List.append_nil]
      exact h.workers stage i w hplace
  · -- somebody else has made the step
    rw [hsame] at hplace
    rw [if_neg (hother i), List.append_nil]
    exact h.workers stage i w hplace

/-- What the sinks hold after a step: no sink of a calm run refuses a line, so every line is
there. -/
theorem written_move (h : Tale t start history run) (hcalm : Calm t run)
    (hmove : Moves told run actor run') (sink : Sink) :
    run'.sinks.written sink = start.written sink ++
      ((history ++ events told actor run).lines sink).flatMap Sinks.lineBytes := by
  rw [History.lines_append, List.flatMap_append, ← List.append_assoc, ← h.written, bytes_events,
    hmove.sinks_eq (hmove.ne_outsider hcalm.outsider)]
  exact (Sinks.written_receive hcalm.willing _).2 sink

/-- **Every step is told.** -/
theorem move (h : Tale t start history run) (hcalm : Calm t run) (hhold : t.Hold told)
    (horderly : Orderly told.sentinel history run) (hmove : Moves told run actor run') :
    Tale t start (history ++ events told actor run) run' where
  workers := h.workers_move hcalm hhold horderly hmove
  written := h.written_move hcalm hmove

end Tale

end Run

end HostLookup
