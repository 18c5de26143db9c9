import HostLookup.Worker.Basic

/-!
# What a worker does, step by step

Each step touches what the worker shares with others at most once: it takes one step of a call of a
queue, writes one line, or asks the environment one thing. `Worker.step` is missing (`none`) while
the worker has to wait for a queue, and once it has ended.

A failure is dealt with in one place. From a bad item, an unreadable file or a line that a sink
refused the worker recovers: it counts the failure, reports it, and goes on with whatever comes
next, and if the report fails as well nobody hears of it. Any other failure ends the worker, and so
does a panic; it then closes both of its queues, so that nobody waits for it any more.
-/

namespace HostLookup.Worker

/-- Goes on with the file that is being read, or with the next item. -/
def resume : Option Reading → Activity
  | none => .taking .entering
  | some file => .reading file

/-- Ends without having come to the sentinel. -/
def leave (w : Worker) (ending : Ending) : Worker :=
  { w with activity := .closingSource .marking ending }

/-- Recovers from a failure, or ends with it. -/
def raise (w : Worker) (failure : Failure) (file : Option Reading) : Worker :=
  if failure.isRecoverable then
    { w with
      tally := { w.tally with itemErrors := w.tally.itemErrors + 1 }
      activity := .reporting failure file }
  else w.leave (.failing failure)

/-- Begins with an item that was taken. -/
def begin (w : Worker) (sentinel : Sentinel) (item : String) : Worker :=
  if sentinel.marks item then { w with activity := .acknowledging }
  else
    { w with
      tally := { w.tally with serviced := w.tally.serviced + 1 }
      activity :=
        match w.stage with
        | .requester => .opening item
        | .resolver => .resolving item }

/-- Takes up a file that was opened. -/
def takeUp (w : Worker) (file : String) : Opening → Worker
  -- the item is done with, so there is no file to go back to
  | .refused failure => w.raise (.io file failure) none
  | .opened events => { w with activity := .reading { file := file, rest := events } }
  | .panicked => w.leave .panicking

/-- The refusal of a host name that is the sentinel. -/
def reserved (host : String) : Failure :=
  .item host "reserved as the end-of-work marker"

/-- Hands a host name on, to the next queue if there is one and then to the log. -/
def handOn (w : Worker) (sentinel : Sentinel) (hasTarget : Bool) (host : String)
    (file : Reading) : Worker :=
  if sentinel.marks host then w.raise (reserved host) (some file)
  else if hasTarget then { w with activity := .offering host (.entering host) file }
  else { w with activity := .logging host (some file) }

/-- Reads on in a file. -/
def read (w : Worker) (sentinel : Sentinel) (hasTarget : Bool) (file : Reading) : Worker :=
  match file.rest with
  | [] => { w with activity := .taking .entering }
  | event :: rest =>
    let later := { file with line := file.line + 1, rest := rest }
    match event with
    | .line text =>
      match DataFile.hostOfLine text with
      | none => { w with activity := .reading later }
      | some host => w.handOn sentinel hasTarget host later
    | .failed failure =>
      -- a line that is no text costs this line only, any other failure the rest of the file
      if failure.kind = .invalidData then
        w.raise (.item (file.file ++ ":" ++ toString file.line) failure.message) (some later)
      else w.raise (.io file.file failure) none
    | .panicked => w.leave .panicking

/-- The failure of a host name that the next queue did not take. -/
def refusal (host : String) : QueueError → Failure
  | .itemTooLarge length max => .item host (QueueError.itemTooLarge length max).message
  | error => .queue error

/-- Goes on after the next queue has answered. -/
def offered (w : Worker) (host : String) (file : Reading) : Except QueueError Unit → Worker
  | .ok () =>
    { w with
      tally := { w.tally with produced := w.tally.produced + 1 }
      activity := .logging host (some file) }
  | .error error => w.raise (refusal host error) (some file)

/-- The line that a resolver logs. -/
def answerLine (host address : String) : String :=
  host ++ ", " ++ address

/-- Goes on after a host name was looked up. -/
def lookedUp (w : Worker) (notResolved host : String) : Lookup → Worker
  | .found address => { w with activity := .logging (answerLine host address) none }
  -- a miss is an answer, not a failure: why it failed is told to nobody
  | .failed _ =>
    { w with
      tally := { w.tally with misses := w.tally.misses + 1 }
      activity := .logging (answerLine host notResolved) none }
  | .panicked => w.leave .panicking

/-- Goes on after a line was handed to the log. -/
def logged (w : Worker) (file : Option Reading) : Except SinkError Unit → Worker
  | .ok () => { w with activity := resume file }
  | .error error => w.raise (.sink error) file

/-- Goes on after both queues were closed. -/
def conclude (w : Worker) : Ending → Worker
  | .failing failure => { w with activity := .announcing (.error failure) }
  | .panicking => { w with activity := .panicked }

/-- The next step of a worker at its desk, at a moment. -/
def step (told : Instructions) (moment : Nat) (w : Worker) (desk : Desk) : Option (Worker × Desk) :=
  match w.activity with
  | .taking call =>
    (call.step desk.source).map fun (progress, source) =>
      let w :=
        match progress with
        | .goesOn call => { w with activity := .taking call }
        | .returns (.ok item) => w.begin told.sentinel item
        | .returns (.error error) => w.leave (.failing (.queue error))
      (w, { desk with source := source })
  | .acknowledging =>
    some
      ({ w with activity := .announcing (.ok ()) },
        { desk with shutdown := desk.shutdown.workerStopped })
  | .opening file => some (w.takeUp file (told.environment.opening moment file), desk)
  | .reading file => some (w.read told.sentinel desk.target.isSome file, desk)
  | .offering host call file =>
    match desk.target with
    -- nobody to hand on to
    | none => some ({ w with activity := .logging host (some file) }, desk)
    | some target =>
      (call.step target).map fun (progress, target) =>
        let w :=
          match progress with
          | .goesOn call => { w with activity := .offering host call file }
          | .returns result => w.offered host file result
        (w, { desk with target := some target })
  | .resolving host =>
    some (w.lookedUp told.notResolved host (told.environment.lookup moment host), desk)
  | .logging line file =>
    match desk.sinks.writeLine w.output line with
    | (result, sinks) => some (w.logged file result, { desk with sinks := sinks })
  | .reporting failure file =>
    match desk.sinks.writeLine .stderr failure.report with
    -- a report that cannot be written is lost
    | (_, sinks) => some ({ w with activity := resume file }, { desk with sinks := sinks })
  | .closingSource call ending =>
    match call.step desk.source with
    | (progress, source) =>
      let w :=
        match progress with
        | .goesOn call => { w with activity := .closingSource call ending }
        -- it does not matter whether somebody else has closed the queue before
        | .returns _ => { w with activity := .closingTarget .marking ending }
      some (w, { desk with source := source })
  | .closingTarget call ending =>
    match desk.target with
    | none => some (w.conclude ending, desk)
    | some target =>
      match call.step target with
      | (progress, target) =>
        let w :=
          match progress with
          | .goesOn call => { w with activity := .closingTarget call ending }
          | .returns _ => w.conclude ending
        some (w, { desk with target := some target })
  | .announcing exit =>
    let elapsed := told.environment.elapsed moment
    match desk.sinks.writeLine .stdout (w.announcement elapsed) with
    -- the worker has done its work, whether or not its summary line is written
    | (_, sinks) =>
      some ({ w with activity := .ended (w.report elapsed exit) }, { desk with sinks := sinks })
  | .ended _ => none
  | .panicked => none

/-- Has the worker ended, in whatever way? -/
def isOver (w : Worker) : Bool :=
  w.activity matches .ended _ | .panicked

/-- Lets a worker move by itself for as long as it can, but for no more steps than given. -/
def alone (told : Instructions) : Nat → Nat → Worker → Desk → Worker × Desk
  | 0, _, w, desk => (w, desk)
  | fuel + 1, moment, w, desk =>
    match w.step told moment desk with
    | none => (w, desk)
    | some (w, desk) => alone told fuel (moment + 1) w desk

/-- A worker that has ended does not move. -/
theorem step_eq_none_of_isOver (told : Instructions) (moment : Nat) {w : Worker} (desk : Desk)
    (h : w.isOver = true) : w.step told moment desk = none := by
  unfold isOver at h
  unfold step
  split at h <;> simp_all

end HostLookup.Worker
