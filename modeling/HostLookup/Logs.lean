import HostLookup.FileTree
import HostLookup.Sink.Basic

/-!
# The two logs

Before a run its two logs are opened, the requesters' first; each is a file behind a buffer. If one
cannot be opened the run does not begin, and a log that was opened before is left empty. The other
two sinks are the standard streams of the process. They are open already, but whoever reads them may
have gone away, so they can refuse anything.

Both paths may lead to the same file. Each log then has a position of its own in it, which begins at
the front of the file, and where both logs have written the bytes that arrived last remain.
-/

namespace HostLookup

/-- The sinks on two logs that are open, and the places of these. -/
structure Logs where
  sinks : Sinks
  requesterLog : Place
  resolverLog : Place

/-- A standard stream of the process, told by what it refuses. -/
structure Stream where
  /-- The answer of the stream to a chunk after so many attempts: `none` takes it. -/
  refuses : Nat → Bytes → Option IoFailure := fun _ _ => none
  /-- The answer of the stream to a flush. -/
  refusesFlush : Option IoFailure := none

/-- The device that a stream is, with nothing written to it yet. -/
def Stream.device (stream : Stream) : Device where
  refuses := stream.refuses
  refusesFlush := stream.refusesFlush

namespace Logs

/-- The device at a place of a tree. -/
def deviceAt (tree : FileTree) (place : Place) : Device :=
  match tree.node? place with
  | some .full => .full
  | _ => .file

/-- Opens one log. -/
def openLog (tree : FileTree) (path : String) : Except Failure Place × FileTree :=
  match tree.create path with
  | (.error failure, tree) => (.error (.io path failure), tree)
  | (.ok place, tree) => (.ok place, tree)

/-- Opens both logs. What the workers and the driver say beside them goes to the streams. -/
def openBoth (tree : FileTree) (requesterLog resolverLog : String) (stdout stderr : Stream := {}) :
    Except Failure Logs × FileTree :=
  match openLog tree requesterLog with
  | (.error failure, tree) => (.error failure, tree)
  | (.ok requesterPlace, tree) =>
    match openLog tree resolverLog with
    | (.error failure, tree) => (.error failure, tree)
    | (.ok resolverPlace, tree) =>
      let device : Sink → Device
        | .requesterLog => deviceAt tree requesterPlace
        | .resolverLog => deviceAt tree resolverPlace
        | .stdout => stdout.device
        | .stderr => stderr.device
      (.ok
        { sinks := .ofDevices device
          requesterLog := requesterPlace
          resolverLog := resolverPlace }, tree)

/-! ## What the files hold in the end -/

/-- A chunk that was written to a file. -/
structure Landing where
  moment : Nat
  offset : Nat
  bytes : Bytes
  deriving DecidableEq, Repr

/-- Chunks that were written one behind the other, the first of them at an offset. -/
def landings (offset : Nat) : List Arrival → List Landing
  | [] => []
  | arrival :: later =>
    { moment := arrival.moment, offset := offset, bytes := arrival.bytes } ::
      landings (offset + arrival.bytes.length) later

/-- The bytes of a file after a chunk was written to it. -/
def land (old : Bytes) (landing : Landing) : Bytes :=
  old.take landing.offset ++ landing.bytes ++ old.drop (landing.offset + landing.bytes.length)

/-- The bytes of a file to which two devices have written, in the order in which they arrived. -/
def sharedContents (first second : Device) : Bytes :=
  let all := (landings 0 first.accepted.reverse).merge (landings 0 second.accepted.reverse)
    fun a b => a.moment ≤ b.moment
  all.foldl land []

/-- The tree after all that the logs have accepted was written to it. -/
def save (logs : Logs) (sinks : Sinks) (tree : FileTree) : FileTree :=
  if logs.requesterLog = logs.resolverLog then
    tree.fill logs.requesterLog
      (sharedContents sinks.requesterLog.device sinks.resolverLog.device)
  else
    (tree.fill logs.requesterLog (sinks.contents .requesterLog)).fill logs.resolverLog
      (sinks.contents .resolverLog)

/-- Alone, a device leaves in its file what it has accepted. -/
theorem foldl_land_landings (arrivals : List Arrival) (old : Bytes) :
    (landings old.length arrivals).foldl land old =
      old ++ (arrivals.map Arrival.bytes).flatten := by
  induction arrivals generalizing old with
  | nil => simp [landings]
  | cons arrival later ih =>
    have written : land old ⟨arrival.moment, old.length, arrival.bytes⟩ = old ++ arrival.bytes := by
      simp [land]
    simp only [landings, List.foldl_cons, written]
    rw [← List.length_append, ih]
    simp

end Logs

end HostLookup
