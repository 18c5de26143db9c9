import HostLookup.Failure.Io
import HostLookup.Text.Utf8

/-!
# Devices

What stands behind a sink in the end: something that takes chunks of bytes or refuses them. Whether
a chunk is refused may depend on the chunk and on how many came before it, so a device can fail in
any pattern; a refused chunk leaves nothing behind, and the next one may be accepted again.

A device may have a buffer in front of it. Then chunks are gathered until one of them no longer
fits, and a refusal is only noticed when the buffer is emptied; what could not be written stays in
it.
-/

namespace HostLookup

/-- A chunk that a device has accepted. -/
structure Arrival where
  /-- The moment at which it was accepted. -/
  moment : Nat
  bytes : Bytes
  deriving DecidableEq, Repr

/-- A place to write bytes to. -/
structure Device where
  /-- The chunks that the device has accepted, newest first. -/
  accepted : List Arrival := []
  /-- The moment that it is, on a clock that several devices may share. -/
  clock : Nat := 0
  /-- The chunks that were handed to the device, accepted or not. -/
  attempts : Nat := 0
  /-- How often the device was flushed. -/
  flushes : Nat := 0
  /-- The chunks that wait in the buffer, newest first, if there is a buffer. -/
  buffer : Option (List Bytes) := none
  /-- The answer of the device to a chunk after so many attempts: `none` accepts it. -/
  refuses : Nat → Bytes → Option IoFailure := fun _ _ => none
  /-- The answer of the device to a flush. -/
  refusesFlush : Option IoFailure := none

namespace Device

/-- A device that accepts everything at once. -/
def memory : Device := {}

/-- The size of a buffer in bytes. -/
def bufferSize : Nat := 8192

/-- An empty file behind a buffer. -/
def file : Device :=
  { buffer := some [] }

/-- A device without any room, behind a buffer. -/
def full : Device :=
  { buffer := some []
    refuses := fun _ _ => some (.system 28) }

/-- All bytes that the device has accepted. -/
def contents (d : Device) : Bytes :=
  (d.accepted.reverse.map Arrival.bytes).flatten

/-- Hands a chunk to the device itself. An empty chunk is not handed over at all. -/
def accept (d : Device) (chunk : Bytes) : Except IoFailure Unit × Device :=
  if chunk.isEmpty then (.ok (), d)
  else
    match d.refuses d.attempts chunk with
    | some failure => (.error failure, { d with attempts := d.attempts + 1 })
    | none =>
      (.ok (),
        { d with accepted := ⟨d.clock, chunk⟩ :: d.accepted, attempts := d.attempts + 1 })

/-- Empties the buffer, if there is one, into the device. -/
def emptyBuffer (d : Device) : Except IoFailure Unit × Device :=
  match d.buffer with
  | none => (.ok (), d)
  | some waiting =>
    match d.accept waiting.reverse.flatten with
    | (.error failure, d) => (.error failure, d)
    | (.ok (), d) => (.ok (), { d with buffer := some [] })

/-- The bytes that wait in a buffer. -/
def waitingBytes (waiting : List Bytes) : Nat :=
  waiting.foldr (fun chunk bytes => chunk.length + bytes) 0

/-- Writes a chunk. One that does not fit into what is left of the buffer empties it first, and one
that is at least as large as the whole buffer goes past it. -/
def write (d : Device) (chunk : Bytes) : Except IoFailure Unit × Device :=
  match d.buffer with
  | none => d.accept chunk
  | some waiting =>
    match if waitingBytes waiting + chunk.length ≤ bufferSize then (.ok (), d)
      else d.emptyBuffer with
    | (.error failure, d) => (.error failure, d)
    | (.ok (), d) =>
      if bufferSize ≤ chunk.length then d.accept chunk
      else (.ok (), { d with buffer := d.buffer.map (chunk :: ·) })

/-- Writes chunks one after the other up to the first that fails. -/
def writeAll (d : Device) : List Bytes → Except IoFailure Unit × Device
  | [] => (.ok (), d)
  | chunk :: chunks =>
    match d.write chunk with
    | (.error failure, d) => (.error failure, d)
    | (.ok (), d) => d.writeAll chunks

/-- Makes sure that nothing is left in the buffer. -/
def flush (d : Device) : Except IoFailure Unit × Device :=
  match { d with flushes := d.flushes + 1 }.emptyBuffer with
  | (.error failure, d) => (.error failure, d)
  | (.ok (), d) =>
    match d.refusesFlush with
    | some failure => (.error failure, d)
    | none => (.ok (), d)

theorem accept_nil (d : Device) : d.accept [] = (.ok (), d) := rfl

end Device

end HostLookup
