import HostLookup.Failure.Basic
import HostLookup.Sink.Device

/-!
# The sinks of a run

The four sinks are opened together and released together. Each is used by one thread at a time, and
a line is written under one such use, so lines of different threads never mix. Releasing the sinks
flushes each of them once, in a fixed order, also after one of the flushes has failed; afterwards
every use is refused. The sinks have one clock for all their devices, which goes on with every use,
so it can be told in what order bytes have arrived at two of them.

The operations here happen at once. `Sink/Session` takes the same operations apart into the steps
that threads may interleave.
-/

namespace HostLookup

/-- A device and whether it has been released. -/
structure Outlet where
  device : Device
  released : Bool := false

/-- The four sinks. -/
structure Sinks where
  requesterLog : Outlet
  resolverLog : Outlet
  stdout : Outlet
  stderr : Outlet
  /-- Has somebody begun to release the sinks? -/
  destroyed : Bool := false
  /-- How often the devices were used. -/
  clock : Nat := 0

namespace Sinks

/-- Sinks on the given devices. -/
def ofDevices (device : Sink → Device) : Sinks where
  requesterLog := { device := device .requesterLog }
  resolverLog := { device := device .resolverLog }
  stdout := { device := device .stdout }
  stderr := { device := device .stderr }

def get (sinks : Sinks) : Sink → Outlet
  | .requesterLog => sinks.requesterLog
  | .resolverLog => sinks.resolverLog
  | .stdout => sinks.stdout
  | .stderr => sinks.stderr

def set (sinks : Sinks) (sink : Sink) (outlet : Outlet) : Sinks :=
  match sink with
  | .requesterLog => { sinks with requesterLog := outlet }
  | .resolverLog => { sinks with resolverLog := outlet }
  | .stdout => { sinks with stdout := outlet }
  | .stderr => { sinks with stderr := outlet }

@[simp] theorem get_set_self (sinks : Sinks) (sink : Sink) (outlet : Outlet) :
    (sinks.set sink outlet).get sink = outlet := by
  cases sink <;> rfl

@[simp] theorem get_set_of_ne (sinks : Sinks) {sink other : Sink} (outlet : Outlet)
    (h : other ≠ sink) : (sinks.set sink outlet).get other = sinks.get other := by
  cases sink <;> cases other <;> simp_all [get, set]

@[simp] theorem destroyed_set (sinks : Sinks) (sink : Sink) (outlet : Outlet) :
    (sinks.set sink outlet).destroyed = sinks.destroyed := by
  cases sink <;> rfl

/-- What has reached the device behind a sink. -/
def contents (sinks : Sinks) (sink : Sink) : Bytes :=
  (sinks.get sink).device.contents

/-! ## Using a sink -/

/-- Lets `body` act on the device of a sink. -/
def actOn (sinks : Sinks) (sink : Sink) (body : Device → Except IoFailure Unit × Device) :
    Except IoFailure Unit × Sinks :=
  let outlet := sinks.get sink
  match body { outlet.device with clock := sinks.clock } with
  | (result, device) =>
    (result,
      { sinks.set sink { outlet with device := device } with clock := sinks.clock + 1 })

/-- Hands the device of a sink to `body`, unless the sink has been released. -/
def use (sinks : Sinks) (sink : Sink)
    (body : Device → Except IoFailure Unit × Device) : Except SinkError Unit × Sinks :=
  if (sinks.get sink).released then (.error (.destroyed sink), sinks)
  else
    match sinks.actOn sink body with
    | (.ok (), sinks) => (.ok (), sinks)
    | (.error failure, sinks) => (.error (.write sink failure), sinks)

/-- The chunks of a line: its text and the newline. -/
def lineChunks (line : String) : List Bytes :=
  [Text.encode line, [0x0A]]

/-- Writes a line. -/
def writeLine (sinks : Sinks) (sink : Sink) (line : String) : Except SinkError Unit × Sinks :=
  sinks.use sink fun device => device.writeAll (lineChunks line)

/-! ## Releasing the sinks -/

/-- Marks the sinks as being released; only the first caller succeeds. -/
def claimRelease (sinks : Sinks) : Except SinkError Unit × Sinks :=
  if sinks.destroyed then (.error .alreadyDestroyed, sinks)
  else (.ok (), { sinks with destroyed := true })

/-- Takes a sink away from those who write to it. -/
def release (sinks : Sinks) (sink : Sink) : Sinks :=
  sinks.set sink { sinks.get sink with released := true }

/-- Flushes a sink that was taken away. -/
def flush (sinks : Sinks) (sink : Sink) : Except SinkError Unit × Sinks :=
  match sinks.actOn sink Device.flush with
  | (.ok (), sinks) => (.ok (), sinks)
  | (.error failure, sinks) => (.error (.write sink failure), sinks)

/-- The first of two results that is an error. -/
def firstError : Except SinkError Unit → Except SinkError Unit → Except SinkError Unit
  | .error first, _ => .error first
  | .ok (), second => second

/-- Releases and flushes sinks in the given order. -/
def releaseAll (sinks : Sinks) (result : Except SinkError Unit) :
    List Sink → Except SinkError Unit × Sinks
  | [] => (result, sinks)
  | sink :: rest =>
    match (sinks.release sink).flush sink with
    | (flushed, sinks) => releaseAll sinks (firstError result flushed) rest

/-- Releases all sinks. The answer is the first flush that failed. -/
def destroy (sinks : Sinks) : Except SinkError Unit × Sinks :=
  match sinks.claimRelease with
  | (.error error, sinks) => (.error error, sinks)
  | (.ok (), sinks) => sinks.releaseAll (.ok ()) Sink.all

end Sinks

end HostLookup
