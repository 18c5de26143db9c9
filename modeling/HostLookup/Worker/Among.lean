import HostLookup.Queue.Crowd
import HostLookup.Worker.Step

/-!
# A worker among others

A worker shares its desk with threads of which it knows nothing. Between two of its steps they may
make a step of any call of one of its queues, and they may do as they like with its stage and with
the sinks. A `Disturbance` is one such thing. The moment at which the worker makes a step is left
open as well, so whom it asks may answer differently each time.

`Worker.stepAmong` is one step of the worker or of somebody else.
-/

namespace HostLookup

/-- What somebody else does to the desk of a worker. -/
inductive Disturbance where
  /-- A step of a call of the queue that the worker takes from. -/
  | onSource (call : Call)
  /-- A step of a call of the queue that the worker hands on to. -/
  | onTarget (call : Call)
  /-- The end of the stage has come further. -/
  | onStage (shutdown : Shutdown)
  /-- The sinks were used, or released. -/
  | onSinks (sinks : Sinks)

/-- A desk after somebody else was there. -/
def Desk.disturb (desk : Desk) : Disturbance → Option Desk
  | .onSource call =>
    (call.step desk.source).map fun (_, source) => { desk with source := source }
  | .onTarget call =>
    desk.target.bind fun target =>
      (call.step target).map fun (_, target) => { desk with target := some target }
  | .onStage shutdown => some { desk with shutdown := shutdown }
  | .onSinks sinks => some { desk with sinks := sinks }

/-- Whose step comes next. -/
inductive Beat where
  /-- The worker's own, at a moment. -/
  | own (moment : Nat)
  | others (disturbance : Disturbance)

/-- A step of a worker or of somebody else at its desk. -/
def Worker.stepAmong (told : Instructions) : Beat → Worker × Desk → Option (Worker × Desk)
  | .own moment, (w, desk) => w.step told moment desk
  | .others disturbance, (w, desk) => (desk.disturb disturbance).map fun desk => (w, desk)

end HostLookup
