/-!
# Permits

A bounded queue admits its callers by two counters of permits, one for free slots and one for
filled slots. A caller takes a permit before it enters the ring and hands one to the other counter
afterwards. A closed counter admits nobody any more and keeps nobody waiting.
-/

namespace HostLookup

/-- A counter of permits. -/
structure Permits where
  permits : Nat
  closed : Bool := false
  deriving DecidableEq, Repr

/-- How a caller that asks for a permit fares. -/
inductive Admission where
  /-- The counter is closed. -/
  | refused
  /-- A permit was taken; this is the counter afterwards. -/
  | granted (left : Permits)
  /-- No permit is left, so the caller has to wait. -/
  | waits
  deriving DecidableEq, Repr

namespace Permits

/-- Asks for a permit. -/
def acquire (p : Permits) : Admission :=
  if p.closed then .refused
  else
    match p.permits with
    | 0 => .waits
    | n + 1 => .granted { p with permits := n }

/-- Hands a permit back, also to a closed counter. -/
def release (p : Permits) : Permits :=
  { p with permits := p.permits + 1 }

/-- Admits nobody from now on. -/
def close (p : Permits) : Permits :=
  { p with closed := true }

/-- A caller waits exactly at an open counter without permits. -/
theorem acquire_eq_waits_iff (p : Permits) :
    p.acquire = .waits ↔ p.closed = false ∧ p.permits = 0 := by
  unfold acquire
  cases p.closed <;> cases p.permits <;> simp

end Permits

end HostLookup
