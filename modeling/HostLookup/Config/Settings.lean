import HostLookup.Failure.Basic

/-!
# Settings

The limits and markers of a run, and the conditions under which a run with them can work at all: a
queue has a slot, a slot has a byte to use, and the two markers are told apart from each other and
from nothing. `Settings.check` names the first setting that breaks one of them.
-/

namespace HostLookup

/-- The limits and markers of a run. -/
structure Settings where
  /-- Slots of each queue. -/
  queueCapacity : Nat := 8
  /-- Slot size for host names, the reserved byte included. -/
  maxNameLength : Nat := 1025
  /-- Slot size for names of data files, the reserved byte included. -/
  maxFileNameLength : Nat := 4096
  maxRequesterThreads : Nat := 10
  maxResolverThreads : Nat := 10
  maxInputFiles : Nat := 100
  /-- The text that marks the end of the work. -/
  sentinel : String := "\x7bEND\x7d"
  /-- Logged in the place of an address that was not found. -/
  notResolved : String := "NOT_RESOLVED"
  /-- Is an address of version 4 preferred where a name has several? -/
  preferIpv4 : Bool := true
  deriving DecidableEq, Repr

namespace Settings

/-- A slot holds at least one byte, and the sentinel. -/
def checkSlot (sentinel : String) (parameter : String) (length : Nat) : Except Failure Unit :=
  if length < 2 then
    .error (.config parameter "must leave room for at least one byte plus the terminator")
  else if length ≤ sentinel.utf8ByteSize then
    .error (.config "sentinel" ("'" ++ sentinel ++ "' does not fit a " ++ parameter ++
      " slot of " ++ toString length ++ " bytes"))
  else .ok ()

/-- The markers are there and differ. -/
def checkMarkers (sentinel notResolved : String) : Except Failure Unit :=
  if sentinel = "" then .error (.config "sentinel" "must not be empty")
  else if notResolved = "" then .error (.config "not_resolved" "must not be empty")
  else if notResolved = sentinel then
    .error (.config "not_resolved" "must differ from the sentinel")
  else .ok ()

/-- Can a run work with these settings? -/
def check (s : Settings) : Except Failure Unit :=
  if s.queueCapacity = 0 then .error (.config "queue_capacity" "must be at least 1")
  else do
    checkSlot s.sentinel "max_name_length" s.maxNameLength
    checkSlot s.sentinel "max_file_name_length" s.maxFileNameLength
    checkMarkers s.sentinel s.notResolved

theorem checkSlot_eq_ok_iff (sentinel parameter : String) (length : Nat) :
    checkSlot sentinel parameter length = .ok () ↔
      2 ≤ length ∧ sentinel.utf8ByteSize < length := by
  unfold checkSlot
  split
  · simp; omega
  · split <;> simp <;> omega

theorem checkMarkers_eq_ok_iff (sentinel notResolved : String) :
    checkMarkers sentinel notResolved = .ok () ↔
      sentinel ≠ "" ∧ notResolved ≠ "" ∧ notResolved ≠ sentinel := by
  unfold checkMarkers
  split
  · simp [*]
  · split
    · simp [*]
    · split <;> simp [*]

end Settings

end HostLookup
