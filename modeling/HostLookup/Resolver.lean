import HostLookup.Address
import HostLookup.Failure.Basic

/-!
# Resolvers

A resolver gives a host name an address, in the form in which it is logged. The system's lookup
knows numeric addresses without asking anyone, and here it knows nothing else; a name with a zero
byte is refused before it is looked up. A fixed table answers for exactly the names in it. A
resolver may also panic.
-/

namespace HostLookup

/-- What comes of looking a host name up. -/
inductive Lookup where
  | found (address : String)
  | failed (error : ResolveError)
  | panicked
  deriving DecidableEq, Repr

namespace Resolver

/-- The address to use of those found: the first, or the first of version 4 if there is one and it
is preferred. -/
def pick (preferV4 : Bool) (addresses : List Address) : Option Address :=
  if preferV4 then
    match addresses.find? Address.isV4 with
    | some address => some address
    | none => addresses.head?
  else addresses.head?

/-- The failure of a lookup for a name that nobody knows. -/
def unknownName : IoFailure :=
  .described .other "failed to lookup address information: Name or service not known"

/-- All addresses of a name. -/
def addresses (host : String) : Except IoFailure (List Address) :=
  if '\x00' ∈ host.toList then .error .zeroByte
  else
    match Address.ofText? host with
    | some address => .ok [address]
    | none => .error unknownName

/-- Looks a name up in the system. -/
def system (preferV4 : Bool) (host : String) : Lookup :=
  match addresses host with
  | .error failure => .failed (.lookup host failure)
  | .ok found =>
    match pick preferV4 found with
    | some address => .found address.text
    | none => .failed (.noAddress host)

/-- Looks a name up in a table; of entries with one name the last counts. -/
def table (entries : List (String × String)) (host : String) : Lookup :=
  match entries.reverse.lookup host with
  | some address => .found address
  | none => .failed (.noAddress host)

/-- A resolver that panics at some names. -/
def panickingAt (hosts : List String) (resolver : String → Lookup) (host : String) : Lookup :=
  if host ∈ hosts then .panicked else resolver host

/-- An address is picked whenever one was found. -/
theorem isSome_pick (preferV4 : Bool) (address : Address) (found : List Address) :
    (pick preferV4 (address :: found)).isSome = true := by
  unfold pick
  split
  · split <;> simp
  · simp

end Resolver

end HostLookup
