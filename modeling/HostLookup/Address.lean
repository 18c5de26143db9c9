import HostLookup.Text.Digits

/-!
# Internet addresses

Numeric addresses in the forms that a name lookup accepts, and their text.

* An address of version 4 has up to four numbers with dots between them. Each is decimal, or octal
  after a `0`, or hexadecimal after a `0x`. The last number fills all octets that the others leave.
* An address of version 6 has eight groups of up to four hexadecimal digits. One run of zero groups
  may be written as a double colon, the last two groups may be an address of version 4 in its
  plainest form, and the network interface may follow behind a per cent sign. It is given by its
  number, or by its name if the address is one of a single link or machine.

Written out, an address of version 6 has no leading zeros, and the longest run of at least two zero
groups is left out, the first of several. An address that stands for one of version 4 shows it.
-/

namespace HostLookup

/-- An internet address. -/
inductive Address where
  | v4 (octets : Vector UInt8 4)
  | v6 (groups : Vector UInt16 8)
  deriving DecidableEq, Repr

namespace Address

/-! ## Version 4 -/

/-- The octets of a 32-bit number. -/
def octetsOf (value : Nat) : Vector UInt8 4 :=
  #v[(value >>> 24).toUInt8, (value >>> 16).toUInt8, (value >>> 8).toUInt8, value.toUInt8]

/-- One of the numbers of an address. -/
def readNumber : List Char → Option Nat
  | '0' :: 'x' :: digits | '0' :: 'X' :: digits => Text.readDigits 16 digits
  | '0' :: digits => Text.readDigits 8 ('0' :: digits)
  | digits => Text.readDigits 10 digits

/-- Puts the numbers together, the first of which is `value` so far. All but the last are octets,
and the last is smaller than the room that is left. -/
def combine (value : Nat) (room : Nat) : List Nat → Option Nat
  | [] => none
  | [last] => if last < room then some (value * room + last) else none
  | octet :: rest => if octet < 256 then combine (value * 256 + octet) (room / 256) rest else none

/-- Reads an address of version 4 in any of its forms. -/
def readV4 (cs : List Char) : Option (Vector UInt8 4) :=
  let parts := cs.splitOn '.'
  if parts.length ≤ 4 then
    ((parts.mapM readNumber).bind (combine 0 (1 <<< 32))).map octetsOf
  else none

/-- One of four decimal numbers below 256, without leading zeros. -/
def readOctet (digits : List Char) : Option Nat :=
  if digits.length ≤ 3 ∧ (digits.head? ≠ some '0' ∨ digits.length = 1) then
    (Text.readDigits 10 digits).filter (· < 256)
  else none

/-- An address of version 4 in its plainest form, as two groups of version 6. -/
def readDotted (cs : List Char) : Option (List Nat) :=
  match (cs.splitOn '.').mapM readOctet with
  | some [a, b, c, d] => some [a * 256 + b, c * 256 + d]
  | _ => none

/-! ## Version 6 -/

/-- A group of version 6. -/
def readGroup (digits : List Char) : Option Nat :=
  if digits.length ≤ 4 then Text.readDigits 16 digits else none

/-- Groups with colons between them. The last piece may be two groups in dotted form. -/
def readGroups (allowDotted : Bool) : List (List Char) → Option (List Nat)
  | [] => some []
  | [last] =>
    match readGroup last with
    | some group => some [group]
    | none => if allowDotted then readDotted last else none
  | piece :: rest =>
    match readGroup piece, readGroups allowDotted rest with
    | some group, some groups => some (group :: groups)
    | _, _ => none

/-- The groups on one side of a double colon, where there may be none. -/
def readSide (allowDotted : Bool) (cs : List Char) : Option (List Nat) :=
  if cs.isEmpty then some [] else readGroups allowDotted (cs.splitOn ':')

/-- Splits a text at its first double colon. The text before it is in `before`, in reverse. -/
def splitGap (before : List Char) : List Char → Option (List Char × List Char)
  | ':' :: ':' :: after => some (before.reverse, after)
  | c :: after => splitGap (c :: before) after
  | [] => none

/-- The groups of an address of version 6. A double colon stands for at least one group. -/
def readGroupList (cs : List Char) : Option (List Nat) :=
  match splitGap [] cs with
  | none => readGroups true (cs.splitOn ':')
  | some (before, after) =>
    match readSide false before, readSide true after with
    | some front, some back =>
      if front.length + back.length < 8 then
        some (front ++ List.replicate (8 - front.length - back.length) 0 ++ back)
      else none
    | _, _ => none

/-- Reads an address of version 6 without an interface. -/
def readV6 (cs : List Char) : Option (Vector UInt16 8) :=
  match readGroupList cs with
  | none => none
  | some groups =>
    let groups := (groups.map Nat.toUInt16).toArray
    if h : groups.size = 8 then some ⟨groups, h⟩ else none

/-! ## Interfaces -/

/-- Is an address good for a single link or a single machine only? Then every interface may have
one of its own. The groups that multicast begins with carry the reach in their last four bits. -/
def isLocal (groups : Vector UInt16 8) : Bool :=
  groups[0] &&& 0xFFC0 = 0xFE80 || groups[0] &&& 0xFF0F = 0xFF01 || groups[0] &&& 0xFF0F = 0xFF02

/-- The bytes of a name that is too long for an interface. -/
def interfaceLimit : Nat := 16

/-- Does a text name the interface through which a machine reaches itself, the only one that every
machine has? What stands behind a colon is no part of the name. -/
def namesLoopback (scope : List Char) : Bool :=
  (String.ofList scope).utf8ByteSize < interfaceLimit && scope.takeWhile (· ≠ ':') = ['l', 'o']

/-- Is a text the number of an interface? It has 32 bits. -/
def isInterfaceNumber (scope : List Char) : Bool :=
  (Text.readDigits 10 scope).any (· < 1 <<< 32)

/-- May an address have a text as its interface? -/
def allows (groups : Vector UInt16 8) (scope : List Char) : Bool :=
  isInterfaceNumber scope || (isLocal groups && namesLoopback scope)

/-- Reads an address of version 6, and forgets its interface if one is given. -/
def readScoped (cs : List Char) : Option (Vector UInt16 8) :=
  match cs.dropWhile (· ≠ '%') with
  | [] => readV6 cs
  | _ :: scope => (readV6 (cs.takeWhile (· ≠ '%'))).filter (allows · scope)

/-- Reads a numeric address. -/
def ofText? (text : String) : Option Address :=
  match readV4 text.toList with
  | some octets => some (.v4 octets)
  | none => (readScoped text.toList).map .v6

/-! ## Text of addresses -/

/-- The text of four octets. -/
def dotted (octets : List UInt8) : String :=
  String.intercalate "." (octets.map fun octet => toString octet.toNat)

/-- The text of groups without a gap. -/
def colonized (groups : List UInt16) : String :=
  String.intercalate ":" (groups.map fun group => String.ofList (Text.hexDigits group.toNat))

/-- The length of the run of zeros at the front. -/
def zeroRun (groups : List UInt16) : Nat :=
  (groups.takeWhile (· = 0)).length

/-- The longest run of zeros, the first of several, as its place and its length. -/
def longestGap (groups : List UInt16) : Nat × Nat :=
  (List.range groups.length).foldl
    (fun best start =>
      let run := zeroRun (groups.drop start)
      if best.2 < run then (start, run) else best)
    (0, 0)

/-- The text of eight groups. -/
def textOfGroups (groups : List UInt16) : String :=
  match groups with
  | [0, 0, 0, 0, 0, 0xFFFF, high, low] =>
    "::ffff:" ++ dotted [(high >>> 8).toUInt8, high.toUInt8, (low >>> 8).toUInt8, low.toUInt8]
  | groups =>
    match longestGap groups with
    | (start, run) =>
      if 2 ≤ run then
        colonized (groups.take start) ++ "::" ++ colonized (groups.drop (start + run))
      else colonized groups

/-- The text of an address. -/
def text : Address → String
  | .v4 octets => dotted octets.toList
  | .v6 groups => textOfGroups groups.toList

/-- Is this an address of version 4? -/
def isV4 : Address → Bool
  | .v4 _ => true
  | .v6 _ => false

end Address

end HostLookup
