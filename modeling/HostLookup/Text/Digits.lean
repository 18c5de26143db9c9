/-!
# Numbers in positional notation

`readDigits base` reads a text that consists of digits of a base up to 16 and nothing else, in
either case. `readWord` reads a decimal number that fits a machine word. `hexDigits` writes a
number with lower-case digits and without leading zeros.
-/

namespace HostLookup.Text

/-- The value of a hexadecimal digit. -/
def digitValue (c : Char) : Option Nat :=
  if '0' ≤ c ∧ c ≤ '9' then some (c.toNat - '0'.toNat)
  else if 'a' ≤ c ∧ c ≤ 'f' then some (c.toNat - 'a'.toNat + 10)
  else if 'A' ≤ c ∧ c ≤ 'F' then some (c.toNat - 'A'.toNat + 10)
  else none

/-- The value of a digit of a base. -/
def digitIn (base : Nat) (c : Char) : Option Nat :=
  (digitValue c).filter (· < base)

/-- Is this a digit of the base? -/
def isDigitIn (base : Nat) (c : Char) : Bool :=
  (digitIn base c).isSome

/-- The number that digits stand for, most significant digit first. -/
def ofDigits (base : Nat) (digits : List Nat) : Nat :=
  digits.foldl (fun value digit => base * value + digit) 0

/-- Reads a number of at least one digit. -/
def readDigits (base : Nat) (cs : List Char) : Option Nat :=
  match cs with
  | [] => none
  | cs => (cs.mapM (digitIn base)).map (ofDigits base)

/-- Reads a number of the machine's word size without a sign; a plus in front of it is allowed. -/
def readWord (cs : List Char) : Option Nat :=
  let digits := if cs.head? = some '+' then cs.tail else cs
  (readDigits 10 digits).filter (· < 1 <<< 64)

/-- A number in hexadecimal notation. -/
def hexDigits (n : Nat) : List Char :=
  Nat.toDigits 16 n

end HostLookup.Text
