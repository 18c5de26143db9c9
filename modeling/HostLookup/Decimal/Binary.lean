/-!
# Doubles as fractions

A double is a sign, a mantissa and a power of two, unless it is infinite or not a number.
`Binary.of` reads these off its bits, so everything that is written about a double is worked out
in whole numbers.
-/

namespace HostLookup

/-- What the bits of a double stand for. -/
inductive Binary where
  /-- `mantissa * 2 ^ exponent`, with a minus sign if `negative`. -/
  | finite (negative : Bool) (mantissa : Nat) (exponent : Int)
  | infinite (negative : Bool)
  | notANumber
  deriving DecidableEq, Repr

namespace Binary

/-- The place of the lowest mantissa bit of the smallest doubles. -/
def leastExponent : Int := -1074

/-- Takes the 64 bits of a double apart. -/
def ofBits (bits : Nat) : Binary :=
  let negative := (bits >>> 63) % 2 = 1
  let field := (bits >>> 52) % 2048
  let fraction := bits % (1 <<< 52)
  if field = 2047 then (if fraction = 0 then .infinite negative else .notANumber)
  else if field = 0 then .finite negative fraction leastExponent
  else .finite negative ((1 <<< 52) + fraction) (leastExponent + (field - 1 : Nat))

/-- The value of a double. -/
def of (x : Float) : Binary :=
  ofBits x.toBits.toNat

end Binary

/-- The part of a fraction above the line, and the part below it, for a number times a power. -/
def scaled (base number : Nat) (exponent : Int) : Nat × Nat :=
  if 0 ≤ exponent then (number * base.pow exponent.toNat, 1)
  else (number, base.pow (-exponent).toNat)

end HostLookup
