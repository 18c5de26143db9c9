import HostLookup.Decimal.Binary

/-!
# The fewest digits that read back

A double stands for every real number that is nearer to it than to its neighbours. Among the
decimal numbers of that interval `shortest?` picks one with the fewest digits, and of those the
one nearest to the double. The ends of the interval belong to it when the mantissa is even. Below
a power of two the next double is only half as far away, except among the smallest doubles.

For each number of digits only the two decimal numbers next to the double have to be tried.
-/

namespace HostLookup.Decimal

/-- A decimal number `digits * 10 ^ exponent`. -/
structure Scientific where
  digits : Nat
  exponent : Int
  deriving DecidableEq, Repr

/-- The numbers that round to a double, in quarters of the unit of its last place. -/
structure Rounding where
  /-- Four times the mantissa. -/
  value : Nat
  low : Nat
  high : Nat
  /-- The power of two of a quarter. -/
  exponent : Int
  endsIncluded : Bool
  deriving Repr

namespace Rounding

/-- The interval around a finite double that is not zero. -/
def around (mantissa : Nat) (exponent : Int) : Rounding where
  value := 4 * mantissa
  low := if mantissa = 1 <<< 52 ∧ Binary.leastExponent < exponent then 4 * mantissa - 1
    else 4 * mantissa - 2
  high := 4 * mantissa + 2
  exponent := exponent - 2
  endsIncluded := mantissa % 2 = 0

/-- A number of quarters, times a power of ten, as a fraction. -/
def fraction (r : Rounding) (quarters : Nat) (power : Int) : Nat × Nat :=
  let binary := scaled 2 quarters r.exponent
  let decimal := scaled 10 1 power
  (binary.1 * decimal.1, binary.2 * decimal.2)

/-- Does a decimal number round to the double? -/
def contains (r : Rounding) (s : Scientific) : Bool :=
  let low := r.fraction r.low (-s.exponent)
  let high := r.fraction r.high (-s.exponent)
  if r.endsIncluded then low.1 ≤ s.digits * low.2 ∧ s.digits * high.2 ≤ high.1
  else low.1 < s.digits * low.2 ∧ s.digits * high.2 < high.1

/-- Of two neighbours on a grid, the one below and the one above the double, the nearer one; a tie
goes to the even one. -/
def nearer (r : Rounding) (below : Scientific) : Scientific :=
  let value := r.fraction r.value (-below.exponent)
  let above : Scientific := { below with digits := below.digits + 1 }
  let twice := 2 * value.1
  let middle := (2 * below.digits + 1) * value.2
  if twice < middle then below
  else if middle < twice then above
  else if below.digits % 2 = 0 then below else above

/-- The decimal number on a grid that stands for the double, if there is one. -/
def onGrid? (r : Rounding) (exponent : Int) : Option Scientific :=
  let value := r.fraction r.value (-exponent)
  let below : Scientific := ⟨value.1 / value.2, exponent⟩
  let above : Scientific := { below with digits := below.digits + 1 }
  match r.contains below, r.contains above with
  | true, true => some (r.nearer below)
  | true, false => some below
  | false, true => some above
  | false, false => none

/-- The largest power of ten that is not above the double, searched downwards. -/
def magnitude (r : Rounding) : Nat → Int → Int
  | 0, power => power
  | fuel + 1, power =>
    let value := r.fraction r.value (-power)
    if value.2 ≤ value.1 then power else magnitude r fuel (power - 1)

end Rounding

/-- The number without trailing zeros in its digits. -/
def Scientific.trimmed : Nat → Scientific → Scientific
  | 0, s => s
  | fuel + 1, s =>
    if s.digits ≠ 0 ∧ s.digits % 10 = 0 then trimmed fuel ⟨s.digits / 10, s.exponent + 1⟩ else s

/-- The shortest decimal number for a finite double that is not zero. -/
def shortest? (mantissa : Nat) (exponent : Int) : Option Scientific :=
  let r := Rounding.around mantissa exponent
  let top := r.magnitude 640 309
  ((List.range 17).findSome? fun (n : Nat) => r.onGrid? (top - n)).map (Scientific.trimmed 20)

end HostLookup.Decimal
