import HostLookup.Decimal.Shortest

/-!
# How doubles are written

Three ways: `plain` writes all digits without an exponent and a whole number without a point;
`structured` is the form of structured documents, which always shows a point or an exponent;
`places` rounds to a fixed number of digits behind the point.
-/

namespace HostLookup.Decimal

/-- So many zeros. -/
def zeros (n : Nat) : String :=
  String.ofList (List.replicate n '0')

/-- Digits times a power of ten, without an exponent. `whole` is added to a number without a
fraction. -/
def positional (whole : String) (s : Scientific) : String :=
  let digits := toString s.digits
  if 0 ≤ s.exponent then digits ++ zeros s.exponent.toNat ++ whole
  else
    let behind := (-s.exponent).toNat
    if digits.length ≤ behind then "0." ++ zeros (behind - digits.length) ++ digits
    else
      String.ofList (digits.toList.take (digits.length - behind)) ++ "." ++
        String.ofList (digits.toList.drop (digits.length - behind))

/-- Digits times a power of ten, with an exponent. -/
def exponential (s : Scientific) : String :=
  let digits := toString s.digits
  let power := s.exponent + (digits.length - 1 : Nat)
  let behind := String.ofList (digits.toList.drop 1)
  String.ofList (digits.toList.take 1) ++ (if behind = "" then "" else "." ++ behind) ++ "e" ++
    (if 0 ≤ power then "+" else "") ++ toString power

/-- The number of digits in front of the point. -/
def point (s : Scientific) : Int :=
  s.exponent + (toString s.digits).length

/-- The form of structured documents: without an exponent from 0.00001 up to 16 digits in front of
the point. -/
def structuredDigits (s : Scientific) : String :=
  if -5 < point s ∧ point s ≤ 16 then positional ".0" s else exponential s

/-- Writes a double by a function for its shortest digits. -/
def write (zero : String) (digits : Scientific → String) : Binary → String
  | .finite negative mantissa exponent =>
    let text :=
      if mantissa = 0 then zero
      else
        match shortest? mantissa exponent with
        | some s => digits s
        | none => zero
    if negative then "-" ++ text else text
  | .infinite negative => if negative then "-inf" else "inf"
  | .notANumber => "NaN"

/-- All digits, without an exponent. -/
def plain (x : Float) : String :=
  write "0" (positional "") (.of x)

/-- The form of structured documents. -/
def structured (x : Float) : String :=
  write "0.0" structuredDigits (.of x)

/-- A quotient rounded to the nearest whole number, a half to the even one. -/
def roundDiv (num den : Nat) : Nat :=
  let below := num / den
  let twice := 2 * (num % den)
  if twice < den then below
  else if den < twice then below + 1
  else if below % 2 = 0 then below else below + 1

/-- A number of hundredths with two digits behind the point. -/
def hundredths (n : Nat) : String :=
  toString (n / 100) ++ "." ++ (if n % 100 < 10 then "0" else "") ++ toString (n % 100)

/-- The exact value rounded to two digits behind the point. -/
def twoPlaces (x : Float) : String :=
  match Binary.of x with
  | .finite negative mantissa exponent =>
    let value := scaled 2 (100 * mantissa) exponent
    (if negative then "-" else "") ++ hundredths (roundDiv value.1 value.2)
  | other => write "" (fun _ => "") other

/-- A rounded quotient is at most half a unit away. -/
theorem roundDiv_near {den : Nat} (num : Nat) (h : 0 < den) :
    2 * num ≤ 2 * (roundDiv num den * den) + den ∧
      2 * (roundDiv num den * den) ≤ 2 * num + den := by
  have whole := Nat.div_add_mod' num den
  have small := Nat.mod_lt num h
  have next : (num / den + 1) * den = num / den * den + den := Nat.succ_mul ..
  unfold roundDiv
  simp only
  split
  · omega
  · split
    · omega
    · split <;> omega

end HostLookup.Decimal
