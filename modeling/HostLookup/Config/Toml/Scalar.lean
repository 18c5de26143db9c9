import HostLookup.Config.Value
import HostLookup.Text.Digits

/-!
# Numbers and dates of TOML

A number or date is the longest run of the characters that may occur in one, and it has to be well
formed from its first character to its last. Underscores may stand between two digits. Whole numbers
fit 64 bits with a sign; those in base 16, 8 or 2 have no sign.
-/

namespace HostLookup.Toml

/-- A character of a number or date. -/
def isWordChar (c : Char) : Bool :=
  c.isAlphanum || c = '_' || c = '+' || c = '-' || c = '.' || c = ':'

/-- Takes the digits that may have single underscores between them. -/
def digitGroups? (base : Nat) (cs : List Char) : Option (List Char) :=
  let groups := cs.splitOn '_'
  if groups.all fun group => !group.isEmpty && group.all (Text.isDigitIn base) then
    some groups.flatten
  else none

/-! ## Whole numbers -/

/-- Is this the decimal part of a number in front of its point? It has no leading zero. -/
def isWhole (cs : List Char) : Bool :=
  (digitGroups? 10 cs).isSome && (cs = ['0'] || cs.head? ≠ some '0')

/-- Takes a sign off a number. -/
def splitSign : List Char → Bool × List Char
  | '-' :: cs => (true, cs)
  | '+' :: cs => (false, cs)
  | cs => (false, cs)

/-- A number within 64 bits with a sign. -/
def int64? (n : Int) : Option Value :=
  let half : Nat := 1 <<< 63
  if -half ≤ n ∧ n < half then some (.signed n) else none

/-- The value of digits with underscores. -/
def groupsValue? (base : Nat) (cs : List Char) : Option Nat :=
  (digitGroups? base cs).bind (Text.readDigits base)

/-- Reads a whole number. -/
def integer? : List Char → Option Value
  | '0' :: 'x' :: cs => (groupsValue? 16 cs).bind fun n => int64? n
  | '0' :: 'o' :: cs => (groupsValue? 8 cs).bind fun n => int64? n
  | '0' :: 'b' :: cs => (groupsValue? 2 cs).bind fun n => int64? n
  | cs =>
    let (negative, digits) := splitSign cs
    if isWhole digits then
      (groupsValue? 10 digits).bind fun n => int64? (if negative then -n else n)
    else none

/-! ## Fractions -/

/-- Splits a text at the first character of a class. -/
def splitAtFirst (p : Char → Bool) (cs : List Char) : List Char × Option (List Char) :=
  match cs.span fun c => !p c with
  | (front, _ :: back) => (front, some back)
  | (front, []) => (front, none)

/-- The double with a decimal value `digits * 10 ^ exponent`. -/
def toDouble (digits : Nat) (exponent : Int) : Float :=
  Float.ofScientific digits (exponent < 0) exponent.natAbs

/-- The exponent of a number, which may have a sign. -/
def exponent? (cs : List Char) : Option Int :=
  let (negative, digits) := splitSign cs
  (groupsValue? 10 digits).map fun n => if negative then -n else n

/-- A number without a sign, from its parts. -/
def fraction? (whole : List Char) (behind exponent : Option (List Char)) : Option Float := do
  guard (isWhole whole)
  guard (behind.isSome || exponent.isSome)
  let places ← match behind with
    | none => some []
    | some cs => digitGroups? 10 cs
  let power ← match exponent with
    | none => some 0
    | some cs => exponent? cs
  let digits ← (digitGroups? 10 whole).bind fun cs => Text.readDigits 10 (cs ++ places)
  return toDouble digits (power - places.length)

/-- Reads a number with a point or an exponent, or one of the two that are no numbers. A number that
is too large for a double is refused; one that is too small is the negative infinity. -/
def float? (cs : List Char) : Option Value :=
  let (negative, cs) := splitSign cs
  let value? :=
    match cs with
    | ['i', 'n', 'f'] => some (1.0 / 0.0)
    | ['n', 'a', 'n'] => some (0.0 / 0.0)
    | cs =>
      let (mantissa, exponent) := splitAtFirst (fun c => c = 'e' || c = 'E') cs
      let (whole, behind) := splitAtFirst (· = '.') mantissa
      (fraction? whole behind exponent).filter fun value => negative || !value.isInf
  value?.map fun value => .decimal (if negative then -value else value)

/-! ## Dates and times -/

/-- A number of exactly so many digits within bounds. -/
def field? (width low high : Nat) (cs : List Char) : Option Nat :=
  if cs.length = width then (Text.readDigits 10 cs).filter fun n => low ≤ n ∧ n ≤ high else none

/-- The number of days of a month. -/
def daysOf (year month : Nat) : Nat :=
  match month with
  | 2 => if year % 4 = 0 ∧ (year % 100 ≠ 0 ∨ year % 400 = 0) then 29 else 28
  | 4 | 6 | 9 | 11 => 30
  | _ => 31

/-- Is this a day, as year, month and day? -/
def isDate (cs : List Char) : Bool :=
  match cs.splitOn '-' with
  | [year, month, day] =>
    match field? 4 0 9999 year, field? 2 1 12 month with
    | some year, some month => (field? 2 1 (daysOf year month) day).isSome
    | _, _ => false
  | _ => false

/-- Is this a time of day, with or without a fraction of the second? -/
def isTime (cs : List Char) : Bool :=
  match cs.splitOn ':' with
  | [hour, minute, second] =>
    let (second, fraction) := splitAtFirst (· = '.') second
    (field? 2 0 23 hour).isSome && (field? 2 0 59 minute).isSome && (field? 2 0 60 second).isSome &&
      fraction.all fun digits => !digits.isEmpty && digits.all Char.isDigit
  | _ => false

/-- Is this the distance of a time zone? -/
def isOffset (cs : List Char) : Bool :=
  match cs.splitOn ':' with
  | [hour, minute] => (field? 2 0 23 hour).isSome && (field? 2 0 59 minute).isSome
  | _ => false

/-- Is this a time of day, with or without a time zone? -/
def isZonedTime (cs : List Char) : Bool :=
  isTime cs ||
    match cs.getLast? with
    | some 'Z' | some 'z' => isTime cs.dropLast
    | _ =>
      match splitAtFirst (fun c => c = '+' || c = '-') cs with
      | (time, some offset) => isTime time && isOffset offset
      | (_, none) => false

/-- The name under which the table of a date holds its text. -/
def dateKey : String := "datetime"

/-- A date as a value: a table of its text. -/
def dateValue (cs : List Char) : Value :=
  .table [(dateKey, .text (String.ofList cs))]

/-- Reads a date, a time of day, or both with a `T` between them. -/
def date? (cs : List Char) : Option Value :=
  let (date, time) := splitAtFirst (fun c => c = 'T' || c = 't') cs
  let isWhole :=
    match time with
    | none => isDate cs || isTime cs
    | some time => isDate date && isZonedTime time
  if isWhole then some (dateValue cs) else none

/-! ## Words -/

/-- Reads a word that is a truth value, a number or a date. -/
def word? (cs : List Char) : Option Value :=
  if cs = "true".toList then some (.boolean true)
  else if cs = "false".toList then some (.boolean false)
  else (date? cs).or ((float? cs).or (integer? cs))

/-- Takes a word off a text. A date and a time of day may have a space between them. -/
def splitWord (cs : List Char) : List Char × List Char :=
  match cs.span isWordChar with
  | (date, ' ' :: rest) =>
    match rest.span isWordChar with
    | (time, after) =>
      if isDate date && isZonedTime time then (date ++ 'T' :: time, after) else (date, ' ' :: rest)
  | split => split

end HostLookup.Toml
