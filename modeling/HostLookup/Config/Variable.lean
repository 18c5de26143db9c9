import HostLookup.Config.Value
import HostLookup.Text.Blank
import HostLookup.Text.Digits

/-!
# Settings in environment variables

A variable whose name begins with `MULTI_LOOKUP_`, in whatever case, sets the key behind it. Dots
in the key lead into tables. The text of a variable is read as a value if all of it is one: a
truth value, a number, a text in quotes, a list in brackets or a table in braces; any other text
is itself.
-/

namespace HostLookup.Variable

/-! ## Names -/

/-- What the names of the variables begin with. -/
def namePrefix : String := "MULTI_LOOKUP_"

/-- The parts of the key that a variable sets, if it sets one. No part is empty. -/
def key? (name : String) : Option (List String) :=
  let name := Text.trimmed name.toList
  let front := namePrefix.toList.map Char.toLower
  if (name.take front.length).map Char.toLower = front then
    let key := Text.trimmed (name.drop front.length)
    let parts := (key.map Char.toLower).splitOn '.'
    if parts.any List.isEmpty then none else some (parts.map String.ofList)
  else none

/-! ## Numbers and plain texts -/

/-- White space around a value, of which the value itself is no part. -/
def isSpace (c : Char) : Bool :=
  c = ' ' || c = '\t' || c = '\n' || c = '\x0C' || c = '\r'

/-- A character that ends a plain text. -/
def isSeparator (c : Char) : Bool :=
  c = ',' || c = '\x7b' || c = '\x7d' || c = '[' || c = ']'

/-- A negative number of the machine's word size. -/
def negative? : List Char → Option Int
  | '-' :: digits => ((Text.readDigits 10 digits).filter (· ≤ 1 <<< 63)).map fun n => -(n : Int)
  | _ => none

/-- The digits on both sides of a point, of which one side may be missing. -/
def mantissa? (cs : List Char) : Option (Nat × Nat) :=
  let whole := cs.takeWhile Char.isDigit
  let places :=
    match cs.drop whole.length with
    | '.' :: places => some places
    | [] => some []
    | _ => none
  places.bind fun places =>
    (Text.readDigits 10 (whole ++ places)).map fun digits => (digits, places.length)

/-- An exponent with or without a sign. -/
def exponent? : List Char → Option Int
  | '-' :: digits => (Text.readDigits 10 digits).map fun n => -(n : Int)
  | '+' :: digits | digits => (Text.readDigits 10 digits).map fun n => (n : Int)

/-- A number with a point. -/
def decimal? (cs : List Char) : Option Float := do
  guard (cs.contains '.')
  let (negative, cs) :=
    match cs with
    | '-' :: cs => (true, cs)
    | '+' :: cs => (false, cs)
    | cs => (false, cs)
  let (digits, places) ← mantissa? (cs.takeWhile fun c => c ≠ 'e' && c ≠ 'E')
  let power ←
    match cs.dropWhile fun c => c ≠ 'e' && c ≠ 'E' with
    | [] => some 0
    | _ :: exponent => exponent? exponent
  let scale := power - places
  let value := Float.ofScientific digits (scale < 0) scale.natAbs
  return if negative then -value else value

/-- A text without quotes as a value. -/
def plain (cs : List Char) : Value :=
  match decimal? cs, Text.readWord cs, negative? cs with
  | some x, _, _ => .decimal x
  | none, some n, _ => .unsigned n
  | none, none, some i => .signed i
  | none, none, none => .text (String.ofList cs)

/-! ## Quoted texts -/

/-- The character that digits stand for, unless it is a surrogate or out of range. -/
def scalar? (digits : List Char) : Option Char :=
  (Text.readDigits 16 digits).bind fun n => if n.isValidChar then some (Char.ofNat n) else none

/-- As many characters from the front of a text as so many octets can hold. -/
def takeOctets : Nat → List Char → List Char
  | room, c :: cs => if c.utf8Size ≤ room then c :: takeOctets (room - c.utf8Size) cs else []
  | _, [] => []

/-- What is kept of the text in front of its first escape: as many octets as it has characters. This
is all of it as long as the characters are ASCII. -/
def keptFront (front : List Char) : List Char :=
  takeOctets front.length front

/-- Reads the rest of a text in quotes, after the characters in `acc`, which are in reverse and
among which there was an escape if `escaped`. -/
def readQuoted : Nat → Bool → List Char → List Char → Option (String × List Char)
  | 0, _, _, _ => none
  | fuel + 1, escaped, acc, cs =>
    match cs with
    | '"' :: rest => some (String.ofList acc.reverse, rest)
    | '\\' :: c :: rest =>
      let acc := if escaped then acc else (keptFront acc.reverse).reverse
      match c with
      | '"' | '\\' => readQuoted fuel true (c :: acc) rest
      | 'b' => readQuoted fuel true ('\x08' :: acc) rest
      | 'f' => readQuoted fuel true ('\x0C' :: acc) rest
      | 'n' => readQuoted fuel true ('\n' :: acc) rest
      | 'r' => readQuoted fuel true ('\r' :: acc) rest
      | 't' => readQuoted fuel true ('\t' :: acc) rest
      | 'u' =>
        if rest.length < 4 then none
        else (scalar? (rest.take 4)).bind fun c => readQuoted fuel true (c :: acc) (rest.drop 4)
      | 'U' =>
        if rest.length < 8 then none
        else (scalar? (rest.take 8)).bind fun c => readQuoted fuel true (c :: acc) (rest.drop 8)
      | _ => none
    | c :: rest =>
      if c = '\\' || (c.toNat < 0x20 && c ≠ '\t') || c.toNat = 0x7F then none
      else readQuoted fuel escaped (c :: acc) rest
    | [] => none

/-- Plain ASCII text is kept whole. -/
theorem keptFront_of_ascii {front : List Char} (ascii : ∀ c ∈ front, c.utf8Size = 1) :
    keptFront front = front := by
  unfold keptFront
  induction front with
  | nil => rfl
  | cons c cs ih => simp_all [takeOctets]

/-! ## Values -/

/-- Reads the name of a field. -/
def readName (cs : List Char) : Option (String × List Char) :=
  match cs with
  | '"' :: rest => readQuoted (rest.length + 1) false [] rest
  | cs =>
    match cs.span fun c => c.isAlphanum || c = '_' || c = '-' with
    | ([], _) => none
    | (name, rest) => some (String.ofList name, rest)

mutual

/-- Reads a value and the white space around it. -/
def readValue (fuel : Nat) (cs : List Char) : Option (Value × List Char) :=
  match fuel with
  | 0 => none
  | fuel + 1 =>
    let read : Option (Value × List Char) :=
      match cs.dropWhile isSpace with
      | 't' :: 'r' :: 'u' :: 'e' :: rest => some (Value.boolean true, rest)
      | 'f' :: 'a' :: 'l' :: 's' :: 'e' :: rest => some (Value.boolean false, rest)
      | '\x7b' :: rest =>
        (readFields fuel rest).map fun (entries, rest) => (Value.table entries, rest)
      | '[' :: rest => (readItems fuel rest).map fun (items, rest) => (Value.list items, rest)
      | '"' :: rest =>
        (readQuoted (rest.length + 1) false [] rest).map fun (s, rest) => (Value.text s, rest)
      | '\'' :: c :: '\'' :: rest => some (.text (String.singleton c), rest)
      | '\'' :: _ => none
      | cs =>
        let (body, rest) := cs.span fun c => !isSeparator c
        some (plain (Text.trimmed body), rest)
    read.map fun (value, rest) => (value, rest.dropWhile isSpace)

/-- Reads the items of a list up to the closing bracket. -/
def readItems (fuel : Nat) (cs : List Char) : Option (List Value × List Char) :=
  match fuel, cs with
  | 0, _ => none
  | _ + 1, ']' :: rest => some ([], rest)
  | fuel + 1, cs =>
    match readValue fuel cs with
    | some (item, ',' :: rest) =>
      (readItems fuel rest).map fun (items, rest) => (item :: items, rest)
    | some (item, ']' :: rest) => some ([item], rest)
    | _ => none

/-- Reads the fields of a table up to the closing brace. -/
def readFields (fuel : Nat) (cs : List Char) : Option (List (String × Value) × List Char) :=
  match fuel, cs with
  | 0, _ => none
  | _ + 1, '\x7d' :: rest => some ([], rest)
  | fuel + 1, cs =>
    match readName (cs.dropWhile isSpace) with
    | none => none
    | some (name, rest) =>
      match rest.dropWhile isSpace with
      | '=' :: rest =>
        match readValue fuel rest with
        | some (value, ',' :: rest) =>
          (readFields fuel rest).map fun (entries, rest) => ((name, value) :: entries, rest)
        | some (value, '\x7d' :: rest) => some ([(name, value)], rest)
        | _ => none
      | _ => none

end

/-- The value of a text: what it reads as from its beginning to its end, or else itself. -/
def value (text : String) : Value :=
  let cs := text.toList
  match readValue (2 * cs.length + 2) cs with
  | some (value, []) => value
  | _ => .text text

/-- A value inside as many tables as the key has further parts. -/
def nest (parts : List String) (value : Value) : Value :=
  parts.foldr (fun part value => .table [(part, value)]) value

/-- The setting in a variable, if it is one. -/
def setting? (entry : String × String) : Option (String × Value) :=
  match key? entry.1 with
  | some (first :: parts) => some (first, nest parts (value entry.2))
  | _ => none

end HostLookup.Variable
