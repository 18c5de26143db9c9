import HostLookup.Config.Toml.Scan
import HostLookup.Text.Digits

/-!
# Strings and keys of TOML

A string is basic, with escapes, or literal, without; each kind may also be written over several
lines between three quotes. A newline right behind three opening quotes is dropped, a backslash at
the end of a line drops all blanks and line ends up to the next character, and every line end counts
as a single newline. Up to two quotes may stand inside a string of several lines, and right before
its end.
-/

namespace HostLookup.Toml

/-! ## Escapes -/

/-- The character with a code point, unless it is a surrogate or out of range. -/
def scalar? (n : Nat) : Option Char :=
  if h : n.isValidChar then some (Char.ofNatAux n h) else none

/-- A character given by so many hexadecimal digits. -/
def readCodePoint (digits : Nat) : Scan Char := fun cs =>
  match (Text.readDigits 16 (cs.take digits)).bind scalar? with
  | some c => if digits ≤ cs.length then .ok (c, cs.drop digits) else .error cs
  | none => .error cs

/-- The character that an escape stands for; the backslash has been taken. -/
def readEscape : Scan Char
  | 'b' :: cs => .ok ('\x08', cs)
  | 't' :: cs => .ok ('\t', cs)
  | 'n' :: cs => .ok ('\n', cs)
  | 'f' :: cs => .ok ('\x0C', cs)
  | 'r' :: cs => .ok ('\r', cs)
  | '"' :: cs => .ok ('"', cs)
  | '\\' :: cs => .ok ('\\', cs)
  | 'u' :: cs => readCodePoint 4 cs
  | 'U' :: cs => readCodePoint 8 cs
  | cs => .error cs

/-! ## Strings on one line -/

/-- The rest of a basic string, after the characters in `acc`, which are in reverse. -/
def readBasic : Nat → List Char → Scan String
  | 0, _ => Scan.fail
  | fuel + 1, acc => fun cs =>
    match cs with
    | '"' :: rest => .ok (String.ofList acc.reverse, rest)
    | '\\' :: rest =>
      match readEscape rest with
      | .ok (c, rest) => readBasic fuel (c :: acc) rest
      | .error fault => .error fault
    | c :: rest => if isControl c then .error cs else readBasic fuel (c :: acc) rest
    | [] => .error []

/-- The rest of a literal string. -/
def readLiteral : Scan String := fun cs =>
  match cs.span fun c => c ≠ '\'' && !isControl c with
  | (body, '\'' :: rest) => .ok (String.ofList body, rest)
  | (_, rest) => .error rest

/-! ## Strings over several lines -/

/-- The end of a string of several lines, if it is here: the quotes that still belong to the string,
and what follows. -/
def closing? (quote : Char) (cs : List Char) : Option (List Char × List Char) :=
  let run := (cs.takeWhile (· = quote)).length
  if run < 3 then none
  else some (List.replicate (min run 5 - 3) quote, cs.drop (min run 5))

/-- A text without the blanks and line ends at its front. -/
def dropBlankLines : List Char → List Char
  | '\n' :: cs => dropBlankLines cs
  | '\r' :: '\n' :: cs => dropBlankLines cs
  | c :: cs => if isBlank c then dropBlankLines cs else c :: cs
  | [] => []

/-- What follows a backslash at the end of a line, without blanks and line ends. -/
def afterLineBreak? (cs : List Char) : Option (List Char) :=
  (afterNewline? (cs.dropWhile isBlank)).map dropBlankLines

/-- The rest of a string of several lines between quotes of the given kind. -/
def readLong (quote : Char) (escapes : Bool) : Nat → List Char → Scan String
  | 0, _ => Scan.fail
  | fuel + 1, acc => fun cs =>
    match closing? quote cs with
    | some (quotes, rest) => .ok (String.ofList (acc.reverse ++ quotes), rest)
    | none =>
      match afterNewline? cs with
      | some rest => readLong quote escapes fuel ('\n' :: acc) rest
      | none =>
        match cs with
        | [] => .error []
        | c :: rest =>
          if c = '\\' && escapes then
            match afterLineBreak? rest with
            | some rest => readLong quote escapes fuel acc rest
            | none =>
              match readEscape rest with
              | .ok (c, rest) => readLong quote escapes fuel (c :: acc) rest
              | .error fault => .error fault
          else if isControl c then .error cs
          else readLong quote escapes fuel (c :: acc) rest

/-- A text without the newline at its front, if there is one. -/
def dropNewline (cs : List Char) : List Char :=
  (afterNewline? cs).getD cs

/-- Reads a string of any kind. -/
def readString : Scan String := fun cs =>
  match cs with
  | '"' :: '"' :: '"' :: rest => readLong '"' true (rest.length + 1) [] (dropNewline rest)
  | '\'' :: '\'' :: '\'' :: rest => readLong '\'' false (rest.length + 1) [] (dropNewline rest)
  | '"' :: rest => readBasic (rest.length + 1) [] rest
  | '\'' :: rest => readLiteral rest
  | cs => .error cs

/-! ## Keys -/

/-- How deep lists and tables may be nested in a value, and how many parts a key may have. -/
def maxDepth : Nat := 79

/-- A character of a key without quotes. -/
def isBare (c : Char) : Bool :=
  c.isAlphanum || c = '_' || c = '-'

/-- Reads a key without dots. -/
def readSimpleKey : Scan String := fun cs =>
  match cs with
  | '"' :: rest => readBasic (rest.length + 1) [] rest
  | '\'' :: rest => readLiteral rest
  | cs =>
    match cs.span isBare with
    | ([], rest) => .error rest
    | (name, rest) => .ok (String.ofList name, rest)

/-- Reads the further parts of a key with dots, each with the dot before it. -/
def readKeyParts : Nat → Scan (List String)
  | 0 => Scan.fail
  | fuel + 1 => do
    skipBlanks
    match ← Scan.peek? with
    | some '.' =>
      Scan.char '.'
      skipBlanks
      let part ← readSimpleKey
      let parts ← readKeyParts fuel
      return part :: parts
    | _ => return []

/-- Reads a key: its first part, and the further ones behind dots. Blanks around it are skipped. -/
def readKey : Scan (String × List String) := do
  skipBlanks
  let here ← Scan.left
  let first ← readSimpleKey
  let cs ← Scan.left
  let parts ← readKeyParts (cs.length + 1)
  if parts.length < maxDepth then return (first, parts) else fun _ => .error here

end HostLookup.Toml
