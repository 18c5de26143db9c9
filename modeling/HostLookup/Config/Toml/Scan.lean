/-!
# Scanning a text

A scan takes something off the front of a text, and goes on with what is left. A scan that fails
says where: its failure is the text that was left when it could not go on.
-/

namespace HostLookup.Toml

/-- Takes a value off the front of a text. -/
abbrev Scan (α : Type) := List Char → Except (List Char) (α × List Char)

namespace Scan

variable {α β : Type}

/-- Goes on with a second scan. -/
def andThen (first : Scan α) (second : α → Scan β) : Scan β := fun cs =>
  match first cs with
  | .ok (value, rest) => second value rest
  | .error fault => .error fault

instance : Monad Scan where
  pure value := fun cs => .ok (value, cs)
  bind := andThen

/-- Fails here. -/
def fail : Scan α := fun cs => .error cs

/-- What is left of the text. -/
def left : Scan (List Char) := fun cs => .ok (cs, cs)

/-- Goes on from another place. -/
def skipTo (rest : List Char) : Scan Unit := fun _ => .ok ((), rest)

/-- Takes the characters that belong to a class, as many as there are. -/
def takeWhile (p : Char → Bool) : Scan (List Char) := fun cs => .ok (cs.span p)

/-- Takes exactly this character. -/
def char (expected : Char) : Scan Unit
  | c :: cs => if c = expected then .ok ((), cs) else .error (c :: cs)
  | [] => .error []

/-- Looks at the next character without taking it. -/
def peek? : Scan (Option Char) := fun cs => .ok (cs.head?, cs)

end Scan

/-! ## Blanks, comments and line ends -/

/-- Spaces and tabs. -/
def isBlank (c : Char) : Bool :=
  c = ' ' || c = '\t'

/-- A control character that may not appear outside of line ends. -/
def isControl (c : Char) : Bool :=
  (c.toNat < 0x20 && c ≠ '\t') || c.toNat = 0x7F

def skipBlanks : Scan Unit := fun cs =>
  .ok ((), cs.dropWhile isBlank)

/-- What follows a newline at the front, with or without a carriage return before it. -/
def afterNewline? : List Char → Option (List Char)
  | '\n' :: cs => some cs
  | '\r' :: '\n' :: cs => some cs
  | _ => none

/-- Skips a comment, if there is one, up to the end of the line. -/
def skipComment : Scan Unit
  | '#' :: cs => .ok ((), cs.dropWhile fun c => !isControl c)
  | cs => .ok ((), cs)

/-- Skips the rest of a line, which may hold blanks and a comment, and its end. -/
def skipLine : Scan Unit := do
  skipBlanks
  skipComment
  let cs ← Scan.left
  match cs, afterNewline? cs with
  | _, some rest => Scan.skipTo rest
  | [], none => return ()
  | _, none => Scan.fail

/-- Skips blanks, comments and line ends, as they may stand between the items of a list. -/
def skipGap : Nat → Scan Unit
  | 0 => fun cs => .ok ((), cs)
  | fuel + 1 => do
    skipBlanks
    skipComment
    let cs ← Scan.left
    match afterNewline? cs with
    | some rest => do
      Scan.skipTo rest
      skipGap fuel
    | none => return ()

end HostLookup.Toml
