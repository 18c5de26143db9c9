import HostLookup.Text.Digits
import HostLookup.Text.Hidden

/-!
# Quoted text

Messages and records show a text between double quotes. A quote and a backslash inside are written
with a backslash before them, four controls by a letter (`\0`, `\t`, `\n`, `\r`), any other hidden
character by its code point in braces, and all else as itself. A single quote needs no backslash.
-/

namespace HostLookup.Text

/-- One character of a quoted text. -/
def quotedChar (c : Char) : List Char :=
  match c with
  | '"' => ['\\', '"']
  | '\\' => ['\\', '\\']
  | '\x00' => ['\\', '0']
  | '\t' => ['\\', 't']
  | '\n' => ['\\', 'n']
  | '\r' => ['\\', 'r']
  | c => if isHidden c then ['\\', 'u', '\x7b'] ++ hexDigits c.toNat ++ ['\x7d'] else [c]

/-- A text between double quotes. -/
def quoted (s : String) : String :=
  "\"" ++ String.ofList (s.toList.flatMap quotedChar) ++ "\""

/-- A host name of letters, digits, dots and the like is shown as it is. -/
theorem quotedChar_of_plain {c : Char} (low : 0x20 ≤ c.toNat) (high : c.toNat < 0x7F)
    (quote : c ≠ '"') (slash : c ≠ '\\') : quotedChar c = [c] := by
  unfold quotedChar
  split
  · contradiction
  · contradiction
  · exact absurd low (by decide)
  · exact absurd low (by decide)
  · exact absurd low (by decide)
  · exact absurd low (by decide)
  · simp [isHidden_of_ascii low high]

end HostLookup.Text
