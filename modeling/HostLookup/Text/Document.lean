import HostLookup.Decimal.Notation
import HostLookup.Text.Digits

/-!
# Documents

The documents in which a run reports its summary, and their text in JSON. A document can be written
on one line without any space, or with one field or item a line, indented by two spaces for each
level. The fields of an object keep their order.
-/

namespace HostLookup

/-- A document. -/
inductive Document where
  | text (value : String)
  | natural (value : Nat)
  | decimal (value : Float)
  | list (items : List Document)
  | object (fields : List (String × Document))

namespace Document

/-- The escape of a control character that has no short one. -/
def controlEscape (c : Char) : List Char :=
  let digits := Text.hexDigits c.toNat
  ['\\', 'u'] ++ List.replicate (4 - digits.length) '0' ++ digits

/-- A character inside quotes. Only quotes, backslashes and controls are escaped. -/
def escape : Char → List Char
  | '"' => ['\\', '"']
  | '\\' => ['\\', '\\']
  | '\n' => ['\\', 'n']
  | '\r' => ['\\', 'r']
  | '\t' => ['\\', 't']
  | '\x08' => ['\\', 'b']
  | '\x0C' => ['\\', 'f']
  | c => if c.toNat < 0x20 then controlEscape c else [c]

/-- A text in quotes. -/
def quote (s : String) : String :=
  String.ofList (['"'] ++ s.toList.flatMap escape ++ ['"'])

/-- Parts between brackets, on one line. -/
def inBrackets (left right : String) (parts : List String) : String :=
  left ++ String.intercalate "," parts ++ right

/-- The indentation of a level. -/
def indent (level : Nat) : String :=
  String.ofList (List.replicate (2 * level) ' ')

/-- Parts between brackets, one a line, where the brackets stand on the given level. -/
def onLines (level : Nat) (left right : String) : List String → String
  | [] => left ++ right
  | parts =>
    left ++ "\n" ++ String.intercalate ",\n" (parts.map (indent (level + 1) ++ ·)) ++ "\n" ++
      indent level ++ right

mutual

/-- A document on one line. -/
def compact : Document → String
  | .text value => quote value
  | .natural value => toString value
  | .decimal value => Decimal.structured value
  | .list items => inBrackets "[" "]" (compactItems items)
  | .object fields => inBrackets "\x7b" "\x7d" (compactFields fields)

def compactItems : List Document → List String
  | [] => []
  | item :: items => compact item :: compactItems items

def compactFields : List (String × Document) → List String
  | [] => []
  | (name, value) :: fields => (quote name ++ ":" ++ compact value) :: compactFields fields

end

mutual

/-- A document with one field or item a line, where it stands on the given level. -/
def indentedAt (level : Nat) : Document → String
  | .text value => quote value
  | .natural value => toString value
  | .decimal value => Decimal.structured value
  | .list items => onLines level "[" "]" (indentedItems (level + 1) items)
  | .object fields => onLines level "\x7b" "\x7d" (indentedFields (level + 1) fields)

def indentedItems (level : Nat) : List Document → List String
  | [] => []
  | item :: items => indentedAt level item :: indentedItems level items

def indentedFields (level : Nat) : List (String × Document) → List String
  | [] => []
  | (name, value) :: fields =>
    (quote name ++ ": " ++ indentedAt level value) :: indentedFields level fields

end

/-- A document with one field or item a line. -/
def indented (document : Document) : String :=
  document.indentedAt 0

end Document

end HostLookup
