import HostLookup.Config.Toml.Quoted
import HostLookup.Config.Toml.Scalar
import HostLookup.Config.Toml.StandIn
import HostLookup.Config.Toml.Tree

/-!
# TOML documents

A document is a sequence of lines, each of which is blank, sets a key, or is the header of a table.
`Toml.read` reads a whole document, or says where it went wrong; `Fault.message` shows that place
under its line.
-/

namespace HostLookup.Toml

/-! ## Values -/

mutual

/-- Reads a value. Lists and tables in it may be nested `depth` deep, itself included. -/
def readValue (depth : Nat) : Scan Value := fun cs =>
  match cs, depth with
  | '"' :: _, _ | '\'' :: _, _ => (readString cs).map fun (s, rest) => (.text s, rest)
  | '[' :: rest, depth + 1 =>
    (readItems depth (rest.length + 1) rest).map fun (vs, rest) => (.list vs, rest)
  | '\x7b' :: rest, depth + 1 =>
    (readFields depth (rest.length + 1) [] true rest).map fun (entries, rest) =>
      (.table (Node.entriesToValues entries), rest)
  | cs, _ =>
    match splitWord cs with
    | (word, rest) =>
      match word? word with
      | some value => .ok (value, rest)
      | none => .error cs
  termination_by (depth, 0)

/-- Reads the items of a list up to the closing bracket. Line ends may stand between them, and a
comma behind the last one. -/
def readItems (depth fuel : Nat) : Scan (List Value) :=
  match fuel with
  | 0 => Scan.fail
  | fuel + 1 => do
    skipGap (fuel + 1)
    match ← Scan.peek? with
    | some ']' => do
      Scan.char ']'
      return []
    | _ => do
      let item ← readValue depth
      skipGap (fuel + 1)
      match ← Scan.peek? with
      | some ',' => do
        Scan.char ','
        let items ← readItems depth fuel
        return item :: items
      | _ => do
        Scan.char ']'
        return [item]
  termination_by (depth, fuel + 1)

/-- Reads the fields of a table up to the closing brace, all on one line. A comma is only followed
by a further field. -/
def readFields (depth fuel : Nat) (entries : Entries) (mayClose : Bool) : Scan Entries :=
  match fuel with
  | 0 => Scan.fail
  | fuel + 1 => do
    skipBlanks
    match mayClose, ← Scan.peek? with
    | true, some '\x7d' => do
      Scan.char '\x7d'
      return entries
    | _, _ => do
      let here ← Scan.left
      let (name, parts) ← readKey
      Scan.char '='
      skipBlanks
      let value ← readValue depth
      skipBlanks
      match entries.setDotted name parts value with
      | none => fun _ => .error here
      | some entries =>
        match ← Scan.peek? with
        | some ',' => do
          Scan.char ','
          readFields depth fuel entries false
        | _ => do
          Scan.char '\x7d'
          return entries
  termination_by (depth, fuel + 1)

end

/-! ## Lines -/

/-- A document as far as it was read, and the table that keys are set in. -/
structure Draft where
  entries : Entries := []
  path : List String := []

/-- The end of a draft after a change, which is refused here if it is not allowed. -/
def accept (here : List Char) (path : List String) : Option Entries → Scan Draft
  | some entries => return { entries := entries, path := path }
  | none => fun _ => .error here

/-- Reads a line that sets a key. -/
def readSetting (draft : Draft) : Scan Draft := do
  let here ← Scan.left
  let (name, parts) ← readKey
  Scan.char '='
  skipBlanks
  let value ← readValue maxDepth
  skipLine
  accept here draft.path (draft.entries.alterAt draft.path (Entries.setDotted name parts value))

/-- Reads a header. -/
def readHeader (draft : Draft) : Scan Draft := do
  let here ← Scan.left
  Scan.char '['
  let isItem := (← Scan.peek?) = some '['
  if isItem then Scan.char '['
  let (name, parts) ← readKey
  Scan.char ']'
  if isItem then Scan.char ']'
  skipLine
  let path := name :: parts
  let begin := if isItem then Entries.openItem else Entries.openTable
  accept here path (draft.entries.alterAt path.dropLast (begin (path.getLastD name)))

/-- Reads line after line up to the end of the text. -/
def readLines : Nat → Draft → Scan Draft
  | 0, _ => Scan.fail
  | fuel + 1, draft => do
    skipBlanks
    match ← Scan.peek? with
    | none => return draft
    | some '[' => do
      let draft ← readHeader draft
      readLines fuel draft
    | some '#' | some '\n' | some '\r' => do
      skipLine
      readLines fuel draft
    | some _ => do
      let draft ← readSetting draft
      readLines fuel draft

/-! ## Documents -/

/-- A place in a text where reading went wrong. -/
structure Fault where
  text : List Char
  /-- The number of characters before the place. -/
  offset : Nat
  deriving DecidableEq, Repr

namespace Fault

/-- The number of the line, counted from 1. -/
def line (fault : Fault) : Nat :=
  (fault.text.take fault.offset).count '\n' + 1

/-- The characters of the line in front of the place. -/
def before (fault : Fault) : List Char :=
  ((fault.text.take fault.offset).reverse.takeWhile (· ≠ '\n')).reverse

/-- The text of the line. A carriage return is a part of it. -/
def content (fault : Fault) : List Char :=
  fault.before ++ (fault.text.drop fault.offset).takeWhile (· ≠ '\n')

/-- So many blanks. -/
def blanks (n : Nat) : String :=
  String.ofList (List.replicate n ' ')

/-- The place, shown under its line. -/
def message (fault : Fault) : String :=
  let number := toString fault.line
  let column := fault.before.length
  let margin := blanks (number.length + 1) ++ "|"
  "TOML parse error at line " ++ number ++ ", column " ++ toString (column + 1) ++ "\n" ++
    margin ++ "\n" ++
    number ++ " | " ++ String.ofList fault.content ++ "\n" ++
    margin ++ blanks (column + 1) ++ "^\n\n"

end Fault

/-- Reads a document. A byte order mark in front of it is skipped. The tables in it give way to the
values that they stand for, and a table that may not be there is a fault of the whole document. -/
def read (text : String) : Except Fault (List (String × Value)) :=
  let cs := text.toList
  let body := if cs.head? = some '\uFEFF' then cs.tail else cs
  match readLines (body.length + 1) {} body with
  | .ok (draft, _) =>
    match standingEntries? (Node.entriesToValues draft.entries) with
    | some entries => .ok entries
    | none => .error { text := cs, offset := 0 }
  | .error rest => .error { text := cs, offset := cs.length - rest.length }

end HostLookup.Toml
