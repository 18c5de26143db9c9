import HostLookup.Failure.Io
import HostLookup.Text.Blank
import HostLookup.Text.Utf8

/-!
# Data files

A data file holds one host name a line. To a requester a file is either refused when it is opened,
or it is a finite list of line events: a line of text, a failure, or a panic of the reader.
`lineEvents` reads such a list off the bytes of a file. Lines end at a newline byte and nowhere
else; a carriage return right before the newline belongs to the line end; a last piece without a
newline is a line unless it is empty. A line that is not UTF-8 is a failure of its own and does not
touch its neighbours.
-/

namespace HostLookup

/-- What a reader finds next in a data file. -/
inductive LineEvent where
  | line (text : String)
  | failed (failure : IoFailure)
  | panicked
  deriving DecidableEq, Repr

/-- What comes of opening a data file. -/
inductive Opening where
  | refused (failure : IoFailure)
  | opened (events : List LineEvent)
  | panicked
  deriving DecidableEq, Repr

namespace DataFile

/-- The host name in a line, if the line is not blank. -/
def hostOfLine (line : String) : Option String :=
  let host := Text.trim line
  if host = "" then none else some host

/-! ## From bytes to lines -/

/-- A line, given in reverse, without the carriage return of its line end. -/
def dropReturn : Bytes → Bytes
  | 0x0D :: line => line
  | line => line

/-- The lines of a byte string. The bytes since the last newline are in `line`, in reverse. -/
def splitLines (line : Bytes) : Bytes → List Bytes
  | [] => if line.isEmpty then [] else [line.reverse]
  | byte :: bytes =>
    if byte = 0x0A then (dropReturn line).reverse :: splitLines [] bytes
    else splitLines (byte :: line) bytes

/-- What a reader makes of the bytes of a line. -/
def eventOfLine (line : Bytes) : LineEvent :=
  match Text.decode? line with
  | some text => .line text
  | none => .failed .notUtf8

/-- What a reader finds in a file with the given bytes. -/
def lineEvents (bytes : Bytes) : List LineEvent :=
  (splitLines [] bytes).map eventOfLine

/-- A directory can be opened like a file, but not read. -/
def directory : Opening :=
  .opened [.failed (.system 21)]

/-! ## Files in memory -/

/-- Opens a file by its name in a table; of entries with one name the last counts. -/
def openIn (table : List (String × Opening)) (name : String) : Opening :=
  match table.reverse.lookup name with
  | some opening => opening
  | none => .refused (.described .notFound ("no such data file: " ++ name))

theorem hostOfLine_eq_none_iff (line : String) :
    hostOfLine line = none ↔ Text.trim line = "" := by
  simp [hostOfLine]

end DataFile

end HostLookup
