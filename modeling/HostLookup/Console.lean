/-!
# What the user is told

The lines of the report at the end of a run. Each function answers with the text that it prints,
which is empty when the user has asked for quiet.
-/

namespace HostLookup

/-- How much the user wants to be told. -/
structure Console where
  verbose : Bool
  quiet : Bool
  deriving DecidableEq, Repr

namespace Console

/-- The column in which values begin, without the indentation. -/
def valueColumn : Nat := 22

/-- A text that takes at least so many characters. -/
def padded (width : Nat) (text : String) : String :=
  text ++ String.ofList (List.replicate (width - text.length) ' ')

/-- A line, unless there is quiet. -/
def line (console : Console) (text : String) : String :=
  if console.quiet then "" else text ++ "\n"

/-- A label and its value, in columns. -/
def row (label value : String) : String :=
  "  " ++ padded valueColumn label ++ " " ++ value

def success (console : Console) (message : String) : String :=
  console.line ("✔ " ++ message)

def warning (console : Console) (message : String) : String :=
  console.line ("⚠ " ++ message)

/-- A title after an empty line. -/
def header (console : Console) (title : String) : String :=
  console.line ("\n" ++ title)

/-- A number with its label. -/
def count (console : Console) (label : String) (n : Nat) : String :=
  console.line (row label (toString n))

/-- A detail, for those who want details. -/
def detail (console : Console) (label value : String) : String :=
  if console.verbose then console.line (row label value) else ""

/-- In quiet no line is printed. -/
theorem line_quiet (text : String) (verbose : Bool) :
    line { verbose := verbose, quiet := true } text = "" := rfl

/-- A text is padded to the width unless it is longer. -/
theorem length_padded (width : Nat) (text : String) :
    (padded width text).length = max width text.length := by
  simp [padded]
  omega

end Console

end HostLookup
