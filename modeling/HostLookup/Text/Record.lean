import HostLookup.Text.Quoted

/-!
# Records as text

The state of a queue or of a stage is shown as the name of its kind followed by its fields in
braces, all on one line or one field a line.
-/

namespace HostLookup.Text

/-- A named list of fields, each with its value as text. -/
structure Record where
  kind : String
  fields : List (String × String)
  deriving DecidableEq, Repr

namespace Record

/-- A truth value as a field. -/
def ofBool (b : Bool) : String :=
  if b then "true" else "false"

/-- The record on one line. -/
def inline (r : Record) : String :=
  match r.fields with
  | [] => r.kind
  | fields =>
    r.kind ++ " \x7b " ++ ", ".intercalate (fields.map fun f => f.1 ++ ": " ++ f.2) ++ " \x7d"

/-- The record with one field a line, each indented by four blanks and ended by a comma. -/
def indented (r : Record) : String :=
  match r.fields with
  | [] => r.kind
  | fields =>
    r.kind ++ " \x7b\n" ++
      String.join (fields.map fun f => "    " ++ f.1 ++ ": " ++ f.2 ++ ",\n") ++ "\x7d"

end Record

end HostLookup.Text
