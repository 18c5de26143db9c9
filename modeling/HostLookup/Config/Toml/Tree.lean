import HostLookup.Config.Value

/-!
# The tables of a TOML document

A document fills a tree of tables, one statement at a time. A table may be given by a header, come
into being on the way to another one, or come from a key with dots; which of these it was decides
what later statements may still do to it:

* a key is set once;
* a header names a table that is not there yet, or one that was only on the way to others;
* a key with dots sets a key in a table that came from such keys, and on the way there it leads
  through all tables but those of a header; of a list of tables it takes the last one;
* a header with double brackets adds a table to a list of such tables.
-/

namespace HostLookup.Toml

/-- How a table came into being. -/
inductive Origin where
  | header
  /-- On the way to the table of a header. -/
  | passage
  /-- From a key with dots. -/
  | dotted
  deriving DecidableEq, Repr

/-- A node of the tree. -/
inductive Node where
  | leaf (value : Value)
  | table (origin : Origin) (entries : List (String × Node))
  /-- The tables of a header with double brackets, newest first. -/
  | tables (items : List (List (String × Node)))

/-- The entries of a table. -/
abbrev Entries := List (String × Node)

namespace Node

mutual

/-- The value that a node stands for. -/
def toValue : Node → Value
  | .leaf value => value
  | .table _ entries => .table (entriesToValues entries)
  | .tables items => .list (itemsToValues items).reverse

def entriesToValues : List (String × Node) → List (String × Value)
  | [] => []
  | (name, node) :: entries => (name, toValue node) :: entriesToValues entries

def itemsToValues : List (List (String × Node)) → List Value
  | [] => []
  | entries :: items => .table (entriesToValues entries) :: itemsToValues items

end

end Node

namespace Entries

/-- Changes the entry of a name, or makes one. -/
def alter (entries : Entries) (name : String) (change : Option Node → Option Node) :
    Option Entries :=
  match entries with
  | [] => (change none).map fun node => [(name, node)]
  | (other, node) :: rest =>
    if other = name then (change (some node)).map fun node => (other, node) :: rest
    else (alter rest name change).map ((other, node) :: ·)

/-- Changes the table at the end of a path of headers. -/
def alterAt (path : List String) (change : Entries → Option Entries) (entries : Entries) :
    Option Entries :=
  match path with
  | [] => change entries
  | name :: path =>
    entries.alter name fun
      | none => (alterAt path change []).map (.table .passage)
      | some (.table origin inner) => (alterAt path change inner).map (.table origin)
      | some (.tables (newest :: older)) =>
        (alterAt path change newest).map fun newest => .tables (newest :: older)
      | some (.tables []) | some (.leaf _) => none

/-- Sets a key in a table. -/
def setKey (name : String) (value : Value) (entries : Entries) : Option Entries :=
  entries.alter name fun
    | none => some (.leaf value)
    | some _ => none

/-- Sets a key with dots in a table. -/
def setDotted (name : String) (parts : List String) (value : Value) (entries : Entries) :
    Option Entries :=
  match parts with
  | [] => setKey name value entries
  | part :: parts =>
    entries.alter name fun
      | none => (setDotted part parts value []).map (.table .dotted)
      | some (.table .dotted inner) => (setDotted part parts value inner).map (.table .dotted)
      | some (.table .passage inner) =>
        if parts.isEmpty then none
        else (setDotted part parts value inner).map (.table .passage)
      | some (.tables (newest :: older)) =>
        if parts.isEmpty then none
        else (setDotted part parts value newest).map fun newest => .tables (newest :: older)
      | some (.table .header _) | some (.tables []) | some (.leaf _) => none

/-- Begins a table under a header. -/
def openTable (name : String) (entries : Entries) : Option Entries :=
  entries.alter name fun
    | none => some (.table .header [])
    | some (.table .passage inner) => some (.table .header inner)
    | some _ => none

/-- Begins another table of a list of tables. -/
def openItem (name : String) (entries : Entries) : Option Entries :=
  entries.alter name fun
    | none => some (.tables [[]])
    | some (.tables items) => some (.tables ([] :: items))
    | some _ => none

/-- A key that was set cannot be set again. -/
theorem setKey_leaf (name : String) (old new : Value) (rest : Entries) :
    setKey name new ((name, .leaf old) :: rest) = none := by
  simp [setKey, alter]

end Entries

end HostLookup.Toml
