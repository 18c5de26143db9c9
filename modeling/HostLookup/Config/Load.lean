import HostLookup.Config.Layer
import HostLookup.FileTree

/-!
# Loading the settings

The settings of a run come from four layers: the standard settings, the file `multi-lookup.toml` in
the working directory or the nearest directory above that has one, a file that is named explicitly,
and the environment. A file that is named explicitly has to be there, whatever the other layers
hold. It is then looked for in the same way as the other file.
-/

namespace HostLookup.Settings

/-- The name of the file that is looked for. -/
def fileName : String := "multi-lookup.toml"

/-- The number of components that two places have in common at the front. -/
def commonLength : List String → List String → Nat
  | a :: as, b :: bs => if a = b then commonLength as bs + 1 else 0
  | _, _ => 0

/-- A path from the root as messages show it: as it is seen from the working directory if that takes
fewer components, and otherwise as it is. -/
def shownPath (here : List String) (path : String) : String :=
  let place := (FileTree.components path).filter (· ≠ ".")
  let common := commonLength place here
  let way := List.replicate (here.length - common) ".." ++ place.drop common
  if way.length < place.length + 1 then String.intercalate "/" way else path

/-- The nearest file at the end of a path that starts in one of the first so many directories on the
way from the root to the working directory. The answer has its path from the root, and a file for
which that path is too long is passed over. -/
def nearest? (tree : FileTree) (path : String) : Nat → Option (String × Bytes)
  | 0 => none
  | depth + 1 =>
    let whole := FileTree.behind (tree.here.take depth) path
    match tree.get whole with
    | .ok (.file bytes) => some (whole, bytes)
    | _ => nearest? tree path depth

/-- The layer of the nearest file at the end of a path, if there is one. -/
def nearestLayer (tree : FileTree) (path : String) : Layers :=
  match nearest? tree path (tree.here.length + 1) with
  | some (whole, bytes) => [.ofBytes (.file (shownPath tree.here whole)) bytes]
  | none => []

/-- The failure to find a file that was named. -/
def missingFile (path : String) : Failure :=
  .io path (.described .notFound "config file not found")

/-- The layer of a file that is named explicitly. -/
def namedLayer (tree : FileTree) (path : String) : Except Failure Layers :=
  if tree.isFile path then .ok (nearestLayer tree path) else .error (missingFile path)

/-- The layers of a run, the one that counts most last. -/
def layers (tree : FileTree) (assignments : List (String × String)) (named : Layers) : Layers :=
  [Layer.ofSettings {}] ++ nearestLayer tree fileName ++ named ++ [Layer.ofVariables assignments]

/-- Loads the settings of a run. -/
def load (tree : FileTree) (assignments : List (String × String)) (custom : Option String) :
    Except Failure Settings := do
  let named ← match custom with
    | none => .ok []
    | some path => namedLayer tree path
  (layers tree assignments named).settings

/-- A file that is named but not there is reported before anything else. -/
theorem load_missing (tree : FileTree) (assignments : List (String × String)) {path : String}
    (h : tree.isFile path = false) :
    load tree assignments (some path) = .error (missingFile path) := by
  simp [load, namedLayer, h, bind, Except.bind]

end HostLookup.Settings
