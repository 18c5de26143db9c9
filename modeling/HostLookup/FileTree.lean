import HostLookup.DataFile

/-!
# Files and directories

The part of a file system that a run can see: directories, files with their bytes, and two devices,
one that takes everything and gives nothing and one that has no room. A path is walked from the
root or from the working directory, one component after the other; every component but the last has
to be a directory. A path that is empty, too long, or holds a zero byte is refused before the walk.
-/

namespace HostLookup

/-- What a path can lead to. -/
inductive FileNode where
  | directory
  | file (bytes : Bytes)
  /-- Takes all bytes and gives none. -/
  | null
  /-- Has no room for any byte. -/
  | full
  deriving DecidableEq, Repr

/-- A place in a tree: the components of the way to it from the root. -/
abbrev Place := List String

/-- Nodes by their places, and the working directory. -/
structure FileTree where
  nodes : List (Place × FileNode)
  here : Place := []
  deriving DecidableEq, Repr

namespace FileTree

/-- The longest component of a path in bytes. -/
def maxComponent : Nat := 255

/-- The length in bytes from which a path is too long. -/
def pathLimit : Nat := 4096

/-- The node at a place. The root is always there. -/
def node? (tree : FileTree) (place : Place) : Option FileNode :=
  if place = [] then some .directory else tree.nodes.lookup place

/-- Puts a node at a place, in the place of what was there before. -/
def put (tree : FileTree) (place : Place) (node : FileNode) : FileTree :=
  { tree with
    nodes :=
      if (tree.nodes.lookup place).isSome then
        tree.nodes.map fun entry => if entry.1 = place then (place, node) else entry
      else tree.nodes ++ [(place, node)] }

/-- Puts a directory at a place, and at all places on the way to it. -/
def putDirectory (tree : FileTree) (place : Place) : FileTree :=
  (List.range place.length).foldl (fun tree k => tree.put (place.take (k + 1)) .directory) tree

/-- Puts a file at a place, with directories on the way to it. -/
def putFile (tree : FileTree) (place : Place) (bytes : Bytes) : FileTree :=
  (tree.putDirectory place.dropLast).put place (.file bytes)

/-- The components of a path. -/
def components (path : String) : List String :=
  ((path.toList.splitOn '/').map String.ofList).filter (· ≠ "")

/-- The place that one component of a path leads to. -/
def onward (place : Place) (component : String) : Place :=
  if component = "." then place
  else if component = ".." then place.dropLast
  else place ++ [component]

/-- The place where a path begins. -/
def origin (tree : FileTree) (path : String) : Place :=
  if path.startsWith "/" then [] else tree.here

/-- The place that a path leads to when no file is in the way. -/
def placeOf (tree : FileTree) (path : String) : Place :=
  (components path).foldl onward (tree.origin path)

/-- The places that a path leads through, the one at its end last. -/
def placesOn (tree : FileTree) (path : String) : List Place :=
  let steps := components path
  (List.range (steps.length + 1)).map fun k => (steps.take k).foldl onward (tree.origin path)

/-- Walks on from a place. -/
def walk (tree : FileTree) (place : Place) : List String → Except IoFailure Place
  | [] => .ok place
  | component :: rest =>
    match tree.node? place with
    | some .directory =>
      if maxComponent < component.utf8ByteSize then .error (.system 36)
      else walk tree (onward place component) rest
    | some _ => .error (.system 20)
    | none => .error (.system 2)

/-- The place that some steps of a path lead to. There need not be anything. -/
def follow (tree : FileTree) (path : String) (steps : List String) : Except IoFailure Place :=
  if path = "" then .error (.system 2)
  else if '\x00' ∈ path.toList then .error .zeroByte
  else if pathLimit ≤ path.utf8ByteSize then .error (.system 36)
  else tree.walk (tree.origin path) steps

/-- The node that a path leads to. Only a directory may have a slash behind its name. -/
def get (tree : FileTree) (path : String) : Except IoFailure FileNode :=
  match tree.follow path (components path) with
  | .error failure => .error failure
  | .ok place =>
    match tree.node? place with
    | none => .error (.system 2)
    | some .directory => .ok .directory
    | some node => if path.endsWith "/" then .error (.system 20) else .ok node

/-- The path of a place from the root. -/
def pathOf (place : Place) : String :=
  "/" ++ String.intercalate "/" place

/-- A path as it is written with a place in front of it. A path from the root stays as it is. -/
def behind (place : Place) (path : String) : String :=
  if path.startsWith "/" then path
  else if place = [] then "/" ++ path
  else pathOf place ++ "/" ++ path

/-- Is there a regular file at the end of a path? -/
def isFile (tree : FileTree) (path : String) : Bool :=
  match tree.get path with
  | .ok (.file _) => true
  | _ => false

/-- Opens a data file. -/
def openDataFile (tree : FileTree) (path : String) : Opening :=
  match tree.get path with
  | .error failure => .refused failure
  | .ok .directory => DataFile.directory
  | .ok (.file bytes) => .opened (DataFile.lineEvents bytes)
  | .ok .null | .ok .full => .opened []

/-- The steps to the place of a file that is to be made. A name with a slash behind it is that of a
directory, which nobody will write to, so only the way up to the name is walked. -/
def stepsToCreate (path : String) : List String :=
  if path.endsWith "/" then (components path).dropLast ++ ["."] else components path

/-- Opens a path for writing: a file that is there loses its contents, and one that is not is made.
The answer is the place that will be written to. -/
def create (tree : FileTree) (path : String) : Except IoFailure Place × FileTree :=
  match tree.follow path (stepsToCreate path) with
  | .error failure => (.error failure, tree)
  | .ok place =>
    if path.endsWith "/" then (.error (.system 21), tree)
    else
      match tree.node? place with
      | some .directory => (.error (.system 21), tree)
      | some .null | some .full => (.ok place, tree)
      | some (.file _) | none => (.ok place, tree.put place (.file []))

/-- Gives the file at a place its contents. A device keeps none. -/
def fill (tree : FileTree) (place : Place) (bytes : Bytes) : FileTree :=
  match tree.node? place with
  | some (.file _) => tree.put place (.file bytes)
  | _ => tree

/-- The regular files of a directory by their names. -/
def filesIn (tree : FileTree) (place : Place) : List (String × Bytes) :=
  tree.nodes.filterMap fun (other, node) =>
    match node, other.getLast? with
    | .file bytes, some name => if other.dropLast = place then some (name, bytes) else none
    | _, _ => none

/-- The regular files that are not the same in an earlier tree. -/
def changesSince (tree before : FileTree) : List (Place × Bytes) :=
  tree.nodes.filterMap fun (place, node) =>
    match node with
    | .file bytes => if before.node? place = some node then none else some (place, bytes)
    | _ => none

/-- A path that is refused leaves all files as they were. -/
theorem create_of_error {tree after : FileTree} {path : String} {failure : IoFailure}
    (h : tree.create path = (.error failure, after)) : after = tree := by
  unfold create at h
  split at h
  · simp_all
  · split at h
    · simp_all
    · split at h <;> simp_all

end FileTree

end HostLookup
