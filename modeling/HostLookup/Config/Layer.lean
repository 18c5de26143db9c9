import HostLookup.Config.Settings
import HostLookup.Config.Toml.Document
import HostLookup.Config.Variable
import HostLookup.Text.Utf8

/-!
# Layers of settings

Settings are put together from layers, of which each may set any of the keys. Of several layers that
set a key the last counts, and nothing is asked of a value that another one replaces. A layer that
cannot be read spoils the whole. What is left must set every key with a value of the right kind, and
the settings as a whole have to pass `Settings.check`.
-/

namespace HostLookup

/-- Where a layer comes from. -/
inductive LayerSource where
  | text
  /-- A file, with its path as messages show it. -/
  | file (shown : String)
  | environment
  deriving DecidableEq, Repr

/-- A layer: its settings, or why it cannot be read. -/
structure Layer where
  source : LayerSource
  content : Except String (List (String × Value))

namespace LayerSource

/-- The end of a message about a layer. -/
def place : LayerSource → String
  | .text => " in TOML source string"
  | .file shown => " in " ++ shown ++ " TOML file"
  | .environment => " in `" ++ Variable.namePrefix ++ "` environment variable(s)"

/-- A key as a message about a layer shows it. -/
def keyText (key : String) : LayerSource → String
  | .environment => Text.quoted (String.ofList (key.toList.map Char.toUpper))
  | .text | .file _ => Text.quoted ("default." ++ key)

end LayerSource

/-! ## Keys -/

/-- The keys of the settings. -/
inductive SettingKey where
  | queueCapacity
  | maxNameLength
  | maxFileNameLength
  | maxRequesterThreads
  | maxResolverThreads
  | maxInputFiles
  | sentinel
  | notResolved
  | preferIpv4
  deriving DecidableEq, Repr

namespace SettingKey

/-- All keys, in the order in which missing ones are looked for. -/
def all : List SettingKey :=
  [.queueCapacity, .maxNameLength, .maxFileNameLength, .maxRequesterThreads, .maxResolverThreads,
    .maxInputFiles, .sentinel, .notResolved, .preferIpv4]

def name : SettingKey → String
  | .queueCapacity => "queue_capacity"
  | .maxNameLength => "max_name_length"
  | .maxFileNameLength => "max_file_name_length"
  | .maxRequesterThreads => "max_requester_threads"
  | .maxResolverThreads => "max_resolver_threads"
  | .maxInputFiles => "max_input_files"
  | .sentinel => "sentinel"
  | .notResolved => "not_resolved"
  | .preferIpv4 => "prefer_ipv4"

/-- All keys, in the alphabetical order in which their values are looked at. -/
def alphabetical : List SettingKey :=
  [.maxFileNameLength, .maxInputFiles, .maxNameLength, .maxRequesterThreads, .maxResolverThreads,
    .notResolved, .preferIpv4, .queueCapacity, .sentinel]

/-- No key is left out of either order. -/
theorem mem_all (key : SettingKey) : key ∈ all ∧ key ∈ alphabetical := by
  cases key <;> decide

end SettingKey

/-! ## Reading values -/

namespace Value

/-- The refusal of a value of another kind. -/
def mismatch (value : Value) (expected : String) : String :=
  "invalid type: found " ++ value.found ++ ", expected " ++ expected

/-- A size: a number that is not negative. Its bound is not checked here: what does not fit a
machine word is not read as a number in the first place (`Text.readWord` for variables,
`Toml.int64?` for documents). -/
def size? : Value → Except String Nat
  | .unsigned n => .ok n
  | .signed i =>
    if 0 ≤ i then .ok i.toNat
    else .error ("invalid value " ++ (Value.signed i).found ++ ", expected usize")
  | value => .error (value.mismatch "usize")

def text? : Value → Except String String
  | .text s => .ok s
  | value => .error (value.mismatch "a string")

def boolean? : Value → Except String Bool
  | .boolean b => .ok b
  | value => .error (value.mismatch "a boolean")

end Value

namespace Settings

/-- Sets a key to a value, if the value is of the right kind. -/
def set (s : Settings) (value : Value) : SettingKey → Except String Settings
  | .queueCapacity => value.size?.map fun n => { s with queueCapacity := n }
  | .maxNameLength => value.size?.map fun n => { s with maxNameLength := n }
  | .maxFileNameLength => value.size?.map fun n => { s with maxFileNameLength := n }
  | .maxRequesterThreads => value.size?.map fun n => { s with maxRequesterThreads := n }
  | .maxResolverThreads => value.size?.map fun n => { s with maxResolverThreads := n }
  | .maxInputFiles => value.size?.map fun n => { s with maxInputFiles := n }
  | .sentinel => value.text?.map fun text => { s with sentinel := text }
  | .notResolved => value.text?.map fun text => { s with notResolved := text }
  | .preferIpv4 => value.boolean?.map fun b => { s with preferIpv4 := b }

/-- The value of a key. -/
def value (s : Settings) : SettingKey → Value
  | .queueCapacity => .unsigned s.queueCapacity
  | .maxNameLength => .unsigned s.maxNameLength
  | .maxFileNameLength => .unsigned s.maxFileNameLength
  | .maxRequesterThreads => .unsigned s.maxRequesterThreads
  | .maxResolverThreads => .unsigned s.maxResolverThreads
  | .maxInputFiles => .unsigned s.maxInputFiles
  | .sentinel => .text s.sentinel
  | .notResolved => .text s.notResolved
  | .preferIpv4 => .boolean s.preferIpv4

/-- Setting a key to the value that it has changes nothing. -/
theorem set_value (s : Settings) (key : SettingKey) : s.set (s.value key) key = .ok s := by
  cases key <;> rfl

end Settings

/-! ## Layers -/

namespace Layer

/-- The layer of given settings, which sets all keys. -/
def ofSettings (s : Settings) : Layer where
  source := .text
  content := .ok (SettingKey.all.map fun key => (key.name, s.value key))

/-- The layer in the text of a document. -/
def ofText (source : LayerSource) (text : String) : Layer where
  source := source
  content := (Toml.read text).mapError Toml.Fault.message

/-- The layer in the bytes of a file. -/
def ofBytes (source : LayerSource) (bytes : Bytes) : Layer :=
  match Text.decode? bytes with
  | some text => ofText source text
  | none => { source := source, content := .error (IoFailure.notUtf8.message ++ "\n") }

/-- The layer of the environment. -/
def ofVariables (assignments : List (String × String)) : Layer where
  source := .environment
  content := .ok (assignments.filterMap Variable.setting?)

/-- What a layer says of a key: its last word. -/
def lookup (layer : Layer) (key : String) : Option Value :=
  match layer.content with
  | .ok entries => entries.reverse.lookup key
  | .error _ => none

/-- Why a layer cannot be read. -/
def fault? (layer : Layer) : Option String :=
  match layer.content with
  | .ok _ => none
  | .error fault => some (fault ++ layer.source.place)

end Layer

/-- Layers, the last of which counts most. -/
abbrev Layers := List Layer

namespace Layers

/-- The value of a key in the last layer that sets it, and where that layer comes from. -/
def lookup (layers : Layers) (key : String) : Option (LayerSource × Value) :=
  layers.reverse.findSome? fun layer => (layer.lookup key).map fun value => (layer.source, value)

/-- Why the layers cannot be read. -/
def fault? (layers : Layers) : Option String :=
  match layers.filterMap Layer.fault? with
  | [] => none
  | faults => some (String.intercalate "\n" faults)

/-- Takes over the value of one key into the settings, if there is one. -/
def takeOver (layers : Layers) (s : Settings) (key : SettingKey) : Except Failure Settings :=
  match layers.lookup key.name with
  | none => .ok s
  | some (source, value) =>
    (s.set value key).mapError fun reason =>
      .config key.name (reason ++ " for key " ++ source.keyText key.name ++ source.place)

/-- Refuses layers that do not set a key. -/
def require (layers : Layers) (key : SettingKey) : Except Failure Unit :=
  if (layers.lookup key.name).isSome then .ok ()
  else .error (.config "config" ("missing field `" ++ key.name ++ "`"))

/-- The settings that the layers come to, whether a run can work with them or not. -/
def merge (layers : Layers) : Except Failure Settings :=
  match layers.fault? with
  | some fault => .error (.config "config" fault)
  | none => do
    let s ← SettingKey.alphabetical.foldlM (takeOver layers) {}
    SettingKey.all.forM (require layers)
    return s

/-- The settings that the layers come to. -/
def settings (layers : Layers) : Except Failure Settings := do
  let s ← layers.merge
  s.check
  return s

/-- A key has the value that the last layer gives it. -/
theorem lookup_append_singleton (layers : Layers) (layer : Layer) (key : String) :
    lookup (layers ++ [layer]) key =
      ((layer.lookup key).map fun value => (layer.source, value)).or (lookup layers key) := by
  simp [lookup, List.findSome?_cons]
  cases layer.lookup key <;> rfl

end Layers

end HostLookup
