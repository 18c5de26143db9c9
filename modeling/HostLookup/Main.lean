import HostLookup.CommandLine.Parse
import HostLookup.Program

/-!
# The program as it is started

Looks at the part of the file system and of the environment that the command line can depend on,
lets `Program.run` decide everything, and then writes what has changed. What a run is said to take
is the time that this look around has taken.
-/

namespace HostLookup.Program

/-- The node at a place of the file system, if there is one that can be read. -/
def look (place : Place) : IO (Option FileNode) := do
  if place = ["dev", "null"] then return some .null
  if place = ["dev", "full"] then return some .full
  let path := FileTree.pathOf place
  try
    let about ← ((← IO.currentDir) / path).metadata
    match about.type with
    | .dir => return some .directory
    | .file => return some (.file (← IO.FS.readBinFile path).toList)
    | _ => return none
  catch _ => return none

/-- The tree of the nodes at some places and on the way to them. -/
def survey (here : Place) (places : List Place) : IO FileTree := do
  let mut tree : FileTree := { nodes := [], here := here }
  for place in places do
    for depth in List.range place.length do
      let place := place.take (depth + 1)
      if (tree.node? place).isNone then
        if let some node ← look place then
          tree := tree.put place node
  return tree

/-- The environment variables that set a key. -/
def assignments : IO (List (String × String)) :=
  SettingKey.all.filterMapM fun key => do
    let name := Variable.namePrefix ++ String.ofList (key.name.toList.map Char.toUpper)
    return (← IO.getEnv name).map fun value => (name, value)

/-- Bytes as a stream takes them. -/
def block (bytes : Bytes) : ByteArray :=
  ⟨bytes.toArray⟩

/-- Carries a command line out, and says with which code to exit. -/
def carryOut (arguments : Arguments) : IO Nat := do
  let began ← IO.monoNanosNow
  let here := FileTree.components (← IO.currentDir).toString
  let tree ← survey here (places arguments here)
  let spent := (← IO.monoNanosNow) - began
  let outcome := run arguments
    { tree := tree
      assignments := ← assignments
      elapsed := { nanoseconds := spent } }
  for (place, bytes) in outcome.tree.changesSince tree do
    IO.FS.writeBinFile (FileTree.pathOf place) (block bytes)
  (← IO.getStderr).write (block (outcome.written .stderr))
  (← IO.getStdout).write (block (outcome.written .stdout))
  IO.print outcome.report
  unless outcome.messages.isEmpty do
    IO.eprintln ("Error: " ++ ProgramFailure.shown outcome.messages)
  return outcome.exitCode

/-- Answers a command line that asks for no run. -/
def answer (refusal : Refusal) : IO Unit :=
  match refusal.complaint? with
  | some complaint =>
    IO.eprint ("error: " ++ complaint ++ "\n\n" ++ Refusal.usage ++
      "\nFor more information, try '--help'.\n")
  | none => IO.print (if refusal = .versionWanted then Refusal.versionText else Refusal.helpText)

end HostLookup.Program

open HostLookup in
/-- Reads the command line and carries it out. -/
def main (words : List String) : IO UInt32 := do
  match Arguments.parse words with
  | .ok arguments => return (← Program.carryOut arguments).toUInt32
  | .error refusal =>
    Program.answer refusal
    return refusal.exitCode.toUInt32
