import HostLookup.CommandLine.Basic
import HostLookup.Config.Load
import HostLookup.Logs
import HostLookup.Run.Execute

/-!
# The program

A command line that was understood is carried out in three stages. First everything is checked
that can be checked without touching a file: the settings, and whether the request keeps to them.
Then the logs are opened. Only then does the run begin, and however it ends, the sinks are
released before the program answers. The report is printed if the run succeeded and all output has
arrived.
-/

namespace HostLookup

/-- What the program finds around it. -/
structure Surroundings where
  tree : FileTree
  /-- The environment variables, by name. -/
  assignments : List (String × String) := []
  /-- The time that the parts of a run are said to take. -/
  elapsed : Elapsed := {}
  /-- The streams of the process. -/
  stdout : Stream := {}
  stderr : Stream := {}
  /-- Who hands out the memory for the queues. -/
  memory : Allocator := .standard

/-- Why the program failed, and what it was about to do. -/
structure ProgramFailure where
  context : Option String
  failure : Failure
  deriving DecidableEq, Repr

namespace ProgramFailure

/-- The failure of a step that speaks for itself. -/
def plain (failure : Failure) : ProgramFailure where
  context := none
  failure := failure

def loading (failure : Failure) : ProgramFailure where
  context := some "failed to load configuration"
  failure := failure

def flushing (error : SinkError) : ProgramFailure where
  context := some "failed to flush output"
  failure := .sink error

/-- The texts of the failure and of all that is behind it, outermost first. -/
def messages (f : ProgramFailure) : List String :=
  f.context.toList ++ f.failure.message :: f.failure.causes

/-- A text behind a label, and with further lines below its first. -/
def item (label text : String) : String :=
  label ++ String.intercalate ("\n" ++ Console.padded label.length "") (text.splitOn "\n")

/-- The texts as they are shown at the end: the first, and below it what is behind it. Several are
counted. -/
def shown : List String → String
  | [] => ""
  | [text] => text
  | [text, cause] => text ++ "\n\nCaused by:\n" ++ item "    " cause
  | text :: causes =>
    text ++ "\n\nCaused by:\n" ++
      String.intercalate "\n"
        (causes.zipIdx.map fun (cause, i) => item ("    " ++ toString i ++ ": ") cause)

end ProgramFailure

/-- What the program leaves behind. -/
structure Outcome where
  tree : FileTree
  /-- The sinks after their release, if the logs were opened. -/
  sinks : Option Sinks := none
  /-- The report at the end, as it is handed to the standard output. -/
  report : String := ""
  result : Except ProgramFailure Unit

namespace Outcome

/-- The exit code of the program. -/
def exitCode (outcome : Outcome) : Nat :=
  match outcome.result with
  | .ok () => 0
  | .error _ => 1

/-- The texts of the failure, if there was one. -/
def messages (outcome : Outcome) : List String :=
  match outcome.result with
  | .ok () => []
  | .error failure => failure.messages

/-- What the workers have written to a sink. -/
def written (outcome : Outcome) (sink : Sink) : Bytes :=
  match outcome.sinks with
  | some sinks => sinks.contents sink
  | none => []

/-- A failure before any worker has started. -/
def refused (tree : FileTree) (failure : ProgramFailure) : Outcome where
  tree := tree
  result := .error failure

end Outcome

namespace Program

/-- The places of files and devices on which a command line can depend, seen from a working
directory. -/
def places (arguments : Arguments) (here : Place) : List Place :=
  let treeAt (place : Place) : FileTree := { nodes := [], here := place }
  let above := (List.range (here.length + 1)).map here.take
  let sought := Settings.fileName :: arguments.config.toList
  let named := [arguments.requesterLog, arguments.resolverLog] ++ arguments.dataFiles
  sought.flatMap (fun path => above.flatMap fun place => (treeAt place).placesOn path) ++
    named.flatMap (treeAt here).placesOn

/-- Loads the settings and checks the request against them. -/
def prepare (arguments : Arguments) (around : Surroundings) : Except ProgramFailure Plan := do
  let settings ← (Settings.load around.tree around.assignments arguments.config).mapError .loading
  let plan ← (Plan.create settings).mapError .plain
  (plan.check arguments.request).mapError .plain
  return plan

/-- What comes of a run and of the release of the sinks after it: the failure of the run, or else
that of the release, or else the report. -/
def conclude (arguments : Arguments) (result : Except Failure RunSummary)
    (released : Except SinkError Unit) : Except ProgramFailure String :=
  match result, released with
  | .error failure, _ => .error (.plain failure)
  | .ok _, .error error => .error (.flushing error)
  | .ok summary, .ok () => .ok (summary.reportIn arguments.format arguments.console)

/-- Releases the sinks after a run, and answers. -/
def finish (arguments : Arguments) (logs : Logs) (tree : FileTree)
    (run : Except Failure RunSummary × Sinks) : Outcome :=
  let (released, sinks) := run.2.destroy
  let answer := conclude arguments run.1 released
  { tree := logs.save sinks tree
    sinks := some sinks
    report := answer.toOption.getD ""
    result := answer.map fun _ => () }

/-- Opens the logs that the command line names, beside the streams of the process. -/
def openLogs (arguments : Arguments) (around : Surroundings) : Except Failure Logs × FileTree :=
  Logs.openBoth around.tree arguments.requesterLog arguments.resolverLog around.stdout around.stderr

/-- Opens the logs and runs. -/
def start (arguments : Arguments) (around : Surroundings) (plan : Plan) : Outcome :=
  match openLogs arguments around with
  | (.error failure, tree) => .refused tree (.plain failure)
  | (.ok logs, tree) =>
    finish arguments logs tree
      (plan.run arguments.request tree.openDataFile (Resolver.system plan.settings.preferIpv4)
        around.elapsed logs.sinks around.memory)

/-- Carries a command line out. -/
def run (arguments : Arguments) (around : Surroundings) : Outcome :=
  match prepare arguments around with
  | .error failure => .refused around.tree failure
  | .ok plan => start arguments around plan

/-- No file is touched unless all checks have passed. -/
theorem run_of_unprepared {arguments : Arguments} {around : Surroundings} {failure : ProgramFailure}
    (h : prepare arguments around = .error failure) :
    run arguments around = .refused around.tree failure := by
  simp [run, h]

end Program

end HostLookup
