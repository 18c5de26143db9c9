import HostLookup.Report
import HostLookup.Run.Basic

/-!
# What a command line asks for

`Arguments` is a command line that was understood; `Refusal` is why one asks for no run.
-/

namespace HostLookup

/-- A command line that asks for a run. -/
structure Arguments where
  requesters : Nat
  resolvers : Nat
  /-- The path of the log of the requesters. -/
  requesterLog : String
  /-- The path of the log of the resolvers. -/
  resolverLog : String
  dataFiles : List String := []
  /-- The path of a file with settings. -/
  config : Option String := none
  /-- How often more details were asked for. -/
  verbosity : Nat := 0
  quiet : Bool := false
  format : ReportFormat := .text
  deriving DecidableEq, Repr

/-- Why a command line asks for no run. -/
inductive Refusal where
  | helpWanted
  | versionWanted
  | unknownOption
  /-- An option that is given once has been given twice. -/
  | repeatedOption
  /-- A value is missing, empty, or none of those allowed. -/
  | badValue
  /-- A number of workers is not a number. -/
  | badNumber
  /-- A value has been given to an option that takes none. -/
  | needlessValue
  | missingArgument
  deriving DecidableEq, Repr

namespace Arguments

/-- The run that is asked for. -/
def request (arguments : Arguments) : RunRequest where
  requesters := arguments.requesters
  resolvers := arguments.resolvers
  files := arguments.dataFiles

/-- How much the user wants to be told. -/
def console (arguments : Arguments) : Console where
  verbose := 0 < arguments.verbosity
  quiet := arguments.quiet

end Arguments

namespace Refusal

/-- What is answered to the question for the version. -/
def versionText : String := "multi-lookup 0.1.0\n"

/-- The form of a command line. -/
def usage : String :=
  "Usage: multi-lookup [OPTIONS] <REQUESTERS> <RESOLVERS> <REQUESTER_LOG> <RESOLVER_LOG> " ++
    "[DATA_FILE]...\n"

/-- What is answered to the question for help. -/
def helpText : String :=
  "Requester threads read data files (one host name per line), " ++
    "append each name to REQUESTER_LOG\n" ++
    "and hand it to resolver threads, which write '<name>, <address>' lines to RESOLVER_LOG.\n\n" ++
    usage ++
    "\nOptions:\n" ++
    "      --config <FILE>    Use custom configuration file\n" ++
    "  -v, --verbose...       Increase verbosity (can be repeated)\n" ++
    "  -q, --quiet            Suppress non-error output\n" ++
    "      --format <FORMAT>  Format of the end-of-run report [text, json]\n" ++
    "  -h, --help             Print help\n" ++
    "  -V, --version          Print version\n"

/-- What is wrong with the command line, if anything is. -/
def complaint? : Refusal → Option String
  | .helpWanted | .versionWanted => none
  | .unknownOption => some "unexpected option found"
  | .repeatedOption => some "an option cannot be used multiple times"
  | .badValue => some "a value is missing or not allowed"
  | .badNumber => some "a number of threads is not a number"
  | .needlessValue => some "unexpected value for an option found"
  | .missingArgument => some "required arguments were not provided"

/-- The exit code of the program. Questions are no mistakes. -/
def exitCode (refusal : Refusal) : Nat :=
  if refusal.complaint?.isSome then 2 else 0

end Refusal

end HostLookup
