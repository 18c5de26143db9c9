import HostLookup.CommandLine.Basic
import HostLookup.Text.Digits

/-!
# Reading a command line

Words are read from left to right. A word that begins with a dash is an option, or several options
of one letter, wherever it stands; `--` ends the options, and a dash alone is a word like any
other. The first four other words are the numbers of workers and the two logs, and all further
ones are data files.

A value is looked at only when the next thing that is known has been read, or at the end. So an
unknown option after a bad value is what is refused.
-/

namespace HostLookup

/-- What a word of a command line can be the value of. -/
inductive Parameter where
  | requesters
  | resolvers
  | requesterLog
  | resolverLog
  | config
  | format
  deriving DecidableEq, Repr

/-- An option that takes no value. -/
inductive Switch where
  | verbose
  | quiet
  | help
  | version
  deriving DecidableEq, Repr

/-- A command line that has been read in part. -/
structure Draft where
  requesters : Option Nat := none
  resolvers : Option Nat := none
  requesterLog : Option String := none
  resolverLog : Option String := none
  dataFiles : List String := []
  config : Option String := none
  format : Option ReportFormat := none
  verbosity : Nat := 0
  quiet : Bool := false
  /-- The parameters that the next words without a dash are for. -/
  places : List Parameter := [.requesters, .resolvers, .requesterLog, .resolverLog]
  /-- A parameter whose value has not been looked at yet, and the value if it has been read. -/
  pending : Option (Parameter × Option String) := none
  /-- Have the options ended? -/
  optionsEnded : Bool := false
  deriving DecidableEq, Repr

namespace Draft

/-- The highest verbosity that is counted. -/
def maxVerbosity : Nat := 255

/-- A number of workers. -/
def readCount (word : String) : Except Refusal Nat :=
  match Text.readWord word.toList with
  | some n => .ok n
  | none => .error .badNumber

/-- A path. -/
def readPath (word : String) : Except Refusal String :=
  if word = "" then .error .badValue else .ok word

/-- A form of the report. -/
def readFormat (word : String) : Except Refusal ReportFormat :=
  match ReportFormat.ofName? word with
  | some format => .ok format
  | none => .error .badValue

/-- Has an option with a value been given already? -/
def isGiven (d : Draft) : Parameter → Bool
  | .config => d.config.isSome
  | .format => d.format.isSome
  | _ => false

/-- Gives a parameter its value. -/
def assign (d : Draft) (parameter : Parameter) (word : String) : Except Refusal Draft :=
  if d.isGiven parameter then .error .repeatedOption
  else
    match parameter with
    | .requesters => (readCount word).map fun n => { d with requesters := some n }
    | .resolvers => (readCount word).map fun n => { d with resolvers := some n }
    | .requesterLog => (readPath word).map fun path => { d with requesterLog := some path }
    | .resolverLog => (readPath word).map fun path => { d with resolverLog := some path }
    | .config => (readPath word).map fun path => { d with config := some path }
    | .format => (readFormat word).map fun format => { d with format := some format }

/-- Looks at the value that waits. -/
def settle (d : Draft) : Except Refusal Draft :=
  match d.pending with
  | none => .ok d
  | some (_, none) => .error .badValue
  | some (parameter, some word) => { d with pending := none }.assign parameter word

/-- Turns a switch on. -/
def turnOn (d : Draft) (switch : Switch) : Except Refusal Draft := do
  let d ← d.settle
  match switch with
  | .verbose => .ok { d with verbosity := min (d.verbosity + 1) maxVerbosity }
  | .quiet => if d.quiet then .error .repeatedOption else .ok { d with quiet := true }
  | .help => .error .helpWanted
  | .version => .error .versionWanted

/-- Turns on the switch of a letter. -/
def turnOnLetter (d : Draft) (letter : Char) : Except Refusal Draft :=
  match letter with
  | 'v' => d.turnOn .verbose
  | 'q' => d.turnOn .quiet
  | 'h' => d.turnOn .help
  | 'V' => d.turnOn .version
  | _ => .error .unknownOption

/-- An option by its name. -/
def optionNamed? (name : String) : Option (Switch ⊕ Parameter) :=
  [("verbose", .inl .verbose), ("quiet", .inl .quiet), ("help", .inl .help),
    ("version", .inl .version), ("config", .inr .config), ("format", .inr .format)].lookup name

/-- Reads an option that is written with its name, and maybe with a value behind an equals sign. -/
def readOption (d : Draft) (name : String) (value : Option String) : Except Refusal Draft :=
  match optionNamed? name, value with
  | none, _ => .error .unknownOption
  | some (.inl switch), none => d.turnOn switch
  | some (.inl _), some _ => .error .needlessValue
  | some (.inr parameter), none =>
    d.settle.map fun d => { d with pending := some (parameter, none) }
  | some (.inr parameter), some word => d.settle.bind fun d => d.assign parameter word

/-- Reads a word that is no option and no value of one. -/
def readPlain (d : Draft) (word : String) : Except Refusal Draft := do
  let d ← d.settle
  match d.places with
  | [] => return { d with dataFiles := d.dataFiles ++ [word] }
  | parameter :: places =>
    return { d with places := places, pending := some (parameter, some word) }

/-- The two sides of the first equals sign. -/
def splitValue (cs : List Char) : String × Option String :=
  match cs.span (· ≠ '=') with
  | (name, _ :: value) => (String.ofList name, some (String.ofList value))
  | (name, []) => (String.ofList name, none)

/-- Reads a word. -/
def read (d : Draft) (word : String) : Except Refusal Draft :=
  if d.optionsEnded then d.readPlain word
  else
    match word.toList with
    | ['-', '-'] => .ok { d with optionsEnded := true }
    | '-' :: '-' :: cs => d.readOption (splitValue cs).1 (splitValue cs).2
    | '-' :: c :: cs => (c :: cs).foldlM turnOnLetter d
    | _ =>
      match d.pending with
      | some (parameter, none) => .ok { d with pending := some (parameter, some word) }
      | _ => d.readPlain word

/-- Ends a command line. -/
def finish (d : Draft) : Except Refusal Arguments := do
  let d ← d.settle
  match d.requesters, d.resolvers, d.requesterLog, d.resolverLog with
  | some requesters, some resolvers, some requesterLog, some resolverLog =>
    return {
      requesters := requesters
      resolvers := resolvers
      requesterLog := requesterLog
      resolverLog := resolverLog
      dataFiles := d.dataFiles
      config := d.config
      verbosity := d.verbosity
      quiet := d.quiet
      format := d.format.getD .text }
  | _, _, _, _ => .error .missingArgument

end Draft

namespace Arguments

/-- Reads a command line without the name of the program. -/
def parse (words : List String) : Except Refusal Arguments :=
  (words.foldlM Draft.read {}).bind Draft.finish

/-- Of two refusals the one further left is answered. -/
theorem parse_append_of_error {front : List String} {refusal : Refusal}
    (h : front.foldlM Draft.read {} = .error refusal) (back : List String) :
    parse (front ++ back) = .error refusal := by
  simp [parse, h, bind, Except.bind]

end Arguments

end HostLookup
