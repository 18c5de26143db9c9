import HostLookup.Failure.SystemText

/-!
# Failures of input and output

A failure is either an error number of the system or a kind with a message of its own. The kind is
what the program acts on: a line with invalid data is skipped and the file goes on, any other
failure ends the file.
-/

namespace HostLookup

/-- The kinds of failure that are told apart. -/
inductive IoKind where
  | notFound
  | permissionDenied
  | alreadyExists
  | notADirectory
  | isADirectory
  | storageFull
  | invalidFilename
  | invalidInput
  | invalidData
  | unexpectedEof
  | interrupted
  | brokenPipe
  | timedOut
  | wouldBlock
  | other
  deriving DecidableEq, Repr

/-- A failed input or output operation. -/
inductive IoFailure where
  /-- The system refused with this error number. -/
  | system (number : Nat)
  /-- The operation failed before or without the system. -/
  | described (kind : IoKind) (message : String)
  deriving DecidableEq, Repr

namespace IoFailure

/-- The kind behind a failure. Numbers that no part of the program asks about are `other`. -/
def kind : IoFailure → IoKind
  | .system 1 | .system 13 => .permissionDenied
  | .system 2 => .notFound
  | .system 4 => .interrupted
  | .system 11 => .wouldBlock
  | .system 17 => .alreadyExists
  | .system 20 => .notADirectory
  | .system 21 => .isADirectory
  | .system 22 => .invalidInput
  | .system 28 => .storageFull
  | .system 32 => .brokenPipe
  | .system 36 => .invalidFilename
  | .system 110 => .timedOut
  | .system _ => .other
  | .described kind _ => kind

/-- The text of a failure; a system error ends with its number. -/
def message : IoFailure → String
  | .system number => systemText number ++ " (os error " ++ toString number ++ ")"
  | .described _ message => message

/-- A path or host name with a zero byte cannot be handed to the system. -/
def zeroByte : IoFailure :=
  .described .invalidInput "file name contained an unexpected NUL byte"

/-- A line whose bytes are no text. -/
def notUtf8 : IoFailure :=
  .described .invalidData "stream did not contain valid UTF-8"

end IoFailure

end HostLookup
