/-
**Where the bytes come from.**

The command reads a dump file if its arguments name one, and otherwise the two files in which the
firmware's entry point and table are found. `Source.load` says which files are read and how a
failure is worded; how a file is read is left to the caller.
-/

import Dmi.CommandLine.Arguments

namespace Dmi.CommandLine

/-- Where the bytes come from. -/
inductive Source where
  /-- The bytes of a dump file. -/
  | dump (image : List UInt8)
  /-- The bytes of an entry point and of its table. -/
  | firmware (entryBytes tableBytes : List UInt8)
  deriving DecidableEq, Repr

namespace Source

/-- The directory of the firmware's tables. -/
def firmwareDirectory : String := "/sys/firmware/dmi/tables/"

/-- The file of the firmware's entry point. -/
def entryFile : String := firmwareDirectory ++ "smbios_entry_point"

/-- The file of the firmware's table. -/
def tableFile : String := firmwareDirectory ++ "DMI"

/-- The source that the arguments name, or the reason why it cannot be read. `read` yields the bytes
of a file or the wording of a refusal. -/
def load {m : Type → Type} [Monad m] (read : String → m (Except String (List UInt8)))
    (arguments : Arguments) : m (Except String Source) := do
  match arguments.fromDump with
  | some name =>
    match ← read name with
    | .ok image => return .ok (.dump image)
    | .error reason => return .error (name ++ ": " ++ reason)
  | none =>
    match ← read entryFile with
    | .error reason => return .error ("error loading firmware tables: " ++ reason)
    | .ok entryBytes =>
      match ← read tableFile with
      | .error reason => return .error ("error loading firmware tables: " ++ reason)
      | .ok tableBytes => return .ok (.firmware entryBytes tableBytes)

end Source

end Dmi.CommandLine
