/-
**What the command does.**

The command prints the report of a dump or of the firmware's tables, or writes them to a dump file.
It first reads the type filter, so that a bad filter is reported before anything is printed or read.
Its exit code is 0, 1 when reading or writing fails, or 2 for bad arguments. `run` leaves open which
files it works on; `runIn` works on a tree.
-/

import Dmi.CommandLine.FileSystem
import Dmi.CommandLine.Source
import Dmi.Snapshot.Dump
import Dmi.Snapshot.Report

namespace Dmi.CommandLine

/-- What the command leaves behind. -/
structure Outcome where
  code : Nat := 0
  output : String := ""
  /-- The line on the error stream, empty if there is none. -/
  complaint : String := ""
  /-- The file to write, with its name. -/
  file : Option (String × List UInt8) := none
  deriving DecidableEq, Repr

namespace Outcome

/-- The exit code of a failure. -/
def failureCode : Nat := 1

/-- The exit code of bad arguments. -/
def usageCode : Nat := 2

/-- The outcome when the file cannot be written. -/
def refused (outcome : Outcome) (reason : String) : Outcome :=
  { outcome with code := failureCode, complaint := reason, file := none }

end Outcome

/-- The first line of every output. -/
def titleLine : String := "# dmidecode-rs\n"

/-- A failure after the first line has been printed. -/
def failure (reason : String) : Outcome :=
  { code := Outcome.failureCode, output := titleLine, complaint := reason }

/-- A failure that an error explains. -/
def failureIn (activity : String) (error : Error) : Outcome :=
  failure (activity ++ ": " ++ error.message)

/-- Writes a dump file. -/
def writeDump (name : String) (entryBytes tableBytes : List UInt8) : Outcome :=
  match Dump.build entryBytes tableBytes with
  | .error error => failureIn "error building dump" error
  | .ok image =>
    let line (count : Nat) := "# Writing " ++ count.repr ++ " bytes to " ++ name ++ ".\n"
    { output := titleLine ++ line (image.length - tableBytes.length) ++ line tableBytes.length
      file := some (name, image) }

/-- Prints a report. -/
def printReport (filter : TypeFilter) (entryBytes tableBytes : List UInt8) : Outcome :=
  match Snapshot.parse entryBytes tableBytes with
  | .error error => failureIn "error parsing SMBIOS data" error
  | .ok snapshot => { output := titleLine ++ snapshot.report filter .builtin .tolerant }

/-- What the command does with the bytes of an entry point and of a table. -/
def process (arguments : Arguments) (filter : TypeFilter) (entryBytes tableBytes : List UInt8) :
    Outcome :=
  match arguments.dumpBin with
  | some name => writeDump name entryBytes tableBytes
  | none => printReport filter entryBytes tableBytes

/-- What the command does with what reading its source has yielded: the source, or the reason why it
cannot be read. -/
def answer (arguments : Arguments) (filter : TypeFilter) (source : Except String Source) :
    Outcome :=
  match source with
  | .error reason => failure reason
  | .ok (.firmware entryBytes tableBytes) => process arguments filter entryBytes tableBytes
  | .ok (.dump image) =>
    match Dump.split image with
    | .error error => failureIn "error reading dump" error
    | .ok (entryBytes, tableBytes) => process arguments filter entryBytes tableBytes

section

variable {m : Type → Type} [Monad m]

/-- The outcome of the command before its file is written. -/
def plan (files : FileSystem m) (arguments : Arguments) : m Outcome := do
  match TypeFilter.parse arguments.types with
  | .error error =>
    return { code := Outcome.usageCode, complaint := "invalid --type: " ++ error.message }
  | .ok filter => return answer arguments filter (← Source.load files.read arguments)

/-- The outcome of the command. -/
def run (files : FileSystem m) (arguments : Arguments) : m Outcome := do
  let outcome ← plan files arguments
  match outcome.file with
  | none => return outcome
  | some (name, bytes) =>
    match ← files.write name bytes with
    | .ok () => return outcome
    | .error reason => return outcome.refused reason

end

/-- The outcome of the command when it works on a tree, and the tree afterwards. -/
def runIn (tree : FileTree) (arguments : Arguments) : Outcome × FileTree :=
  (run FileTree.fileSystem arguments).run tree

end Dmi.CommandLine
