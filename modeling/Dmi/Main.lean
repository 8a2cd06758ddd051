/-
**The command.**

Runs the command on the files of the operating system, and prints what it leaves behind.
-/

import Dmi.CommandLine.Run

namespace Dmi.CommandLine

/-- The number of a refusal of the operating system, where it has one. -/
def codeOf? : IO.Error → Option UInt32
  | .noFileOrDirectory _ code _ => some code
  | .permissionDenied _ code _ => some code
  | .inappropriateType _ code _ => some code
  | .invalidArgument _ code _ => some code
  | .resourceExhausted _ code _ => some code
  | _ => none

/-- The refusal of a number, which some calls report with a minus sign. -/
def refusalOf? (code : UInt32) : Option Refusal :=
  (Refusal.ofCode? code.toNat).or (Refusal.ofCode? (0 - code).toNat)

/-- The wording of a refusal of the operating system. -/
def reasonOf (failure : IO.Error) : String :=
  match (codeOf? failure).bind refusalOf? with
  | some refusal => refusal.text
  | none => toString failure

/-- The files of the operating system. -/
def systemFiles : FileSystem IO where
  read path := do
    try
      return .ok (← IO.FS.readBinFile path).toList
    catch failure =>
      return .error (reasonOf failure)
  write path bytes := do
    try
      IO.FS.writeBinFile path (ByteArray.mk bytes.toArray)
      return .ok ()
    catch failure =>
      return .error (reasonOf failure)

/-- Runs the command on the words of a command line. -/
def perform (words : List String) : IO UInt32 := do
  match Arguments.parse words with
  | .error reason =>
    IO.eprintln reason
    return UInt32.ofNat Outcome.usageCode
  | .ok arguments =>
    let outcome ← run systemFiles arguments
    IO.print outcome.output
    unless outcome.complaint = "" do
      IO.eprintln outcome.complaint
    return UInt32.ofNat outcome.code

end Dmi.CommandLine

/-- Runs the command and gives its exit code. -/
def main (words : List String) : IO UInt32 :=
  Dmi.CommandLine.perform words
