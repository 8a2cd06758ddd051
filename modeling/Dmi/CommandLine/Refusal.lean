/-
**Refusals of the operating system.**

Why a file cannot be read or written. Each refusal has a number of its own, by which the operating
system reports it.
-/

namespace Dmi.CommandLine

/-- Why the operating system refuses to read or write a file. -/
inductive Refusal where
  /-- A name leads to nothing. -/
  | missing
  /-- The user may not do it. -/
  | denied
  /-- A path goes through a file as if it were a directory. -/
  | notDirectory
  /-- A path leads to a directory. -/
  | isDirectory
  /-- The device has no room. -/
  | full
  /-- A path or a name in it has too many bytes. -/
  | nameTooLong
  deriving DecidableEq, Repr

namespace Refusal

/-- Every refusal. -/
def all : List Refusal :=
  [missing, denied, notDirectory, isDirectory, full, nameTooLong]

/-- The number of a refusal. -/
def code : Refusal → Nat
  | missing => 2
  | denied => 13
  | notDirectory => 20
  | isDirectory => 21
  | full => 28
  | nameTooLong => 36

/-- The refusal of a number. -/
def ofCode? (code : Nat) : Option Refusal :=
  all.find? fun refusal => refusal.code == code

/-- The wording of a refusal. -/
def wording : Refusal → String
  | missing => "No such file or directory"
  | denied => "Permission denied"
  | notDirectory => "Not a directory"
  | isDirectory => "Is a directory"
  | full => "No space left on device"
  | nameTooLong => "File name too long"

/-- A refusal as messages report it. -/
def text (refusal : Refusal) : String :=
  refusal.wording ++ " (os error " ++ refusal.code.repr ++ ")"

end Refusal

end Dmi.CommandLine
