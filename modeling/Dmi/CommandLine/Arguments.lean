/-
**Arguments of the command.**

The options are `--from-dump FILE`, `--dump-bin FILE`, `--type TYPE` or `-t TYPE`, which may be
repeated, and `--verbose` or `-v`. A long option may have its value behind an equals sign.
-/

namespace Dmi.CommandLine

/-- The arguments of the command. -/
structure Arguments where
  /-- The dump file to read in place of the firmware's tables. -/
  fromDump : Option String := none
  /-- The dump file to write in place of a report. -/
  dumpBin : Option String := none
  types : List String := []
  verbosity : Nat := 0
  deriving DecidableEq, Repr

namespace Arguments

/-- What an option does with its value. -/
def withValue? : String → Option (String → Arguments → Arguments)
  | "--from-dump" => some fun value arguments => { arguments with fromDump := some value }
  | "--dump-bin" => some fun value arguments => { arguments with dumpBin := some value }
  | "--type" | "-t" =>
      some fun value arguments => { arguments with types := arguments.types ++ [value] }
  | _ => none

/-- The name and the value of a long option with an equals sign. -/
def assignment? (word : String) : Option (String × String) :=
  let name := word.toList.takeWhile (· ≠ '=')
  match word.toList.drop name.length with
  | [] => none
  | _ :: value => some (String.ofList name, String.ofList value)

/-- What a word does that needs no value behind it. -/
def alone? (word : String) : Option (Arguments → Arguments) :=
  if word = "-v" ∨ word = "--verbose" then
    some fun arguments => { arguments with verbosity := arguments.verbosity + 1 }
  else
    match assignment? word with
    | some (name, value) => (withValue? name).map fun change => change value
    | none => none

/-- Adds the words of a command line to some arguments, or says which word is wrong. -/
def add (arguments : Arguments) : List String → Except String Arguments
  | [] => .ok arguments
  | word :: rest =>
    match alone? word with
    | some change => (change arguments).add rest
    | none =>
      match withValue? word, rest with
      | some change, value :: rest => (change value arguments).add rest
      | some _, [] => .error ("a value is required for " ++ word)
      | none, _ => .error ("unexpected argument " ++ word)

/-- The arguments of the words of a command line. -/
def parse (words : List String) : Except String Arguments :=
  add {} words

end Arguments

end Dmi.CommandLine
