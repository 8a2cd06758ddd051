/-
**Lines of a report.**

The text of a record is a run of lines, each of which opens with a line break: `field` names a
value, `heading` opens a group, and `item` is one of its members. Names of codes come from tables,
which are either sparse, with the codes written out, or dense, for codes that count from 1. `bytes`
writes a size in the largest unit that holds it a whole number of times.
-/

import Dmi.Text.Hex

namespace Dmi.Lines

/-- A line that names a value. -/
def field (label value : String) : String :=
  "\n\t" ++ label ++ ": " ++ value

/-- A line that opens a group. -/
def heading (label : String) : String :=
  "\n\t" ++ label ++ ":"

/-- A line of a group. -/
def item (text : String) : String :=
  "\n\t\t" ++ text

/-- The lines, if they are shown at all. -/
def onlyIf (shown : Bool) (lines : String) : String :=
  if shown then lines else ""

/-- What stands for a code outside the defined range. -/
def outOfRange : String := "<OUT OF SPEC>"

/-- The name of a code in a sparse table, or else the code itself. -/
def nameOf (names : List (Nat × String)) (code : Nat) : String :=
  match names.lookup code with
  | some name => name
  | none => Hex.literal code

/-- The name of a code in a dense table, which counts from 1. -/
def nth (names : List String) : (code : Nat) → String
  | 0 => outOfRange
  | place + 1 => names.getD place outOfRange

/-- The names of the bits that are set, in the order of the table. -/
def flags (names : List (Nat × String)) (bits : Nat) : List String :=
  (names.filter fun flag => bits.testBit flag.1).map fun flag => flag.2

/-- One line for each bit that is set. -/
def flagItems (names : List (Nat × String)) (bits : Nat) : String :=
  String.join ((flags names bits).map item)

/-- The units of a size, the largest first. -/
def units : List (Nat × String) :=
  [(0x10000000000, "TB"), (0x40000000, "GB"), (0x100000, "MB"), (0x400, "kB")]

/-- A number of bytes in the largest unit that divides it, or in bytes. -/
def bytes (size : Nat) : String :=
  match units.find? fun unit => unit.1 ≤ size && size % unit.1 == 0 with
  | some (scale, unit) => (size / scale).repr ++ " " ++ unit
  | none => size.repr ++ " bytes"

end Dmi.Lines
