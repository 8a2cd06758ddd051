/-
**The text of an undecoded structure.**

Two header lines, the bytes of header and formatted section in rows of sixteen, and the strings as
they can be read.
-/

import Dmi.Structure.Basic
import Dmi.Text.Utf8

namespace Dmi

/-- The number of bytes in a row. -/
def Structure.rowSize : Nat := 16

/-- The bytes cut into rows; only the last may be shorter. -/
def Structure.rows (bytes : List UInt8) : List (List UInt8) :=
  if bytes = [] then []
  else bytes.take rowSize :: rows (bytes.drop rowSize)
  termination_by bytes.length
  decreasing_by
    rename_i nonempty
    have positive : 0 < bytes.length := List.length_pos_iff.mpr nonempty
    simp only [List.length_drop, rowSize]
    omega

namespace Structure

/-- One row of bytes. -/
def renderRow (row : List UInt8) : String :=
  String.intercalate " " (row.map fun byte => Hex.upper 2 byte.toNat)

/-- The text of a structure that no record describes. -/
def render (s : Structure) : String :=
  let bytes := s.header.bytes ++ s.body.formatted
  let dump := (rows bytes).map fun row => "\n\t\t" ++ renderRow row
  let strings := s.body.strings.map fun string => "\n\t\t" ++ Utf8.decode string
  s.header.render ++ "\n\tHeader and Data:" ++ String.join dump ++
    (if s.body.strings = [] then "" else "\n\tStrings:" ++ String.join strings)

end Structure

end Dmi
