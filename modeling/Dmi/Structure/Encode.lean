/-
**The bytes of a structure.**

A structure is written as its header, its formatted section and its strings. The length byte is the
one of the header, whatever the formatted section is.
-/

import Dmi.Structure.Basic
import Dmi.Structure.Strings

namespace Dmi.Structure

/-- The bytes of a structure. -/
def bytes (s : Structure) : List UInt8 :=
  s.header.bytes ++ s.body.formatted ++ Strings.bytes s.body.strings

end Dmi.Structure
