/-
**Bodies.**

What a structure holds behind its header: the formatted section, whose bytes are the fields, and the
strings that the fields refer to by number.
-/

namespace Dmi

/-- The formatted section of a structure and its strings. -/
structure Body where
  /-- The bytes of the fields. -/
  formatted : List UInt8 := []
  /-- The strings, without the zero byte that ends each. -/
  strings : List (List UInt8) := []
  deriving DecidableEq, Repr

namespace Body

/-- The length of the formatted section. -/
def size (body : Body) : Nat :=
  body.formatted.length

/-- The body with bytes at the end of its formatted section. -/
def append (body : Body) (bytes : List UInt8) : Body :=
  { body with formatted := body.formatted ++ bytes }

/-- The body with the first `size` bytes of its section. -/
def cut (body : Body) (size : Nat) : Body :=
  { body with formatted := body.formatted.take size }

end Body

end Dmi
