/-
**Checksums.**

A checksum is the byte that makes a run of bytes add up to zero.
-/

namespace Dmi.Checksum

/-- The sum of bytes. -/
def sum (bytes : List UInt8) : UInt8 :=
  bytes.foldr (· + ·) 0

/-- The byte that is missing to a sum of zero. -/
def complement (bytes : List UInt8) : UInt8 :=
  0 - sum bytes

/-- The byte at `position` that would make the bytes add up to zero. -/
def expected (bytes : List UInt8) (position : Nat) : UInt8 :=
  complement (bytes.set position 0)

@[simp] theorem sum_cons (byte : UInt8) (bytes : List UInt8) :
    sum (byte :: bytes) = byte + sum bytes :=
  rfl

@[simp] theorem sum_append (front back : List UInt8) :
    sum (front ++ back) = sum front + sum back := by
  induction front with
  | nil => exact (UInt8.zero_add (sum back)).symm
  | cons byte front ih => rw [List.cons_append, sum_cons, sum_cons, ih, UInt8.add_assoc]

end Dmi.Checksum
