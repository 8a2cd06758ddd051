/-
**Bytes that add up to zero.**

At every place of a run there is exactly one byte with which the run adds up to zero. So a stored
checksum is the expected one exactly when the whole adds up to zero, and a single changed byte never
goes unnoticed. Main statements:

* `sum_set` — what one changed byte does to the sum;
* `sum_set_eq_zero_iff` — the byte that makes the sum zero is the expected one;
* `getD_eq_expected_iff` — a run holds its expected byte exactly when it adds up to zero;
* `sum_set_ne` — one changed byte changes the sum.
-/

import Dmi.EntryPoint.Checksum

namespace Dmi.Checksum

variable {bytes : List UInt8} {position : Nat}

/-- **One changed byte.** The new sum and the old byte are worth as much as the old sum and the new
byte. -/
theorem sum_set (inside : position < bytes.length) (byte : UInt8) :
    sum (bytes.set position byte) + bytes.getD position 0 = sum bytes + byte := by
  induction bytes generalizing position with
  | nil => cases inside
  | cons first rest ih =>
    cases position with
    | zero =>
      simp only [List.set_cons_zero, sum_cons, List.getD_cons_zero]
      ac_rfl
    | succ position =>
      have behind := ih (Nat.lt_of_succ_lt_succ inside)
      simp only [List.set_cons_succ, sum_cons, List.getD_cons_succ]
      rw [UInt8.add_assoc, behind, ← UInt8.add_assoc]

/-- **Exactly one byte makes the sum zero**, the expected one. -/
theorem sum_set_eq_zero_iff (inside : position < bytes.length) (byte : UInt8) :
    sum (bytes.set position byte) = 0 ↔ byte = expected bytes position := by
  have here := sum_set inside byte
  have zero := sum_set inside 0
  rw [expected, complement]
  grind

/-- A run holds the byte that is expected of it exactly when it adds up to zero. -/
theorem getD_eq_expected_iff (inside : position < bytes.length) :
    bytes.getD position 0 = expected bytes position ↔ sum bytes = 0 := by
  have unchanged : bytes.set position (bytes.getD position 0) = bytes := by
    rw [List.getD_eq_getElem?_getD, List.getElem?_eq_getElem inside, Option.getD_some,
      List.set_getElem_self]
  rw [← sum_set_eq_zero_iff inside, unchanged]

/-- **One changed byte changes the sum.** -/
theorem sum_set_ne (inside : position < bytes.length) {byte : UInt8}
    (other : byte ≠ bytes.getD position 0) : sum (bytes.set position byte) ≠ sum bytes := by
  intro same
  have here := sum_set inside byte
  grind

/-- The byte that is missing to a sum of zero, in front of the others or among them. -/
theorem sum_eq_zero_iff (front back : List UInt8) (byte : UInt8) :
    sum (front ++ byte :: back) = 0 ↔ byte = complement (front ++ 0 :: back) := by
  simp only [complement, sum_append, sum_cons]
  grind

end Dmi.Checksum
