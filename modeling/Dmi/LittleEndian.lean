/-
**Little-endian numbers.**

A run of bytes stands for a number, least significant byte first. `value` reads one and `digits`
writes one of a given width. Main statements:

* `value_digits` — a number written and read back is the number, up to the limit of its width;
* `digits_value` — bytes read and written back are the bytes.
-/

namespace Dmi.LittleEndian

/-- The number that `bytes` stand for. -/
def value : List UInt8 → Nat
  | [] => 0
  | byte :: rest => byte.toNat + 256 * value rest

/-- The lowest `width` bytes of `number`. -/
def digits : (width number : Nat) → List UInt8
  | 0, _ => []
  | width + 1, number => UInt8.ofNat number :: digits width (number / 256)

/-- The least number that has no room in `width` bytes. -/
def limit : (width : Nat) → Nat
  | 0 => 1
  | width + 1 => 256 * limit width

@[simp] theorem length_digits (width number : Nat) : (digits width number).length = width := by
  induction width generalizing number with
  | zero => rfl
  | succ width ih => simp [digits, ih]

/-- A run of bytes stands for a number that has room in them. -/
theorem value_lt (bytes : List UInt8) : value bytes < limit bytes.length := by
  induction bytes with
  | nil => exact Nat.one_pos
  | cons byte rest ih =>
    have small : byte.toNat < 256 := byte.toNat_lt
    rw [value, List.length_cons, limit]
    omega

theorem value_digits (width number : Nat) : value (digits width number) = number % limit width := by
  induction width generalizing number with
  | zero => rw [digits, value, limit, Nat.mod_one]
  | succ width ih =>
    have low : (UInt8.ofNat number).toNat = number % 256 := UInt8.toNat_ofNat'
    rw [digits, value, ih, low, limit, Nat.mod_mul]

theorem digits_value (bytes : List UInt8) : digits bytes.length (value bytes) = bytes := by
  induction bytes with
  | nil => rfl
  | cons byte rest ih =>
    have small : byte.toNat < 256 := byte.toNat_lt
    have low : UInt8.ofNat (byte.toNat + 256 * value rest) = byte := by
      apply UInt8.toNat_inj.mp
      rw [UInt8.toNat_ofNat']
      omega
    have high : (byte.toNat + 256 * value rest) / 256 = value rest := by omega
    rw [List.length_cons, value, digits, low, high, ih]

end Dmi.LittleEndian
