/-
**Texts survive their bytes.**

The decoder is total: what is not UTF-8 becomes U+FFFD. On the bytes of a text it finds the text
again, character by character, and it never invents a zero: the character 0 comes from the byte 0
only, and the byte 0 from the character 0 only. Main statements:

* `decode_encode` — a text is read back from its bytes;
* `zero_mem_encode_iff` — the bytes of a text hold a zero exactly where the text does;
* `zero_not_mem_decode` — a text without zero comes out of bytes without zero.
-/

import Dmi.Text.Utf8

namespace Dmi.Utf8

theorem decodeFrom_cons (pending : Option Pending) (byte : UInt8) (rest : List UInt8) :
    decodeFrom pending (byte :: rest) =
      (step pending byte).1 ++ decodeFrom (step pending byte).2 rest := by
  cases pending <;> rfl

/-! ### The bytes of one character -/

/-- The first of two bytes. -/
theorem enter_two : ∀ lead < 32, 2 ≤ lead →
    enter (UInt8.ofNat (lead + 0xC0)) = ([], some ⟨0, lead, 0x80, 0xBF⟩) := by
  decide

set_option synthInstance.maxSize 512 in
/-- The first two of three bytes: no overlong form and no surrogate. -/
theorem enter_three : ∀ lead < 16, ∀ second < 64, (lead = 0 → 32 ≤ second) →
    (lead = 13 → second < 32) →
    (enter (UInt8.ofNat (lead + 0xE0))).1 = [] ∧
      step (enter (UInt8.ofNat (lead + 0xE0))).2 (UInt8.ofNat (second + 0x80)) =
        ([], some ⟨0, lead * 64 + second, 0x80, 0xBF⟩) := by
  decide +kernel

set_option synthInstance.maxSize 512 in
/-- The first two of four bytes: no overlong form, and nothing above U+10FFFF. -/
theorem enter_four : ∀ lead < 5, ∀ second < 64, (lead = 0 → 16 ≤ second) →
    (lead = 4 → second < 16) →
    (enter (UInt8.ofNat (lead + 0xF0))).1 = [] ∧
      step (enter (UInt8.ofNat (lead + 0xF0))).2 (UInt8.ofNat (second + 0x80)) =
        ([], some ⟨1, lead * 64 + second, 0x80, 0xBF⟩) := by
  decide +kernel

/-- A continuation byte is in the full range, and keeps its six bits. -/
theorem continuation : ∀ bits < 64, 0x80 ≤ UInt8.ofNat (bits + 0x80) ∧
    UInt8.ofNat (bits + 0x80) ≤ 0xBF ∧ (UInt8.ofNat (bits + 0x80)).toNat % 64 = bits := by
  decide +kernel

theorem step_last {bits : Nat} (small : bits < 64) (opened : Nat) :
    step (some ⟨0, opened, 0x80, 0xBF⟩) (UInt8.ofNat (bits + 0x80)) =
      ([Char.ofNat (opened * 64 + bits)], none) := by
  obtain ⟨above, below, same⟩ := continuation bits small
  rw [step, if_pos ⟨above, below⟩, same]

theorem step_inner {bits : Nat} (small : bits < 64) (owed opened : Nat) :
    step (some ⟨owed + 1, opened, 0x80, 0xBF⟩) (UInt8.ofNat (bits + 0x80)) =
      ([], some ⟨owed, opened * 64 + bits, 0x80, 0xBF⟩) := by
  obtain ⟨above, below, same⟩ := continuation bits small
  rw [step, if_pos ⟨above, below⟩, same]

/-- **A character is read back from its bytes**, whatever stands behind them. -/
theorem decodeFrom_utf8EncodeChar (c : Char) (rest : List UInt8) :
    decodeFrom none (String.utf8EncodeChar c ++ rest) = c :: decodeFrom none rest := by
  have valid : c.val.toNat < 0xD800 ∨ 0xDFFF < c.val.toNat ∧ c.val.toNat < 0x110000 := c.valid
  have back : Char.ofNat c.val.toNat = c := Char.ofNat_toNat c
  unfold String.utf8EncodeChar
  generalize c.val.toNat = v at valid back
  by_cases one : v ≤ 0x7F
  · have entered : enter (UInt8.ofNat v) = ([Char.ofNat v], none) := by
      have small : UInt8.ofNat v < 0x80 := by
        rw [UInt8.lt_iff_toNat_lt, UInt8.toNat_ofNat']
        show v % 256 < 128
        omega
      have same : (UInt8.ofNat v).toNat = v := by
        rw [UInt8.toNat_ofNat']
        omega
      rw [enter, if_pos small, same]
    rw [if_pos one, List.singleton_append, decodeFrom_cons, step, entered, back]
    rfl
  by_cases two : v ≤ 0x7FF
  · have opening := enter_two (v / 64 % 0x20) (by omega) (by omega)
    have last := step_last (show v % 0x40 < 64 by omega) (v / 64 % 0x20)
    have whole : v / 64 % 0x20 * 64 + v % 0x40 = v := by omega
    rw [whole, back] at last
    simp only [if_neg one, if_pos two, List.cons_append, List.nil_append]
    rw [decodeFrom_cons, step, opening]
    simp only [List.nil_append]
    rw [decodeFrom_cons, last]
    rfl
  by_cases three : v ≤ 0xFFFF
  · obtain ⟨nothing, opening⟩ := enter_three (v / 4096 % 0x10) (by omega) (v / 64 % 0x40) (by omega)
      (by omega) (by omega)
    have last := step_last (show v % 0x40 < 64 by omega) (v / 4096 % 0x10 * 64 + v / 64 % 0x40)
    have whole : (v / 4096 % 0x10 * 64 + v / 64 % 0x40) * 64 + v % 0x40 = v := by omega
    rw [whole, back] at last
    simp only [if_neg one, if_neg two, if_pos three, List.cons_append, List.nil_append]
    rw [decodeFrom_cons, step, nothing, List.nil_append, decodeFrom_cons, opening, List.nil_append,
      decodeFrom_cons, last]
    rfl
  · obtain ⟨nothing, opening⟩ :=
      enter_four (v / 262144 % 0x08) (by omega) (v / 4096 % 0x40) (by omega)
      (by omega) (by omega)
    have inner := step_inner (show v / 64 % 0x40 < 64 by omega) 0
      (v / 262144 % 0x08 * 64 + v / 4096 % 0x40)
    have last := step_last (show v % 0x40 < 64 by omega)
      ((v / 262144 % 0x08 * 64 + v / 4096 % 0x40) * 64 + v / 64 % 0x40)
    have whole : ((v / 262144 % 0x08 * 64 + v / 4096 % 0x40) * 64 + v / 64 % 0x40) * 64 + v % 0x40 =
        v := by omega
    rw [whole, back] at last
    simp only [if_neg one, if_neg two, if_neg three, List.cons_append, List.nil_append]
    rw [decodeFrom_cons, step, nothing, List.nil_append, decodeFrom_cons, opening, List.nil_append,
      decodeFrom_cons, inner, List.nil_append, decodeFrom_cons, last]
    rfl

/-- **A text is read back from its bytes.** -/
theorem decode_encode (text : String) : decode (encode text) = text := by
  have characters : ∀ list : List Char,
      decodeFrom none (list.flatMap String.utf8EncodeChar) = list := by
    intro list
    induction list with
    | nil => rfl
    | cons c list ih => rw [List.flatMap_cons, decodeFrom_utf8EncodeChar, ih]
  rw [decode, encode, characters, String.ofList_toList]

/-! ### No zero out of nothing -/

/-- The numbers from `first` up to `behind` are characters other than zero. -/
def IsRange (first behind : Nat) : Prop :=
  0 < first ∧ (behind ≤ 0xD800 ∨ 0xE000 ≤ first ∧ behind ≤ 0x110000)

instance (first behind : Nat) : Decidable (IsRange first behind) :=
  inferInstanceAs (Decidable (_ ∧ _))

theorem IsRange.shrink {first behind low high : Nat} (range : IsRange first behind)
    (above : first ≤ low) (below : high ≤ behind) : IsRange low high := by
  unfold IsRange at range ⊢
  omega

theorem IsRange.ofNat_ne_zero {n : Nat} (range : IsRange n (n + 1)) : Char.ofNat n ≠ '\x00' := by
  have isValid : n.isValidChar := by
    unfold IsRange at range
    unfold Nat.isValidChar
    omega
  intro zero
  have same := congrArg Char.toNat zero
  rw [Char.ofNat, dif_pos isValid] at same
  have none_ : n = 0 := same
  exact absurd none_ (Nat.ne_of_gt range.1)

/-- The number of ends that as many continuation bytes tell apart. -/
def span : (owed : Nat) → Nat
  | 0 => 1
  | owed + 1 => 64 * span owed

/-- However the open character goes on, it ends as a character other than zero. -/
def Pending.Sound (pending : Pending) : Prop :=
  0x80 ≤ pending.low ∧ pending.high ≤ 0xBF ∧
    IsRange ((pending.bits * 64 + pending.low.toNat % 64) * span pending.owed)
      ((pending.bits * 64 + pending.high.toNat % 64 + 1) * span pending.owed)

instance (pending : Pending) : Decidable pending.Sound :=
  inferInstanceAs (Decidable (_ ∧ _))

/-- What a first byte begins is sound, and it completes a zero only if it is zero itself. -/
theorem enter_sound (byte : UInt8) : (∀ pending ∈ (enter byte).2, pending.Sound) ∧
    ('\x00' ∈ (enter byte).1 → byte = 0) := by
  have table : ∀ n < 256, (∀ pending ∈ (enter (UInt8.ofNat n)).2, pending.Sound) ∧
      ('\x00' ∈ (enter (UInt8.ofNat n)).1 → UInt8.ofNat n = 0) := by
    decide +kernel
  have here := table byte.toNat byte.toNat_lt
  rwa [UInt8.ofNat_toNat] at here

/-- A byte of its range leaves the open character sound, or ends it as no zero. The range of the
numbers that it may end as only shrinks. -/
theorem sound_of_continuation {pending : Pending} (sound : pending.Sound) {byte : UInt8}
    (above : pending.low ≤ byte) (below : byte ≤ pending.high) :
    (∀ next ∈ (step (some pending) byte).2, next.Sound) ∧ '\x00' ∉
      (step (some pending) byte).1 := by
  obtain ⟨lowest, highest, range⟩ := sound
  rw [step, if_pos ⟨above, below⟩]
  obtain ⟨owed, bits, low, high⟩ := pending
  simp only at lowest highest above below range
  rw [UInt8.le_iff_toNat_le] at lowest highest above below
  have high_ : high.toNat ≤ 191 := highest
  have low_ : 128 ≤ low.toNat := lowest
  have least : bits * 64 + low.toNat % 64 ≤ bits * 64 + byte.toNat % 64 := by omega
  have greatest : bits * 64 + byte.toNat % 64 + 1 ≤ bits * 64 + high.toNat % 64 + 1 := by omega
  have shrunk := range.shrink (Nat.mul_le_mul_right (span owed) least)
    (Nat.mul_le_mul_right (span owed) greatest)
  cases owed with
  | zero =>
    rw [span, Nat.mul_one, Nat.mul_one] at shrunk
    exact ⟨by simp, fun zero => shrunk.ofNat_ne_zero (List.mem_singleton.mp zero).symm⟩
  | succ owed =>
    refine ⟨?_, List.not_mem_nil⟩
    rintro next same
    cases same
    have lowBits : (0x80 : UInt8).toNat % 64 = 0 := by decide
    have highBits : (0xBF : UInt8).toNat % 64 = 63 := by decide
    refine ⟨UInt8.le_refl 0x80, UInt8.le_refl 0xBF, ?_⟩
    rw [span, ← Nat.mul_assoc, ← Nat.mul_assoc, Nat.succ_mul] at shrunk
    rw [lowBits, highBits]
    exact shrunk

/-- One byte other than zero completes no zero, and leaves what is open sound. -/
theorem step_sound {pending : Option Pending} (sound : ∀ open_ ∈ pending, open_.Sound)
    {byte : UInt8} (notZero : byte ≠ 0) :
    (∀ next ∈ (step pending byte).2, next.Sound) ∧ '\x00' ∉ (step pending byte).1 := by
  have entered := enter_sound byte
  cases pending with
  | none => exact ⟨entered.1, fun zero => notZero (entered.2 zero)⟩
  | some pending =>
    by_cases inside : pending.low ≤ byte ∧ byte ≤ pending.high
    · exact sound_of_continuation (sound pending rfl) inside.1 inside.2
    · rw [step, if_neg inside]
      refine ⟨entered.1, fun zero => ?_⟩
      rcases List.mem_cons.mp zero with zero | zero
      · exact absurd zero (by decide)
      · exact notZero (entered.2 zero)

/-- **No character zero comes out of other bytes.** -/
theorem zero_not_mem_decodeFrom {bytes : List UInt8} (noZero : 0 ∉ bytes) {pending : Option Pending}
    (sound : ∀ open_ ∈ pending, open_.Sound) : '\x00' ∉ decodeFrom pending bytes := by
  induction bytes generalizing pending with
  | nil => cases pending <;> simp [decodeFrom, replacement]
  | cons byte bytes ih =>
    rw [List.mem_cons, not_or] at noZero
    obtain ⟨next, here⟩ := step_sound sound (Ne.symm noZero.1)
    rw [decodeFrom_cons, List.mem_append, not_or]
    exact ⟨here, ih noZero.2 next⟩

/-- The zero byte is the encoding of the zero character, and a part of no other. -/
theorem zero_not_mem_utf8EncodeChar {c : Char} (notZero : c ≠ '\x00') :
    0 ∉ String.utf8EncodeChar c := by
  have positive : c.val.toNat ≠ 0 := by
    intro zero
    exact notZero (Char.ext (UInt32.toNat_inj.mp zero))
  have nonzero : ∀ n, n % 256 ≠ 0 → (0 : UInt8) ≠ UInt8.ofNat n := by
    intro n large same
    have sizes := congrArg UInt8.toNat same
    rw [UInt8.toNat_ofNat'] at sizes
    exact large sizes.symm
  unfold String.utf8EncodeChar
  simp only
  split
  · simp only [List.mem_singleton]
    exact nonzero _ (by omega)
  split
  · simp only [List.mem_cons, List.not_mem_nil, or_false, not_or]
    exact ⟨nonzero _ (by omega), nonzero _ (by omega)⟩
  split
  · simp only [List.mem_cons, List.not_mem_nil, or_false, not_or]
    exact ⟨nonzero _ (by omega), nonzero _ (by omega), nonzero _ (by omega)⟩
  · simp only [List.mem_cons, List.not_mem_nil, or_false, not_or]
    exact ⟨nonzero _ (by omega), nonzero _ (by omega), nonzero _ (by omega), nonzero _ (by omega)⟩

theorem encode_ne_nil {text : String} (nonempty : text ≠ "") : encode text ≠ [] := by
  intro empty
  apply nonempty
  rw [← decode_encode text, empty]
  rfl

/-- The bytes of a text hold a zero exactly where the text holds the character zero. -/
theorem zero_mem_encode_iff (text : String) : 0 ∈ encode text ↔ '\x00' ∈ text.toList := by
  rw [encode, List.mem_flatMap]
  constructor
  · rintro ⟨c, member, zero⟩
    by_cases same : c = '\x00'
    · exact same ▸ member
    · exact absurd zero (zero_not_mem_utf8EncodeChar same)
  · intro member
    exact ⟨'\x00', member, List.mem_singleton.mpr rfl⟩

/-- **A text without zero comes out of bytes without zero**, whether they are UTF-8 or not. -/
theorem zero_not_mem_decode {bytes : List UInt8} (noZero : 0 ∉ bytes) :
    '\x00' ∉ (decode bytes).toList := by
  rw [decode, String.toList_ofList]
  exact zero_not_mem_decodeFrom noZero (by simp)

end Dmi.Utf8
