/-
**What the specification says of the bytes of a structure.**

The specification defines the values of a structure by offsets from its first byte. A record finds
them on another way: its walk sums up the sizes of the fields, and gives defaults to those that are
missing. Here the definitions are read off the bytes, at offsets that are written down, and without
asking for bytes that the structure does not declare. Both ways agree, for every structure of a
table. Main statements:

* `Structure.meaning` — the values of every kind of record, by their offsets;
* `Record.run_of_read` — a field stands at the sum of the sizes in front of it;
* `Record.number_of_read`, `Record.block_of_read` — so do its number and its bytes, where nothing
  stands for zero;
* `Record.meaning_eq_of_parse` — what a record means is what the bytes of its structure mean.
-/

import Dmi.Proofs.Layout.Places
import Dmi.Proofs.Record.Meaning
import Mathlib.Data.Nat.Bitwise

namespace Dmi

/-! ### The definitions -/

namespace Structure

variable (s : Structure)

/-- The bytes at an offset from the first byte of the structure, if its declared length reaches
behind them. -/
def run? (offset count : Nat) : Option (List UInt8) :=
  if offset + count ≤ s.header.length.toNat then some ((s.bytes.drop offset).take count) else none

/-- The number that stands there, least byte first. -/
def number? (offset count : Nat) : Option Nat :=
  (s.run? offset count).map LittleEndian.value

/-- The bytes that stand there, or zero bytes in their place. -/
def block (offset count : Nat) : Block count :=
  .ofList count ((s.run? offset count).getD [])

/-- The size of the ROM in bytes. The byte 09h counts units of 64 kB, less one. If it is full, a
word at 18h that is not zero counts MB, GB or bytes, as its two top bits say. -/
def romBytes : Nat :=
  let byte := (s.number? 0x09 1).getD 0
  let word := (s.number? 0x18 2).getD 0
  if byte = 0xFF ∧ word ≠ 0 then
    word % 0x4000 * (if word / 0x4000 = 0 then 2 ^ 20 else if word / 0x4000 = 1 then 2 ^ 30 else 1)
  else 65536 * (byte + 1)

/-- A byte, or the word that it defers to when it is `full` and the structure has the word. -/
def deferred (byte full word : Nat) : Nat :=
  if (s.number? byte 1).getD 0 = full then (s.number? word 2).getD full
    else (s.number? byte 1).getD 0

/-- The voltage in the byte 11h: the top bit announces tenths of a volt, and the three lowest bits
are those of the socket otherwise. -/
def voltage : Voltage :=
  let byte := (s.number? 0x11 1).getD 0
  if byte.testBit 7 then .present (UInt8.ofNat (byte % 0x80))
  else .supported (byte.testBit 0) (byte.testBit 1) (byte.testBit 2)

/-- A size of a cache in bytes. The doubleword counts unless its 31 low bits are zero; then the word
does. In both, the top bit says whether the unit is 64 kB or 1 kB. -/
def cacheBytes (word dword : Nat) : Nat :=
  let small := (s.number? word 2).getD 0
  let large := (s.number? dword 4).getD 0
  if large % 2 ^ 31 ≠ 0 then large % 2 ^ 31 * (if large.testBit 31 then 65536 else 1024)
  else small % 2 ^ 15 * (if small.testBit 15 then 65536 else 1024)

/-- The installed size in bytes. The word 0Ch has none if it is zero or full. The word 7FFFh defers
to the 31 low bits of the doubleword at 1Ch, in MB, if there is one. Otherwise the top bit says
whether the word counts kB or MB. -/
def memoryBytes? : Option Nat :=
  let word := (s.number? 0x0C 2).getD 0
  if word = 0 ∨ word = 0xFFFF then none
  else
    match if word = 0x7FFF then s.number? 0x1C 4 else none with
    | some dword => some (dword % 2 ^ 31 * 2 ^ 20)
    | none => some (if word.testBit 15 then word % 2 ^ 15 * 2 ^ 10 else word * 2 ^ 20)

/-- The firmware revision of a TPM in the doubleword at 0Ah. Version 1, in the byte 08h, has it in
the upper two bytes. -/
def firmwareRevision : Nat × Nat :=
  let dword := (s.number? 0x0A 4).getD 0
  if (s.number? 0x08 1).getD 0 = 1 then (dword / 2 ^ 16 % 2 ^ 8, dword / 2 ^ 24)
  else (dword / 2 ^ 16, dword % 2 ^ 16)

/-- What the bytes of a structure mean that is a record of a kind. -/
def meaning (kind : RecordKind) : Meaning :=
  match kind with
  | .bios => .bios s.romBytes
  | .system => .system (Uuid.render (s.block 0x08 16))
  | .chassis =>
    let type := (s.number? 0x05 1).getD 0
    .chassis (Lines.nth Chassis.typeNames (type % 0x80)) (type.testBit 7)
  | .processor =>
    .processor (UInt16.ofNat (s.deferred 0x06 0xFE 0x28)) (UInt16.ofNat (s.deferred 0x23 0xFF 0x2A))
      (UInt16.ofNat (s.deferred 0x24 0xFF 0x2C)) (UInt16.ofNat (s.deferred 0x25 0xFF 0x2E))
        s.voltage
  | .cache =>
    let word := (s.number? 0x05 2).getD 0
    .cache (s.cacheBytes 0x07 0x13) (s.cacheBytes 0x09 0x17) (word % 8 + 1) (word.testBit 7)
      (word.testBit 3)
  | .memoryDevice => .memoryDevice s.memoryBytes? ((s.number? 0x1B 1).getD 0 % 16)
  | .ipmiDevice =>
    let base := (s.number? 0x08 8).getD 0
    .ipmiDevice (base / 2 * 2 + (s.number? 0x10 1).getD 0 / 16 % 2) (base % 2 = 1)
  | .tpmDevice =>
      .tpmDevice ((Utf8.decode? ((s.block 0x04 4).val.takeWhile (· != 0))).getD "")
      s.firmwareRevision
  | .baseboard => .nothing
  | .slot => .nothing
  | .inactive => .nothing
  | .endOfTable => .nothing

end Structure

/-! ### Where the fields of a record stand -/

/-- The kinds with fields ask for at least one byte behind the header. -/
theorem RecordKind.size_lt_minSize {kind : RecordKind} {index : Nat} {found : Slot × Option Kind}
    (here : kind.layout.slots[index]? = some found) : Header.size < kind.minSize := by
  cases kind with
  | inactive => cases here
  | endOfTable => cases here
  | _ => decide

/-- What is read from the formatted section stands behind the header. -/
theorem Structure.run?_of_bytes {s : Structure} {place count : Nat} {run : List UInt8}
    (declared : s.header.length.toNat = Header.size + s.body.size)
    (read : s.body.bytes place count = .ok run) :
    s.run? (Header.size + place) count = some run := by
  have inside : place + count ≤ s.body.size :=
    (Body.bytes_eq_ok_iff s.body place count).mp ⟨run, read⟩
  have fits : Header.size + place + count ≤ s.header.length.toNat := by
    rw [declared, Nat.add_assoc]
    exact Nat.add_le_add_left inside _
  rw [Body.bytes, if_pos inside] at read
  cases read
  have front : s.bytes.drop Header.size = s.body.formatted ++ Strings.bytes s.body.strings := by
    rw [Structure.bytes, List.append_assoc, List.drop_left' (Header.length_bytes s.header)]
  have length : (s.body.formatted.drop place).length = s.body.size - place := List.length_drop
  rw [Structure.run?, if_pos fits, ← List.drop_drop, front,
    List.drop_append_of_le_length (Nat.le_trans (Nat.le_add_right place count) inside),
    List.take_append_of_le_length (by omega)]

namespace Record

variable {kind : RecordKind} {policy : StringPolicy} {s : Structure} {record : Record}
  {tolerated : List Error} {slot : Slot} {sort : Kind} {value : Value} {run : List UInt8}
  {index : Nat}

/-- **A field stands at the sum of the sizes in front of it**, behind the header, or the structure
ends before it and it is worth its default. -/
theorem run_of_read (wellFormed : s.WellFormed)
    (found : Record.read kind policy s = .ok (record, tolerated))
    (sized : (kind.layout.take index).isSized)
    (here : kind.layout.slots[index]? = some (slot, some sort))
    (given : record.content.values[index]? = some value) (some_ : value.run? = some run) :
    s.run? (Header.size + (kind.layout.take index).leastSize) sort.leastSize = some run ∨
      s.run? (Header.size + (kind.layout.take index).leastSize) sort.leastSize = none ∧
        run = sort.defaultBytes slot.default := by
  obtain ⟨_, long, _⟩ := exists_walk found
  have least := RecordKind.size_lt_minSize here
  have declared : s.header.length.toNat = Header.size + s.body.size := by
    have size : s.body.size = s.header.length.toNat - Header.size := wellFormed.declared
    rw [Structure.size] at long
    omega
  obtain ⟨present, missing⟩ :=
    (decoded_of_read found).run_of_sized kind.dense_layout kind.defaultsFit_layout sized here given
      some_
  rw [Nat.zero_add] at present missing
  by_cases room : (kind.layout.take index).leastSize + sort.leastSize ≤ s.body.size
  · exact .inl (Structure.run?_of_bytes declared (present room))
  · refine .inr ⟨?_, missing (Nat.lt_of_not_le room)⟩
    rw [Structure.run?, if_neg]
    omega

/-- A number of a record stands in its place, or the structure ends before and it is zero. -/
theorem number_of_read (wellFormed : s.WellFormed)
    (found : Record.read kind policy s = .ok (record, tolerated)) {width : Width} {n : width.Number}
    (sized : (kind.layout.take index).isSized)
    (here : kind.layout.slots[index]? = some (slot, some (.number width)))
    (plain : slot.default = none) (given : record.content.values[index]? = some (.number width n)) :
    s.number? (Header.size + (kind.layout.take index).leastSize) width.size = some (Width.toNat n) ∨
      s.number? (Header.size + (kind.layout.take index).leastSize) width.size = none ∧
        Width.toNat n = 0 := by
  have either : s.run? (Header.size + (kind.layout.take index).leastSize) width.size = some _ ∨
      s.run? (Header.size + (kind.layout.take index).leastSize) width.size = none ∧ _ :=
    run_of_read wellFormed found sized here given rfl
  have digits : LittleEndian.value (LittleEndian.digits width.size (Width.toNat n)) =
    Width.toNat n := by
    rw [LittleEndian.value_digits, Nat.mod_eq_of_lt (Width.toNat_lt n)]
  unfold Structure.number?
  rcases either with there | ⟨none_, zero⟩
  · left
    rw [there, Option.map_some, digits]
  · right
    rw [none_, ← digits, zero, plain]
    refine ⟨rfl, ?_⟩
    show LittleEndian.value (LittleEndian.digits width.size 0) = 0
    rw [LittleEndian.value_digits, Nat.zero_mod]

/-- A number of a record is what stands in its place, with zero for what is missing. -/
theorem getD_number_of_read (wellFormed : s.WellFormed)
    (found : Record.read kind policy s = .ok (record, tolerated)) (width : Width) (index : Nat)
    {n : width.Number} (sized : (kind.layout.take index).isSized)
    (here : kind.layout.slots[index]? = some (slot, some (.number width)))
    (plain : slot.default = none) (given : record.content.values[index]? = some (.number width n)) :
    (s.number? (Header.size + (kind.layout.take index).leastSize) width.size).getD 0 =
      Width.toNat n := by
  rcases number_of_read wellFormed found sized here plain given with there | ⟨none_, zero⟩
  · rw [there, Option.getD_some]
  · rw [none_, zero, Option.getD_none]

/-- The length that a record declares says whether its structure has a number. -/
theorem number?_of_read (wellFormed : s.WellFormed)
    (found : Record.read kind policy s = .ok (record, tolerated)) (width : Width) (index : Nat)
    {n : width.Number} (sized : (kind.layout.take index).isSized)
    (here : kind.layout.slots[index]? = some (slot, some (.number width)))
    (plain : slot.default = none) (given : record.content.values[index]? = some (.number width n)) :
    s.number? (Header.size + (kind.layout.take index).leastSize) width.size =
      if Header.size + (kind.layout.take index).leastSize + width.size ≤ record.length then
        some (Width.toNat n)
      else none := by
  rw [length, source_of_read found]
  by_cases fits : Header.size + (kind.layout.take index).leastSize + width.size ≤
    s.header.length.toNat
  · rw [if_pos fits]
    refine (number_of_read wellFormed found sized here plain given).resolve_right ?_
    rintro ⟨none_, _⟩
    rw [Structure.number?, Structure.run?, if_pos fits] at none_
    cases none_
  · rw [if_neg fits, Structure.number?, Structure.run?, if_neg fits]
    rfl

/-- A block of a record stands in its place, or is zero. -/
theorem block_of_read (wellFormed : s.WellFormed)
    (found : Record.read kind policy s = .ok (record, tolerated)) (count index : Nat)
    {block : Block count} (sized : (kind.layout.take index).isSized)
    (here : kind.layout.slots[index]? = some (slot, some (.bytes count)))
    (given : record.content.values[index]? = some (.bytes block.val)) :
    s.block (Header.size + (kind.layout.take index).leastSize) count = block := by
  have either : s.run? (Header.size + (kind.layout.take index).leastSize) count = some block.val ∨
      s.run? (Header.size + (kind.layout.take index).leastSize) count = none ∧
        block.val = List.replicate count 0 :=
    run_of_read wellFormed found sized here given rfl
  refine Subtype.ext ?_
  rcases either with there | ⟨none_, zero⟩
  · rw [Structure.block, there]
    show (block.val ++ _).take count = _
    rw [List.take_left' block.property]
  · rw [Structure.block, none_, zero]
    show ([] ++ List.replicate count (0 : UInt8)).take count = _
    rw [List.nil_append, List.take_replicate, Nat.min_self]

end Record

/-! ### Bits -/

/-- A mask of one bit asks for this bit. -/
theorem decide_and_two_pow (n bit : Nat) : decide (n &&& 2 ^ bit ≠ 0) = n.testBit bit := by
  have same := Nat.and_two_pow n bit
  by_cases set : n.testBit bit
  · rw [set, Bool.toNat_true, Nat.one_mul] at same
    rw [set, decide_eq_true_iff, same]
    exact Nat.two_pow_pos bit |>.ne'
  · rw [Bool.not_eq_true] at set
    rw [set, Bool.toNat_false, Nat.zero_mul] at same
    rw [set, decide_eq_false_iff_not, Decidable.not_not]
    exact same

theorem decide_byte_and_ne_zero {byte mask : UInt8} {bit : Nat} (power : mask.toNat = 2 ^ bit) :
    decide (byte &&& mask ≠ 0) = byte.toNat.testBit bit := by
  rw [← decide_and_two_pow, decide_eq_decide, ne_eq, ← UInt8.toNat_inj, UInt8.toNat_and, power]
  rfl

theorem decide_word_and_ne_zero {word mask : UInt16} {bit : Nat} (power : mask.toNat = 2 ^ bit) :
    decide (word &&& mask ≠ 0) = word.toNat.testBit bit := by
  rw [← decide_and_two_pow, decide_eq_decide, ne_eq, ← UInt16.toNat_inj, UInt16.toNat_and, power]
  rfl

/-- The voltage that a byte says, bit by bit. -/
theorem Voltage.ofByte_eq (byte : UInt8) : ofByte byte =
    if byte.toNat.testBit 7 then present (UInt8.ofNat (byte.toNat % 0x80))
    else supported (byte.toNat.testBit 0) (byte.toNat.testBit 1) (byte.toNat.testBit 2) := by
  have low : byte &&& 0x7F = UInt8.ofNat (byte.toNat % 0x80) := by
    have small : byte.toNat % 0x80 < 2 ^ 8 := Nat.lt_trans (Nat.mod_lt _ (by decide)) (by decide)
    rw [← UInt8.toNat_inj, UInt8.toNat_ofNat', Nat.mod_eq_of_lt small]
    exact Nat.and_two_pow_sub_one_eq_mod _ 7
  have top : byte &&& 0x80 ≠ 0 ↔ byte.toNat.testBit 7 = true := by
    rw [← decide_byte_and_ne_zero (show (0x80 : UInt8).toNat = 2 ^ 7 from rfl), decide_eq_true_iff]
  have high : decide (byte &&& 1 ≠ 0) = byte.toNat.testBit 0 := decide_byte_and_ne_zero rfl
  have middle : decide (byte &&& 2 ≠ 0) = byte.toNat.testBit 1 := decide_byte_and_ne_zero rfl
  have lowest : decide (byte &&& 4 ≠ 0) = byte.toNat.testBit 2 := decide_byte_and_ne_zero rfl
  rw [ofByte, low, high, middle, lowest]
  simp only [top]

section Meanings

open Record (number?_of_read getD_number_of_read block_of_read)

variable {policy : StringPolicy} {s : Structure} {record : Record} {tolerated : List Error}

/-! ### The records -/

theorem Bios.meaning_of_read {fields : Bios} (wellFormed : s.WellFormed)
    (found : Record.read .bios policy s = .ok (⟨s, .bios fields⟩, tolerated)) :
    (Content.bios fields).meaning s.header.length.toNat = s.meaning .bios := by
  have byte : (s.number? 0x09 1).getD 0 = fields.romSize.toNat :=
    getD_number_of_read wellFormed found .byte 4 rfl rfl rfl rfl
  have word : (s.number? 0x18 2).getD 0 = fields.extendedRomSize.toNat :=
    getD_number_of_read wellFormed found .word 12 rfl rfl rfl rfl
  have full : fields.romSize = 0xFF ↔ fields.romSize.toNat = 0xFF := UInt8.toNat_inj.symm
  have zero : fields.extendedRomSize = 0 ↔ fields.extendedRomSize.toNat = 0 := UInt16.toNat_inj.symm
  show Meaning.bios fields.romBytes = .bios s.romBytes
  rw [Structure.romBytes, byte, word, romBytes]
  by_cases defers : fields.romSize.toNat = 0xFF ∧ fields.extendedRomSize.toNat ≠ 0
  · rw [if_neg (by simp [full, zero, defers]), if_pos defers]
    simp only
    congr 2
    split
    · rename_i mega
      rw [if_pos mega]
      rfl
    · rename_i giga
      rw [if_neg (by omega), if_pos giga]
      rfl
    · rename_i noMega noGiga
      rw [if_neg noMega, if_neg noGiga]
  · have kept : fields.romSize ≠ 0xFF ∨ fields.extendedRomSize = 0 := by
      rw [ne_eq, full, zero]
      omega
    rw [if_pos kept, if_neg defers]

/-- A byte that defers to a word defers to the word that stands in its place. -/
theorem Processor.deferred_eq {byte full : UInt8} {word : UInt16} {place later length : Nat}
    (first : (s.number? place 1).getD 0 = byte.toNat)
    (second : s.number? later 2 = if later + 2 ≤ length then some word.toNat else none) :
    deferred byte full word (later + 2 ≤ length) = UInt16.ofNat
      (s.deferred place full.toNat later) := by
  rw [Structure.deferred, first, second, deferred]
  by_cases defers : byte = full
  · subst defers
    rw [if_pos rfl]
    by_cases long : later + 2 ≤ length
    · simp [long]
    · simp [long]
  · have other : byte.toNat ≠ full.toNat := fun same => defers (UInt8.toNat_inj.mp same)
    rw [if_neg other]
    simp [defers]

theorem Processor.meaning_of_read {cpu : Processor} (wellFormed : s.WellFormed)
    (found : Record.read .processor policy s = .ok (⟨s, .processor cpu⟩, tolerated)) :
    (Content.processor cpu).meaning s.header.length.toNat = s.meaning .processor := by
  have family : cpu.family s.header.length.toNat = UInt16.ofNat (s.deferred 0x06 0xFE 0x28) :=
    deferred_eq (getD_number_of_read wellFormed found .byte 2 rfl rfl rfl rfl)
      (number?_of_read wellFormed found .word 22 rfl rfl rfl rfl)
  have coreCount : cpu.coreCount s.header.length.toNat = UInt16.ofNat (s.deferred 0x23 0xFF 0x2A) :=
    deferred_eq (getD_number_of_read wellFormed found .byte 18 rfl rfl rfl rfl)
      (number?_of_read wellFormed found .word 23 rfl rfl rfl rfl)
  have coreEnabled :
    cpu.coreEnabled s.header.length.toNat = UInt16.ofNat (s.deferred 0x24 0xFF 0x2C) :=
    deferred_eq (getD_number_of_read wellFormed found .byte 19 rfl rfl rfl rfl)
      (number?_of_read wellFormed found .word 24 rfl rfl rfl rfl)
  have threadCount :
    cpu.threadCount s.header.length.toNat = UInt16.ofNat (s.deferred 0x25 0xFF 0x2E) :=
    deferred_eq (getD_number_of_read wellFormed found .byte 20 rfl rfl rfl rfl)
      (number?_of_read wellFormed found .word 25 rfl rfl rfl rfl)
  have voltage : Voltage.ofByte cpu.voltage = s.voltage := by
    have byte : (s.number? 0x11 1).getD 0 = cpu.voltage.toNat :=
      getD_number_of_read wellFormed found .byte 6 rfl rfl rfl rfl
    rw [Structure.voltage, byte]
    exact Voltage.ofByte_eq cpu.voltage
  simp only [Content.meaning, Structure.meaning, family, coreCount, coreEnabled, threadCount,
    voltage]

/-- The sizes of a cache from the numbers of its fields. -/
theorem Cache.sizeOfBoth_eq {size1 : UInt16} {size2 : UInt32} {word dword : Nat}
    (first : (s.number? word 2).getD 0 = size1.toNat)
    (second : (s.number? dword 4).getD 0 = size2.toNat) :
    sizeOfBoth size1 size2 = s.cacheBytes word dword := by
  have unit (bit : Bool) : (if bit then 64 * 1024 else 1024) ≠ 0 := by cases bit <;> decide
  have positive : sizeOf 32 size2.toNat ≠ 0 ↔ size2.toNat % 2 ^ 31 ≠ 0 := by
    show size2.toNat % 2 ^ 31 * _ ≠ 0 ↔ _
    rw [Nat.mul_ne_zero_iff, and_iff_left (unit _)]
  unfold sizeOfBoth Structure.cacheBytes
  rw [first, second]
  simp only [positive]
  rfl

theorem Cache.meaning_of_read {fields : Cache} (wellFormed : s.WellFormed)
    (found : Record.read .cache policy s = .ok (⟨s, .cache fields⟩, tolerated)) :
    (Content.cache fields).meaning s.header.length.toNat = s.meaning .cache := by
  have maxBytes : fields.maxBytes = s.cacheBytes 0x07 0x13 :=
    sizeOfBoth_eq (getD_number_of_read wellFormed found .word 2 rfl rfl rfl rfl)
      (getD_number_of_read wellFormed found .dword 10 rfl rfl rfl rfl)
  have installedBytes : fields.installedBytes = s.cacheBytes 0x09 0x17 :=
    sizeOfBoth_eq (getD_number_of_read wellFormed found .word 3 rfl rfl rfl rfl)
      (getD_number_of_read wellFormed found .dword 11 rfl rfl rfl rfl)
  have word : (s.number? 0x05 2).getD 0 = fields.configuration.toNat :=
    getD_number_of_read wellFormed found .word 1 rfl rfl rfl rfl
  have level : fields.level = (s.number? 0x05 2).getD 0 % 8 + 1 := by
    rw [word, Cache.level, UInt16.toNat_and]
    exact congrArg (· + 1) (Nat.and_two_pow_sub_one_eq_mod _ 3)
  have enabled : fields.isEnabled = ((s.number? 0x05 2).getD 0).testBit 7 := by
    rw [word]
    exact decide_word_and_ne_zero rfl
  have socketed : fields.isSocketed = ((s.number? 0x05 2).getD 0).testBit 3 := by
    rw [word]
    exact decide_word_and_ne_zero rfl
  simp only [Content.meaning, Structure.meaning, maxBytes, installedBytes, level, enabled, socketed]

theorem MemoryDevice.meaning_of_read {memory : MemoryDevice} (wellFormed : s.WellFormed)
    (found : Record.read .memoryDevice policy s = .ok (⟨s, .memoryDevice memory⟩, tolerated)) :
    (Content.memoryDevice memory).meaning s.header.length.toNat = s.meaning .memoryDevice := by
  have word : (s.number? 0x0C 2).getD 0 = memory.size.toNat :=
    getD_number_of_read wellFormed found .word 4 rfl rfl rfl rfl
  have byte : (s.number? 0x1B 1).getD 0 = memory.attributes.toNat :=
    getD_number_of_read wellFormed found .byte 16 rfl rfl rfl rfl
  have dword : s.number? 0x1C 4 = if 0x20 ≤ s.header.length.toNat
    then some memory.extendedSize.toNat else none :=
    number?_of_read wellFormed found .dword 17 rfl rfl rfl rfl
  have bytes : memory.bytes? s.header.length.toNat = s.memoryBytes? := by
    unfold Structure.memoryBytes? bytes?
    rw [word, dword]
    by_cases unknown : memory.size.toNat = 0 ∨ memory.size.toNat = 0xFFFF
    · simp only [unknown, if_true]
    · simp only [unknown, if_false]
      have small : memory.size.toNat < 0x10000 := memory.size.toNat_lt
      by_cases extended : memory.size.toNat = 0x7FFF ∧ 0x20 ≤ s.header.length.toNat
      · rw [if_pos extended, if_pos extended.1, if_pos extended.2]
        rfl
      · have none_ : (if memory.size.toNat = 0x7FFF then
            if 0x20 ≤ s.header.length.toNat then some memory.extendedSize.toNat else none
              else none) = none := by
          rw [← ite_and, if_neg extended]
        have top : memory.size.toNat.testBit 15 = true ↔ 0x8000 ≤ memory.size.toNat := by
          rw [Nat.testBit_eq_decide_div_mod_eq, decide_eq_true_iff]
          omega
        rw [if_neg extended, none_, ← apply_ite some]
        simp only [top]
        rfl
  simp only [Content.meaning, Structure.meaning, bytes, byte]
  rfl

theorem System.meaning_of_read {fields : System} (wellFormed : s.WellFormed)
    (found : Record.read .system policy s = .ok (⟨s, .system fields⟩, tolerated)) :
    (Content.system fields).meaning s.header.length.toNat = s.meaning .system := by
  have uuid : s.block 0x08 16 = fields.uuid := block_of_read wellFormed found 16 4 rfl rfl rfl
  simp only [Content.meaning, Structure.meaning, uuid]

theorem Chassis.meaning_of_read {fields : Chassis} (wellFormed : s.WellFormed)
    (found : Record.read .chassis policy s = .ok (⟨s, .chassis fields⟩, tolerated)) :
    (Content.chassis fields).meaning s.header.length.toNat = s.meaning .chassis := by
  have byte : (s.number? 0x05 1).getD 0 = fields.type.toNat :=
    getD_number_of_read wellFormed found .byte 1 rfl rfl rfl rfl
  have low : (fields.type &&& 0x7F).toNat = fields.type.toNat % 0x80 :=
    Nat.and_two_pow_sub_one_eq_mod _ 7
  have lock : fields.hasLock = fields.type.toNat.testBit 7 := decide_byte_and_ne_zero rfl
  simp only [Content.meaning, Structure.meaning, byte, typeName, low, lock]

theorem IpmiDevice.meaning_of_read {ipmi : IpmiDevice} (wellFormed : s.WellFormed)
    (found : Record.read .ipmiDevice policy s = .ok (⟨s, .ipmiDevice ipmi⟩, tolerated)) :
    (Content.ipmiDevice ipmi).meaning s.header.length.toNat = s.meaning .ipmiDevice := by
  have base : (s.number? 0x08 8).getD 0 = ipmi.baseAddress.toNat :=
    getD_number_of_read wellFormed found .qword 4 rfl rfl rfl rfl
  have modifier : (s.number? 0x10 1).getD 0 = ipmi.addressModifier.toNat :=
    getD_number_of_read wellFormed found .byte 5 rfl rfl rfl rfl
  simp only [Content.meaning, Structure.meaning, base, modifier]
  rfl

theorem TpmDevice.meaning_of_read {tpm : TpmDevice} (wellFormed : s.WellFormed)
    (found : Record.read .tpmDevice policy s = .ok (⟨s, .tpmDevice tpm⟩, tolerated)) :
    (Content.tpmDevice tpm).meaning s.header.length.toNat = s.meaning .tpmDevice := by
  have vendor : s.block 0x04 4 = tpm.vendorId := block_of_read wellFormed found 4 0 rfl rfl rfl
  have version : (s.number? 0x08 1).getD 0 = tpm.majorVersion.toNat :=
    getD_number_of_read wellFormed found .byte 1 rfl rfl rfl rfl
  have firmware : (s.number? 0x0A 4).getD 0 = tpm.firmware1.toNat :=
    getD_number_of_read wellFormed found .dword 3 rfl rfl rfl rfl
  have revision : tpm.firmwareRevision = s.firmwareRevision := by
    have first : tpm.majorVersion = 1 ↔ tpm.majorVersion.toNat = 1 := UInt8.toNat_inj.symm
    unfold Structure.firmwareRevision firmwareRevision
    rw [version, firmware]
    simp only [first]
    rfl
  simp only [Content.meaning, Structure.meaning, vendor, revision]
  rfl

end Meanings

namespace Record

variable {kind : RecordKind} {policy : StringPolicy} {s : Structure} {record : Record}
  {tolerated : List Error}

/-- **What a record means is what the bytes of its structure mean**, under either policy, for every
structure of a table. -/
theorem meaning_eq_of_parse {source : List UInt8} {table : Table}
    (parsed : Table.parse source = .ok table) (member : s ∈ table)
    (found : Record.read kind policy s = .ok (record, tolerated)) :
    record.meaning = s.meaning kind := by
  have wellFormed := (Table.bytes_of_parse parsed).1 s member
  obtain ⟨sort, _⟩ := exists_values found
  have origin := source_of_read found
  obtain ⟨source, content⟩ := record
  obtain rfl : source = s := origin
  subst sort
  show content.meaning source.header.length.toNat = source.meaning content.kind
  cases content with
  | bios fields => exact Bios.meaning_of_read wellFormed found
  | system fields => exact System.meaning_of_read wellFormed found
  | chassis fields => exact Chassis.meaning_of_read wellFormed found
  | processor cpu => exact Processor.meaning_of_read wellFormed found
  | cache fields => exact Cache.meaning_of_read wellFormed found
  | memoryDevice memory => exact MemoryDevice.meaning_of_read wellFormed found
  | ipmiDevice ipmi => exact IpmiDevice.meaning_of_read wellFormed found
  | tpmDevice tpm => exact TpmDevice.meaning_of_read wellFormed found
  | _ => rfl

/-- A processor whose family defers to the last word of its data. The number of its cores would
defer as well, but the structure ends in front of that word. -/
def deferringProcessor : Structure where
  header := ⟨.processor, 0x2A, 4⟩
  body := { formatted := [0, 3, 0xFE, 0] ++ List.replicate 9 0 ++ [0x8C] ++ List.replicate 17 0 ++
    [0xFF, 4, 8, 0, 0, 0x18, 0x01] }

/-- A memory device whose size defers to the last doubleword of its data. -/
def deferringMemory : Structure where
  header := ⟨.memoryDevice, 0x20, 5⟩
  body := { formatted := List.replicate 8 0 ++ [0xFF, 0x7F] ++ List.replicate 13 0 ++
    [0x12, 0, 0, 1, 0x80] }

/-- Both stand in a table, and their records mean what their bytes do. -/
theorem meaning_eq_of_parse_deferring :
    Table.parse (Table.bytes [deferringProcessor, deferringMemory]) = .ok [deferringProcessor,
      deferringMemory] ∧
    (∃ record, Record.read .processor .strict deferringProcessor = .ok (record, []) ∧
      record.meaning = .processor 0x118 0xFF 4 8 (.present 12)) ∧
    ∃ record, Record.read .memoryDevice .strict deferringMemory = .ok (record, []) ∧
      record.meaning = .memoryDevice (some (64 * 2 ^ 30)) 2 := by
  have wellFormed : Table.WellFormed [deferringProcessor, deferringMemory] := by
    intro s member
    rcases List.mem_cons.mp member with rfl | member
    · exact ⟨rfl, ⟨by decide, by decide, by decide⟩⟩
    · obtain rfl := List.mem_singleton.mp member
      exact ⟨rfl, ⟨by decide, by decide, by decide⟩⟩
  have parsed := Table.parse_of_wellFormed wellFormed
  obtain ⟨cpu, readCpu⟩ :
    ∃ record, Record.read .processor .strict deferringProcessor = .ok (record, []) := ⟨_, rfl⟩
  obtain ⟨memory, readMemory⟩ :
    ∃ record, Record.read .memoryDevice .strict deferringMemory = .ok (record, []) :=
    ⟨_, rfl⟩
  refine ⟨parsed, ⟨cpu, readCpu, ?_⟩, memory, readMemory, ?_⟩
  · rw [meaning_eq_of_parse parsed List.mem_cons_self readCpu]
    decide +kernel
  · rw [meaning_eq_of_parse parsed (List.mem_cons_of_mem _ List.mem_cons_self) readMemory]
    decide +kernel

end Record

end Dmi
