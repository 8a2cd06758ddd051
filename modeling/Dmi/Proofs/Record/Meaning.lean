/-
**What a record means, and what an encoding keeps of it.**

Some records say more than their fields: sizes in bytes, names, counts that defer to a later word.
An encoding has every field of the layout, so that it may be longer than the structure that the
record was read from, and then a value that could not defer does. The word behind it is worth its
default, so that the value becomes zero. All other values are kept. Main statements:

* `Content.meaning_of_settled` — the meaning depends on the values only, and on them only as far as
  they come back;
* `Content.meaningInFull_eq_iff` — when growing changes the meaning;
* `Record.meaning_of_encode` — what an encoding means.
-/

import Dmi.Proofs.Record.Cut

namespace Dmi

/-! ### Meanings -/

/-- What a record says beyond its fields. -/
inductive Meaning where
  | bios (romBytes : Nat)
  | system (uuid : String)
  | chassis (typeName : String) (hasLock : Bool)
  | processor (family coreCount coreEnabled threadCount : UInt16) (voltage : Voltage)
  | cache (maxBytes installedBytes level : Nat) (isEnabled isSocketed : Bool)
  | memoryDevice (bytes? : Option Nat) (rank : Nat)
  | ipmiDevice (address : Nat) (isIoSpace : Bool)
  | tpmDevice (vendor : String) (firmwareRevision : Nat × Nat)
  /-- The record says nothing beyond its fields. -/
  | nothing
  deriving DecidableEq, Repr

/-- What a byte says that defers to a later word when it is `full`, once a structure without the
word has grown to have it: the word is zero then. -/
def Processor.deferredInFull (byte full : UInt8) (word : UInt16) (hasWord : Bool) : UInt16 :=
  if byte = full ∧ hasWord = false then 0 else deferred byte full word hasWord

/-- The installed size, once a structure of `length` bytes has grown to have all fields. -/
def MemoryDevice.bytesInFull? (memory : MemoryDevice) (length : Nat) : Option Nat :=
  if memory.size = 0x7FFF ∧ length < 0x20 then some 0 else memory.bytes? length

namespace Content

/-- What the fields mean in a structure of `length` bytes. -/
def meaning (content : Content) (length : Nat) : Meaning :=
  match content with
  | bios fields => .bios fields.romBytes
  | system fields => .system fields.uuid.render
  | chassis fields => .chassis fields.typeName fields.hasLock
  | processor cpu =>
    .processor (cpu.family length) (cpu.coreCount length) (cpu.coreEnabled length)
      (cpu.threadCount length) (.ofByte cpu.voltage)
  | cache fields =>
    .cache fields.maxBytes fields.installedBytes fields.level fields.isEnabled fields.isSocketed
  | memoryDevice memory => .memoryDevice (memory.bytes? length) memory.rank
  | ipmiDevice ipmi => .ipmiDevice ipmi.address ipmi.isIoSpace
  | tpmDevice tpm => .tpmDevice tpm.vendor tpm.firmwareRevision
  | baseboard _ => .nothing
  | slot _ => .nothing
  | inactive => .nothing
  | endOfTable => .nothing

/-- What the fields of a structure of `length` bytes mean once it has grown to have all of them. -/
def meaningInFull (content : Content) (length : Nat) : Meaning :=
  match content with
  | processor cpu =>
    .processor (Processor.deferredInFull cpu.family1 0xFE cpu.family2 (0x2A ≤ length))
      (Processor.deferredInFull cpu.coreCount1 0xFF cpu.coreCount2 (0x2C ≤ length))
      (Processor.deferredInFull cpu.coreEnabled1 0xFF cpu.coreEnabled2 (0x2E ≤ length))
      (Processor.deferredInFull cpu.threadCount1 0xFF cpu.threadCount2 (0x30 ≤ length))
      (.ofByte cpu.voltage)
  | memoryDevice memory => .memoryDevice (memory.bytesInFull? length) memory.rank
  | other => other.meaning length

/-- A value defers to a field that a structure of `length` bytes has not got. -/
def DefersBeyond (content : Content) (length : Nat) : Prop :=
  match content with
  | processor cpu =>
    cpu.family1 = 0xFE ∧ length < 0x2A ∨ cpu.coreCount1 = 0xFF ∧ length < 0x2C ∨
      cpu.coreEnabled1 = 0xFF ∧ length < 0x2E ∨ cpu.threadCount1 = 0xFF ∧ length < 0x30
  | memoryDevice memory => memory.size = 0x7FFF ∧ length < 0x20
  | _ => False

end Content

/-- What a record means. -/
def Record.meaning (record : Record) : Meaning :=
  record.content.meaning record.length

/-! ### Values that come back -/

namespace Value

variable {values others : List Value} {width : Width} {n m : width.Number}

/-- Lists with the same value at a place have the same number there. -/
theorem number_of_getElem? {index : Nat} (same : others[index]? = values[index]?)
    (here : values[index]? = some (.number width n))
    (there : others[index]? = some (.number width m)) : m = n := by
  rw [here, there] at same
  cases same
  rfl

/-- Numbers come back as they are. -/
theorem number_of_settled (given : others = values.map Value.settled) (index : Nat)
    (here : values[index]? = some (.number width n))
    (there : others[index]? = some (.number width m)) : m = n := by
  rw [given, List.getElem?_map, here] at there
  cases there
  rfl

/-- Blocks come back as they are. -/
theorem block_of_settled {count : Nat} {block other : Block count}
    (given : others = values.map Value.settled) (index : Nat)
    (here : values[index]? = some (.bytes block.val))
    (there : others[index]? = some (.bytes other.val)) : other = block := by
  rw [given, List.getElem?_map, here] at there
  exact Subtype.ext (Value.bytes.inj (Option.some.inj there)).symm

end Value

open Value (number_of_settled block_of_settled)

/-! ### Records whose values come back

Each meaning depends on some numbers and blocks of the record, which are found at their places in
the list of values. -/

section Settled

variable (length : Nat)

theorem Bios.meaning_of_settled {fields other : Bios}
    (given : other.values = fields.values.map Value.settled) :
    (Content.bios other).meaning length = (Content.bios fields).meaning length := by
  have size : other.romSize = fields.romSize := number_of_settled given 4 rfl rfl
  have extended : other.extendedRomSize = fields.extendedRomSize :=
    number_of_settled given 12 rfl rfl
  simp only [Content.meaning, romBytes, size, extended]

theorem System.meaning_of_settled {fields other : System}
    (given : other.values = fields.values.map Value.settled) :
    (Content.system other).meaning length = (Content.system fields).meaning length := by
  have uuid : other.uuid = fields.uuid := block_of_settled given 4 rfl rfl
  simp only [Content.meaning, uuid]

theorem Chassis.meaning_of_settled {fields other : Chassis}
    (given : other.values = fields.values.map Value.settled) :
    (Content.chassis other).meaning length = (Content.chassis fields).meaning length := by
  have type : other.type = fields.type := number_of_settled given 1 rfl rfl
  simp only [Content.meaning, typeName, hasLock, type]

theorem Processor.meaning_of_settled {cpu other : Processor}
    (given : other.values = cpu.values.map Value.settled) :
    (Content.processor other).meaning length = (Content.processor cpu).meaning length := by
  have family1 : other.family1 = cpu.family1 := number_of_settled given 2 rfl rfl
  have voltage : other.voltage = cpu.voltage := number_of_settled given 6 rfl rfl
  have coreCount1 : other.coreCount1 = cpu.coreCount1 := number_of_settled given 18 rfl rfl
  have coreEnabled1 : other.coreEnabled1 = cpu.coreEnabled1 := number_of_settled given 19 rfl rfl
  have threadCount1 : other.threadCount1 = cpu.threadCount1 := number_of_settled given 20 rfl rfl
  have family2 : other.family2 = cpu.family2 := number_of_settled given 22 rfl rfl
  have coreCount2 : other.coreCount2 = cpu.coreCount2 := number_of_settled given 23 rfl rfl
  have coreEnabled2 : other.coreEnabled2 = cpu.coreEnabled2 := number_of_settled given 24 rfl rfl
  have threadCount2 : other.threadCount2 = cpu.threadCount2 := number_of_settled given 25 rfl rfl
  simp only [Content.meaning, family, coreCount, coreEnabled, threadCount, family1, voltage,
    coreCount1, coreEnabled1, threadCount1, family2, coreCount2, coreEnabled2, threadCount2]

theorem Cache.meaning_of_settled {fields other : Cache}
    (given : other.values = fields.values.map Value.settled) :
    (Content.cache other).meaning length = (Content.cache fields).meaning length := by
  have configuration : other.configuration = fields.configuration :=
    number_of_settled given 1 rfl rfl
  have maxSize1 : other.maxSize1 = fields.maxSize1 := number_of_settled given 2 rfl rfl
  have installedSize1 : other.installedSize1 = fields.installedSize1 :=
    number_of_settled given 3 rfl rfl
  have maxSize2 : other.maxSize2 = fields.maxSize2 := number_of_settled given 10 rfl rfl
  have installedSize2 : other.installedSize2 = fields.installedSize2 :=
    number_of_settled given 11 rfl rfl
  simp only [Content.meaning, maxBytes, installedBytes, level, isEnabled, isSocketed, configuration,
    maxSize1, installedSize1, maxSize2, installedSize2]

theorem MemoryDevice.meaning_of_settled {memory other : MemoryDevice}
    (given : other.values = memory.values.map Value.settled) :
    (Content.memoryDevice other).meaning length = (Content.memoryDevice memory).meaning length := by
  have size : other.size = memory.size := number_of_settled given 4 rfl rfl
  have attributes : other.attributes = memory.attributes := number_of_settled given 16 rfl rfl
  have extended : other.extendedSize = memory.extendedSize := number_of_settled given 17 rfl rfl
  simp only [Content.meaning, bytes?, rank, size, attributes, extended]

theorem IpmiDevice.meaning_of_settled {ipmi other : IpmiDevice}
    (given : other.values = ipmi.values.map Value.settled) :
    (Content.ipmiDevice other).meaning length = (Content.ipmiDevice ipmi).meaning length := by
  have base : other.baseAddress = ipmi.baseAddress := number_of_settled given 4 rfl rfl
  have modifier : other.addressModifier = ipmi.addressModifier := number_of_settled given 5 rfl rfl
  simp only [Content.meaning, address, isIoSpace, base, modifier]

theorem TpmDevice.meaning_of_settled {tpm other : TpmDevice}
    (given : other.values = tpm.values.map Value.settled) :
    (Content.tpmDevice other).meaning length = (Content.tpmDevice tpm).meaning length := by
  have vendorId : other.vendorId = tpm.vendorId := block_of_settled given 0 rfl rfl
  have version : other.majorVersion = tpm.majorVersion := number_of_settled given 1 rfl rfl
  have firmware : other.firmware1 = tpm.firmware1 := number_of_settled given 3 rfl rfl
  simp only [Content.meaning, vendor, firmwareRevision, vendorId, version, firmware]

/-- **Settled values mean the same**, since no text has a part in the meaning. -/
theorem Content.meaning_of_settled {content again : Content} (sort : again.kind = content.kind)
    (given : again.values = content.values.map Value.settled) :
    again.meaning length = content.meaning length := by
  cases content with
  | bios fields =>
    cases again with
    | bios other => exact Bios.meaning_of_settled length given
    | _ => cases sort
  | system fields =>
    cases again with
    | system other => exact System.meaning_of_settled length given
    | _ => cases sort
  | chassis fields =>
    cases again with
    | chassis other => exact Chassis.meaning_of_settled length given
    | _ => cases sort
  | processor cpu =>
    cases again with
    | processor other => exact Processor.meaning_of_settled length given
    | _ => cases sort
  | cache fields =>
    cases again with
    | cache other => exact Cache.meaning_of_settled length given
    | _ => cases sort
  | memoryDevice memory =>
    cases again with
    | memoryDevice other => exact MemoryDevice.meaning_of_settled length given
    | _ => cases sort
  | ipmiDevice ipmi =>
    cases again with
    | ipmiDevice other => exact IpmiDevice.meaning_of_settled length given
    | _ => cases sort
  | tpmDevice tpm =>
    cases again with
    | tpmDevice other => exact TpmDevice.meaning_of_settled length given
    | _ => cases sort
  | _ => cases again <;> first | rfl | cases sort

end Settled

/-! ### Growing to all fields -/

section Growth

variable {byte full : UInt8} {word : UInt16} {place length whole : Nat} {memory : MemoryDevice}

/-- With the word in place, a byte defers to it; where the structure had no word, this is zero. -/
theorem Processor.deferred_eq_inFull (reach : place ≤ whole) (missing : length < place → word = 0) :
    deferred byte full word (place ≤ whole) = deferredInFull byte full word (place ≤ length) := by
  by_cases long : place ≤ length
  · simp [deferredInFull, long, reach]
  · simp [deferredInFull, deferred, long, reach, missing (Nat.lt_of_not_le long)]

/-- The byte says what it said, unless it defers to a word that was missing. -/
theorem Processor.deferredInFull_eq_iff (positive : full ≠ 0) :
    deferredInFull byte full word (place ≤ length) = deferred byte full word (place ≤ length) ↔
      ¬(byte = full ∧ length < place) := by
  by_cases long : place ≤ length
  · simp [deferredInFull, long]
  · have short := Nat.lt_of_not_le long
    have other : ¬(0 : UInt16) = full.toUInt16 := by
      intro zero
      have same : full.toNat = 0 := by simpa using (congrArg UInt16.toNat zero).symm
      exact positive (UInt8.toNat_inj.mp same)
    by_cases defers : byte = full
    · simp [deferredInFull, deferred, long, short, defers, other]
    · simp [deferredInFull, deferred, defers]

theorem MemoryDevice.bytes?_eq_inFull (reach : 0x20 ≤ whole)
    (missing : length < 0x20 → memory.extendedSize = 0) :
    memory.bytes? whole = memory.bytesInFull? length := by
  by_cases defers : memory.size = 0x7FFF
  · by_cases long : 0x20 ≤ length
    · simp [bytesInFull?, bytes?, defers, long, reach, Nat.not_lt_of_le long]
    · simp [bytesInFull?, bytes?, defers, reach, missing (Nat.lt_of_not_le long),
        Nat.lt_of_not_le long]
  · have other : memory.size.toNat ≠ 0x7FFF := fun same => defers (UInt16.toNat_inj.mp same)
    simp [bytesInFull?, bytes?, defers, other]

theorem MemoryDevice.bytesInFull?_eq_iff :
    memory.bytesInFull? length = memory.bytes? length ↔
      ¬(memory.size = 0x7FFF ∧ length < 0x20) := by
  by_cases defers : memory.size = 0x7FFF ∧ length < 0x20
  · obtain ⟨full, short⟩ := defers
    simp [bytesInFull?, bytes?, full, short, Nat.not_le_of_lt short]
  · simp [bytesInFull?, defers]

/-- **When growing changes the meaning**: where a value defers to a field that was missing. -/
theorem Content.meaningInFull_eq_iff (content : Content) (length : Nat) :
    content.meaningInFull length = content.meaning length ↔ ¬content.DefersBeyond length := by
  cases content with
  | processor cpu =>
    simp only [meaningInFull, meaning, DefersBeyond, Processor.family, Processor.coreCount,
      Processor.coreEnabled, Processor.threadCount, Meaning.processor.injEq, and_true, not_or]
    rw [Processor.deferredInFull_eq_iff (by decide), Processor.deferredInFull_eq_iff (by decide),
      Processor.deferredInFull_eq_iff (by decide), Processor.deferredInFull_eq_iff (by decide)]
  | memoryDevice memory =>
    simp only [meaningInFull, meaning, DefersBeyond, Meaning.memoryDevice.injEq, and_true]
    exact MemoryDevice.bytesInFull?_eq_iff
  | _ => exact iff_of_true rfl id

end Growth

/-! ### What an encoding means -/

section Encoding

variable {size length whole : Nat}

/-- A processor that grows to all fields. Its bytes defer to the words then, which are zero where
they were missing. -/
theorem Processor.meaning_eq_inFull {cpu : Processor} (declared : size = length - Header.size)
    (long : minSize ≤ size + Header.size) (reach : layout.leastSize + Header.size ≤ whole)
    (missing : ∀ index, size < (layout.take (index + 1)).leastSize →
      cpu.values[index]? = layout.defaults[index]?) :
    (Content.processor cpu).meaning whole = (Content.processor cpu).meaningInFull length := by
  have same : length = size + 4 := by
    simp only [minSize, Header.size] at declared long
    omega
  have fields : 0x32 ≤ whole := reach
  have family2 : length < 0x2A → cpu.family2 = 0 := fun short =>
    Value.number_of_getElem? (missing 22 (show size < 0x26 by omega)) rfl rfl
  have coreCount2 : length < 0x2C → cpu.coreCount2 = 0 := fun short =>
    Value.number_of_getElem? (missing 23 (show size < 0x28 by omega)) rfl rfl
  have coreEnabled2 : length < 0x2E → cpu.coreEnabled2 = 0 := fun short =>
    Value.number_of_getElem? (missing 24 (show size < 0x2A by omega)) rfl rfl
  have threadCount2 : length < 0x30 → cpu.threadCount2 = 0 := fun short =>
    Value.number_of_getElem? (missing 25 (show size < 0x2C by omega)) rfl rfl
  simp only [Content.meaning, Content.meaningInFull, family, coreCount, coreEnabled, threadCount]
  rw [deferred_eq_inFull (by omega) family2, deferred_eq_inFull (by omega) coreCount2,
    deferred_eq_inFull (by omega) coreEnabled2, deferred_eq_inFull (by omega) threadCount2]

theorem MemoryDevice.meaning_eq_inFull {memory : MemoryDevice}
    (declared : size = length - Header.size) (long : minSize ≤ size + Header.size)
    (reach : layout.leastSize + Header.size ≤ whole)
    (missing : ∀ index, size < (layout.take (index + 1)).leastSize →
      memory.values[index]? = layout.defaults[index]?) :
    (Content.memoryDevice memory).meaning whole =
      (Content.memoryDevice memory).meaningInFull length := by
  have same : length = size + 4 := by
    simp only [minSize, Header.size] at declared long
    omega
  have fields : 0x5C ≤ whole := reach
  have extended : length < 0x20 → memory.extendedSize = 0 := fun short =>
    Value.number_of_getElem? (missing 17 (show size < 0x1C by omega)) rfl rfl
  simp only [Content.meaning, Content.meaningInFull]
  rw [bytes?_eq_inFull (by omega) extended]

end Encoding

namespace Record

variable {kind : RecordKind} {policy other : StringPolicy} {s e : Structure} {record : Record}
  {tolerated : List Error} {handle : UInt16}

/-- A field that the structure has no room for is worth its default. -/
theorem getElem?_of_short (found : Record.read kind policy s = .ok (record, tolerated))
    (index : Nat) (short : s.body.size < (kind.layout.take (index + 1)).leastSize) :
    record.content.values[index]? = kind.layout.defaults[index]? := by
  exact (decoded_of_read found).getElem?_of_short (by rwa [Nat.zero_add])

/-- **What the fields mean in a structure that has all of them.** -/
theorem meaning_eq_inFull (wellFormed : s.WellFormed)
    (found : Record.read kind policy s = .ok (record, tolerated)) {whole : Nat}
    (reach : kind.layout.leastSize + Header.size ≤ whole) :
    record.content.meaning whole = record.content.meaningInFull record.length := by
  obtain ⟨rfl, _⟩ := exists_values found
  obtain ⟨_, long, _⟩ := exists_walk found
  have missing := getElem?_of_short found
  have declared : s.body.size = record.length - Header.size := by
    rw [length, source_of_read found]
    exact wellFormed.declared
  generalize record.length = length at declared ⊢
  generalize record.content = content at reach long missing ⊢
  cases content with
  | processor cpu => exact Processor.meaning_eq_inFull declared long reach missing
  | memoryDevice memory => exact MemoryDevice.meaning_eq_inFull declared long reach missing
  | _ => rfl

/-- **What an encoding means.** A structure of a table is read as a record, and the record is
encoded again. The encoding is read as a record that means the same, under either policy, unless a
value of the first one defers to a field that the structure was too short for; that value is zero
then, and the others are kept. -/
theorem meaning_of_encode {source : List UInt8} {table : Table}
    (parsed : Table.parse source = .ok table) (member : s ∈ table)
    (found : Record.read kind policy s = .ok (record, tolerated))
    (encoded : record.encode handle = .ok e) (other : StringPolicy) :
    ∃ again, Record.read kind other e = .ok (again, []) ∧
      again.meaning = record.content.meaningInFull record.length ∧
      (again.meaning = record.meaning ↔ ¬record.content.DefersBeyond record.length) := by
  have wellFormed := (Table.bytes_of_parse parsed).1 s member
  obtain ⟨rfl, _⟩ := exists_values found
  obtain ⟨again, reading, given, _⟩ :
    ∃ again, Record.read record.content.kind other e = .ok (again, []) ∧ _ :=
    read_of_encode encoded
  obtain ⟨sort, _⟩ := exists_values reading
  obtain ⟨_, _, declared⟩ := header_of_encode encoded
  have whole : record.content.kind.layout.leastSize + Header.size ≤ again.length := by
    rw [length, source_of_read reading, declared, Nat.add_comm Header.size]
    exact leastSize_le_of_encode encoded
  have grown : again.meaning = record.content.meaningInFull record.length := by
    calc again.meaning
        = record.content.meaning again.length := Content.meaning_of_settled again.length sort given
      _ = record.content.meaningInFull record.length := meaning_eq_inFull wellFormed found whole
  refine ⟨again, reading, grown, ?_⟩
  rw [grown]
  exact record.content.meaningInFull_eq_iff record.length

/-- The firmware of an old table means the same once it is encoded with all fields. -/
theorem meaning_of_encode_firmware : ∃ record tolerated e again,
    Record.read .bios .tolerant firmware = .ok (record, tolerated) ∧ record.encode 9 = .ok e ∧
      Record.read .bios .strict e = .ok (again, []) ∧ again.meaning = record.meaning := by
  have parsed := (Table.parse_structure_iff firmware).mpr ⟨rfl, ⟨by decide, by decide, by decide⟩⟩
  have works : (do
      let first ← Record.read .bios .tolerant firmware
      let e ← first.1.encode 9
      return e.size) = .ok 26 := Error.eq_ok_of_toOption (by decide +kernel)
  obtain ⟨⟨record, tolerated⟩, found, works⟩ := Error.bind_eq_ok_iff.mp works
  obtain ⟨e, encoded, _⟩ := Error.bind_eq_ok_iff.mp works
  obtain ⟨again, reading, _, same⟩ :=
    meaning_of_encode parsed List.mem_cons_self found encoded .strict
  have kept : ¬record.content.DefersBeyond record.length := by
    obtain ⟨sort, _⟩ := exists_values found
    generalize record.content = content at sort
    cases content with
    | bios fields => exact id
    | _ => cases sort
  exact ⟨record, tolerated, e, again, found, encoded, reading, same.mpr kept⟩

/-- A processor of the least size, whose family defers to a word that the structure has not got. -/
def oldProcessor : Structure where
  header := ⟨.processor, 0x1A, 4⟩
  body := { formatted := [0, 3, 0xFE, 0, 0, 0, 0, 0, 0, 0, 0, 0, 0, 0, 0, 0, 0, 0, 0, 0, 0, 0] }

/-- Encoded with all fields, the processor has another family: the word is there now, and it is
zero. -/
theorem family_of_oldProcessor :
    Table.parse oldProcessor.bytes = .ok [oldProcessor] ∧ ∃ record e again,
      Record.read .processor .tolerant oldProcessor = .ok (record, []) ∧ record.encode 4 = .ok e ∧
        Record.read .processor .tolerant e = .ok (again, []) ∧
        record.meaning = .processor 0xFE 0 0 0 (.supported false false false) ∧
        again.meaning = .processor 0 0 0 0
          (.supported false false false) ∧ again.meaning ≠ record.meaning := by
  refine ⟨(Table.parse_structure_iff oldProcessor).mpr ⟨rfl, ⟨by decide, by decide, by decide⟩⟩, ?_⟩
  have works : (do
      let first ← Record.read .processor .tolerant oldProcessor
      let e ← first.1.encode 4
      let second ← Record.read .processor .tolerant e
      return (first.2, second.2, first.1.meaning, second.1.meaning)) =
    .ok ([], [], .processor 0xFE 0 0 0 (.supported false false false),
      .processor 0 0 0 0 (.supported false false false)) :=
        Error.eq_ok_of_toOption (by decide +kernel)
  obtain ⟨⟨record, _⟩, found, works⟩ := Error.bind_eq_ok_iff.mp works
  obtain ⟨e, encoded, works⟩ := Error.bind_eq_ok_iff.mp works
  obtain ⟨⟨again, _⟩, reading, same⟩ := Error.bind_eq_ok_iff.mp works
  obtain ⟨rfl, rfl, before, after⟩ : _ = [] ∧ _ = [] ∧ _ ∧
    _ := by simpa [pure, Except.pure] using same
  refine ⟨record, e, again, found, encoded, reading, before, after, ?_⟩
  rw [before, after]
  decide

end Record

end Dmi
