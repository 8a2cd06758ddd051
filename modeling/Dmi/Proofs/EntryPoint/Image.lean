/-
**Entry points and their bytes.**

The fields of an entry point stand at fixed offsets, which reading and writing name each on its own.
Taken together the two are inverse to each other: the bytes of an entry point hold its fields, and
the bytes between the anchors are nothing but fields. Main statements:

* `Entry32.ofImage_image`, `Entry64.ofImage_image` — the fields of the bytes of an entry point;
* `Entry32.image_ofImage`, `Entry64.image_ofImage` — the bytes of the fields of some bytes;
* `Entry32.sums_eq_zero_iff`, `Entry64.sum_eq_zero_iff` — the checksums that writing computes make
  the bytes add up to zero, and no others do;
* `Entry32.bytes_ofImage`, `Entry64.bytes_ofImage` — so bytes that add up to zero are written as
  they were read.
-/

import Dmi.EntryPoint.Basic
import Dmi.Proofs.EntryPoint.Checksum
import Dmi.Width

namespace Dmi

/-! ### The 32-bit entry point -/

namespace Entry32

variable (entry : Entry32) (checksum areaChecksum : UInt8)

theorem length_front : (entry.front checksum).length = intermediateStart := by
  simp [front, anchor, intermediateStart, entry.formattedArea.property]

theorem length_area : (entry.area areaChecksum).length + intermediateStart = size := by
  simp [area, intermediateAnchor, intermediateStart, size]

theorem length_image : (entry.image checksum areaChecksum).length = size := by
  rw [image, List.length_append, length_front, Nat.add_comm, length_area]

theorem drop_image :
    (entry.image checksum areaChecksum).drop intermediateStart = entry.area areaChecksum :=
  List.drop_left' (length_front entry checksum)

/-- **The bytes of an entry point hold its fields.** -/
theorem ofImage_image : ofImage (entry.image checksum areaChecksum) =
    { entry with checksum := checksum, intermediateChecksum := areaChecksum } := by
  obtain ⟨_, length, majorVersion, minorVersion, maxStructureSize, revision, ⟨formatted, five⟩, _,
    tableLength, tableAddress, structureCount, bcdRevision⟩ := entry
  match formatted, five with
  | [a, b, c, d, e], five =>
    have word (n : UInt16) : UInt16.ofNat (LittleEndian.value (LittleEndian.digits 2 n.toNat)) =
      n :=
      @Width.number_value_digits .word n
    have address : UInt32.ofNat (LittleEndian.value (LittleEndian.digits 4 tableAddress.toNat)) =
      tableAddress :=
      @Width.number_value_digits .dword tableAddress
    show Entry32.mk checksum length majorVersion minorVersion
      (UInt16.ofNat (LittleEndian.value (LittleEndian.digits 2 maxStructureSize.toNat))) revision _
        areaChecksum
      (UInt16.ofNat (LittleEndian.value (LittleEndian.digits 2 tableLength.toNat)))
      (UInt32.ofNat (LittleEndian.value (LittleEndian.digits 4 tableAddress.toNat)))
      (UInt16.ofNat (LittleEndian.value (LittleEndian.digits 2 structureCount.toNat))) bcdRevision =
        _
    rw [word, word, word, address]
    rfl

/-- **Bytes between the two anchors are the bytes of their fields.** -/
theorem image_ofImage {source : List UInt8} (length : source.length = size)
    (opening : source.take 4 = anchor)
    (inner : (source.drop intermediateStart).take 5 = intermediateAnchor) :
    (ofImage source).image (source.getD 0x04 0) (source.getD 0x15 0) = source := by
  match source, length with
  | [_, _, _, _, checksum, length, major, minor, m₀, m₁, revision, f₀, f₁, f₂, f₃, f₄, _, _, _, _,
    _, areaChecksum, l₀, l₁, a₀, a₁, a₂, a₃, c₀, c₁, bcd], _ =>
    have word (low high : UInt8) :
        LittleEndian.digits 2 (UInt16.ofNat (LittleEndian.value [low, high])).toNat = [low, high] :=
      @Width.digits_number_value .word _ rfl
    have address :
      LittleEndian.digits 4 (UInt32.ofNat (LittleEndian.value [a₀, a₁, a₂, a₃])).toNat =
        [a₀, a₁, a₂, a₃] :=
      @Width.digits_number_value .dword _ rfl
    show (anchor ++ [checksum, length, major, minor] ++
          LittleEndian.digits 2 (UInt16.ofNat (LittleEndian.value [m₀, m₁])).toNat ++ [revision] ++
          [f₀, f₁, f₂, f₃, f₄]) ++
        (intermediateAnchor ++ [areaChecksum] ++
          LittleEndian.digits 2 (UInt16.ofNat (LittleEndian.value [l₀, l₁])).toNat ++
          LittleEndian.digits 4 (UInt32.ofNat (LittleEndian.value [a₀, a₁, a₂, a₃])).toNat ++
          LittleEndian.digits 2 (UInt16.ofNat (LittleEndian.value [c₀, c₁])).toNat ++ [bcd]) = _
    rw [word, word, word, address, ← opening, ← inner]
    rfl

/-! #### Its checksums -/

theorem exists_area :
    ∃ back, ∀ checksum, entry.area checksum = intermediateAnchor ++ checksum :: back :=
  ⟨_, fun _ => by simp only [area, List.append_assoc, List.singleton_append]; rfl⟩

theorem exists_front : ∃ back, ∀ checksum, entry.front checksum = anchor ++ checksum :: back :=
  ⟨_, fun _ => by simp only [front, List.append_assoc, List.cons_append]; rfl⟩

theorem bytes_eq_image : entry.bytes = entry.image entry.freshChecksum entry.freshAreaChecksum :=
    rfl

theorem length_bytes : entry.bytes.length = size :=
  entry.length_image entry.freshChecksum entry.freshAreaChecksum

/-- **Area and whole add up to zero with the checksums that writing computes**, and with no
others. -/
theorem sums_eq_zero_iff :
    Checksum.sum (entry.area areaChecksum) = 0 ∧ Checksum.sum
      (entry.image checksum areaChecksum) = 0 ↔
      areaChecksum = entry.freshAreaChecksum ∧ checksum = entry.freshChecksum := by
  obtain ⟨behind, area⟩ := entry.exists_area
  obtain ⟨between, front⟩ := entry.exists_front
  have inner : Checksum.sum (entry.area areaChecksum) = 0 ↔
    areaChecksum = entry.freshAreaChecksum := by
    rw [freshAreaChecksum, area, area, Checksum.sum_eq_zero_iff]
  have outer : Checksum.sum (entry.image checksum areaChecksum) = 0 ↔
      checksum = Checksum.complement (entry.image 0 areaChecksum) := by
    simp only [image, front, List.append_assoc, List.cons_append]
    exact Checksum.sum_eq_zero_iff _ _ _
  -- The byte of the area counts in the whole, so that the outer checksum is the fresh one only over
  -- a fresh inner one.
  rw [inner, outer, freshChecksum]
  constructor
  · rintro ⟨rfl, rfl⟩
    exact ⟨rfl, rfl⟩
  · rintro ⟨rfl, rfl⟩
    exact ⟨rfl, rfl⟩

/-- **Bytes that add up to zero are written as they were read.** -/
theorem bytes_ofImage {source : List UInt8} (length : source.length = size)
    (opening : source.take 4 = anchor)
    (inner : (source.drop intermediateStart).take 5 = intermediateAnchor)
    (whole : Checksum.sum source = 0)
    (area : Checksum.sum (source.drop intermediateStart) = 0) :
    (ofImage source).bytes = source := by
  have image := image_ofImage length opening inner
  rw [← image, drop_image] at area
  rw [← image] at whole
  obtain ⟨areaChecksum, checksum⟩ := (sums_eq_zero_iff _ _ _).mp ⟨area, whole⟩
  rw [bytes_eq_image, ← areaChecksum, ← checksum, image]

end Entry32

/-! ### The 64-bit entry point -/

namespace Entry64

variable (entry : Entry64) (checksum : UInt8)

theorem length_image : (entry.image checksum).length = size := by
  simp [image, anchor, size]

/-- **The bytes of an entry point hold its fields.** -/
theorem ofImage_image : ofImage (entry.image checksum) = { entry with checksum := checksum } := by
  obtain ⟨_, length, majorVersion, minorVersion, documentRevision, revision, reserved, tableMaxSize,
    tableAddress⟩ :=
    entry
  have maxSize : UInt32.ofNat (LittleEndian.value (LittleEndian.digits 4 tableMaxSize.toNat)) =
    tableMaxSize :=
    @Width.number_value_digits .dword tableMaxSize
  have address : UInt64.ofNat (LittleEndian.value (LittleEndian.digits 8 tableAddress.toNat)) =
    tableAddress :=
    @Width.number_value_digits .qword tableAddress
  show Entry64.mk checksum length majorVersion minorVersion documentRevision revision reserved
    (UInt32.ofNat (LittleEndian.value (LittleEndian.digits 4 tableMaxSize.toNat)))
    (UInt64.ofNat (LittleEndian.value (LittleEndian.digits 8 tableAddress.toNat))) = _
  rw [maxSize, address]

/-- **Bytes behind the anchor are the bytes of their fields.** -/
theorem image_ofImage {source : List UInt8} (length : source.length = size)
    (opening : source.take 5 = anchor) : (ofImage source).image (source.getD 0x05 0) = source := by
  match source, length with
  | [_, _, _, _, _, checksum, length, major, minor, document, revision, reserved, m₀, m₁, m₂, m₃,
      a₀, a₁, a₂, a₃, a₄, a₅, a₆, a₇], _ =>
    have maxSize :
    LittleEndian.digits 4 (UInt32.ofNat (LittleEndian.value [m₀, m₁, m₂, m₃])).toNat =
        [m₀, m₁, m₂, m₃] :=
      @Width.digits_number_value .dword _ rfl
    have address : LittleEndian.digits 8
        (UInt64.ofNat (LittleEndian.value [a₀, a₁, a₂, a₃, a₄, a₅, a₆, a₇])).toNat =
        [a₀, a₁, a₂, a₃, a₄, a₅, a₆, a₇] :=
      @Width.digits_number_value .qword _ rfl
    show anchor ++ [checksum, length, major, minor, document, revision, reserved] ++
        LittleEndian.digits 4 (UInt32.ofNat (LittleEndian.value [m₀, m₁, m₂, m₃])).toNat ++
        LittleEndian.digits 8
          (UInt64.ofNat (LittleEndian.value [a₀, a₁, a₂, a₃, a₄, a₅, a₆, a₇])).toNat = _
    rw [maxSize, address, ← opening]
    rfl

theorem bytes_eq_image : entry.bytes = entry.image entry.freshChecksum := rfl

theorem length_bytes : entry.bytes.length = size :=
  entry.length_image entry.freshChecksum

/-- **The bytes add up to zero with the checksum that writing computes**, and with no other. -/
theorem sum_eq_zero_iff : Checksum.sum (entry.image checksum) = 0 ↔
    checksum = entry.freshChecksum := by
  simp only [freshChecksum, image, List.append_assoc, List.cons_append]
  exact Checksum.sum_eq_zero_iff anchor _ checksum

/-- **Bytes that add up to zero are written as they were read.** -/
theorem bytes_ofImage {source : List UInt8} (length : source.length = size)
    (opening : source.take 5 = anchor)
    (whole : Checksum.sum source = 0) : (ofImage source).bytes = source := by
  have image := image_ofImage length opening
  rw [← image] at whole
  have checksum := (sum_eq_zero_iff _ _).mp whole
  rw [bytes_eq_image, ← checksum, image]

end Entry64

end Dmi
