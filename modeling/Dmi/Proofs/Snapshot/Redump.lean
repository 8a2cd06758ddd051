/-
**A dump of a dump is the dump.**

A dump keeps its table from a fixed offset on, and its entry point points there. What is taken apart
may be any image whose entry point can be read: its table begins where the entry point says, and
ends with the image if that is shorter than the entry point says. Built again from its parts, the
image is a dump in which nothing is cut off and nothing is left to be moved. Main statements:

* `Dump.layout_of_build` — what stands where in a dump;
* `Dump.split_eq_ok_iff` — which images are taken apart, and into which ranges;
* `Dump.rebuild_of_split` — a dump that was built again stays as it is;
* `Dump.build_and_split` — both directions.
-/

import Dmi.Proofs.Snapshot.Replay
import Mathlib.Data.List.TakeDrop

namespace Dmi

namespace EntryPoint

variable {source : List UInt8} {entry : EntryPoint}

/-- An entry point that was read has fresh checksums. -/
theorem refreshed_of_parse (accepted : parse source = .ok entry) : entry.refreshed = entry := by
  have again := parse_bytes_append entry (source.drop entry.size)
  rw [if_pos (length_of_parse accepted), bytes_of_parse accepted, List.take_append_drop,
    accepted] at again
  exact (Except.ok.inj again).symm

/-- An entry point is read from its own bytes alone. -/
theorem parse_take (accepted : parse source = .ok entry) :
    parse (source.take entry.size) = .ok entry := by
  have alone := parse_bytes_append entry []
  rw [if_pos (length_of_parse accepted), List.append_nil, refreshed_of_parse accepted] at alone
  rwa [← bytes_of_parse accepted]

/-- The address that is held can be set, and changes nothing. -/
theorem setTableAddress_tableAddress (entry : EntryPoint) :
    entry.setTableAddress entry.tableAddress = .ok entry := by
  cases entry with
  | bits32 entry =>
    have room : entry.tableAddress.toUInt64.toNat < 0x100000000 := by
      rw [UInt32.toNat_toUInt64]
      exact entry.tableAddress.toNat_lt
    simp only [tableAddress, setTableAddress, if_pos room, UInt32.toUInt32_toUInt64]
  | bits64 entry => rfl

theorem withoutPlace_refreshed (entry : EntryPoint) :
    entry.refreshed.withoutPlace = entry.withoutPlace := by
  cases entry <;> simp only [refreshed, withoutPlace]

/-- An address that is set is the only change but for checksums. -/
theorem withoutPlace_of_setTableAddress {moved : EntryPoint} {address : UInt64}
    (done : entry.setTableAddress address = .ok moved) :
    moved.withoutPlace = entry.withoutPlace := by
  rw [(setTableAddress_eq_ok done).1]
  cases entry <;> rfl

end EntryPoint

namespace Dump

variable {entryBytes tableBytes image : List UInt8} {entry moved : EntryPoint}

/-- **What stands where in a dump**: the entry point that points at the table, zero bytes, and the
table. -/
theorem layout_of_build (done : entry.setTableAddress (UInt64.ofNat tableOffset) = .ok moved)
    (accepted : EntryPoint.parse entryBytes = .ok entry)
    (built : build entryBytes tableBytes = .ok image) :
    image.length = tableOffset + tableBytes.length ∧ image.take entry.size = moved.bytes ∧
      (image.take tableOffset).drop entry.size = List.replicate (tableOffset - entry.size) 0 ∧
      image.drop tableOffset = tableBytes := by
  rw [build_eq accepted done] at built
  cases built
  have size := (EntryPoint.sameReport_of_setTableAddress done).size
  have front := length_front moved
  rw [← List.append_assoc, List.length_append, front, List.take_left' front, List.drop_left' front,
    ← size,
    List.append_assoc, List.take_left' moved.length_bytes, List.drop_left' moved.length_bytes]
  exact ⟨rfl, rfl, rfl, rfl⟩

/-- As many bytes of the table as the entry point says, or all there are, are those up to its
end. -/
theorem take_drop_eq_extract (image : List UInt8) (entry : EntryPoint) :
    (image.drop entry.tableAddress.toNat).take entry.tableSize =
      image.extract entry.tableAddress.toNat (tableEnd image entry) := by
  rw [List.extract_eq_take_drop, List.take_eq_take_iff, List.length_drop, tableEnd]
  omega

/-- **Which images are taken apart, and into which ranges**: those whose entry point can be read and
points no further than to the end. -/
theorem split_eq_ok_iff {parts : List UInt8 × List UInt8} : split image = .ok parts ↔
    ∃ entry, EntryPoint.parse image = .ok entry ∧ entry.tableAddress.toNat ≤ image.length ∧
      parts = (image.take entry.size,
        image.extract entry.tableAddress.toNat (tableEnd image entry)) := by
  constructor
  · intro done
    cases accepted : EntryPoint.parse image with
    | error error =>
      rw [split, accepted] at done
      cases done
    | ok entry =>
      by_cases inside : entry.tableAddress.toNat ≤ image.length
      · rw [split_eq_ok accepted inside, take_drop_eq_extract] at done
        exact ⟨entry, rfl, inside, (Except.ok.inj done).symm⟩
      · rw [split, accepted] at done
        simp only [bind, Except.bind, if_neg inside] at done
        cases done
  · rintro ⟨entry, accepted, inside, rfl⟩
    rw [split_eq_ok accepted inside, take_drop_eq_extract]

/-- The ranges of an image that is taken apart are inside it, and the end of the table is no more
than 64 bits hold. -/
theorem ranges_of_split (accepted : EntryPoint.parse image = .ok entry)
    (inside : entry.tableAddress.toNat ≤ image.length) :
    entry.size ≤ image.length ∧ entry.tableAddress.toNat ≤ tableEnd image entry ∧
      tableEnd image entry ≤ image.length ∧ (image.length < 0x8000000000000000 →
        entry.tableAddress.toNat + entry.tableSize < 0x10000000000000000) := by
  have declared : entry.tableSize < 0x100000000 := by
    cases entry with
    | bits32 entry => exact Nat.lt_trans entry.tableLength.toNat_lt (by decide)
    | bits64 entry => exact entry.tableMaxSize.toNat_lt
  refine ⟨(EntryPoint.sum_of_parse accepted).1, ?_, Nat.min_le_right _ _, ?_⟩
  · exact Nat.le_min.mpr ⟨Nat.le_add_right _ _, inside⟩
  · omega

/-- **A dump is built from its parts again**, if its table is no longer than the entry point says.
The entry point points at the table already, and has the checksums that writing computes. -/
theorem build_of_parts (accepted : EntryPoint.parse entryBytes = .ok entry)
    (fits : tableBytes.length ≤ entry.tableSize) :
    ∃ fresh again, build entryBytes tableBytes = .ok fresh ∧
      split fresh = .ok (again, tableBytes) ∧ build again tableBytes = .ok fresh := by
  obtain ⟨moved, done⟩ := entry.exists_moved
  have built := build_eq accepted done tableBytes
  have parts := split_build accepted done built
  rw [List.take_of_length_le fits] at parts
  have place : moved.refreshed.tableAddress = UInt64.ofNat tableOffset := by
    rw [EntryPoint.tableAddress_refreshed, (EntryPoint.setTableAddress_eq_ok done).2.1]
  have stays : moved.refreshed.setTableAddress (UInt64.ofNat tableOffset) =
    .ok moved.refreshed := by
    rw [← place]
    exact EntryPoint.setTableAddress_tableAddress moved.refreshed
  have read : EntryPoint.parse moved.bytes = .ok moved.refreshed := by
    have alone := EntryPoint.parse_bytes_of_moved accepted done []
    rwa [List.append_nil] at alone
  have bytes : moved.refreshed.bytes = moved.bytes :=
    EntryPoint.bytes_eq_of_withoutChecksums moved.withoutChecksums_refreshed
  have rebuilt := build_eq read stays tableBytes
  rw [bytes, moved.sameReport_refreshed.size] at rebuilt
  exact ⟨_, moved.bytes, built, parts, rebuilt⟩

/-- **A dump that was built again stays as it is**, and holds the table of the image. -/
theorem rebuild_of_split {parts : List UInt8 × List UInt8} (done : split image = .ok parts) :
    ∃ fresh again, rebuild image = .ok fresh ∧ rebuild fresh = .ok fresh ∧
      split fresh = .ok (again, parts.2) := by
  obtain ⟨entry, accepted, inside, same⟩ := split_eq_ok_iff.mp done
  have fits : parts.2.length ≤ entry.tableSize := by
    rw [same, ← take_drop_eq_extract]
    exact List.length_take_le _ _
  have alone : EntryPoint.parse parts.1 = .ok entry := by
    rw [same]
    exact EntryPoint.parse_take accepted
  obtain ⟨fresh, again, built, apart, rebuilt⟩ := build_of_parts alone fits
  refine ⟨fresh, again, ?first, ?second, apart⟩
  case first =>
    rw [rebuild, done]
    exact built
  case second =>
    rw [rebuild, apart]
    exact rebuilt

/-- **Dumps.** An entry point that can be read and any run of bytes make a dump: the entry point,
zero bytes up to the offset of the table, and the run. It is taken apart into an entry point that
points there, with fresh checksums and all other fields as they were, and into as much of the run as
the entry point says; this is the whole run exactly if the entry point says so.

Conversely, an image is taken apart exactly if its entry point can be read and points no further
than to its end. The ranges of its parts are inside the image. The parts make a dump, which has the
same table and is the dump of its own parts. -/
theorem build_and_split :
    (∀ entryBytes entry, EntryPoint.parse entryBytes = .ok entry → ∀ tableBytes, ∃ image again held,
      build entryBytes tableBytes = .ok image ∧ image.length = tableOffset + tableBytes.length ∧
      image.take entry.size = again ∧
      (image.take tableOffset).drop entry.size = List.replicate (tableOffset - entry.size) 0 ∧
      image.drop tableOffset = tableBytes ∧
      split image = .ok (again, tableBytes.take entry.tableSize) ∧
      EntryPoint.parse again = .ok held ∧ held.tableAddress = UInt64.ofNat tableOffset ∧
      held.withoutPlace = entry.withoutPlace ∧ held.refreshed = held ∧
      (tableBytes.take entry.tableSize = tableBytes ↔ tableBytes.length ≤ entry.tableSize)) ∧
    ∀ image,
      ((∃ parts, split image = .ok parts) ↔
        ∃ entry, EntryPoint.parse image = .ok entry ∧ entry.tableAddress.toNat ≤ image.length) ∧
      (∀ entry, EntryPoint.parse image = .ok entry → entry.tableAddress.toNat ≤ image.length →
        split image = .ok (image.take entry.size,
          image.extract entry.tableAddress.toNat (tableEnd image entry)) ∧
        entry.size ≤ image.length ∧ entry.tableAddress.toNat ≤ tableEnd image entry ∧
        tableEnd image entry ≤ image.length ∧
        (image.length < 0x8000000000000000 →
        entry.tableAddress.toNat + entry.tableSize < 0x10000000000000000)) ∧
      ∀ entryBytes tableBytes, split image = .ok (entryBytes, tableBytes) → ∃ fresh again,
        build entryBytes tableBytes = .ok fresh ∧ rebuild image = .ok fresh ∧
          rebuild fresh = .ok fresh ∧
        split fresh = .ok (again, tableBytes) := by
  constructor
  · intro entryBytes entry accepted tableBytes
    obtain ⟨moved, done⟩ := entry.exists_moved
    have built := build_eq accepted done tableBytes
    obtain ⟨length, front, zeros, table⟩ := layout_of_build done accepted built
    have read := EntryPoint.parse_bytes_of_moved accepted done []
    rw [List.append_nil] at read
    refine ⟨_, moved.bytes, moved.refreshed, built, length, front, zeros, table,
      split_build accepted done built, read,
      ?address, ?fields, EntryPoint.refreshed_of_parse read, List.take_eq_self_iff tableBytes⟩
    case address =>
      rw [EntryPoint.tableAddress_refreshed, (EntryPoint.setTableAddress_eq_ok done).2.1]
    case fields =>
      rw [EntryPoint.withoutPlace_refreshed, EntryPoint.withoutPlace_of_setTableAddress done]
  · intro image
    refine ⟨⟨?read, ?taken⟩, ?ranges, ?again⟩
    case read =>
      rintro ⟨parts, done⟩
      obtain ⟨entry, accepted, inside, _⟩ := split_eq_ok_iff.mp done
      exact ⟨entry, accepted, inside⟩
    case taken =>
      rintro ⟨entry, accepted, inside⟩
      exact ⟨_, split_eq_ok accepted inside⟩
    case ranges =>
      intro entry accepted inside
      exact ⟨split_eq_ok_iff.mpr ⟨entry, accepted, inside, rfl⟩, ranges_of_split accepted inside⟩
    case again =>
      intro entryBytes tableBytes done
      obtain ⟨fresh, again, first, second, apart⟩ := rebuild_of_split done
      refine ⟨fresh, again, ?_, first, second, apart⟩
      rwa [rebuild, done] at first

/-- A captured entry point and the end of a table make a dump, which is built from its parts
again. -/
theorem build_and_split_captured :
    let closing : List UInt8 := [0x7F, 4, 3, 0, 0, 0]
    let entry := EntryPoint.Variant.bits32.entry EntryPoint.captured
    EntryPoint.parse EntryPoint.captured = .ok entry ∧ ∃ image again fresh,
      build EntryPoint.captured closing = .ok image ∧ image.length = 38 ∧
        split image = .ok (again, closing) ∧
        rebuild image = .ok fresh ∧ rebuild fresh = .ok fresh := by
  intro closing entry
  have accepted : EntryPoint.parse EntryPoint.captured = .ok entry := rfl
  obtain ⟨image, again, _, built, length, _, _, _, apart, _, _, _, _, cut⟩ :=
    build_and_split.1 EntryPoint.captured entry accepted closing
  rw [cut.mpr (by decide)] at apart
  obtain ⟨fresh, _, _, first, second, _⟩ := (build_and_split.2 image).2.2 again closing apart
  exact ⟨accepted, image, again, fresh, built, length, apart, first, second⟩

end Dump

end Dmi
