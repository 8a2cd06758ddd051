/-
**A dump is replayed as it was taken.**

A dump keeps the table and rewrites the entry point: it points at the table inside the dump, and its
checksums are computed anew. A report shows neither address nor checksums. So a dump that was taken
apart again gives the report of the bytes it was built from, or fails as they do. Main statements:

* `EntryPoint.sameReport_of_setTableAddress`, `EntryPoint.sameReport_refreshed` — what moving the
  table and fresh checksums leave as it was;
* `Dump.build_eq`, `Dump.split_eq_ok`, `Dump.split_build` — what a dump holds, and what it is taken
  apart into;
* `Dump.report_of_split` — the report on a replayed dump.
-/

import Dmi.Proofs.EntryPoint.RoundTrip
import Dmi.Snapshot.Dump
import Dmi.Snapshot.Report

namespace Dmi

namespace EntryPoint

/-! ### What a dump changes of an entry point -/

/-- Two entry points say the same of the table and of themselves, but for where the table is and for
checksums. -/
structure SameReport (entry other : EntryPoint) : Prop where
  size : other.size = entry.size
  length : other.length = entry.length
  tableSize : other.tableSize = entry.tableSize
  head : Snapshot.reportHead other = Snapshot.reportHead entry

theorem SameReport.trans {first second third : EntryPoint} (before : SameReport first second)
    (after : SameReport second third) : SameReport first third :=
  ⟨after.size.trans before.size, after.length.trans before.length,
    after.tableSize.trans before.tableSize, after.head.trans before.head⟩

theorem sameReport_of_setTableAddress {entry moved : EntryPoint} {address : UInt64}
    (done : entry.setTableAddress address = .ok moved) : SameReport entry moved := by
  rw [(setTableAddress_eq_ok done).1]
  cases entry with
  | bits32 entry =>
    refine ⟨rfl, rfl, rfl, ?_⟩
    simp only [withTableAddress, Snapshot.reportHead, render, Entry32.render]
  | bits64 entry =>
    refine ⟨rfl, rfl, rfl, ?_⟩
    simp only [withTableAddress, Snapshot.reportHead, render, Entry64.render]

theorem sameReport_refreshed (entry : EntryPoint) : SameReport entry entry.refreshed := by
  cases entry with
  | bits32 entry =>
    constructor <;> simp only [refreshed, size, length, tableSize, Snapshot.reportHead, render,
      Entry32.render]
  | bits64 entry =>
    constructor <;> simp only [refreshed, size, length, tableSize, Snapshot.reportHead, render,
      Entry64.render]

theorem tableAddress_refreshed (entry : EntryPoint) :
    entry.refreshed.tableAddress = entry.tableAddress := by
  cases entry <;> simp only [refreshed, tableAddress]

/-- There is room for the offset of the table in either variant. -/
theorem exists_moved (entry : EntryPoint) :
    ∃ moved, entry.setTableAddress (UInt64.ofNat Dump.tableOffset) = .ok moved := by
  cases done : entry.setTableAddress (UInt64.ofNat Dump.tableOffset) with
  | ok moved => exact ⟨moved, rfl⟩
  | error error =>
    obtain ⟨_, wide, _⟩ := (setTableAddress_eq_error_iff ..).mp done
    exact absurd wide (by decide)

theorem size_le_tableOffset (entry : EntryPoint) : entry.size ≤ Dump.tableOffset := by
  have sizes : Entry32.size ≤ Dump.tableOffset ∧ Entry64.size ≤ Dump.tableOffset := by decide
  cases entry with
  | bits32 entry => exact sizes.1
  | bits64 entry => exact sizes.2

/-- The length byte of an entry point that was read is its size. -/
theorem length_of_parse {source : List UInt8} {entry : EntryPoint}
    (accepted : parse source = .ok entry) : entry.length.toNat = entry.size := by
  have again := parse_bytes_append entry (source.drop entry.size)
  rw [bytes_of_parse accepted, List.take_append_drop, accepted] at again
  split at again
  · rename_i right
    exact right
  · cases again

/-- An entry point that was read and moved is read back with fresh checksums, whatever stands behind
it. -/
theorem parse_bytes_of_moved {source : List UInt8} {entry moved : EntryPoint} {address : UInt64}
    (accepted : parse source = .ok entry) (done : entry.setTableAddress address = .ok moved)
    (suffix : List UInt8) :
    parse (moved.bytes ++ suffix) = .ok moved.refreshed := by
  have same := sameReport_of_setTableAddress done
  have right : moved.length.toNat = moved.size := by rw [same.length, same.size,
    length_of_parse accepted]
  exact (parse_bytes_append moved suffix).trans (if_pos right)

end EntryPoint

/-- The entry point counts for its lines only. -/
theorem Snapshot.report_of_head {entry other : EntryPoint}
    (head : reportHead other = reportHead entry) (table : Table) (filter : TypeFilter)
    (registry : Registry) (policy : StringPolicy) :
    report ⟨other, table⟩ filter registry policy = report ⟨entry, table⟩ filter registry policy :=
  congrArg (· ++ _) head

/-! ### Dumps -/

namespace Dump

variable {entryBytes tableBytes image : List UInt8} {entry moved : EntryPoint}

/-- The entry point and the zero bytes behind it reach up to the table. -/
theorem length_front (entry : EntryPoint) :
    (entry.bytes ++ List.replicate (tableOffset - entry.size) 0).length = tableOffset := by
  rw [List.length_append, entry.length_bytes, List.length_replicate,
    Nat.add_sub_of_le entry.size_le_tableOffset]

/-- A dump: the moved entry point, zero bytes up to the table, and the table. -/
theorem build_eq (accepted : EntryPoint.parse entryBytes = .ok entry)
    (done : entry.setTableAddress (UInt64.ofNat tableOffset) = .ok moved)
    (tableBytes : List UInt8) :
    build entryBytes tableBytes =
      .ok (moved.bytes ++ (List.replicate (tableOffset - moved.size) 0 ++ tableBytes)) := by
  rw [build, accepted]
  simp only [bind, Except.bind, done]
  rw [List.rightpad, moved.length_bytes, List.append_assoc]
  rfl

/-- What a dump is taken apart into, if it reaches as far as its table begins. -/
theorem split_eq_ok (accepted : EntryPoint.parse image = .ok entry)
    (inside : entry.tableAddress.toNat ≤ image.length) :
    split image = .ok (image.take entry.size,
      (image.drop entry.tableAddress.toNat).take entry.tableSize) := by
  rw [split, accepted]
  exact if_pos inside

/-- **What was built is taken apart again**: into the bytes of the moved entry point, and as much of
the table as the entry point says it has. -/
theorem split_build (accepted : EntryPoint.parse entryBytes = .ok entry)
    (done : entry.setTableAddress (UInt64.ofNat tableOffset) = .ok moved)
    (built : build entryBytes tableBytes = .ok image) :
    split image = .ok (moved.bytes, tableBytes.take entry.tableSize) := by
  rw [build_eq accepted done] at built
  cases built
  have same := EntryPoint.sameReport_of_setTableAddress done
  have fresh := moved.sameReport_refreshed
  have address : moved.refreshed.tableAddress.toNat = tableOffset := by
    rw [EntryPoint.tableAddress_refreshed, (EntryPoint.setTableAddress_eq_ok done).2.1]
    rfl
  have front := length_front moved
  rw [split_eq_ok (EntryPoint.parse_bytes_of_moved accepted done _), address, fresh.size,
    fresh.tableSize,
    same.tableSize, List.take_left' moved.length_bytes, ← List.append_assoc, List.drop_left' front]
  rw [address, ← List.append_assoc, List.length_append, front]
  exact Nat.le_add_right _ _

/-- **A replayed dump gives the live report.** A dump of an entry point that is read, with a table
no longer than the entry point says, is built and taken apart again, and the table is the same. With
whatever filter, registry and options, its parts then give the report of the bytes it was built
from, or the error of these. -/
theorem report_of_split (accepted : EntryPoint.parse entryBytes = .ok entry)
    (fits : tableBytes.length ≤ entry.tableSize) :
    ∃ image again, build entryBytes tableBytes = .ok image ∧ split image = .ok (again, tableBytes) ∧
      ∀ (filter : TypeFilter) (registry : Registry) (options : ReadOptions),
        (Snapshot.parse again tableBytes).map
          (fun snapshot => snapshot.report filter registry options.policy) =
          (Snapshot.parse entryBytes tableBytes).map
            (fun snapshot => snapshot.report filter registry options.policy) := by
  obtain ⟨moved, done⟩ := entry.exists_moved
  have built := build_eq accepted done tableBytes
  have parts := split_build accepted done built
  rw [List.take_of_length_le fits] at parts
  refine ⟨_, _, built, parts, fun filter registry options => ?_⟩
  have again := EntryPoint.parse_bytes_of_moved accepted done []
  rw [List.append_nil] at again
  have head := ((EntryPoint.sameReport_of_setTableAddress done).trans
    moved.sameReport_refreshed).head
  rw [Snapshot.parse, Snapshot.parse, accepted, again]
  cases parsed : Table.parse tableBytes with
  | error error => rfl
  | ok table =>
    exact congrArg Except.ok (Snapshot.report_of_head head table filter registry options.policy)

/-- The table of a captured entry point, behind which a byte stands that is no part of it, is the
end of a table. -/
theorem report_of_split_captured :
    let closing : List UInt8 := [0x7F, 4, 3, 0, 0, 0]
    let entry := EntryPoint.Variant.bits32.entry EntryPoint.captured
    EntryPoint.parse (EntryPoint.captured ++ [0xFF]) = .ok entry ∧
      closing.length ≤ entry.tableSize ∧
      ∃ image again, build (EntryPoint.captured ++ [0xFF]) closing = .ok image ∧
        split image = .ok (again, closing) ∧
        (Snapshot.parse again closing).map
          (fun snapshot => snapshot.report .empty .builtin .tolerant) =
          (Snapshot.parse (EntryPoint.captured ++ [0xFF]) closing).map
            (fun snapshot => snapshot.report .empty .builtin .tolerant) := by
  intro closing entry
  have accepted : EntryPoint.parse (EntryPoint.captured ++ [0xFF]) = .ok entry := rfl
  have fits : closing.length ≤ entry.tableSize := by decide
  obtain ⟨image, again, built, parts, same⟩ := report_of_split accepted fits
  exact ⟨accepted, fits, image, again, built, parts, same .empty .builtin {}⟩

end Dump

end Dmi
