/-
**The bytes of a record that is encoded again.**

A record has been read from the first bytes of its structure. Its encoding has these bytes in the
same places, but for the numbers of strings, which follow the new list of strings, and for the size
of contained elements that are not there. What the structure did not have stands behind them, with
the worth it was given. Main statement:

* `Record.rewritten_of_encode` — byte by byte, for every structure that is read as a record.
-/

import Dmi.Proofs.Layout.Verbatim
import Dmi.Proofs.Record.Cut

namespace Dmi

namespace Record

variable {kind : RecordKind} {policy : StringPolicy} {s e : Structure} {record : Record}
  {tolerated : List Error} {handle : UInt16}

/-- **A record keeps its bytes when it is encoded again**, up to where its walk has ended, and has
the defaults of the missing fields behind them. -/
theorem rewritten_of_encode (accepted : Record.read kind policy s = .ok (record, tolerated))
    (encoded : record.encode handle = .ok e) :
    ∃ values last, (kind.layout.decode policy s.body kind.title 0 false).result =
      .ok (values, last) ∧ (kind.layout.offsets policy s.body kind.title 0).getLast? = some last ∧
      kind.layout.Rewritten s.body e.body
        (kind.layout.offsets policy s.body kind.title 0) last := by
  have decoded := decoded_of_read accepted
  obtain ⟨rfl, last, walked⟩ := exists_values accepted
  obtain ⟨body, written, sealed⟩ := exists_body encoded
  obtain ⟨_, written⟩ := Layout.write_of_encode written
  have fit := record.content.kind.defaultsFit_layout
  have reach := Layout.getLast?_offsets record.content.kind.dense_layout fit
    (Nat.zero_le s.body.size) walked
  refine ⟨record.content.values, last, walked, reach, ?_⟩
  rw [(Body.eq_of_seal sealed).2]
  exact decoded.rewritten fit written reach

/-- A chassis without contained elements, though these have a size, and with a string that nothing
refers to. Its serial number is an empty string. The data ends in front of the last field. -/
def emptyChassis : Structure where
  header := ⟨.chassis, 21, 7⟩
  body := {
    formatted := [2, 0x83, 0, 3, 0, 3, 3, 3, 3, 0xEF, 0xBE, 0xAD, 0xDE, 2, 1, 0, 3]
    strings := [[0x58], [0x42], []] }

/-- The record of this chassis. -/
def emptyChassisFields : Record where
  source := emptyChassis
  content := .chassis {
    manufacturer := .value "B", type := 0x83, version := .notSpecified, serialNumber := .value ""
    assetTag := .notSpecified, bootUpState := 3, powerSupplyState := 3, thermalState := 3
    securityStatus := 3, oemInformation := 0xDEADBEEF, height := 2, powerCords := 1
    containedElements := [], skuNumber := .notSpecified }

/-- The numbers of the strings and the size of the elements are the only bytes of the chassis that
change. The last field is put down behind them. -/
theorem rewritten_of_encode_emptyChassis : ∃ record e,
    Record.read .chassis .strict emptyChassis = .ok (record, []) ∧ record.encode 9 = .ok e ∧
      e.body = ⟨[1, 0x83, 0, 0, 0, 3, 3, 3, 3, 0xEF, 0xBE, 0xAD, 0xDE, 2, 1, 0, 0, 0], [[0x42]]⟩ ∧
      RecordKind.chassis.layout.Rewritten emptyChassis.body e.body
        [0, 1, 2, 3, 4, 5, 6, 7, 8, 9, 13, 14, 15, 17] 17 ∧
      e.body.formatted.drop 17 = [0] := by
  have accepted : Record.read .chassis .strict emptyChassis = .ok (emptyChassisFields, []) := by rfl
  have encoded : emptyChassisFields.encode 9 = .ok ⟨⟨.chassis, 22, 9⟩,
      ⟨[1, 0x83, 0, 0, 0, 3, 3, 3, 3, 0xEF, 0xBE, 0xAD, 0xDE, 2, 1, 0, 0, 0],
        [[0x42]]⟩⟩ := by decide +kernel
  have offsets :
    RecordKind.chassis.layout.offsets .strict emptyChassis.body RecordKind.chassis.title 0 =
      [0, 1, 2, 3, 4, 5, 6, 7, 8, 9, 13, 14, 15, 17] := by rfl
  obtain ⟨values, last, _, reach, law⟩ := rewritten_of_encode accepted encoded
  rw [offsets] at reach law
  obtain rfl : 17 = last := Option.some.inj reach
  exact ⟨_, _, accepted, encoded, rfl, law, law.behind⟩

end Record

end Dmi
