/-
**When a record can be encoded again.**

A record that was read is encoded with all its fields, those among them that its structure ended
before. Only two things can be in the way: a string number without a string, which the reading has
tolerated, and the limit on the length of a structure, since the fields may take more bytes than
they were read from. But only a chassis and a slot have fields behind a list; every other record
takes no more bytes than its structure had, or so few that they always fit. Main statements:

* `Record.encode_cases` — what the encoding of a record is answered with;
* `Record.extent_le_of_read` — the size of a record that is neither a chassis nor a slot;
* `Record.encode_ok_iff_of_read` — when a record is encoded, and why it is not.
-/

import Dmi.Proofs.Layout.Capacity
import Dmi.Proofs.Record.Cut

namespace Dmi

namespace RecordKind

/-- Every kind has fewer fields than there are numbers for strings. -/
theorem length_layout_lt (kind : RecordKind) : kind.layout.length < 256 := by
  cases kind <;> decide

theorem leastSize_layout_le (kind : RecordKind) : kind.layout.leastSize ≤ 251 := by
  cases kind <;> decide

/-- Only a chassis and a slot have fields behind a list. -/
theorem listsLast_layout (kind : RecordKind) :
    kind.layout.listsLast ∨ kind = .chassis ∨ kind = .slot := by
  cases kind <;> decide

end RecordKind

namespace Record

variable {kind : RecordKind} {policy : StringPolicy} {s e : Structure} {record : Record}
  {tolerated : List Error}

/-- The number of bytes that a record takes with all its fields. -/
def extent (record : Record) : Nat :=
  record.content.kind.layout.extent record.content.values

/-- What a reading has tolerated is told from the record. -/
theorem tolerated_eq_misreadings (found : Record.read kind policy s = .ok (record, tolerated)) :
    tolerated = kind.layout.misreadings s.body.strings.length kind.title record.content.values := by
  obtain ⟨_, last, walked⟩ := exists_values found
  obtain ⟨_, _, _, _, _, decoded, _⟩ := read_eq_ok_iff.mp found
  rw [← Layout.tolerated_of_walk walked, ← Layout.decode, decoded]

/-- The fields of a record that is read are written, or refused at the first one that the reading
has tolerated. -/
theorem write_of_read (found : Record.read kind policy s = .ok (record, tolerated)) :
    (tolerated = [] ∧
      ∃ body, record.content.kind.layout.encode kind.title record.content.values {} = .ok () body ∧
        body.size = record.extent) ∨
      ∃ field index others body,
        tolerated = .inField kind.title field
          (.badStringIndex index s.body.strings.length) :: others ∧
          record.content.kind.layout.encode kind.title record.content.values {} =
            .error (.inField kind.title field (.misuse .badIndexWritten)) body := by
  have errors := tolerated_eq_misreadings found
  obtain ⟨rfl, last, walked⟩ := exists_values found
  have accepts := Layout.accepts_of_walk walked
  have room : ({} : Body).strings.length + record.content.kind.layout.length < 256 :=
    (Nat.zero_add _).symm ▸ record.content.kind.length_layout_lt
  rw [Layout.encode, if_pos accepts.length_eq.symm, errors]
  refine (Layout.write_of_accepts record.content.kind.isPlain_layout accepts room
    s.body.strings.length).imp_left ?_
  rintro ⟨nothing, body, written⟩
  have size := Layout.size_of_write accepts.length_eq.symm written
  exact ⟨nothing, body, written, size.trans (Nat.zero_add _)⟩

/-- **What the encoding of a record is answered with**: the fields are written one after the other,
up to the first one that the reading has tolerated, and then the limit on the length decides. -/
theorem encode_cases (found : Record.read kind policy s = .ok (record, tolerated))
    (handle : UInt16) : (∃ field index others,
        tolerated = .inField kind.title field
          (.badStringIndex index s.body.strings.length) :: others ∧
          record.encode handle = .error (.inField kind.title field (.misuse .badIndexWritten))) ∨
      (tolerated = [] ∧ record.extent ≤ 251 ∧
        ∃ e, record.encode handle = .ok e ∧ e.body.size = record.extent) ∨
      (tolerated = [] ∧ 251 < record.extent ∧
        record.encode handle = .error (.misuse .structureTooLong)) := by
  have fields := write_of_read found
  obtain ⟨rfl, _⟩ := exists_values found
  rw [Record.encode, Content.encode]
  rcases fields with ⟨nothing, body, written, size⟩ | ⟨field, index, others, body, some_, refused⟩
  · rw [written]
    rcases Nat.lt_or_ge 251 record.extent with long | fits
    · exact .inr (.inr ⟨nothing, long, Body.seal_of_long (size.symm ▸ long) _ handle⟩)
    · obtain ⟨e, sealed⟩ :=
        (body.seal_eq_ok_iff record.content.kind.type handle).mpr (size.symm ▸ fits)
      refine .inr (.inl ⟨nothing, fits, e, sealed, ?_⟩)
      rw [(Body.eq_of_seal sealed).2, size]
  · rw [refused]
    exact .inl ⟨field, index, others, some_, rfl⟩

/-- **A record whose list is its last field takes no more bytes than its structure had**, or the
least number of them. -/
theorem extent_le_of_read (found : Record.read kind policy s = .ok (record, tolerated))
    (last : kind.layout.listsLast) :
    record.extent ≤ s.body.size ∨ record.extent = kind.layout.leastSize := by
  obtain ⟨rfl, _⟩ := exists_values found
  have size := (decoded_of_read found).extent_le last
  rw [Nat.zero_add] at size
  exact size

/-- **When a record is encoded again, and why it is not.** It is encoded exactly if the reading has
tolerated nothing and all fields together have room, and then it takes just the bytes of its fields.
Otherwise the first tolerated field is refused, or else the length. If the data of its structure
kept to the limit, the length of no other record than a chassis or a slot is refused. -/
theorem encode_ok_iff_of_read (found : Record.read kind policy s = .ok (record, tolerated))
    (handle : UInt16) :
    ((∃ e, record.encode handle = .ok e) ↔ tolerated = [] ∧ record.extent ≤ 251) ∧
      (∀ e, record.encode handle = .ok e → e.body.size = record.extent) ∧
      (∀ first others, tolerated = first :: others → ∃ field index,
        first = .inField kind.title field (.badStringIndex index s.body.strings.length) ∧
          record.encode handle = .error (.inField kind.title field (.misuse .badIndexWritten))) ∧
      (tolerated = [] → 251 < record.extent →
        record.encode handle = .error (.misuse .structureTooLong)) ∧
      (s.body.size ≤ 251 → record.encode handle = .error (.misuse .structureTooLong) →
        kind = .chassis ∨ kind = .slot) := by
  rcases encode_cases found handle with
    ⟨field, index, others, some_, refused⟩ | ⟨nothing, fits, e, encoded, size⟩ |
      ⟨nothing, long, refused⟩
  · rw [refused, some_]
    refine ⟨⟨nofun, nofun⟩, nofun, ?_, nofun, nofun⟩
    rintro _ _ ⟨⟩
    exact ⟨field, index, rfl, rfl⟩
  · rw [encoded, nothing]
    refine ⟨⟨fun _ => ⟨rfl, fits⟩, fun _ => ⟨e, rfl⟩⟩, ?_, nofun, ?_, nofun⟩
    · rintro _ ⟨⟩
      exact size
    · exact fun _ long => absurd fits (Nat.not_le_of_lt long)
  · rw [refused, nothing]
    refine ⟨⟨nofun, fun ⟨_, fits⟩ => absurd fits (Nat.not_le_of_lt long)⟩, nofun, nofun,
      fun _ _ => rfl, ?_⟩
    intro kept _
    refine kind.listsLast_layout.resolve_left fun last => ?_
    have least := kind.leastSize_layout_le
    have size := extent_le_of_read found last
    omega

/-- A chassis with as many elements as its data has room for, and so without the field behind
them. -/
def fullChassis : Structure where
  header := ⟨.chassis, 255, 7⟩
  body := { formatted := List.replicate 15 0 ++ [78, 3] ++ List.replicate 234 0 }

/-- A slot of which the same is true. -/
def fullSlot : Structure where
  header := ⟨.slot, 254, 7⟩
  body := { formatted := List.replicate 14 0 ++ [47] ++ List.replicate 235 0 }

set_option maxRecDepth 4000 in
/-- The chassis and the slot are refused for their lengths, and a board for an asset tag that has no
string. -/
theorem encode_ok_iff_of_read_full :
    (∃ record, Record.read .chassis .strict fullChassis = .ok (record, []) ∧
      fullChassis.body.size = 251 ∧ record.encode 7 = .error (.misuse .structureTooLong)) ∧
    (∃ record, Record.read .slot .strict fullSlot = .ok (record, []) ∧ fullSlot.body.size = 250 ∧
      record.encode 7 = .error (.misuse .structureTooLong)) ∧
    ∃ record, Record.read .baseboard .tolerant board =
        .ok (record, [.inField "BaseboardInfo" "AssetTag" (.badStringIndex 9 0)]) ∧
      record.encode 7 =
        .error (.inField "BaseboardInfo" "AssetTag" (.misuse .badIndexWritten)) := by
  have chassis :
    ∃ record, Record.read .chassis .strict fullChassis = .ok (record, []) ∧ record.extent = 252 :=
    ⟨_, rfl, rfl⟩
  have slot : ∃ record, Record.read .slot .strict fullSlot = .ok (record, []) ∧
    record.extent = 254 := ⟨_, rfl, rfl⟩
  have lacking : ∃ record, Record.read .baseboard .tolerant board =
      .ok (record, [.inField "BaseboardInfo" "AssetTag" (.badStringIndex 9 0)]) := ⟨_, rfl⟩
  obtain ⟨enclosure, readEnclosure, size⟩ := chassis
  obtain ⟨place, readPlace, room⟩ := slot
  obtain ⟨planar, readPlanar⟩ := lacking
  refine ⟨⟨enclosure, readEnclosure, rfl, ?_⟩, ⟨place, readPlace, rfl, ?_⟩, planar, readPlanar, ?_⟩
  · exact (encode_ok_iff_of_read readEnclosure 7).2.2.2.1 rfl (by omega)
  · exact (encode_ok_iff_of_read readPlace 7).2.2.2.1 rfl (by omega)
  · obtain ⟨field, index, same, refused⟩ := (encode_ok_iff_of_read readPlanar 7).2.2.1 _ _ rfl
    cases same
    exact refused

end Record

end Dmi
