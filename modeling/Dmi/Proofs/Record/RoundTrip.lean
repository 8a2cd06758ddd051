/-
**A record encoded again is the same record.**

Reading a structure forgets what the record cannot show: unused strings, bytes behind the fields,
the order of the strings, and whether the tail was there or is worth its defaults. Encoding writes
every field. So the first encoding may differ from its source, but it reads back as the same record,
and from then on nothing changes any more. Main statements:

* `Record.exists_values`, `Record.source_of_read` — a record is the values that the walk over its
  structure gives, and keeps the structure;
* `Record.read_eq_ok_iff`, `Record.read_of_decode`, `Record.read_cases` — when a structure is read
  as a record, that the values of one with the right type and size make a record, and the other
  answers;
* `Record.read_of_encode`, `Record.encode_of_read` — encoding a record is faithful and idempotent.
-/

import Dmi.Proofs.Layout.Plain
import Dmi.Proofs.Record.Take
import Dmi.Proofs.Table.RoundTrip

namespace Dmi

/-! ### The layouts of the catalog -/

namespace RecordKind

theorem isPlain_layout (kind : RecordKind) : kind.layout.isPlain := by
  cases kind <;> rfl

theorem defaultsFit_layout (kind : RecordKind) : kind.layout.DefaultsFit := by
  cases kind <;> decide

/-- No kind asks for more than its own fields take at least. -/
theorem minSize_le (kind : RecordKind) : kind.minSize ≤ kind.layout.leastSize + Header.size := by
  cases kind <;> decide

end RecordKind

namespace Record

variable {kind : RecordKind} {policy : StringPolicy} {s e : Structure} {record : Record}
  {tolerated : List Error} {handle : UInt16}

/-! ### Reading -/

/-- **When a structure is read as a record**: the checks of type and size, the walk with what it
tolerates, and the record of its values. -/
theorem read_eq_ok_iff : Record.read kind policy s = .ok (record, tolerated) ↔
    s.type = kind.type ∧ kind.minSize ≤ s.size ∧ ∃ values last rest,
      kind.layout.decode policy s.body kind.title 0 false = ⟨.ok (values, last), tolerated⟩ ∧
        ofValues kind s values = .ok (record, rest) := by
  rw [Record.read]
  constructor
  · intro found
    split at found
    · cases found
    · rename_i type
      split at found
      · cases found
      · rename_i long
        obtain ⟨⟨⟨values, last⟩, errors⟩, decoded, found⟩ := Error.bind_eq_ok_iff.mp found
        obtain ⟨⟨taken, rest⟩, built, same⟩ := Error.bind_eq_ok_iff.mp found
        cases same
        obtain ⟨result, handedBack⟩ := Lenient.toExcept_eq_ok_iff.mp decoded
        refine ⟨Decidable.not_not.mp type, Nat.le_of_not_lt long, values, last, rest, ?_, built⟩
        rw [← result, ← handedBack]
  · rintro ⟨type, long, values, last, rest, decoded, built⟩
    rw [if_neg (not_not_intro type), if_neg (Nat.not_lt_of_le long), decoded]
    simp only [Lenient.toExcept, built, bind, Except.bind]
    rfl

/-- A structure of the right type and size whose fields cannot be read fails as they do. -/
theorem read_of_failed (type : s.type = kind.type) (long : kind.minSize ≤ s.size) {error : Error}
    (failed : (kind.layout.decode policy s.body kind.title 0 false).result = .error error) :
    Record.read kind policy s = .error error := by
  rw [Record.read, if_neg (not_not_intro type), if_neg (Nat.not_lt_of_le long),
    Lenient.toExcept_eq_error_iff.mpr failed]
  rfl

/-- What a record that is read has been through: the checks of type and size, the walk, and its
values. -/
theorem exists_walk (found : Record.read kind policy s = .ok (record, tolerated)) :
    s.type = kind.type ∧ kind.minSize ≤ s.size ∧ ∃ values last rest,
      (kind.layout.decode policy s.body kind.title 0 false).result = .ok (values, last) ∧
        ofValues kind s values = .ok (record, rest) := by
  obtain ⟨type, long, values, last, rest, decoded, built⟩ := read_eq_ok_iff.mp found
  exact ⟨type, long, values, last, rest, by rw [decoded], built⟩

/-- A record that is read holds the values that the walk over its structure gives. -/
theorem exists_values (found : Record.read kind policy s = .ok (record, tolerated)) :
    record.content.kind = kind ∧
      ∃ last, (kind.layout.decode policy s.body kind.title 0 false).result =
        .ok (record.content.values, last) := by
  obtain ⟨_, _, values, last, rest, walked, built⟩ := exists_walk found
  obtain ⟨content, take, given, sort⟩ := Content.exists_take (Layout.fits_of_walk walked)
  rw [ofValues, take] at built
  cases built
  exact ⟨sort, last, given ▸ walked⟩

/-- A record keeps the structure that it was read from. -/
theorem source_of_read (found : Record.read kind policy s = .ok (record, tolerated)) :
    record.source = s := by
  obtain ⟨_, _, values, last, rest, _, built⟩ := exists_walk found
  rw [ofValues] at built
  split at built <;> cases built
  rfl

/-- **A structure of the right type and size whose fields are read is a record.** -/
theorem read_of_decode (type : s.type = kind.type) (long : kind.minSize ≤ s.size)
    {values : List Value} {last : Nat}
    (decoded : kind.layout.decode policy s.body kind.title 0 false = ⟨.ok (values, last),
      tolerated⟩) :
    ∃ again, Record.read kind policy s = .ok (again, tolerated) ∧ again.content.values = values ∧
      again.content.kind = kind := by
  have walked : (kind.layout.decode policy s.body kind.title 0 false).result =
    .ok (values, last) := by
    rw [decoded]
  obtain ⟨content, take, given, sort⟩ := Content.exists_take (Layout.fits_of_walk walked)
  refine ⟨⟨s, content⟩, read_eq_ok_iff.mpr ⟨type, long, values, last, [], decoded, ?_⟩, given, sort⟩
  rw [ofValues, take]

/-- **What the request for a record is answered with**: the type is checked first, then the size
that is really there, and then the walk decides, since the values that it gives always make a
record. -/
theorem read_cases (kind : RecordKind) (policy : StringPolicy) (s : Structure) :
    (s.type ≠ kind.type ∧ Record.read kind policy s = .error (.unexpectedType kind.type s.type)) ∨
      (s.type = kind.type ∧ s.size < kind.minSize ∧
        Record.read kind policy s = .error (.endOfData (.named kind.title) s.size)) ∨
      (s.type = kind.type ∧ kind.minSize ≤ s.size ∧
        ((∃ record tolerated, Record.read kind policy s = .ok (record, tolerated)) ∨
          ∃ error, (kind.layout.decode policy s.body kind.title 0 false).result = .error error ∧
            Record.read kind policy s = .error error)) := by
  by_cases type : s.type = kind.type
  · by_cases short : s.size < kind.minSize
    · refine .inr (.inl ⟨type, short, ?_⟩)
      rw [Record.read, if_neg (not_not_intro type), if_pos short]
    · have long := Nat.le_of_not_lt short
      refine .inr (.inr ⟨type, long, ?_⟩)
      cases decoded : (kind.layout.decode policy s.body kind.title 0 false).result with
      | ok found =>
        obtain ⟨again, reading, _⟩ := read_of_decode type long
          (show kind.layout.decode policy s.body kind.title 0 false =
            ⟨.ok found, _⟩ by rw [← decoded])
        exact .inl ⟨again, _, reading⟩
      | error error => exact .inr ⟨error, rfl, read_of_failed type long decoded⟩
  · refine .inl ⟨type, ?_⟩
    rw [Record.read, if_pos type]

/-! ### Encoding -/

/-- The parts of an encoding. -/
theorem exists_body (encoded : record.encode handle = .ok e) :
    ∃ body, record.content.kind.layout.encode record.content.kind.title record.content.values {} =
        .ok () body ∧ body.seal record.content.kind.type handle = .ok e := by
  rw [Record.encode, Content.encode] at encoded
  split at encoded
  · rename_i body written
    exact ⟨body, written, encoded⟩
  · cases encoded

/-- Records of one kind whose values differ by settling only have the same encoding. -/
theorem encode_eq {again : Record} (sort : again.content.kind = record.content.kind)
    (given : again.content.values = record.content.values.map Value.settled) (handle : UInt16) :
    again.encode handle = record.encode handle := by
  rw [Record.encode, Record.encode, Content.encode, Content.encode, sort, given,
    Layout.encode_map_settled (RecordKind.isPlain_layout _)]

/-- The encoding of a record is the structure of a run of operations, whose texts are those of its
fields. -/
theorem exists_operations (encoded : record.encode handle = .ok e) :
    ∃ operations, (Draft.after operations {}).seal record.content.kind.type handle = .ok e ∧
      ∀ text, .text text ∈ operations ↔ .text text ∈ record.content.values := by
  obtain ⟨body, written, sealed⟩ := exists_body encoded
  obtain ⟨count, written⟩ := Layout.write_of_encode written
  obtain ⟨operations, rfl, texts⟩ :=
    Layout.exists_operations (RecordKind.isPlain_layout _) count written
  exact ⟨operations, sealed, texts⟩

/-- What is read from well-formed strings is encoded with well-formed strings, whether they are
UTF-8 or not. -/
theorem wellFormed_strings (wellFormed : s.WellFormed)
    (found : Record.read kind policy s = .ok (record, tolerated))
    (encoded : record.encode handle = .ok e) : Strings.WellFormed e.body.strings := by
  obtain ⟨rfl, last, walked⟩ := exists_values found
  obtain ⟨operations, sealed, texts⟩ := exists_operations encoded
  rw [(Body.eq_of_seal sealed).2]
  refine (Draft.wellFormed_strings_after operations).mpr fun text member => ?_
  obtain ⟨_, origin⟩ :=
    (Layout.texts_of_walk walked).exists_of_mem (RecordKind.isPlain_layout _) ((texts _).mp member)
  obtain ⟨source, inside, rfl⟩ := origin text rfl
  exact Utf8.zero_not_mem_decode (wellFormed.strings.noZero source inside)

/-- The header says what the structure is: its type, the handle asked for, and its own length. -/
theorem header_of_encode (encoded : record.encode handle = .ok e) :
    e.type = record.content.kind.type ∧ e.handle = handle ∧
      e.header.length.toNat = Header.size + e.body.formatted.length := by
  obtain ⟨body, _, sealed⟩ := exists_body encoded
  have length := Body.length_of_seal sealed
  obtain ⟨_, rfl⟩ := Body.eq_of_seal sealed
  exact ⟨rfl, rfl, length⟩

/-- An encoding has all fields. -/
theorem leastSize_le_of_encode (encoded : record.encode handle = .ok e) :
    record.content.kind.layout.leastSize + Header.size ≤ e.size := by
  obtain ⟨body, written, sealed⟩ := exists_body encoded
  obtain ⟨count, written⟩ := Layout.write_of_encode written
  have reach := Layout.leastSize_le_of_write count written
  rw [Structure.size, (Body.eq_of_seal sealed).2]
  exact Nat.add_le_add_right (Nat.le_trans (Nat.le_add_left _ _) reach) _

/-- **An encoding is read as the record that was encoded**, under either policy, and it is the
encoding of that again. -/
theorem read_of_encode (encoded : record.encode handle = .ok e) :
    ∃ again, Record.read record.content.kind policy e = .ok (again, []) ∧
      again.content.values = record.content.values.map Value.settled ∧
      again.encode handle = .ok e := by
  obtain ⟨type, _, _⟩ := header_of_encode encoded
  obtain ⟨body, written, sealed⟩ := exists_body encoded
  obtain ⟨count, written⟩ := Layout.write_of_encode written
  have whole : e.body = body := by rw [(Body.eq_of_seal sealed).2]
  have plain := RecordKind.isPlain_layout record.content.kind
  obtain ⟨last, decoded⟩ := Layout.decode_of_write (RecordKind.defaultsFit_layout _)
    (Layout.recordsEndInBytes_of_isPlain plain) count written policy record.content.kind.title
  rw [Layout.settled_of_isPlain plain count, ← whole] at decoded
  have long := Nat.le_trans record.content.kind.minSize_le (leastSize_le_of_encode encoded)
  obtain ⟨again, reading, given, sort⟩ := read_of_decode type long decoded
  exact ⟨again, reading, given, (encode_eq sort given handle).trans encoded⟩

/-- **Encoding a record is faithful and idempotent.** The structure has the type of the kind, the
handle asked for and its own length. Read under the strict policy, it gives the same fields, except
that an empty text is none at all, and their encoding is the structure again. If the source stood in
a table, the bytes of the structure are a table of it alone. -/
theorem encode_of_read (found : Record.read kind policy s = .ok (record, tolerated))
    (encoded : record.encode handle = .ok e) :
    e.type = kind.type ∧ e.handle = handle ∧
      e.header.length.toNat = Header.size + e.body.formatted.length ∧
      (∃ again, Record.read kind .strict e = .ok (again, []) ∧
        again.content.values = record.content.values.map Value.settled ∧
        again.encode handle = .ok e) ∧
      ((∃ source table, Table.parse source = .ok table ∧ s ∈ table) →
        Table.parse e.bytes = .ok [e]) := by
  obtain ⟨rfl, _⟩ := exists_values found
  obtain ⟨type, same, length⟩ := header_of_encode encoded
  refine ⟨type, same, length, read_of_encode encoded, ?_⟩
  rintro ⟨source, table, parsed, member⟩
  have wellFormed := (Table.bytes_of_parse parsed).1 s member
  refine (Table.parse_structure_iff e).mpr ⟨?_, wellFormed_strings wellFormed found encoded⟩
  rw [length, Body.size]
  omega

/-- A structure of the least size, whose two strings stand in another order than its texts. One of
them is not UTF-8. -/
def firmware : Structure where
  header := ⟨.bios, 18, 7⟩
  body := {
    formatted := [2, 1, 0, 0xE0, 0, 0xFF, 0, 0, 0, 0, 0, 0, 0, 0]
    strings := [[0x41], [0xC3, 0x28]] }

/-- The structure stands in a table, and its record is encoded as one that is read and parsed
again. -/
theorem encode_of_read_firmware :
    ∃ record tolerated e, Record.read .bios .tolerant firmware = .ok (record, tolerated) ∧
      record.encode 9 = .ok e ∧ e.type = .bios ∧ e.handle = 9 ∧
        (∃ again, Record.read .bios .strict e = .ok (again, []) ∧ again.encode 9 = .ok e) ∧
          Table.parse e.bytes = .ok [e] := by
  have wellFormed : firmware.WellFormed := ⟨rfl, ⟨by decide, by decide, by decide⟩⟩
  have parsed := (Table.parse_structure_iff firmware).mpr wellFormed
  have works : (match Record.read .bios .tolerant firmware with
    | .ok (record, _) => (record.encode 9).isOk
    | .error _ => false) = true := by decide +kernel
  cases found : Record.read .bios .tolerant firmware with
  | error error =>
    rw [found] at works
    cases works
  | ok result =>
    obtain ⟨record, tolerated⟩ := result
    rw [found] at works
    cases encoded : record.encode 9 with
    | error error =>
      simp only [encoded] at works
      cases works
    | ok e =>
      obtain ⟨type, handle, _, ⟨again, reading, _, same⟩, alone⟩ := encode_of_read found encoded
      have member : firmware ∈ [firmware] := List.mem_cons_self
      exact ⟨record, tolerated, e, rfl, encoded, type, handle, ⟨again, reading, same⟩,
        alone ⟨firmware.bytes, [firmware], parsed, member⟩⟩

end Record

end Dmi
