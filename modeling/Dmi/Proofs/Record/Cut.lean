/-
**A record of a structure cut short.**

The data of a structure may end before the layout of its record does. Where it ends decides what
becomes of the record, and the offsets of the fields tell the cases apart: the fields in front of
the cut keep their values and the others get their defaults, or the field around the cut fails, or
nothing is lost at all. So a shorter structure never gives a field a wrong value. Main statement:

* `Record.truncation_of_read` — this law, for every structure that is read as a record.
-/

import Dmi.Proofs.Layout.Cut
import Dmi.Proofs.Record.RoundTrip

namespace Dmi

theorem Structure.size_cut {s : Structure} {size : Nat} (inside : size ≤ s.body.size) :
    (s.cut size).size = size + Header.size := by
  rw [Structure.size, cut, Body.size_cut inside]

theorem RecordKind.dense_layout (kind : RecordKind) : kind.layout.Dense := by
  cases kind <;> decide

namespace Record

/-- How the walk over the structure of a record has met the fields. -/
theorem decoded_of_read {kind : RecordKind} {policy : StringPolicy} {s : Structure}
    {record : Record} {tolerated : List Error}
    (found : Record.read kind policy s = .ok (record, tolerated)) :
    kind.layout.Decoded policy s.body kind.title 0 (kind.layout.offsets policy s.body kind.title 0)
      record.content.values := by
  obtain ⟨_, last, walked⟩ := exists_values found
  exact Layout.decoded_of_walk kind.dense_layout kind.defaultsFit_layout
    (Nat.zero_le s.body.size) walked

/-- What becomes of the record of `s`, with the errors it has tolerated, when the data of `s` is cut
short. Its fields begin at `offsets`, of which the last is where the last field ends. -/
structure Truncation (kind : RecordKind) (policy : StringPolicy) (s : Structure) (record : Record)
    (tolerated : List Error) (offsets : List Nat) : Prop where
  first : offsets[0]? = some 0
  rising : offsets.Pairwise (· < ·)
  /-- The fields in front of an offset end there. Read alone, they have their values and the first
  of the errors. -/
  fields : ∀ index start, offsets[index]? = some start → ∃ errors, errors <+: tolerated ∧
    (kind.layout.take index).decode policy s.body kind.title 0 true =
      ⟨.ok (record.content.values.take index, start), errors⟩
  /-- Cut at the end of a field, the structure is a record of the fields in front of it, with their
  errors. All others are worth their defaults. -/
  atEnd : ∀ size, kind.minSize ≤ size + Header.size → ∀ index, offsets[index]? = some size →
    ∃ again, again.source = s.cut size ∧
      again.content.values = record.content.values.take index ++ kind.layout.defaults.drop index ∧
      Record.read kind policy (s.cut size) =
        .ok (again, ((kind.layout.take index).decode policy s.body kind.title 0 true).tolerated)
  /-- Cut behind the last field of the layout, the structure is the same record. -/
  behind : ∀ size, kind.minSize ≤ size + Header.size → size ≤ s.body.size →
    ∀ last, offsets[kind.layout.length]? = some last → last ≤ size →
      Record.read kind policy (s.cut size) = .ok (⟨s.cut size, record.content⟩, tolerated)
  /-- Cut inside a field, the structure is refused, since the field reaches past the end. -/
  inside : ∀ size, kind.minSize ≤ size + Header.size → ∀ index start stop,
    offsets[index]? = some start → offsets[index + 1]? = some stop → start < size → size < stop →
      ∃ slot sort position width, kind.layout.slots[index]? = some (slot, some sort) ∧
        Record.read kind policy (s.cut size) =
          .error (.inField kind.title slot.name (.outOfRange position width size))
  /-- There is no other place for a cut. -/
  places : ∀ size ≤ s.body.size, size ∈ offsets ∨
    (∃ last, offsets[kind.layout.length]? = some last ∧ last < size) ∨
      ∃ index start stop, offsets[index]? = some start ∧ offsets[index + 1]? = some stop ∧
        start < size ∧ size < stop
  /-- So no field ever gets a wrong value. -/
  values : ∀ size ≤ s.body.size,
    ∀ again errors, Record.read kind policy (s.cut size) = .ok (again, errors) →
    ∃ count,
      again.content.values = record.content.values.take count ++ kind.layout.defaults.drop count

variable {kind : RecordKind} {policy : StringPolicy} {s : Structure} {record : Record}
  {tolerated : List Error}

/-- The fields of a record depend on their values only. -/
theorem ofValues_eq_ok {values rest : List Value}
    (built : ofValues kind s values = .ok (record, rest))
    (other : Structure) : ofValues kind other values = .ok (⟨other, record.content⟩, rest) := by
  unfold ofValues at built ⊢
  split at built
  · cases built
    rfl
  · cases built

/-- **Cutting a structure short.** A record that is read has offsets for its fields, and they decide
what becomes of it when the data ends early. -/
theorem truncation_of_read (accepted : Record.read kind policy s = .ok (record, tolerated)) :
    Truncation kind policy s record tolerated (kind.layout.offsets policy s.body kind.title 0) := by
  obtain ⟨ofType, _, values, last, rest, walked, built⟩ := read_eq_ok_iff.mp accepted
  have result : (kind.layout.decode policy s.body kind.title 0 false).result =
    .ok (values, last) := by rw [walked]
  obtain rfl : values = record.content.values := by
    obtain ⟨_, _, same⟩ := exists_values accepted
    rw [result] at same
    cases same
    rfl
  have errors : tolerated =
    kind.layout.misreadings s.body.strings.length kind.title record.content.values := by
    rw [← Layout.tolerated_of_walk result, ← Layout.decode, walked]
  have fit := kind.defaultsFit_layout
  have decoded := Layout.decoded_of_walk kind.dense_layout fit (Nat.zero_le s.body.size) result
  have type (size : Nat) : (s.cut size).type = kind.type := ofType
  have long {size : Nat} (least : kind.minSize ≤ size + Header.size) (kept : size ≤ s.body.size) :
      kind.minSize ≤ (s.cut size).size := by
    rwa [Structure.size_cut kept]
  refine {
    first := decoded.getElem?_zero
    rising := decoded.pairwise
    fields := ?fields
    atEnd := ?atEnd
    behind := ?behind
    inside := ?inside
    places := fun size => decoded.exists_place (Nat.zero_le size)
    values := ?values }
  case fields =>
    intro index start here
    refine ⟨_, ?_, decoded.decode_take here⟩
    rw [errors]
    exact Layout.misreadings_take_prefix ..
  case atEnd =>
    intro size least index here
    have kept := (decoded.range_of_mem size (List.mem_of_getElem? here)).2
    obtain ⟨again, read, same, _⟩ := read_of_decode (type size) (long least kept)
      (decoded.decode_cut fit here kept (.inl rfl))
    exact ⟨again, source_of_read read, same, read⟩
  case behind =>
    intro size least kept last here beyond
    have cut := decoded.walk_cut fit here kept (.inr ⟨rfl, beyond⟩)
    rw [decoded.take_append_drop] at cut
    refine read_eq_ok_iff.mpr ⟨type size, long least kept, record.content.values, last, rest, ?_,
      ofValues_eq_ok built (s.cut size)⟩
    rw [errors]
    exact Layout.walk_eq_of_result cut
  case inside =>
    intro size least index start stop here next behind lost
    have kept := Nat.le_of_lt
      (Nat.lt_of_lt_of_le lost (decoded.range_of_mem stop (List.mem_of_getElem? next)).2)
    obtain ⟨slot, sort, found, position, width, failed⟩ :=
      decoded.walk_cut_inside here next behind lost
    exact ⟨slot, sort, position, width, found, read_of_failed (type size) (long least kept) failed⟩
  case values =>
    intro size kept again errors read
    obtain ⟨_, last, found⟩ := exists_values read
    exact decoded.values_of_walk_cut fit (Nat.zero_le size) kept found

/-- A board with a string number that has no string, two handles, and a byte behind all fields. -/
def board : Structure where
  header := ⟨.baseboard, 20, 7⟩
  body := { formatted := [0, 0, 0, 0, 9, 1, 0, 0x34, 0x12, 0x0A, 2, 0x01, 0x00, 0x02, 0x00, 0xEE] }

/-- The data of the board is cut at each of its fields, or among its handles. -/
theorem truncation_of_read_board : ∃ record tolerated,
    Record.read .baseboard .tolerant board = .ok (record, tolerated) ∧
    tolerated = [.inField "BaseboardInfo" "AssetTag" (.badStringIndex 9 0)] ∧
    Truncation .baseboard .tolerant board record tolerated [0, 1, 2, 3, 4, 5, 6, 7, 9, 10, 15] ∧
    ∃ position width, Record.read .baseboard .tolerant (board.cut 13) =
      .error (.inField "BaseboardInfo" "ObjectHandles" (.outOfRange position width 13)) := by
  have accepted : Record.read .baseboard .tolerant board = .ok
      (⟨board, .baseboard {
        manufacturer := .notSpecified, product := .notSpecified, version := .notSpecified
        serialNumber := .notSpecified, assetTag := .badIndex 9, features := 1
        location := .notSpecified, chassisHandle := 0x1234, boardType := 0x0A
        objectHandles := [1, 2] }⟩,
        [.inField "BaseboardInfo" "AssetTag" (.badStringIndex 9 0)]) := by rfl
  have offsets :
    RecordKind.baseboard.layout.offsets .tolerant board.body RecordKind.baseboard.title 0 =
      [0, 1, 2, 3, 4, 5, 6, 7, 9, 10, 15] := by rfl
  have law := truncation_of_read accepted
  rw [offsets] at law
  obtain ⟨slot, sort, position, width, found, refused⟩ :=
    law.inside 13 (by decide) 9 10 15 rfl rfl (by decide) (by decide)
  cases found
  exact ⟨_, _, accepted, rfl, law, position, width, refused⟩

end Record

end Dmi
