/-
**What the request for a record is answered with.**

The type is checked first, then the size that is really there, then the fields are read. Each check
has an error of its own, and so has each field, so that the error tells which of them has failed;
and values that are read always make a record. Main statement:

* `Layout.typed_of_decode` — the answers of a reading, on any layout and on the catalog.
-/

import Dmi.Proofs.Layout.Failure
import Dmi.Proofs.Layout.Typed
import Dmi.Proofs.Record.RoundTrip

namespace Dmi

/-- Only a chassis has a list of contained elements. -/
theorem RecordKind.eq_chassis_of_slot {kind : RecordKind} {slot : Slot}
    (place : (slot, some (.list .elements)) ∈ kind.layout.slots) : kind = .chassis := by
  have listed : some (.list .elements) ∈ kind.layout.slots.map Prod.snd := List.mem_map_of_mem place
  cases kind with
  | chassis => rfl
  | _ => exact absurd listed (by decide)

namespace Record

variable {kind : RecordKind} {policy : StringPolicy} {s : Structure}

/-- **A structure of the right type and size is a record, or has a flaw in one of the fields of the
kind.** -/
theorem read_or_flaw (type : s.type = kind.type) (long : kind.minSize ≤ s.size) :
    (∃ record tolerated, Record.read kind policy s = .ok (record, tolerated)) ∨
      ∃ slot sort cause, (slot, some sort) ∈ kind.layout.slots ∧ sort.Flaw policy s.body cause ∧
        (∀ field reason, cause = .invalidList field reason → kind = .chassis) ∧
        Record.read kind policy s = .error (.inField kind.title slot.name cause) := by
  rcases read_cases kind policy s with ⟨other, _⟩ | ⟨_, short, _⟩ |
    ⟨_, _, found | ⟨error, decoded, failed⟩⟩
  · exact absurd type other
  · exact absurd long (Nat.not_le_of_lt short)
  · exact .inl found
  · obtain ⟨slot, sort, cause, place, flaw, rfl⟩ :=
      (Layout.misread_of_walk kind.defaultsFit_layout decoded).exists_flaw kind.isPlain_layout
    refine .inr ⟨slot, sort, cause, place, flaw, ?_, failed⟩
    rintro field reason rfl
    cases flaw
    exact RecordKind.eq_chassis_of_slot place

theorem read_eq_unexpectedType_iff :
    Record.read kind policy s = .error (.unexpectedType kind.type s.type) ↔ s.type ≠ kind.type := by
  rcases read_cases kind policy s with ⟨other, failed⟩ | ⟨type, _, failed⟩ | ⟨type, long, _⟩
  · exact iff_of_true failed other
  · exact iff_of_false (by rw [failed]; exact fun wrong => by cases wrong) (not_not_intro type)
  · refine iff_of_false (fun wrong => ?_) (not_not_intro type)
    rcases read_or_flaw type long with ⟨record, tolerated, found⟩ | ⟨_, _, _, _, _, _, found⟩ <;>
    · rw [found] at wrong
      cases wrong

theorem read_eq_endOfData_iff :
    Record.read kind policy s = .error (.endOfData (.named kind.title) s.size) ↔
      s.type = kind.type ∧ s.size < kind.minSize := by
  rcases read_cases kind policy s with ⟨other, failed⟩ | ⟨type, short, failed⟩ | ⟨type, long, _⟩
  · exact iff_of_false (by rw [failed]; exact fun wrong => by cases wrong)
      fun ⟨type, _⟩ => other type
  · exact iff_of_true failed ⟨type, short⟩
  · refine iff_of_false (fun wrong => ?_) fun ⟨_, short⟩ => Nat.not_le_of_lt short long
    rcases read_or_flaw type long with ⟨record, tolerated, found⟩ | ⟨_, _, _, _, _, _, found⟩ <;>
    · rw [found] at wrong
      cases wrong

end Record

namespace Layout

/-- **A reading answers with typed values, or with an error of its input.** On any layout whose
defaults fit, under either policy, from any offset inside the section, complete or not: there is one
value for each field, of the kind of the field at every depth, each list can be written again, and
the end is between the offset and the end of the section; a failure is no misuse. So a structure of
another type is refused for its type, one of too few bytes for its size, whatever its header says,
and any other is a record or fails in one field, whose flaw is the cause: a read past the section, a
missing string under the strict policy, or the size of the elements of a chassis. -/
theorem typed_of_decode :
    (∀ layout : Layout, layout.DefaultsFit →
      ∀ policy body title offset complete, offset ≤ body.size →
      match (layout.decode policy body title offset complete).result with
      | .ok (values, last) => values.length = layout.length ∧ layout.Each Kind.Accepts values ∧
          offset ≤ last ∧ last ≤ body.size
      | .error error => ∀ reason, error.root ≠ .misuse reason) ∧
    ∀ kind policy s,
      (Record.read kind policy s = .error (.unexpectedType kind.type s.type) ↔ s.type ≠ kind.type) ∧
      (Record.read kind policy s = .error (.endOfData (.named kind.title) s.size) ↔
        s.type = kind.type ∧ s.size < kind.minSize) ∧
      (s.type = kind.type → kind.minSize ≤ s.size →
        (∃ record tolerated, Record.read kind policy s = .ok (record, tolerated)) ∨
          ∃ slot sort cause, (slot, some sort) ∈ kind.layout.slots ∧ sort.Flaw policy s.body cause ∧
            (∀ field reason, cause = .invalidList field reason → kind = .chassis) ∧
            Record.read kind policy s = .error (.inField kind.title slot.name cause)) := by
  constructor
  · intro layout fit policy body title offset complete inside
    cases decoded : (layout.decode policy body title offset complete).result with
    | ok found =>
      have each := accepts_of_walk decoded
      exact ⟨each.length_eq, each, range_of_walk inside decoded⟩
    | error error => exact (misread_of_walk fit decoded).root_ne_misuse
  · intro kind policy s
    exact ⟨Record.read_eq_unexpectedType_iff, Record.read_eq_endOfData_iff, Record.read_or_flaw⟩

/-- A section that holds all fields of a layout with a record and a list in it. -/
theorem typed_of_decode_mixed :
    let body : Body := ⟨[0, 0, 1, 1, 0, 2, 3, 4, 9], []⟩
    mixed.DefaultsFit ∧
      ∃ values last, (mixed.decode .strict body "outer" 0 false).result = .ok (values, last) ∧
      values.length = 4 ∧ mixed.Each Kind.Accepts values ∧ last ≤ 9 := by
  intro body
  have fit : mixed.DefaultsFit := by decide
  have typed := typed_of_decode.1 mixed fit .strict body "outer" 0 false (Nat.zero_le _)
  have answered : (mixed.decode .strict body "outer" 0 false).result.isOk =
    true := by decide +kernel
  cases decoded : (mixed.decode .strict body "outer" 0 false).result with
  | ok found =>
    rw [decoded] at typed
    obtain ⟨count, each, _, inside⟩ := typed
    exact ⟨fit, found.1, found.2, rfl, count, each, inside⟩
  | error error =>
    rw [decoded] at answered
    cases answered

end Layout

end Dmi
