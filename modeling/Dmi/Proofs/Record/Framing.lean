/-
**What keeps a written structure whole.**

A structure that was written is read back from its bytes, and none of what stands behind it is taken
for a part of it, exactly when no text in it holds the character zero. Writing such a text is not
refused, and its zero byte ends the string early. The encoding of a record is a case of this: it is
a run of operations, whose texts are those of the fields (`Record.exists_operations`). Main
statements:

* `Structure.parse_of_seal`, `Record.parse_of_encode` — when a structure that was written is read
  back;
* `Structure.parse_of_written` — both of them.
-/

import Dmi.Proofs.Body.Operations
import Dmi.Proofs.Record.RoundTrip

namespace Dmi

open Draft (Operation after)

/-! ### Structures that were written -/

/-- **The structure of any operations is read back** unless a text holds the character zero, in a
table by itself and in front of anything else. -/
theorem Structure.parse_of_seal {operations : List Operation} {type : TypeCode} {handle : UInt16}
    {s : Structure} (sealed : (after operations {}).seal type handle = .ok s) :
    (Table.parse s.bytes = .ok [s] ↔
      ∀ text, .text (.value text) ∈ operations → '\x00' ∉ text.toList) ∧
      ∀ behind, read (s.bytes ++ behind) = .ok (s, behind) ↔
        ∀ text, .text (.value text) ∈ operations → '\x00' ∉ text.toList := by
  have wellFormed :=
    (wellFormed_iff_of_seal sealed).trans (Draft.wellFormed_strings_after operations)
  refine ⟨(Table.parse_structure_iff s).trans wellFormed, fun behind => ?_⟩
  rw [read_eq_ok_iff, and_iff_left rfl]
  exact wellFormed

/-- **The encoding of a record is read back** unless a text of the record holds the character
zero. -/
theorem Record.parse_of_encode {record : Record} {handle : UInt16} {s : Structure}
    (encoded : record.encode handle = .ok s) :
    (Table.parse s.bytes = .ok [s] ↔
      ∀ text, .text (.value text) ∈ record.content.values → '\x00' ∉ text.toList) ∧
      ∀ behind, Structure.read (s.bytes ++ behind) = .ok (s, behind) ↔
        ∀ text, .text (.value text) ∈ record.content.values → '\x00' ∉ text.toList := by
  obtain ⟨operations, sealed, texts⟩ := exists_operations encoded
  simp only [← texts]
  exact Structure.parse_of_seal sealed

namespace Structure

/-- **Exactly what is written survives.** Whatever operations have built a structure, and whatever
record is encoded as it, its bytes are read as a table of it alone, and it is taken off in front of
any other bytes, exactly when no text among the operations or in the record holds the character
zero. -/
theorem parse_of_written (s : Structure) :
    (∀ operations type handle, (after operations {}).seal type handle = .ok s →
      (Table.parse s.bytes = .ok [s] ↔
        ∀ text, .text (.value text) ∈ operations → '\x00' ∉ text.toList) ∧
        ∀ behind, read (s.bytes ++ behind) = .ok (s, behind) ↔
          ∀ text, .text (.value text) ∈ operations → '\x00' ∉ text.toList) ∧
      ∀ (record : Record) handle, record.encode handle = .ok s →
        (Table.parse s.bytes = .ok [s] ↔
          ∀ text, .text (.value text) ∈ record.content.values → '\x00' ∉ text.toList) ∧
          ∀ behind, read (s.bytes ++ behind) = .ok (s, behind) ↔
            ∀ text, .text (.value text) ∈ record.content.values → '\x00' ∉ text.toList :=
  ⟨fun _ _ _ => parse_of_seal, fun _ _ => Record.parse_of_encode⟩

/-- Two texts and a number, and a text in vain. -/
def twoTexts : List Operation :=
  [.text (.value "A"), .number .word 0x1234, .text (.badIndex 9), .text (.value "B")]

/-- The texts have no zero, so that their structure is a table of its own. -/
theorem parse_of_written_twoTexts :
    ∃ s, (after twoTexts {}).seal .system 5 = .ok s ∧ s.body.strings = [[0x41], [0x42]] ∧
      Table.parse s.bytes = .ok [s] := by
  refine ⟨⟨⟨.system, 8, 5⟩, ⟨[1, 0x34, 0x12, 2], [[0x41], [0x42]]⟩⟩, rfl, rfl, ?_⟩
  refine ((parse_of_written _).1 twoTexts .system 5 rfl).1.mpr fun text member => ?_
  simp only [twoTexts, List.mem_cons, reduceCtorEq, Operation.text.injEq, Text.value.injEq,
    List.not_mem_nil, or_false, false_or] at member
  rcases member with rfl | rfl <;> decide

/-- **A character zero ends its text early.** The one text is written without a complaint, and read
as two. -/
theorem parse_of_cutText :
    let s : Structure := ⟨⟨.system, 5, 0⟩, ⟨[1], [[0x61, 0x00, 0x62]]⟩⟩
    (after [.text (.value "a\x00b")] {}).seal .system 0 = .ok s ∧
      Table.parse s.bytes = .ok [⟨s.header, ⟨[1], [[0x61], [0x62]]⟩⟩] ∧
        Table.parse s.bytes ≠ .ok [s] := by
  intro s
  let cut : Structure := ⟨s.header, ⟨[1], [[0x61], [0x62]]⟩⟩
  have wellFormed : cut.WellFormed := ⟨rfl, ⟨by decide, by decide, by decide⟩⟩
  have read : Table.parse s.bytes = .ok [cut] := (Table.parse_structure_iff cut).mpr wellFormed
  refine ⟨rfl, read, ?_⟩
  rw [read]
  intro same
  exact absurd (List.cons.inj (Except.ok.inj same)).1 (by decide)

end Structure

end Dmi
