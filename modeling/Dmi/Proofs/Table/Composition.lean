/-
**Tables compose.**

A structure says itself where it ends: its string section is over at the first zero byte that
follows another one, and none of the bytes behind it is looked at any further. So bytes that stand
behind a table are read as they are read alone, a table in front of them only moves the offset of an
error, and a table can be cut into two at the ends of its structures and nowhere else. Main
statements:

* `Table.parse_cases` — what parsing any bytes comes to;
* `Table.isPrefix_of_bytes` — the bytes of a table start with those of another only if its
  structures do;
* `Table.parse_of_cut` — what becomes of a table that is cut;
* `Table.parse_composes` — all of this.
-/

import Dmi.Proofs.Table.Reader

namespace Dmi.Table

variable {source front behind cut left : List UInt8} {table others : Table} {short : Shortfall}
  {error : Error}

/-! ### What parsing comes to -/

/-- Structures in front of bytes that start with none are an error, which says at the end of all
bytes what is lacking. -/
theorem parse_of_failed (wellFormed : WellFormed table) (nonempty : left ≠ [])
    (failed : Structure.read left = .error short) :
    parse (bytes table ++ left) =
      .error (.endOfData (Structure.lackingPart left) (bytes table ++ left).length) := by
  have listed : (scan (bytes table ++ left)).map Step.item =
      items table (some (.endOfData short.part (bytes table ++ left).length)) := by
    rw [scan, items_scanFrom_append wellFormed, scanFrom_of_failed failed nonempty]
    rfl
  calc parse (bytes table ++ left)
      = ((scan (bytes table ++ left)).map Step.item).mapM id := by rw [List.mapM_map]; rfl
    _ = .error (.endOfData (Structure.lackingPart left) (bytes table ++ left).length) := by
      rw [listed, mapM_items, Structure.part_of_read failed]

/-- **What parsing any bytes comes to.** They are structures and nothing else, and then they are the
table of these, or something is left that starts with no structure, and then they are short of a
part of one. -/
theorem parse_cases (source : List UInt8) :
    ∃ table left, WellFormed table ∧ source = bytes table ++ left ∧
      (left = [] ∧ parse source = .ok table ∨
        left ≠ [] ∧ (∃ short, Structure.read left = .error short) ∧
          parse source = .error (.endOfData (Structure.lackingPart left) source.length)) := by
  obtain ⟨table, left, wellFormed, rfl, rfl | ⟨nonempty, short, failed⟩⟩ := exists_split source
  · refine ⟨table, [], wellFormed, rfl, .inl ⟨rfl, ?_⟩⟩
    rw [List.append_nil]
    exact parse_of_wellFormed wellFormed
  · exact ⟨table, left, wellFormed, rfl,
      .inr ⟨nonempty, ⟨short, failed⟩, parse_of_failed wellFormed nonempty failed⟩⟩

/-! ### One table behind another -/

theorem wellFormed_append (first : WellFormed table) (second : WellFormed others) :
    WellFormed (table ++ others) :=
  List.forall_mem_append.mpr ⟨first, second⟩

theorem parse_append (first : parse source = .ok table) (second : parse behind = .ok others) :
    parse (source ++ behind) = .ok (table ++ others) := by
  obtain ⟨wellFormed, rfl⟩ := bytes_of_parse first
  obtain ⟨wellFormedBehind, rfl⟩ := bytes_of_parse second
  rw [← bytes_append]
  exact parse_of_wellFormed (wellFormed_append wellFormed wellFormedBehind)

/-- **A table in front moves the offset of an error**, and nothing else of it. -/
theorem parse_append_of_error (first : parse source = .ok table)
    (second : parse behind = .error error) : ∃ part, error = .endOfData part behind.length ∧
      parse (source ++ behind) = .error (.endOfData part (source.length + behind.length)) := by
  obtain ⟨wellFormed, rfl⟩ := bytes_of_parse first
  obtain ⟨others, left, wellFormedBehind, split,
    ⟨_, parsed⟩ | ⟨nonempty, ⟨short, failed⟩, parsed⟩⟩ := parse_cases behind
  · rw [second] at parsed
    cases parsed
  · rw [second] at parsed
    cases parsed
    refine ⟨Structure.lackingPart left, rfl, ?_⟩
    have whole : bytes table ++ behind = bytes (table ++ others) ++ left := by
      rw [bytes_append, List.append_assoc, ← split]
    rw [← List.length_append, whole]
    exact parse_of_failed (wellFormed_append wellFormed wellFormedBehind) nonempty failed

/-! ### Tables that are cut -/

/-- **The bytes of a table start with those of another only if its structures do.** What stands
behind the first structures is a table too, since otherwise the whole would be none. -/
theorem isPrefix_of_bytes (wellFormed : WellFormed table) (wellFormedFront : WellFormed others)
    (inside : bytes others <+: bytes table) : others <+: table := by
  obtain ⟨behind, split⟩ := inside
  have whole := parse_of_wellFormed wellFormed
  rw [← split] at whole
  have alone := parse_of_wellFormed wellFormedFront
  cases rest : parse behind with
  | ok later =>
    have same := parse_append alone rest
    rw [whole] at same
    cases same
    exact List.prefix_append others later
  | error error =>
    obtain ⟨part, _, failed⟩ := parse_append_of_error alone rest
    rw [whole] at failed
    cases failed

/-- **What becomes of a table that is cut**: at the end of a structure it is the table of those in
front, and anywhere else it ends too early, in the part that is lacking behind them. -/
theorem parse_of_cut (parsed : parse source = .ok table) (inside : cut <+: source) :
    ∃ count left, cut = bytes (table.take count) ++ left ∧
      (left = [] ∧ parse cut = .ok (table.take count) ∨
        left ≠ [] ∧ (∀ other, cut ≠ bytes (table.take other)) ∧
          parse cut = .error (.endOfData (Structure.lackingPart left) cut.length)) := by
  obtain ⟨wellFormed, rfl⟩ := bytes_of_parse parsed
  obtain ⟨front, left, wellFormedFront, split, outcome⟩ := parse_cases cut
  have before : bytes front <+: bytes table :=
    (split ▸ List.prefix_append (bytes front) left).trans inside
  have taken : front = table.take front.length :=
    List.prefix_iff_eq_take.mp (isPrefix_of_bytes wellFormed wellFormedFront before)
  rw [taken] at split outcome
  refine ⟨front.length, left, split,
    outcome.imp_right fun ⟨nonempty, _, failed⟩ => ⟨nonempty, ?_, failed⟩⟩
  -- At the end of a structure the cut would be a table.
  intro other same
  have accepted :=
    parse_of_wellFormed fun s member => wellFormed s (List.mem_of_mem_take (i := other) member)
  rw [← same, failed] at accepted
  cases accepted

/-- **Tables compose.** Behind a table, bytes are read as they are read alone: their structures
follow those of the table, or their error is the error of the whole, at an offset that is moved by
the length of the table; there is no other error than one of bytes that end too early. So a
structure says itself where it ends: none that is read back from its bytes begins with another one.
A table that is cut at the end of one of its structures is the table of those in front, and cut
anywhere else it is an error at the cut. -/
theorem parse_composes :
    (∀ source table, parse source = .ok table → ∀ behind,
      (∀ others, parse behind = .ok others → parse (source ++ behind) = .ok (table ++ others)) ∧
      (∀ part offset, parse behind = .error (.endOfData part offset) →
        parse (source ++ behind) = .error (.endOfData part (source.length + offset))) ∧
      ∀ error, parse behind = .error error → ∃ part, error = .endOfData part behind.length) ∧
    (∀ s other : Structure, parse s.bytes = .ok [s] → parse other.bytes = .ok [other] →
      s.bytes <+: other.bytes → s = other) ∧
    ∀ source table, parse source = .ok table → ∀ cut, cut <+: source →
      ∃ count left, cut = bytes (table.take count) ++ left ∧
        (left = [] ∧ parse cut = .ok (table.take count) ∨
          left ≠ [] ∧ (∀ other, cut ≠ bytes (table.take other)) ∧
            parse cut = .error (.endOfData (Structure.lackingPart left) cut.length)) := by
  refine ⟨?behind, ?delimited, fun source table parsed cut => parse_of_cut parsed⟩
  case behind =>
    intro source table first behind
    refine ⟨fun others => parse_append first, ?_, ?_⟩
    · intro part offset second
      obtain ⟨_, same, moved⟩ := parse_append_of_error first second
      cases same
      exact moved
    · intro error second
      obtain ⟨part, same, _⟩ := parse_append_of_error first second
      exact ⟨part, same⟩
  case delimited =>
    intro s other first second inside
    obtain ⟨wellFormed, alone⟩ := bytes_of_parse first
    obtain ⟨wellFormedOther, aloneOther⟩ := bytes_of_parse second
    have before : bytes [s] <+: bytes [other] := by rwa [alone, aloneOther]
    have same := (isPrefix_of_bytes wellFormedOther wellFormed before).eq_of_length rfl
    exact List.singleton_inj.mp same

/-- A structure with a string in front of the last one of a table, whole and cut. -/
theorem parse_composes_twoStructures :
    let named : Structure := ⟨⟨⟨200⟩, 5, 1⟩, ⟨[1], [[0x41]]⟩⟩
    let closing : Structure := ⟨⟨.endOfTable, 4, 2⟩, {}⟩
    parse (named.bytes ++ closing.bytes) = .ok [named, closing] ∧
      parse (named.bytes ++ closing.bytes.take 5) = .error (.endOfData .strings 13) ∧
      ¬named.bytes <+: closing.bytes ∧
        ∀ count, closing.bytes.take 5 ≠ bytes ([closing].take count) := by
  intro named closing
  have first : parse named.bytes = .ok [named] :=
    (parse_structure_iff named).mpr ⟨rfl, ⟨by decide, by decide, by decide⟩⟩
  have second : parse closing.bytes = .ok [closing] :=
    (parse_structure_iff closing).mpr ⟨rfl, ⟨by decide, by decide, by decide⟩⟩
  have broken : parse (bytes [] ++ closing.bytes.take 5) = .error (.endOfData .strings 5) :=
    parse_of_failed (fun s member => absurd member List.not_mem_nil) (by decide)
      (rfl : Structure.read (closing.bytes.take 5) = .error ⟨.strings, 1⟩)
  obtain ⟨compose, delimited, cuts⟩ := parse_composes
  obtain ⟨count, left, _, outcome⟩ :=
    cuts closing.bytes [closing] second (closing.bytes.take 5) (List.take_prefix 5 _)
  refine ⟨(compose named.bytes [named] first closing.bytes).1 [closing] second,
    (compose named.bytes [named] first (closing.bytes.take 5)).2.1 .strings 5 broken,
      fun inside => ?_, ?_⟩
  · exact absurd (delimited named closing first second inside) (by decide)
  · rcases outcome with ⟨_, parsed⟩ | ⟨_, between, _⟩
    · rw [show closing.bytes.take 5 = bytes [] ++ closing.bytes.take 5 from rfl, broken] at parsed
      cases parsed
    · exact between

end Dmi.Table
