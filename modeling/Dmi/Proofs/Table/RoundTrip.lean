/-
**Tables read back what they write, and nothing else.**

A table has nothing between its structures, so that its bytes determine where each structure ends.
The scan takes the structures off one by one (`Structure.read_eq_ok_iff`). Main statements:

* `Table.parse_of_wellFormed`, `Table.bytes_of_parse` — the two directions;
* `Table.parse_iff` — parsing is a bijection between the accepted bytes and the lists of well-formed
  structures.
-/

import Dmi.Proofs.Structure.RoundTrip

namespace Dmi.Table

/-- Every structure of the table is well formed. -/
def WellFormed (table : Table) : Prop :=
  ∀ s ∈ table, s.WellFormed

theorem bytes_cons (s : Structure) (table : Table) :
    bytes (s :: table) = s.bytes ++ bytes table := rfl

/-- What a scan yields when the bytes start with a structure. -/
theorem scanFrom_of_read {total : Nat} {source behind : List UInt8} {s : Structure}
    (found : Structure.read source = .ok (s, behind)) :
    scanFrom total source = ⟨total - behind.length, .ok s⟩ :: scanFrom total behind := by
  have nonempty : source ≠ [] := by
    rintro rfl
    cases found
  rw [scanFrom, if_neg nonempty]
  split
  · rename_i other rest inner
    rw [found] at inner
    cases inner
    rfl
  · rename_i short inner
    rw [found] at inner
    cases inner

/-- **Reading takes off what writing has put down.** -/
theorem items_scanFrom {table : Table} (wellFormed : WellFormed table) (total : Nat) :
    (scanFrom total (bytes table)).mapM Step.item = .ok table := by
  induction table with
  | nil =>
    rw [bytes, List.flatMap_nil, scanFrom, if_pos rfl]
    rfl
  | cons s table ih =>
    have head := Structure.read_bytes (wellFormed s List.mem_cons_self) (bytes table)
    have tail := ih fun other member => wellFormed other (List.mem_cons_of_mem _ member)
    rw [bytes_cons, scanFrom_of_read head, List.mapM_cons, tail]
    rfl

/-- **What a scan yields without an error is what was written.** By induction on the bytes: each
structure read leaves fewer of them. -/
theorem bytes_of_items {total : Nat} {source : List UInt8} {table : Table}
    (found : (scanFrom total source).mapM Step.item = .ok table) :
    WellFormed table ∧ bytes table = source := by
  induction source using scanFrom.induct generalizing table with
  | case1 =>
    rw [scanFrom, if_pos rfl] at found
    cases found
    exact ⟨fun s member => absurd member List.not_mem_nil, rfl⟩
  | case2 source _ s behind head ih =>
    rw [scanFrom_of_read head, List.mapM_cons] at found
    cases tail : (scanFrom total behind).mapM Step.item with
    | error error => rw [tail] at found; cases found
    | ok others =>
      rw [tail] at found
      cases found
      obtain ⟨wellFormed, same⟩ := ih tail
      obtain ⟨headWellFormed, split⟩ := Structure.bytes_of_read head
      refine ⟨?_, by rw [bytes_cons, same, split]⟩
      intro other member
      rcases List.mem_cons.mp member with rfl | member
      · exact headWellFormed
      · exact wellFormed other member
  | case3 source nonempty short failed =>
    rw [scanFrom, if_neg nonempty] at found
    split at found
    · rename_i s behind inner
      rw [failed] at inner
      cases inner
    · cases found

theorem parse_of_wellFormed {table : Table} (wellFormed : WellFormed table) :
    parse (bytes table) = .ok table :=
  items_scanFrom wellFormed _

theorem bytes_of_parse {source : List UInt8} {table : Table} (found : parse source = .ok table) :
    WellFormed table ∧ bytes table = source :=
  bytes_of_items found

/-- A structure alone is a table exactly when it is well formed. -/
theorem parse_structure_iff (s : Structure) : parse s.bytes = .ok [s] ↔ s.WellFormed := by
  have alone : bytes [s] = s.bytes := List.append_nil _
  constructor
  · intro found
    exact (bytes_of_parse found).1 s List.mem_cons_self
  · intro wellFormed
    rw [← alone]
    exact parse_of_wellFormed fun other member => List.mem_singleton.mp member ▸ wellFormed

/-- **Parsing is a bijection.** Some bytes are read as a table exactly when they are the bytes of
this table and its structures are well formed; so the accepted bytes are the concatenations of
well-formed structures, and a single structure is read back exactly when it is well formed. -/
theorem parse_iff (source : List UInt8) :
    (∀ table, parse source = .ok table ↔ WellFormed table ∧ bytes table = source) ∧
      ((∃ table, parse source = .ok table) ↔ ∃ table, WellFormed table ∧ bytes table = source) ∧
      ∀ s : Structure, parse s.bytes = .ok [s] ↔ s.WellFormed := by
  have both : ∀ table, parse source = .ok table ↔ WellFormed table ∧ bytes table = source := by
    intro table
    constructor
    · exact bytes_of_parse
    · rintro ⟨wellFormed, rfl⟩
      exact parse_of_wellFormed wellFormed
  exact ⟨both, exists_congr both, parse_structure_iff⟩

end Dmi.Table
