/-
**What a type filter holds.**

A filter holds the union of what its entries denote, so that neither their order nor their
arrangement in arguments matters. An entry that denotes nothing is never passed over, and every
other one denotes at least one type. So a filter with arguments is not taken for the empty one,
which accepts everything. Main statements:

* `addEntries_cases` — what becomes of a run of entries;
* `parse_congr`, `isEmpty_of_parse`, `accepts_insertAll_iff` — what a filter depends on, and what it
  accepts;
* `parse_by_grammar` — what becomes of the arguments.
-/

import Dmi.Proofs.TypeFilter.Grammar

namespace Dmi

namespace TypeFilter

/-! ### Runs of entries -/

/-- One of the entries denotes a group of types that has this one. -/
def Selects (all : List (List Char)) (type : TypeCode) : Prop :=
  ∃ entry ∈ all, ∃ types, Denotes entry types ∧ type ∈ types

/-- The first entry that denotes nothing. -/
def FirstInvalid (all : List (List Char)) (entry : List Char) : Prop :=
  ∃ before behind, all = before ++ entry :: behind ∧ (∀ earlier ∈ before, Valid earlier) ∧
    ¬Valid entry

theorem types?_eq_none_iff {entry : List Char} : types? entry = none ↔ ¬Valid entry := by
  rw [Option.eq_none_iff_forall_ne_some, Valid, not_exists]
  exact forall_congr' fun types => not_congr types?_eq_some_iff

theorem selects_cons {entry : List Char} {rest : List (List Char)} {types : List TypeCode}
    (denotes : Denotes entry types) (type : TypeCode) :
    Selects (entry :: rest) type ↔ type ∈ types ∨ Selects rest type := by
  constructor
  · rintro ⟨other, member, others, here, listed⟩
    rcases List.mem_cons.mp member with rfl | member
    · have same := types?_eq_some_iff.mpr here
      rw [types?_eq_some_iff.mpr denotes] at same
      cases same
      exact .inl listed
    · exact .inr ⟨other, member, others, here, listed⟩
  · rintro (listed | ⟨other, member, others, here, listed⟩)
    · exact ⟨entry, List.mem_cons_self, types, denotes, listed⟩
    · exact ⟨other, List.mem_cons_of_mem _ member, others, here, listed⟩

/-- **What becomes of a run of entries**: the set gets the types that they denote, or the first one
that denotes nothing is the error. By induction on the run, with any set in front of it. -/
theorem addEntries_cases (filter : TypeFilter) (all : List (List Char)) :
    ((∀ entry ∈ all, Valid entry) ∧ ∃ found, filter.addEntries all = .ok found ∧
        ∀ type, found.contains type ↔ filter.contains type ∨ Selects all type) ∨
      ∃ entry, FirstInvalid all entry ∧
        filter.addEntries all = .error (.unknownFilter (String.ofList entry)) := by
  induction all generalizing filter with
  | nil => exact .inl ⟨by simp, filter, rfl, by simp [Selects]⟩
  | cons entry rest ih =>
    cases read : types? entry with
    | none =>
      refine .inr ⟨entry, ⟨[], rest, rfl, by simp, types?_eq_none_iff.mp read⟩, ?_⟩
      rw [addEntries, read]
    | some types =>
      have denotes := types?_eq_some_iff.mp read
      have step : filter.addEntries (entry :: rest) = (filter.insertAll types).addEntries rest := by
        rw [addEntries, read]
      rw [step]
      rcases ih (filter.insertAll types) with ⟨valid, found, added, members⟩ |
        ⟨other, first, failed⟩
      · refine .inl ⟨List.forall_mem_cons.mpr ⟨⟨types, denotes⟩, valid⟩, found, added,
          fun type => ?_⟩
        rw [members, contains_insertAll, Bool.or_eq_true, List.contains_iff_mem, or_assoc,
          selects_cons denotes]
      · obtain ⟨before, behind, parts, valid, none_⟩ := first
        refine .inr ⟨other, ⟨entry :: before, behind, ?_, ?_, none_⟩, failed⟩
        · rw [parts, List.cons_append]
        · exact List.forall_mem_cons.mpr ⟨⟨types, denotes⟩, valid⟩

theorem not_valid_of_firstInvalid {all : List (List Char)} {entry : List Char}
    (first : FirstInvalid all entry) : ¬∀ entry ∈ all, Valid entry := by
  obtain ⟨before, behind, rfl, _, none_⟩ := first
  exact fun valid => none_ (valid entry (List.mem_append_right _ List.mem_cons_self))

theorem firstInvalid_unique {all : List (List Char)} {one other : List Char}
    (first : FirstInvalid all one) (second : FirstInvalid all other) : one = other := by
  obtain ⟨front, rest, rfl, validOne, noneOne⟩ := first
  obtain ⟨before, behind, same, validOther, noneOther⟩ := second
  rcases List.append_eq_append_iff.mp same with ⟨more, rfl, tail⟩ | ⟨more, rfl, tail⟩
  · cases more with
    | nil => exact (List.cons.inj tail).1
    | cons c more =>
      obtain ⟨rfl, _⟩ := List.cons.inj tail
      exact absurd (validOther one (List.mem_append_right _ List.mem_cons_self)) noneOne
  · cases more with
    | nil => exact (List.cons.inj tail).1.symm
    | cons c more =>
      obtain ⟨rfl, _⟩ := List.cons.inj tail
      exact absurd (validOne other (List.mem_append_right _ List.mem_cons_self)) noneOther

/-! ### Sets -/

/-- A set is determined by its members. -/
theorem eq_of_contains {one other : TypeFilter}
    (same : ∀ type, one.contains type ↔ other.contains type) :
    one = other := by
  obtain ⟨one⟩ := one
  obtain ⟨other⟩ := other
  refine congrArg TypeFilter.mk (BitVec.eq_of_getLsbD_eq fun index inside => ?_)
  have here := same ⟨UInt8.ofNat index⟩
  simp only [contains, UInt8.toNat_ofNat',
    Nat.mod_eq_of_lt (show index < 2 ^ 8 from inside)] at here
  exact Bool.eq_iff_iff.mpr here

theorem isEmpty_eq_false {filter : TypeFilter} {type : TypeCode} (member : filter.contains type) :
    filter.isEmpty = false := by
  rw [isEmpty, beq_eq_false_iff_ne]
  intro none_
  rw [contains, none_] at member
  simp at member

/-- The members are listed in ascending order, each once. -/
theorem pairwise_codes (filter : TypeFilter) :
    filter.codes.Pairwise fun one next => one.code < next.code :=
  List.Pairwise.filter _ TypeCode.pairwise_all

theorem not_contains_empty (type : TypeCode) : empty.contains type = false := by
  simp [contains, empty]

/-- An entry denotes at least one type. -/
theorem Denotes.ne_nil {entry : List Char} {types : List TypeCode} (denotes : Denotes entry types) :
    types ≠ [] := by
  have groupsHaveTypes : ∀ group ∈ groups, group.2 ≠ [] := by decide
  cases denotes with
  | group listed _ => exact fun none_ => groupsHaveTypes _ listed (List.map_eq_nil_iff.mp none_)
  | decimal _ _ _ => exact List.cons_ne_nil _ _
  | hexadecimal _ _ _ => exact List.cons_ne_nil _ _

/-! ### Filters -/

variable {arguments : List String} {filter : TypeFilter}

/-- What an argument list that is accepted has become. -/
theorem accepted_of_parse (parsed : parse arguments = .ok filter) :
    (∀ entry ∈ arguments.flatMap entries, Valid entry) ∧
      ∀ type, filter.contains type ↔ Selects (arguments.flatMap entries) type := by
  rcases addEntries_cases empty (arguments.flatMap entries) with ⟨valid, found, added, members⟩ |
    ⟨_, _, failed⟩
  · rw [parse, added] at parsed
    cases parsed
    refine ⟨valid, fun type => ?_⟩
    rw [members, not_contains_empty]
    exact or_iff_right Bool.false_ne_true
  · rw [parse, failed] at parsed
    cases parsed

theorem exists_parse_iff :
    (∃ filter, parse arguments = .ok filter) ↔
      ∀ entry ∈ arguments.flatMap entries, Valid entry := by
  constructor
  · rintro ⟨filter, parsed⟩
    exact (accepted_of_parse parsed).1
  · intro valid
    rcases addEntries_cases empty (arguments.flatMap entries) with ⟨_, found, added, _⟩ |
      ⟨entry, first, _⟩
    · exact ⟨found, added⟩
    · exact absurd valid (not_valid_of_firstInvalid first)

theorem parse_eq_error_iff {error : Error} : parse arguments = .error error ↔
    ∃ entry, FirstInvalid
      (arguments.flatMap entries) entry ∧ error = .unknownFilter (String.ofList entry) := by
  rcases addEntries_cases empty (arguments.flatMap entries) with ⟨valid, found, added, _⟩ |
    ⟨entry, first, failed⟩
  · rw [parse, added]
    constructor
    · rintro ⟨⟩
    · rintro ⟨entry, first, _⟩
      exact absurd valid (not_valid_of_firstInvalid first)
  · rw [parse, failed]
    constructor
    · rintro ⟨⟩
      exact ⟨entry, first, rfl⟩
    · rintro ⟨other, second, rfl⟩
      rw [firstInvalid_unique first second]

/-- **The same entries give the same filter**, in whatever order and however often they come. -/
theorem parse_congr (parsed : parse arguments = .ok filter) {others : List String}
    (same : ∀ entry, entry ∈ others.flatMap entries ↔ entry ∈ arguments.flatMap entries) :
    parse others = .ok filter := by
  obtain ⟨valid, members⟩ := accepted_of_parse parsed
  obtain ⟨other, found⟩ :=
    exists_parse_iff.mpr fun entry member => valid entry ((same entry).mp member)
  have equal : other = filter := by
    refine eq_of_contains fun type => ?_
    rw [(accepted_of_parse found).2, members]
    exact exists_congr fun entry => and_congr_left fun _ => same entry
  rw [found, equal]

/-- **A filter of some arguments holds a type**, so that it does not accept all of them. -/
theorem isEmpty_of_parse (parsed : parse arguments = .ok filter) (some_ : arguments ≠ []) :
    filter.isEmpty = false := by
  obtain ⟨valid, members⟩ := accepted_of_parse parsed
  obtain ⟨argument, rest, rfl⟩ := List.exists_cons_of_ne_nil some_
  obtain ⟨entry, more, same⟩ := List.exists_cons_of_ne_nil (entries_ne_nil argument)
  have member : entry ∈ (argument :: rest).flatMap entries := by
    rw [List.flatMap_cons, same]
    exact List.mem_cons_self
  obtain ⟨types, denotes⟩ := valid entry member
  obtain ⟨type, behind, rfl⟩ := List.exists_cons_of_ne_nil denotes.ne_nil
  exact isEmpty_eq_false ((members type).mpr ⟨entry, member, _, denotes, List.mem_cons_self⟩)

/-- A filter that holds a type accepts its members and no other types, whatever is inserted. -/
theorem accepts_insertAll_iff (some_ : filter.isEmpty = false) (inserted : List TypeCode)
    (type : TypeCode) :
    (filter.insertAll inserted).accepts type ↔ filter.contains type ∨ type ∈ inserted := by
  have members := contains_insertAll filter inserted
  have stays : (filter.insertAll inserted).isEmpty = false := by
    by_contra none_
    rw [Bool.not_eq_false] at none_
    have nothing : filter.insertAll inserted = empty := congrArg TypeFilter.mk (beq_iff_eq.mp none_)
    refine Bool.false_ne_true (some_.symm.trans ?_)
    have equal : filter = empty := eq_of_contains fun other => by
      have here := members other
      rw [nothing, not_contains_empty, eq_comm, Bool.or_eq_false_iff] at here
      rw [here.1, not_contains_empty]
    rw [equal]
    rfl
  rw [accepts, stays, Bool.false_or, members, Bool.or_eq_true, List.contains_iff_mem]

/-- **A filter means what its arguments say.** They are accepted exactly if all of their entries are
valid, and otherwise the first entry that is not is the error, as it was written. The filter then
lists the types that its entries denote, in ascending order, and depends on nothing else: not on the
order of the entries, nor on how often they come, nor on whether they are joined with commas. Unless
there are no arguments at all, it accepts these types and those that are inserted later, and no
others. Without arguments it accepts every type. -/
theorem parse_by_grammar (arguments : List String) :
    let all := arguments.flatMap entries
    (∀ argument found, Splits argument found ↔ found = entries argument) ∧
      ((∃ filter, parse arguments = .ok filter) ↔ ∀ entry ∈ all, Valid entry) ∧
      (∀ error, parse arguments = .error error ↔
        ∃ entry, FirstInvalid all entry ∧ error = .unknownFilter (String.ofList entry)) ∧
      (∀ filter, parse arguments = .ok filter →
        (filter.codes.Pairwise fun one next => one.code < next.code) ∧
          (∀ type, type ∈ filter.codes ↔ Selects all type) ∧
          (∀ others, (∀ entry, entry ∈ others.flatMap entries ↔ entry ∈ all) →
            parse others = .ok filter) ∧
          (arguments ≠ [] → filter.isEmpty = false ∧ ∀ inserted type,
            (filter.insertAll inserted).accepts type ↔ Selects all type ∨ type ∈ inserted)) ∧
      (arguments ≠ [] → parse [",".intercalate arguments] = parse arguments) ∧
      parse [] = .ok empty ∧ ∀ type, empty.accepts type := by
  refine ⟨fun _ _ => splits_iff, exists_parse_iff,
    fun _ => parse_eq_error_iff, ?_, ?_, rfl, fun _ => rfl⟩
  · intro filter parsed
    obtain ⟨_, members⟩ := accepted_of_parse parsed
    refine ⟨pairwise_codes filter, fun type => ?_, fun _ => parse_congr parsed, fun some_ => ?_⟩
    · rw [mem_codes, members]
    · have holds := isEmpty_of_parse parsed some_
      refine ⟨holds, fun inserted type => ?_⟩
      rw [accepts_insertAll_iff holds, members]
  · intro some_
    obtain ⟨first, rest, rfl⟩ := List.exists_cons_of_ne_nil some_
    rw [parse, parse, List.flatMap_singleton, entries_intercalate]

/-- A keyword in capitals, a number with a plus sign behind blanks, and one in base sixteen with a
zero in front. -/
example : (parse ["BIOS, +7", "0x07"]).toOption.map codes = some [⟨0⟩, ⟨7⟩, ⟨13⟩] := by
  decide +kernel

end TypeFilter

end Dmi
