/-
**Report, getters and inventory are three views of one reading.**

A snapshot is shown as a report, asked for the records of one kind, or read into an inventory. Each
of the three goes through the table by itself: the report looks at one structure after the other,
the getters pick out a type and stop at the first failure, and the inventory keeps the failures
beside the records. They agree all the same, since the catalog reads the structures of a kind as the
getters of that kind do. So the inventory tells what the other two say. Main statements:

* `Registry.decoder?_builtin` — the catalog has for each kind the decoder that its getters use;
* `Snapshot.report_eq` — the report from the inventory, for any faithful registry;
* `Inventory.failsBehind_iff` — where the inventory shows the failure that a getter meets;
* `Snapshot.all_eq_ok_iff`, `Snapshot.all_eq_error_iff`, `Snapshot.first_eq_ok_iff`,
  `Snapshot.first_eq_error_iff` — the getters from the inventory;
* `Snapshot.views_of_inventory` — all of them.
-/

import Dmi.Proofs.Registry.Inventory
import Dmi.Snapshot.Report

namespace Dmi

/-- **The catalog reads the structures of a kind as records of this kind.** -/
theorem Registry.decoder?_builtin (kind : RecordKind) :
    builtin.decoder? kind.type = some fun source policy => Record.read kind policy source := by
  cases kind <;> rfl

/-! ### The inventory of the catalog -/

namespace Inventory

/-- In the inventory of a table, behind the entries `before` of a type, the next structure of the
type is kept as it is, and its only diagnostic is `error`. -/
def FailsBehind (table : Table) (type : TypeCode) (before : List Entry) (error : Error) : Prop :=
  ∃ (front : Table) (source : Structure) (behind : Table), table = front ++ source :: behind ∧
    source.type = type ∧ (ofTable .builtin {} front).ofType type = before ∧
    ofTable .builtin {} table =
      ofTable .builtin {} front ++
        (⟨[.raw source], [.about source error]⟩ ++ ofTable .builtin {} behind)

theorem append_cancel {before middle other behind : Inventory}
    (same : before ++ (middle ++ behind) = before ++ (other ++ behind)) : middle = other := by
  have entries := congrArg Inventory.entries same
  have diagnostics := congrArg Inventory.diagnostics same
  obtain ⟨_, _⟩ := middle
  obtain ⟨_, _⟩ := other
  exact congr (congrArg mk (List.append_cancel_right (List.append_cancel_left entries)))
    (List.append_cancel_right (List.append_cancel_left diagnostics))

theorem entries_ofTable {registry : Registry} (faithful : registry.Faithful) (policy : StringPolicy)
    (table : Table) :
    (ofTable registry { policy } table).entries = table.map (registry.entry policy) := by
  rw [ofTable_eq faithful]
  exact congrArg (List.map _) (List.filter_eq_self.mpr
    fun source _ => Bool.or_true (registry.contains source.type))

/-- The entries of a type are those of its structures. -/
theorem ofType_ofTable (table : Table) (type : TypeCode) :
    (ofTable .builtin {} table).ofType type = (table.ofType type).map
      (Registry.builtin.entry .tolerant) := by
  rw [ofType, entries_ofTable Registry.faithful_builtin, List.filter_map, Table.ofType]
  congr 2
  funext source
  exact congrArg (fun same : Structure => same.type == type)
    (Registry.source_entry Registry.faithful_builtin .tolerant source)

variable {kind : RecordKind} {source : Structure} {record : Record} {error : Error}

theorem outcome_builtin (ofType : source.type = kind.type) :
    Registry.builtin.outcome .tolerant source =
      match Record.read kind .tolerant source with
      | .ok (record, tolerated) => .typed record tolerated
      | .error error => .failed error := by
  have found := Registry.decoder?_builtin kind
  rw [← ofType] at found
  cases read : Record.read kind .tolerant source with
  | ok result =>
    obtain ⟨record, tolerated⟩ := result
    simp only [Registry.outcome, found, read]
  | error error => simp only [Registry.outcome, found, read]

/-- A structure is read by the getters of its kind where its entry is a record, namely this one. -/
theorem readOne_eq_ok_iff (ofType : source.type = kind.type) :
    Snapshot.readOne kind source = .ok record ↔
      Registry.builtin.entry .tolerant source = .typed record := by
  rw [Snapshot.readOne, Registry.entry, outcome_builtin ofType]
  cases Record.read kind .tolerant source with
  | ok result => simp [bind, Except.bind, pure, Except.pure]
  | error error => simp [bind, Except.bind]

/-- The getters of a kind fail at a structure where it is kept as it is, with the error of its
diagnostic. -/
theorem readOne_eq_error_iff (ofType : source.type = kind.type) :
    Snapshot.readOne kind source = .error error ↔
      ofStructure .builtin {} source = ⟨[.raw source], [.about source error]⟩ := by
  have supported : Registry.builtin.contains source.type = true := by
    rw [Registry.contains, ofType, Registry.decoder?_builtin]
    rfl
  rw [Snapshot.readOne, ofStructure_eq Registry.faithful_builtin, supported, Registry.entry,
    Registry.diagnostics, outcome_builtin ofType]
  cases Record.read kind .tolerant source with
  | ok result => simp [bind, Except.bind, pure, Except.pure]
  | error other => simp [bind, Except.bind, Diagnostic.about]

/-- **Where the inventory shows a failure**: at a structure that the getters of the kind cannot
read. -/
theorem failsBehind_iff {table : Table} {before : List Entry} :
    FailsBehind table kind.type before error ↔
      ∃ front source behind, table.ofType kind.type = front ++ source :: behind ∧
        front.map (Registry.builtin.entry .tolerant) = before ∧
          Snapshot.readOne kind source = .error error := by
  constructor
  · rintro ⟨front, source, behind, rfl, ofType, rfl, parts⟩
    refine ⟨front.ofType kind.type, source, Table.ofType behind kind.type, ?_,
      (ofType_ofTable front kind.type).symm, ?_⟩
    · simp only [Table.ofType, List.filter_append, List.filter_cons, ofType, beq_self_eq_true,
        if_true]
    · rw [ofTable_append, ofTable] at parts
      exact (readOne_eq_error_iff ofType).mpr (append_cancel parts)
  · rintro ⟨front, source, behind, parts, rfl, failed⟩
    obtain ⟨first, second, rfl, rfl, next⟩ := List.filter_eq_append_iff.mp parts
    obtain ⟨others, rest, rfl, without, ofType, rfl⟩ := List.filter_eq_cons_iff.mp next
    have none_ : Table.ofType others kind.type = [] := List.filter_eq_nil_iff.mpr without
    have same := eq_of_beq ofType
    refine ⟨first ++ others, source, rest, by rw [List.append_assoc], same, ?_, ?_⟩
    · rw [ofType_ofTable, Table.ofType, List.filter_append, ← Table.ofType, ← Table.ofType, none_,
        List.append_nil]
    · rw [← List.append_assoc, ofTable_append, ofTable, (readOne_eq_error_iff same).mp failed]

end Inventory

/-! ### The views of a snapshot -/

namespace Snapshot

open Inventory

variable {kind : RecordKind} {snapshot : Snapshot} {record : Record} {records : List Record}
  {error : Error}

/-- The report shows of each structure the text of its entry. -/
theorem reportItem_eq (registry : Registry) (policy : StringPolicy) (source : Structure) :
    reportItem registry policy source = (registry.entry policy source).render ++ "\n\n" := by
  rw [reportItem, Registry.decode, Registry.entry, Registry.outcome]
  cases registry.decoder? source.type with
  | none => rfl
  | some decoder => cases found : decoder source policy <;> simp only [found, Entry.render]

/-- **The report shows the entries of the inventory** that the filter accepts, in stream order. -/
theorem report_eq {registry : Registry} (faithful : registry.Faithful) (snapshot : Snapshot)
    (filter : TypeFilter) (policy : StringPolicy) : snapshot.report filter registry policy =
      reportHead snapshot.entry ++ String.join
        (((snapshot.inventory registry { policy }).entries.filter
          fun entry => filter.accepts entry.source.type).map
          fun entry => entry.render ++ "\n\n") := by
  have shown : ((fun entry => filter.accepts entry.source.type) ∘ registry.entry policy) =
      fun source => filter.accepts source.type :=
    funext fun source => congrArg (fun same : Structure => filter.accepts same.type)
      (Registry.source_entry faithful policy source)
  rw [report, inventory, entries_ofTable faithful, List.filter_map, List.map_map, shown]
  congr 3
  exact funext (reportItem_eq registry policy)

/-- The structures of a type are read one by one. -/
theorem mapM_readOne_eq_ok_iff {sources : List Structure}
    (same : ∀ source ∈ sources, source.type = kind.type) :
    sources.mapM (readOne kind) = .ok records ↔
      sources.map (Registry.builtin.entry .tolerant) = records.map .typed := by
  induction sources generalizing records with
  | nil => cases records <;> simp [pure, Except.pure]
  | cons source rest ih =>
    obtain ⟨here, behind⟩ := List.forall_mem_cons.mp same
    rw [List.mapM_cons, Error.bind_eq_ok_iff]
    constructor
    · rintro ⟨record, first, found⟩
      obtain ⟨others, tail, same⟩ := Error.bind_eq_ok_iff.mp found
      cases same
      rw [List.map_cons, List.map_cons, (readOne_eq_ok_iff here).mp first, (ih behind).mp tail]
    · intro entries
      cases records with
      | nil => cases entries
      | cons record others =>
        obtain ⟨first, tail⟩ := List.cons.inj entries
        exact ⟨record, (readOne_eq_ok_iff here).mpr first,
          Error.bind_eq_ok_iff.mpr ⟨others, (ih behind).mpr tail, rfl⟩⟩

/-- Steps one after the other fail at the first that fails. -/
theorem mapM_eq_error_iff {α β : Type} {step : α → Except Error β} {items : List α} :
    items.mapM step = .error error ↔ ∃ front item behind found,
      items = front ++ item :: behind ∧ front.mapM step = .ok found ∧ step item = .error error := by
  induction items with
  | nil => simp [pure, Except.pure]
  | cons item rest ih =>
    rw [List.mapM_cons, Error.bind_eq_error_iff]
    constructor
    · rintro (failed | ⟨one, first, failed⟩)
      · exact ⟨[], item, rest, [], rfl, rfl, failed⟩
      · rcases Error.bind_eq_error_iff.mp failed with failed | ⟨_, _, none_⟩
        · obtain ⟨front, last, behind, found, rfl, before, failed⟩ := ih.mp failed
          refine ⟨item :: front, last, behind, one :: found, rfl, ?_, failed⟩
          rw [List.mapM_cons, first, before]
          rfl
        · cases none_
    · rintro ⟨front, last, behind, found, parts, before, failed⟩
      cases front with
      | nil =>
        cases parts
        exact .inl failed
      | cons first front =>
        cases parts
        obtain ⟨one, here, before⟩ := Error.bind_eq_ok_iff.mp (List.mapM_cons.symm.trans before)
        obtain ⟨others, before, _⟩ := Error.bind_eq_ok_iff.mp before
        exact .inr ⟨one, here, Error.bind_eq_error_iff.mpr
          (.inl (ih.mpr ⟨front, last, behind, others, rfl, before, failed⟩))⟩

theorem type_of_mem_ofType {table : Table} {type : TypeCode} :
    ∀ source ∈ table.ofType type, source.type = type :=
  fun _ member => eq_of_beq (List.mem_filter.mp member).2

/-- **A list getter answers** where all entries of its type are records, and with these. -/
theorem all_eq_ok_iff : snapshot.all kind = .ok records ↔
    (snapshot.inventory .builtin {}).ofType kind.type = records.map .typed := by
  rw [inventory, ofType_ofTable]
  exact mapM_readOne_eq_ok_iff type_of_mem_ofType

/-- **A list getter fails** at the first structure of its type that is no record. -/
theorem all_eq_error_iff : snapshot.all kind = .error error ↔
    ∃ records : List Record, FailsBehind snapshot.table kind.type
      (records.map Entry.typed) error := by
  have typed {front behind : List Structure} {source : Structure}
      (parts : snapshot.table.ofType kind.type = front ++ source :: behind)
      (records : List Record) :
      front.mapM (readOne kind) = .ok records ↔
        front.map (Registry.builtin.entry .tolerant) = records.map .typed :=
    mapM_readOne_eq_ok_iff fun other member =>
      type_of_mem_ofType other (parts.symm ▸ List.mem_append_left _ member)
  simp only [failsBehind_iff]
  rw [all, mapM_eq_error_iff]
  constructor
  · rintro ⟨front, source, behind, records, parts, before, failed⟩
    exact ⟨records, front, source, behind, parts, (typed parts records).mp before, failed⟩
  · rintro ⟨records, front, source, behind, parts, before, failed⟩
    exact ⟨front, source, behind, records, parts, (typed parts records).mpr before, failed⟩

theorem first_eq (snapshot : Snapshot) (kind : RecordKind) : snapshot.first kind =
    match snapshot.table.ofType kind.type with
    | source :: _ => readOne kind source
    | [] => .error (.typeNotFound kind.type) := by
  rw [first, Table.first?, ← List.head?_filter, ← Table.ofType]
  cases snapshot.table.ofType kind.type <;> rfl

/-- **A single getter answers** where the first entry of its type is a record, and with this. -/
theorem first_eq_ok_iff : snapshot.first kind = .ok record ↔
    ((snapshot.inventory .builtin {}).ofType kind.type).head? = some (.typed record) := by
  rw [first_eq, inventory, ofType_ofTable, List.head?_map]
  cases sources : snapshot.table.ofType kind.type with
  | nil => simp
  | cons source rest =>
    have ofType := type_of_mem_ofType source (sources.symm ▸ List.mem_cons_self)
    rw [List.head?_cons, Option.map_some, Option.some.injEq]
    exact readOne_eq_ok_iff ofType

/-- **A single getter fails** for want of a structure, or at the first one of its type if that is no
record. -/
theorem first_eq_error_iff : snapshot.first kind = .error error ↔
    (snapshot.table.ofType kind.type = [] ∧ error = .typeNotFound kind.type) ∨
      FailsBehind snapshot.table kind.type [] error := by
  rw [first_eq, failsBehind_iff]
  cases snapshot.table.ofType kind.type with
  | nil =>
    constructor
    · rintro ⟨⟩
      exact .inl ⟨rfl, rfl⟩
    · rintro (⟨_, rfl⟩ | ⟨front, _, _, parts, _⟩)
      · rfl
      · cases front <;> cases parts
  | cons source rest =>
    constructor
    · intro failed
      exact .inr ⟨[], source, rest, rfl, rfl, failed⟩
    · rintro (⟨none_, _⟩ | ⟨front, other, behind, parts, nothing, failed⟩)
      · cases none_
      · obtain rfl := List.map_eq_nil_iff.mp nothing
        cases parts
        exact failed

/-- A failure to read a structure is not the want of one. -/
theorem not_failsBehind_typeNotFound {table : Table} {before : List Entry} {type : TypeCode} :
    ¬FailsBehind table kind.type before (.typeNotFound type) := by
  rw [failsBehind_iff]
  rintro ⟨_, source, _, _, _, failed⟩
  rcases Error.bind_eq_error_iff.mp failed with failed | ⟨_, _, none_⟩
  · rcases Record.failure_of_read failed with ⟨_, wrong⟩ | ⟨_, wrong⟩ |
      ⟨_, _, _, wrong⟩ <;> cases wrong
  · cases none_

/-- **Report, getters and inventory are three views of one reading.** With whatever filter, the
report is the lines on the entry point and the texts of the entries that the filter accepts, in
stream order, each with an empty line behind it. The records of a kind are given if all entries of
the type are records, and they are these; otherwise the error is the diagnostic of the first
structure of the type that is kept as it is. The first record of a kind is not found if the table
has no structure of the type; otherwise it is the first entry of the type, or the error is its
diagnostic. -/
theorem views_of_inventory (snapshot : Snapshot) :
    let inventory := snapshot.inventory .builtin {}
    (∀ filter, snapshot.report filter .builtin .tolerant = reportHead snapshot.entry ++ String.join
        ((inventory.entries.filter fun entry => filter.accepts entry.source.type).map
          fun entry => entry.render ++ "\n\n")) ∧
      (∀ kind,
        (∀ records, snapshot.all kind = .ok records ↔
          inventory.ofType kind.type = records.map .typed) ∧
          ∀ error, snapshot.all kind = .error error ↔
            ∃ records : List Record,
              FailsBehind snapshot.table kind.type (records.map Entry.typed) error) ∧
      ∀ kind,
        (snapshot.first kind = .error (.typeNotFound kind.type) ↔
          snapshot.table.ofType kind.type = []) ∧ (∀ record, snapshot.first kind = .ok record ↔
            (inventory.ofType kind.type).head? = some (.typed record)) ∧
          ∀ error, snapshot.first kind = .error error ↔
            (snapshot.table.ofType kind.type = [] ∧ error = .typeNotFound kind.type) ∨
              FailsBehind snapshot.table kind.type [] error := by
  refine ⟨fun filter => report_eq Registry.faithful_builtin snapshot filter .tolerant,
    fun kind => ⟨fun records => all_eq_ok_iff, fun error => all_eq_error_iff⟩,
    fun kind => ⟨?_, fun record => first_eq_ok_iff, fun error => first_eq_error_iff⟩⟩
  rw [first_eq_error_iff, or_iff_left not_failsBehind_typeNotFound, and_iff_left rfl]

end Snapshot

end Dmi
