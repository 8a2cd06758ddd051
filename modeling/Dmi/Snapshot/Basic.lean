/-
**Snapshots.**

An entry point together with its table. The getters read the structures of one kind under the
tolerant policy; the first structure that cannot be read is an error of the whole list.
-/

import Dmi.EntryPoint.Basic
import Dmi.Registry

namespace Dmi

/-- An entry point and its table. -/
structure Snapshot where
  entry : EntryPoint
  table : Table
  deriving DecidableEq, Repr

namespace Snapshot

/-- The snapshot of the bytes of an entry point and of a table. -/
def parse (entryBytes tableBytes : List UInt8) : Except Error Snapshot := do
  let entry ← EntryPoint.parse entryBytes
  let table ← Table.parse tableBytes
  return ⟨entry, table⟩

/-- The record of a structure under the tolerant policy. -/
def readOne (kind : RecordKind) (source : Structure) : Except Error Record := do
  let (record, _) ← Record.read kind .tolerant source
  return record

/-- The first record of a kind. -/
def first (snapshot : Snapshot) (kind : RecordKind) : Except Error Record :=
  match snapshot.table.first? kind.type with
  | some source => readOne kind source
  | none => .error (.typeNotFound kind.type)

/-- The records of a kind in stream order. -/
def all (snapshot : Snapshot) (kind : RecordKind) : Except Error (List Record) :=
  (snapshot.table.ofType kind.type).mapM (readOne kind)

/-- Every structure of the table, read with the decoders of a registry. -/
def inventory (snapshot : Snapshot) (registry : Registry) (options : ReadOptions) : Inventory :=
  Inventory.ofTable registry options snapshot.table

/-- The text of a snapshot. -/
def render (snapshot : Snapshot) : String :=
  snapshot.entry.render ++ " (" ++ snapshot.table.length.repr ++ " tables)"

end Snapshot

end Dmi
