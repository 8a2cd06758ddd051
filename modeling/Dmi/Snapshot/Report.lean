/-
**Reports.**

The text of a snapshot: a line on the entry point, one on the table if the entry point counts its
structures, an empty line, and then every structure that the filter accepts, as a record if it can
be read as one and otherwise as bytes.
-/

import Dmi.Snapshot.Basic
import Dmi.TypeFilter

namespace Dmi.Snapshot

/-- The lines on the entry point. -/
def reportHead (entry : EntryPoint) : String :=
  let count := match entry with
    | .bits32 entry =>
      entry.structureCount.toNat.repr ++ " structures occupying " ++
        entry.tableLength.toNat.repr ++ " bytes.\n"
    | .bits64 _ => ""
  entry.render ++ " present.\n" ++ count ++ "\n"

/-- The text of a structure. -/
def reportItem (registry : Registry) (policy : StringPolicy) (source : Structure) : String :=
  let text := match registry.decode policy source with
    | .ok (record, _) => record.render
    | .error _ => source.render
  text ++ "\n\n"

/-- The report on a snapshot. -/
def report (snapshot : Snapshot) (filter : TypeFilter) (registry : Registry)
    (policy : StringPolicy) : String :=
  let shown := snapshot.table.filter fun source => filter.accepts source.type
  reportHead snapshot.entry ++ String.join (shown.map (reportItem registry policy))

end Dmi.Snapshot
