/-
**Registries.**

A registry says how structures of a type become records. Reading a whole table loses no structure:
one that has no decoder or whose decoder fails stays as it is, and everything that went wrong is
listed.
-/

import Dmi.Record.Basic
import Dmi.Structure.Render
import Dmi.Table

namespace Dmi

/-- Reads a structure, and hands back the errors that the policy tolerates. -/
abbrev Decoder := Structure → StringPolicy → Except Error (Record × List Error)

/-- The decoders of the types that have one. -/
structure Registry where
  decoder? : TypeCode → Option Decoder

namespace Registry

/-- The registry without decoders. -/
def empty : Registry := ⟨fun _ => none⟩

/-- Whether a type has a decoder. -/
def contains (registry : Registry) (type : TypeCode) : Bool :=
  (registry.decoder? type).isSome

/-- The types that have a decoder, in ascending order. -/
def types (registry : Registry) : List TypeCode :=
  TypeCode.all.filter registry.contains

/-- The registry with a decoder for a type, in place of the one it had. -/
def register (registry : Registry) (type : TypeCode) (decoder : Decoder) : Registry :=
  ⟨fun other => if other = type then some decoder else registry.decoder? other⟩

/-- Puts in a decoder for a type, and hands back the one that it takes the place of. -/
def replace (registry : Registry) (type : TypeCode) (decoder : Decoder) :
    Option Decoder × Registry :=
  (registry.decoder? type, registry.register type decoder)

/-- The registry with the decoder of a kind of records. -/
def registerKind (registry : Registry) (kind : RecordKind) : Registry :=
  registry.register kind.type fun source policy => Record.read kind policy source

/-- Puts in the decoder of a kind of records, and hands back the one that it takes the place of. -/
def replaceKind (registry : Registry) (kind : RecordKind) : Option Decoder × Registry :=
  (registry.decoder? kind.type, registry.registerKind kind)

/-- The registry with the decoders of all kinds of records. -/
def builtin : Registry :=
  RecordKind.all.foldl registerKind empty

/-- Reads a structure. -/
def decode (registry : Registry) (policy : StringPolicy) (source : Structure) :
    Except Error (Record × List Error) :=
  match registry.decoder? source.type with
  | some decoder => decoder source policy
  | none => .error (.unsupportedType source.type)

/-- The types as a set is written. -/
def render (registry : Registry) : String :=
  "\x7b" ++ String.intercalate ", " (registry.types.map fun type => type.code.toNat.repr) ++ "\x7d"

theorem decoder?_register (registry : Registry) (type other : TypeCode) (decoder : Decoder) :
    (registry.register type decoder).decoder? other =
      if other = type then some decoder else registry.decoder? other := rfl

theorem mem_types (registry : Registry) (type : TypeCode) :
    type ∈ registry.types ↔ registry.contains type := by
  simp [types, TypeCode.mem_all]

end Registry

/-! ### Reading a table -/

/-- How a table is read. -/
structure ReadOptions where
  policy : StringPolicy := .tolerant
  /-- Whether structures of a type without a decoder stay in. -/
  keepUnsupported : Bool := true
  deriving DecidableEq, Repr

/-- A structure of a table that has been read. -/
inductive Entry where
  | typed (record : Record)
  /-- A structure without a decoder, or whose decoder failed. -/
  | raw (source : Structure)
  deriving DecidableEq, Repr

namespace Entry

/-- The structure of an entry. -/
def source : Entry → Structure
  | typed record => record.source
  | raw source => source

/-- The text of an entry. -/
def render : Entry → String
  | typed record => record.render
  | raw source => source.render

end Entry

/-- What went wrong with a structure. -/
structure Diagnostic where
  handle : UInt16
  type : TypeCode
  error : Error
  deriving DecidableEq, Repr

namespace Diagnostic

/-- An error of a structure. -/
def about (source : Structure) (error : Error) : Diagnostic :=
  ⟨source.handle, source.type, error⟩

/-- The text of a diagnostic. -/
def render (diagnostic : Diagnostic) : String :=
  "handle 0x" ++ Hex.upper 4 diagnostic.handle.toNat ++ " (type " ++
    diagnostic.type.code.toNat.repr ++ "): " ++ diagnostic.error.message

end Diagnostic

/-- A table that has been read. -/
structure Inventory where
  entries : List Entry := []
  diagnostics : List Diagnostic := []
  deriving DecidableEq, Repr

namespace Inventory

/-- One inventory behind the other. -/
def append (first second : Inventory) : Inventory :=
  ⟨first.entries ++ second.entries, first.diagnostics ++ second.diagnostics⟩

instance : Append Inventory := ⟨append⟩

/-- What reading one structure adds. -/
def ofStructure (registry : Registry) (options : ReadOptions) (source : Structure) : Inventory :=
  match registry.decode options.policy source with
  | .ok (record, tolerated) => ⟨[.typed record], tolerated.map (Diagnostic.about source)⟩
  | .error (.unsupportedType _) => ⟨if options.keepUnsupported then [.raw source] else [], []⟩
  | .error error => ⟨[.raw source], [Diagnostic.about source error]⟩

/-- The inventory of a table, in stream order. -/
def ofTable (registry : Registry) (options : ReadOptions) : Table → Inventory
  | [] => {}
  | source :: rest => ofStructure registry options source ++ ofTable registry options rest

/-- The entries of the structures of a type, in stream order. -/
def ofType (inventory : Inventory) (type : TypeCode) : List Entry :=
  inventory.entries.filter fun entry => entry.source.type == type

end Inventory

end Dmi
