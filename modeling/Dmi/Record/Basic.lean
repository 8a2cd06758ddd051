/-
**Records.**

A record is a structure read as what its type says. `RecordKind` lists the twelve kinds with their
type codes and layouts, `Content` holds the fields of one, and `Record` adds the structure that they
were read from. Reading checks the type and the least size, and then walks the layout.
-/

import Dmi.Layout.Decode
import Dmi.Layout.Encode
import Dmi.Record.Baseboard
import Dmi.Record.Bios
import Dmi.Record.Cache
import Dmi.Record.Chassis
import Dmi.Record.IpmiDevice
import Dmi.Record.MemoryDevice
import Dmi.Record.Processor
import Dmi.Record.System
import Dmi.Record.SystemSlot
import Dmi.Record.TpmDevice

namespace Dmi

/-- The kinds of structures that have a record. -/
inductive RecordKind where
  | bios
  | system
  | baseboard
  | chassis
  | processor
  | cache
  | slot
  | memoryDevice
  | ipmiDevice
  | tpmDevice
  /-- A structure that the firmware has disabled. -/
  | inactive
  /-- The last structure of a table. -/
  | endOfTable
  deriving DecidableEq, Repr

namespace RecordKind

/-- Every kind, in ascending order of the type codes. -/
def all : List RecordKind :=
  [bios, system, baseboard, chassis, processor, cache, slot, memoryDevice, ipmiDevice, tpmDevice,
    inactive, endOfTable]

/-- The type code of the kind's structures. -/
def type : RecordKind → TypeCode
  | bios => .bios
  | system => .system
  | baseboard => .baseboard
  | chassis => .chassis
  | processor => .processor
  | cache => .cache
  | slot => .slot
  | memoryDevice => .memoryDevice
  | ipmiDevice => .ipmiDevice
  | tpmDevice => .tpmDevice
  | inactive => .inactive
  | endOfTable => .endOfTable

/-- The kind's name in messages. -/
def title : RecordKind → String
  | bios => Bios.title
  | system => System.title
  | baseboard => Baseboard.title
  | chassis => Chassis.title
  | processor => Processor.title
  | cache => Cache.title
  | slot => SystemSlot.title
  | memoryDevice => MemoryDevice.title
  | ipmiDevice => IpmiDevice.title
  | tpmDevice => TpmDevice.title
  | inactive => "Inactive"
  | endOfTable => "EndOfTable"

/-- The least size of the kind's structures. -/
def minSize : RecordKind → Nat
  | bios => Bios.minSize
  | system => System.minSize
  | baseboard => Baseboard.minSize
  | chassis => Chassis.minSize
  | processor => Processor.minSize
  | cache => Cache.minSize
  | slot => SystemSlot.minSize
  | memoryDevice => MemoryDevice.minSize
  | ipmiDevice => IpmiDevice.minSize
  | tpmDevice => TpmDevice.minSize
  | inactive => 0
  | endOfTable => 0

/-- The fields of the kind. -/
def layout : RecordKind → Layout
  | bios => Bios.layout
  | system => System.layout
  | baseboard => Baseboard.layout
  | chassis => Chassis.layout
  | processor => Processor.layout
  | cache => Cache.layout
  | slot => SystemSlot.layout
  | memoryDevice => MemoryDevice.layout
  | ipmiDevice => IpmiDevice.layout
  | tpmDevice => TpmDevice.layout
  | inactive => .done
  | endOfTable => .done

end RecordKind

/-- The fields of a record. -/
inductive Content where
  | bios (bios : Bios)
  | system (system : System)
  | baseboard (board : Baseboard)
  | chassis (chassis : Chassis)
  | processor (cpu : Processor)
  | cache (cache : Cache)
  | slot (slot : SystemSlot)
  | memoryDevice (memory : MemoryDevice)
  | ipmiDevice (ipmi : IpmiDevice)
  | tpmDevice (tpm : TpmDevice)
  | inactive
  | endOfTable
  deriving DecidableEq, Repr

namespace Content

/-- The kind of record that the fields belong to. -/
def kind : Content → RecordKind
  | bios _ => .bios
  | system _ => .system
  | baseboard _ => .baseboard
  | chassis _ => .chassis
  | processor _ => .processor
  | cache _ => .cache
  | slot _ => .slot
  | memoryDevice _ => .memoryDevice
  | ipmiDevice _ => .ipmiDevice
  | tpmDevice _ => .tpmDevice
  | inactive => .inactive
  | endOfTable => .endOfTable

/-- The fields of a kind, from their values in the order of the layout. -/
def take : RecordKind → Take Content
  | .bios => return bios (← Bios.take)
  | .system => return system (← System.take)
  | .baseboard => return baseboard (← Baseboard.take)
  | .chassis => return chassis (← Chassis.take)
  | .processor => return processor (← Processor.take)
  | .cache => return cache (← Cache.take)
  | .slot => return slot (← SystemSlot.take)
  | .memoryDevice => return memoryDevice (← MemoryDevice.take)
  | .ipmiDevice => return ipmiDevice (← IpmiDevice.take)
  | .tpmDevice => return tpmDevice (← TpmDevice.take)
  | .inactive => return inactive
  | .endOfTable => return endOfTable

/-- The values of the fields in the order of the layout. -/
def values : Content → List Value
  | bios fields => fields.values
  | system fields => fields.values
  | baseboard fields => fields.values
  | chassis fields => fields.values
  | processor fields => fields.values
  | cache fields => fields.values
  | slot fields => fields.values
  | memoryDevice fields => fields.values
  | ipmiDevice fields => fields.values
  | tpmDevice fields => fields.values
  | inactive => []
  | endOfTable => []

/-- The lines of a report on a structure of `length` bytes. -/
def lines (content : Content) (length : Nat) : String :=
  match content with
  | bios fields => fields.lines
  | system fields => fields.lines length
  | baseboard fields => fields.lines
  | chassis fields => fields.lines length
  | processor fields => fields.lines length
  | cache fields => fields.lines length
  | slot fields => fields.lines length
  | memoryDevice fields => fields.lines length
  | ipmiDevice fields => fields.lines length
  | tpmDevice fields => fields.lines
  | inactive => ""
  | endOfTable => ""

/-- The structure of the fields. -/
def encode (content : Content) (handle : UInt16) : Except Error Structure :=
  match content.kind.layout.encode content.kind.title content.values {} with
  | .ok _ body => body.seal content.kind.type handle
  | .error error _ => .error error

end Content

/-- A structure and its fields. -/
structure Record where
  /-- The structure that the fields were read from. -/
  source : Structure
  content : Content
  deriving DecidableEq, Repr

namespace Record

/-- The length that the structure declares, which says what a report shows. -/
def length (record : Record) : Nat :=
  record.source.header.length.toNat

/-- The text of a record. -/
def render (record : Record) : String :=
  record.source.header.render ++ record.content.lines record.length

/-- The structure of the record's fields, with a handle of its own. -/
def encode (record : Record) (handle : UInt16) : Except Error Structure :=
  record.content.encode handle

/-- The record of a structure whose fields have these values, and the values that are left. -/
def ofValues (kind : RecordKind) (source : Structure) (values : List Value) :
    Except Error (Record × List Value) :=
  match Content.take kind values with
  | .ok content rest => .ok (⟨source, content⟩, rest)
  | .error error _ => .error error

/-- The record of a structure, with the errors that the policy tolerates. -/
def read (kind : RecordKind) (policy : StringPolicy) (source : Structure) :
    Except Error (Record × List Error) :=
  if source.type ≠ kind.type then .error (.unexpectedType kind.type source.type)
  else if source.size < kind.minSize then .error (.endOfData (.named kind.title) source.size)
  else do
    let ((values, _), tolerated) ←
      (kind.layout.decode policy source.body kind.title 0 false).toExcept
    let (record, _) ← ofValues kind source values
    return (record, tolerated)

end Record

end Dmi
