/-
**Type codes.**

The first byte of a structure says what it describes. Codes from 128 on belong to vendors.
-/

namespace Dmi

/-- The type code of a structure. -/
structure TypeCode where
  code : UInt8
  deriving DecidableEq, Repr

namespace TypeCode

/-- The firmware. -/
def bios : TypeCode := ⟨0⟩

/-- The machine as a whole. -/
def system : TypeCode := ⟨1⟩

/-- A board. -/
def baseboard : TypeCode := ⟨2⟩

/-- An enclosure. -/
def chassis : TypeCode := ⟨3⟩

/-- A processor socket. -/
def processor : TypeCode := ⟨4⟩

/-- A cache of a processor. -/
def cache : TypeCode := ⟨7⟩

/-- A slot for a card. -/
def slot : TypeCode := ⟨9⟩

/-- A place for a memory module. -/
def memoryDevice : TypeCode := ⟨17⟩

/-- A management controller with an IPMI interface. -/
def ipmiDevice : TypeCode := ⟨38⟩

/-- A trusted platform module. -/
def tpmDevice : TypeCode := ⟨43⟩

/-- A structure that the firmware has disabled. -/
def inactive : TypeCode := ⟨126⟩

/-- The last structure of a table. -/
def endOfTable : TypeCode := ⟨127⟩

/-- Every type code in ascending order. -/
def all : List TypeCode :=
  (List.range 256).map fun n => ⟨UInt8.ofNat n⟩

/-- The first type code that belongs to vendors. -/
def vendorStart : UInt8 := 0x80

/-- The names of the types that have a record. -/
def names : List (TypeCode × String) :=
  [(bios, "BIOS Information"), (system, "System Information"),
    (baseboard, "Base Board Information"), (chassis, "Chassis Information"),
    (processor, "Processor Information"), (cache, "Cache Information"), (slot, "System Slots"),
    (memoryDevice, "Memory Device"), (ipmiDevice, "IPMI Device Information"),
    (tpmDevice, "TPM Device"), (inactive, "Inactive"), (endOfTable, "End Of Table")]

/-- The name that reports show for a type. -/
def name (type : TypeCode) : String :=
  match names.lookup type with
  | some name => name
  | none => if vendorStart ≤ type.code then "OEM-specific Type" else "Unsupported"

theorem pairwise_all : all.Pairwise fun one next => one.code < next.code := by
  refine List.pairwise_map.mpr (List.pairwise_lt_range.imp_of_mem
    fun {one next} _ inside less => ?_)
  have small : next < 256 := List.mem_range.mp inside
  rw [UInt8.lt_iff_toNat_lt, UInt8.toNat_ofNat', UInt8.toNat_ofNat']
  omega

theorem mem_all (type : TypeCode) : type ∈ all :=
  List.mem_map.mpr ⟨type.code.toNat, List.mem_range.mpr type.code.toNat_lt, by simp⟩

end TypeCode

end Dmi
