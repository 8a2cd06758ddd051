/-
**Layouts.**

A layout lists the fields of a record in the order of their offsets. A field says what it is called,
how it is encoded, and what it is worth in a structure that ends before it. A field may also be a
record of its own, whose fields stand in its place.
-/

import Dmi.Layout.ListKind
import Dmi.Width

namespace Dmi

/-- The encoding of a field that is no record. -/
inductive Kind where
  | number (width : Width)
  /-- The number of a string, one byte. -/
  | text
  | bytes (count : Nat)
  | list (kind : ListKind)
  deriving DecidableEq, Repr

/-- The number of bytes of a field, where its kind fixes it. -/
def Kind.size? : Kind → Option Nat
  | number width => some width.size
  | text => some 1
  | bytes count => some count
  | list _ => none

/-- What every field says of itself. -/
structure Slot where
  name : String
  /-- The field has no bytes at all. -/
  ignored : Bool := false
  /-- The number of bytes in front of the field that belong to none. -/
  skip : Nat := 0
  /-- What the field is worth where it is missing, zero if nothing is said. -/
  default : Option UInt64 := none
  deriving DecidableEq, Repr

/-- The fields of a record. -/
inductive Layout where
  | done
  | field (slot : Slot) (kind : Kind) (rest : Layout)
  /-- A field that is a record called `title`. -/
  | record (slot : Slot) (title : String) (inner rest : Layout)
  deriving DecidableEq, Repr

/-- A field that is no record. -/
structure Field extends Slot where
  kind : Kind
  deriving DecidableEq, Repr

namespace Field

/-- A one-byte integer. -/
def byte (name : String) : Field := { name, kind := .number .byte }

/-- A two-byte integer. -/
def word (name : String) : Field := { name, kind := .number .word }

/-- A four-byte integer. -/
def dword (name : String) : Field := { name, kind := .number .dword }

/-- An eight-byte integer. -/
def qword (name : String) : Field := { name, kind := .number .qword }

/-- The number of a string. -/
def text (name : String) : Field := { name, kind := .text }

/-- `count` bytes. -/
def bytes (name : String) (count : Nat) : Field := { name, kind := .bytes count }

/-- A counted list, called as its kind is. -/
def list (kind : ListKind) : Field := { name := kind.name, kind := .list kind }

/-- The field with a worth of its own where it is missing. -/
def orElse (field : Field) (value : UInt64) : Field := { field with default := some value }

end Field

namespace Layout

/-- The layout of fields that are no records. -/
def ofFields : List Field → Layout
  | [] => done
  | one :: rest => field one.toSlot one.kind (ofFields rest)

/-- The fields in front of the first one that is a record. -/
def fields : Layout → List Field
  | done => []
  | field slot kind rest => { slot with kind } :: rest.fields
  | record .. => []

/-- The number of fields; a record counts as one. -/
def length : Layout → Nat
  | done => 0
  | field _ _ rest => rest.length + 1
  | record _ _ _ rest => rest.length + 1

/-- The slots in order, each with its kind unless it is a record. -/
def slots : Layout → List (Slot × Option Kind)
  | done => []
  | field slot kind rest => (slot, some kind) :: rest.slots
  | record slot _ _ rest => (slot, none) :: rest.slots

/-- The fields of one layout and behind them those of another. -/
def append : Layout → Layout → Layout
  | done, other => other
  | field slot kind rest, other => field slot kind (rest.append other)
  | record slot name inner rest, other => record slot name inner (rest.append other)

/-- The first `count` fields. -/
def take : (count : Nat) → Layout → Layout
  | 0, _ => done
  | _ + 1, done => done
  | count + 1, field slot kind rest => field slot kind (rest.take count)
  | count + 1, record slot name inner rest => record slot name inner (rest.take count)

/-- The fields behind the first `count` ones. -/
def drop : (count : Nat) → Layout → Layout
  | 0, layout => layout
  | _ + 1, done => done
  | count + 1, field _ _ rest => rest.drop count
  | count + 1, record _ _ _ rest => rest.drop count

end Layout

end Dmi
