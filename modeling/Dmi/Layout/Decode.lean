/-
**Reading the fields of a record.**

One walk goes through the layout and the formatted section together, forward only. It stops at the
first field that begins behind the section. From there on every field is worth its default: a record
among them is read from where the walk stopped, and that reading may stop short as well. A complete
reading, which a record that stands inside another gets, fails instead of stopping.

A string number without a string is an error of the field under the strict policy; under the
tolerant one the field keeps the number and the error is handed back beside the values.
-/

import Dmi.Body.Read
import Dmi.Layout.Basic
import Dmi.Layout.Items
import Dmi.Layout.Lenient
import Dmi.Value.Basic

namespace Dmi

/-- What to do with a string number past the end of the list. -/
inductive StringPolicy where
  /-- Keep the number and go on. -/
  | tolerant
  /-- Fail. -/
  | strict
  deriving DecidableEq, Repr

namespace Kind

/-- The value of a field without bytes. -/
def absent (kind : Kind) (default : Option UInt64) : Except Error Value :=
  match kind with
  | number width =>
    let value := (default.getD 0).toNat
    if value < LittleEndian.limit width.size then .ok (.number width (width.number value))
    else .error (.misuse .defaultTooWide)
  | text => .ok (.text .notSpecified)
  | bytes count =>
    if default.isSome then .error (.misuse .defaultOnBytes)
    else .ok (.bytes (List.replicate count 0))
  | list kind => .ok kind.absent

/-- Reads the string whose number is at `offset`. -/
def readText (policy : StringPolicy) (body : Body) (record field : String) (offset : Nat) :
    Lenient Text :=
  match body.byte offset with
  | .error error => .fail error
  | .ok index =>
    match body.string index, policy with
    | .ok found, _ => pure found
    | .error error, .strict => .fail error
    | .error error, .tolerant => .tolerate (.inField record field error) (.badIndex index)

/-- Reads the field at `offset`, and gives its value with the offset behind it. -/
def read (kind : Kind) (policy : StringPolicy) (body : Body) (record field : String)
    (offset : Nat) : Lenient (Value × Nat) :=
  match kind with
  | number width => do
    let n ← .ofExcept (body.number width offset)
    return (.number width n, offset + width.size)
  | text => do
    let found ← readText policy body record field offset
    return (.text found, offset + 1)
  | bytes count => do
    let found ← .ofExcept (body.bytes offset count)
    return (.bytes found, offset + count)
  | list kind => do
    let (items, consumed) ← .ofExcept (kind.read body offset)
    return (items, offset + consumed)

end Kind

/-- How a walk meets a field. -/
inductive Encounter where
  /-- The field has its bytes. -/
  | present
  /-- The field has no bytes by its layout. -/
  | ignored
  /-- The walk has ended before the field. -/
  | missing
  /-- The walk has ended before the field, but must not. -/
  | cutShort
  deriving DecidableEq, Repr

namespace Slot

/-- Whether a field begins behind a section of `size` bytes when the walk is at `offset`. -/
def isBehind (slot : Slot) (size offset : Nat) : Bool :=
  size ≤ offset || (!slot.ignored && size ≤ offset + slot.skip)

/-- How a walk meets a field that is `behind` the end or not. -/
def encounter (slot : Slot) (complete behind : Bool) : Encounter :=
  if behind then
    if complete then .cutShort else .missing
  else if slot.ignored then .ignored
  else .present

end Slot

/-- The value of a field in front of the values of the fields behind it, which begin at the offset
that comes with it. -/
def Lenient.inFront (first : Lenient (Value × Nat)) (rest : Nat → Lenient (List Value × Nat)) :
    Lenient (List Value × Nat) :=
  first.andThen fun (value, next) =>
    (rest next).andThen fun (values, last) => pure (value :: values, last)

theorem Lenient.inFront_pure {value : Value} {values : List Value} {next last : Nat}
    {rest : Nat → Lenient (List Value × Nat)} (found : rest next = pure (values, last)) :
    (pure (value, next) : Lenient (Value × Nat)).inFront rest = pure (value :: values, last) := by
  rw [inFront, andThen_pure]
  simp only [found, andThen_pure]

theorem Lenient.result_inFront_eq_ok {first : Lenient (Value × Nat)} {found : List Value}
    {rest : Nat → Lenient (List Value × Nat)} {last : Nat} :
    (first.inFront rest).result = .ok (found, last) ↔
      ∃ value next values, first.result = .ok (value, next) ∧
        (rest next).result = .ok (values, last) ∧ found = value :: values := by
  rw [inFront, result_andThen_eq_ok]
  constructor
  · rintro ⟨⟨value, next⟩, head, tail⟩
    obtain ⟨⟨values, stop⟩, tail, same⟩ := result_andThen_eq_ok.mp tail
    cases same
    exact ⟨value, next, values, head, tail, rfl⟩
  · rintro ⟨value, next, values, head, tail, rfl⟩
    exact ⟨(value, next), head, result_andThen_eq_ok.mpr ⟨(values, last), tail, rfl⟩⟩

theorem Lenient.result_inFront_eq_error {first : Lenient (Value × Nat)}
    {rest : Nat → Lenient (List Value × Nat)} {error : Error} :
    (first.inFront rest).result = .error error ↔ first.result = .error error ∨
      ∃ value next, first.result = .ok (value, next) ∧ (rest next).result = .error error := by
  rw [inFront, result_andThen_eq_error]
  refine or_congr_right ⟨?_, ?_⟩
  · rintro ⟨⟨value, next⟩, head, tail⟩
    rcases result_andThen_eq_error.mp tail with tail | ⟨_, _, wrong⟩
    · exact ⟨value, next, head, tail⟩
    · cases wrong
  · rintro ⟨value, next, head, tail⟩
    exact ⟨(value, next), head, result_andThen_eq_error.mpr (.inl tail)⟩

namespace Layout

/-- The values of fields without bytes. -/
def absent : Layout → Except Error (List Value)
  | done => .ok []
  | field slot kind rest => do
    let value ← kind.absent slot.default
    let values ← rest.absent
    return value :: values
  | record _ _ inner rest => do
    let value ← inner.absent
    let values ← rest.absent
    return .record value :: values

/-- The value of a field that is no record, with the offset behind it. -/
def visit (policy : StringPolicy) (body : Body) (title : String) (slot : Slot) (kind : Kind)
    (met : Encounter) (offset : Nat) : Lenient (Value × Nat) :=
  let absent := (Lenient.ofExcept (kind.absent slot.default)).map fun value => (value, offset)
  match met with
  | .present => (kind.read policy body title slot.name (offset + slot.skip)).inField title slot.name
  | .ignored => absent
  | .missing => absent.inField title slot.name
  | .cutShort => .fail (.endOfData (.named title) offset)

/-- Walks the fields of the record `title` from `offset` on, `stopped` if the walk has ended before.
Gives one value for each field and the offset behind the last byte read. -/
def walk (policy : StringPolicy) (body : Body) (title : String) (complete stopped : Bool) :
    Layout → (offset : Nat) → Lenient (List Value × Nat)
  | done, offset => pure ([], offset)
  | field slot kind rest, offset =>
    let behind := stopped || slot.isBehind body.size offset
    let met := slot.encounter complete behind
    (visit policy body title slot kind met offset).inFront fun next =>
      walk policy body title complete behind rest next
  | record slot name inner rest, offset =>
    let behind := stopped || slot.isBehind body.size offset
    let absent := (Lenient.ofExcept inner.absent).map fun fields => (Value.record fields, offset)
    let value : Lenient (Value × Nat) :=
      match slot.encounter complete behind with
      | .present =>
        ((walk policy body name true false inner (offset + slot.skip)).inField title slot.name).map
          fun (fields, next) => (.record fields, next)
      | .ignored => absent
      | .missing =>
        if slot.ignored then absent.inField title slot.name
        else (walk policy body name false false inner offset).map
          fun (fields, _) => (.record fields, offset)
      | .cutShort => .fail (.endOfData (.named title) offset)
    value.inFront fun next => walk policy body title complete behind rest next

/-- The value of a record inside another, with the offset behind it. -/
def visitRecord (policy : StringPolicy) (body : Body) (title : String) (slot : Slot) (name : String)
    (inner : Layout) (met : Encounter) (offset : Nat) : Lenient (Value × Nat) :=
  let absent := (Lenient.ofExcept inner.absent).map fun fields => (Value.record fields, offset)
  match met with
  | .present =>
    ((walk policy body name true false inner (offset + slot.skip)).inField title slot.name).map
      fun (fields, next) => (.record fields, next)
  | .ignored => absent
  | .missing =>
    if slot.ignored then absent.inField title slot.name
    else (walk policy body name false false inner offset).map
      fun (fields, _) => (.record fields, offset)
  | .cutShort => .fail (.endOfData (.named title) offset)

/-- The offsets at which a walk from `offset` on finds the fields that have their bytes, and the one
behind the last of these fields. -/
def offsets (policy : StringPolicy) (body : Body) (title : String) :
    Layout → (offset : Nat) → List Nat
  | done, offset => [offset]
  | field slot kind rest, offset =>
    if slot.isBehind body.size offset then [offset]
    else
      match (visit policy body title slot kind (slot.encounter false false) offset).result with
      | .ok (_, next) => offset :: offsets policy body title rest next
      | .error _ => [offset]
  | record slot name inner rest, offset =>
    if slot.isBehind body.size offset then [offset]
    else
      match (visitRecord policy body title slot name inner
        (slot.encounter false false) offset).result with
      | .ok (_, next) => offset :: offsets policy body title rest next
      | .error _ => [offset]

/-- Reads the fields of the record `title` from `offset` on. -/
def decode (layout : Layout) (policy : StringPolicy) (body : Body) (title : String) (offset : Nat)
    (complete : Bool) : Lenient (List Value × Nat) :=
  layout.walk policy body title complete false offset

end Layout

end Dmi
