/-
**Writing the fields of a record.**

The fields are written in order, each behind the zero bytes that stand for what it skips; an ignored
field writes nothing. A failure says in which field it arose, except that a wrong number of values
is an error of the record as a whole.
-/

import Dmi.Layout.Basic
import Dmi.Layout.Items
import Dmi.Value.Basic

namespace Dmi

/-- The error of a failure, said to be in a field. -/
def Draft.inField {α : Type} (record field : String) (draft : Draft α) : Draft α := fun body =>
  match draft body with
  | .ok found body => .ok found body
  | .error error body => .error (.inField record field error) body

/-- Writes a value of a kind. -/
def Kind.write (kind : Kind) (value : Value) : Draft Unit :=
  match kind, value with
  | number width, .number found n =>
    if found = width then Draft.number found n else Draft.fail (.misuse .wrongKind)
  | text, .text found => Draft.text found
  | bytes count, .bytes found =>
    if found.length = count then Draft.bytes found else Draft.fail (.misuse .wrongKind)
  | list kind, value => kind.write value
  | _, _ => Draft.fail (.misuse .wrongKind)

namespace Layout

/-- Writes the values of the fields of the record `title`, one for each. -/
def write (title : String) : Layout → List Value → Draft Unit
  | field slot kind rest, value :: values => do
    unless slot.ignored do
      Draft.zeros slot.skip
      Draft.inField title slot.name (kind.write value)
    write title rest values
  | record slot name inner rest, value :: values => do
    unless slot.ignored do
      Draft.zeros slot.skip
      Draft.inField title slot.name
        (match value with
        | .record fields =>
          if inner.length = fields.length then write name inner fields
          else Draft.fail (.misuse .wrongCount)
        | _ => Draft.fail (.misuse .wrongKind))
    write title rest values
  | _, _ => pure ()

/-- Writes the values of the record `title`. -/
def encode (layout : Layout) (title : String) (values : List Value) : Draft Unit :=
  if layout.length = values.length then layout.write title values
  else Draft.fail (.misuse .wrongCount)

end Layout

end Dmi
