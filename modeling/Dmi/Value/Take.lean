/-
**Taking values in order.**

A record is built from the values of its fields, one after the other. `Take` holds the values that
are left; a value of the wrong kind is an error, and is taken nevertheless.
-/

import Dmi.Block
import Dmi.Error
import Dmi.Value.Basic

namespace Dmi

/-- A computation that takes values off a list. -/
abbrev Take := EStateM Error (List Value)

namespace Take

/-- The next value. -/
def next : Take Value := fun values =>
  match values with
  | [] => .error (.misuse .tooFewValues) []
  | value :: rest => .ok value rest

/-- What `select` finds in the next value; it is an error if it finds nothing. -/
def nextAs {α : Type} (select : Value → Option α) : Take α := fun values =>
  match values with
  | [] => .error (.misuse .tooFewValues) []
  | value :: rest =>
    match select value with
    | some found => .ok found rest
    | none => .error (.misuse .wrongKind) rest

/-- The next value, an integer of the width. -/
def number (width : Width) : Take width.Number :=
  nextAs (Value.number? width)

/-- The next value, a one-byte integer. -/
def byte : Take UInt8 := number .byte

/-- The next value, a two-byte integer. -/
def word : Take UInt16 := number .word

/-- The next value, a four-byte integer. -/
def dword : Take UInt32 := number .dword

/-- The next value, an eight-byte integer. -/
def qword : Take UInt64 := number .qword

/-- The next value, a text. -/
def text : Take Text :=
  nextAs fun
    | .text text => some text
    | _ => none

/-- The next value, a block of `count` bytes. -/
def block (count : Nat) : Take (Block count) :=
  nextAs fun
    | .bytes bytes => Block.ofList? count bytes
    | _ => none

/-- The values of the next value, a record. -/
def record : Take (List Value) :=
  nextAs fun
    | .record values => some values
    | _ => none

/-- The items of the next value, a list. -/
def list : Take (List Value) :=
  nextAs fun
    | .list items => some items
    | _ => none

/-- The result of taking from `values` alone; what it leaves is dropped. -/
def run' {α : Type} (take : Take α) (values : List Value) : Except Error α :=
  match take values with
  | .ok found _ => .ok found
  | .error error _ => .error error

/-- The items of the next value, a list, each read by `item`. -/
def listOf {α : Type} (item : Value → Except Error α) : Take (List α) := fun values =>
  match list values with
  | .error error rest => .error error rest
  | .ok items rest =>
    match items.mapM item with
    | .ok found => .ok found rest
    | .error error => .error error rest

end Take

end Dmi
