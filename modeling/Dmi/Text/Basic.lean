/-
**Texts of string fields.**

A string field holds a number: 0 for no text, otherwise the place of its text in the structure's
string list, counted from 1. A number past the list is kept, so that a reader can go on without it.
-/

namespace Dmi

/-- What a string field refers to. -/
inductive Text where
  /-- The number 0. -/
  | notSpecified
  /-- The text at its place in the list. -/
  | value (text : String)
  /-- A number past the end of the list. -/
  | badIndex (index : UInt8)
  deriving DecidableEq, Repr

namespace Text

/-- The text itself, where there is one. -/
def value? : Text → Option String
  | value text => some text
  | _ => none

/-- Whether the field refers to a text. -/
def isSpecified (text : Text) : Bool :=
  text.value?.isSome

/-- A text as a field value; the empty text is none at all. -/
def ofString (text : String) : Text :=
  if text = "" then notSpecified else value text

/-- The text as reports show it. -/
def render : Text → String
  | notSpecified => "Not Specified"
  | value text => text
  | badIndex _ => "<BAD INDEX>"

end Text

end Dmi
