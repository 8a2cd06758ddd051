/-
**Errors.**

What can go wrong, as causes: a broken entry point, input that stops short, a structure with
impossible content, and calls that make no sense. `Error.inField` wraps a cause with the record and
field it arose in, `Error.root` takes every such wrapper off again, and `Error.message` is the
wording.
-/

import Dmi.Layout.ListKind
import Dmi.Text.Hex
import Dmi.TypeCode

namespace Dmi

/-- What was being read when the input ended. -/
inductive Part where
  /-- The first bytes of an entry point. -/
  | anchor
  /-- A 32-bit entry point. -/
  | entry32
  /-- A 64-bit entry point. -/
  | entry64
  /-- The first four bytes of a structure. -/
  | header
  /-- The formatted section of a structure. -/
  | formatted
  /-- The string section of a structure. -/
  | strings
  /-- The table inside a dump. -/
  | dumpTable
  /-- A record or another part that has a name of its own. -/
  | named (name : String)
  deriving DecidableEq, Repr

/-- The part as messages speak of it. -/
def Part.text : Part → String
  | anchor => "entry point anchor"
  | entry32 => "32-bit entry point"
  | entry64 => "64-bit entry point"
  | header => "structure header"
  | formatted => "formatted section"
  | strings => "string section"
  | dumpTable => "dump table"
  | named name => name

/-- A request that cannot be met whatever the input is. -/
inductive Misuse where
  /-- The worth of a missing field has more bytes than the field. -/
  | defaultTooWide
  /-- A worth is stated for a missing run of bytes. -/
  | defaultOnBytes
  /-- There are more or fewer values than fields. -/
  | wrongCount
  /-- A value is not of the kind of its field. -/
  | wrongKind
  /-- A value is asked for when none is left. -/
  | tooFewValues
  /-- A text that is only a bad number is to be written. -/
  | badIndexWritten
  /-- A string would need a number above 255. -/
  | tooManyStrings
  /-- A body has no room in the length byte. -/
  | structureTooLong
  /-- An address has no room in a 32-bit entry point. -/
  | addressTooWide
  /-- The value of a counted list is no list. -/
  | notAList (kind : ListKind)
  /-- An item of a counted list has another shape. -/
  | malformedItem (kind : ListKind)
  /-- A reason that a caller states. -/
  | stated (reason : String)
  deriving DecidableEq, Repr

/-- The reason as messages state it. -/
def Misuse.text : Misuse → String
  | defaultTooWide => "default value does not fit field"
  | defaultOnBytes => "array does not support default values"
  | wrongCount => "record has a different number of values than fields"
  | wrongKind => "field value does not match layout"
  | tooFewValues => "record has fewer values than fields"
  | badIndexWritten => "string has a bad index"
  | tooManyStrings => "too many strings"
  | structureTooLong => "structure too long"
  | addressTooWide => "table address exceeds 32 bits"
  | notAList kind => kind.plural ++ " must be a list"
  | malformedItem kind => kind.malformedItem
  | stated reason => reason

/-- Why an operation failed. -/
inductive Error where
  /-- The entry point starts with neither `_SM_` nor `_SM3_`. -/
  | unknownAnchor (found : List UInt8)
  /-- The declared length is not the one of the variant. -/
  | wrongLength (expected found : UInt8)
  /-- The bytes of the entry point do not add up to zero. -/
  | wrongChecksum (expected found : UInt8)
  /-- The intermediate area does not start with `_DMI_`. -/
  | unknownIntermediateAnchor (found : List UInt8)
  /-- The bytes of the intermediate area do not add up to zero. -/
  | wrongIntermediateChecksum (expected found : UInt8)
  /-- The input ended inside a part. -/
  | endOfData (part : Part) (offset : Nat)
  /-- A read reaches past the formatted section. -/
  | outOfRange (offset width length : Nat)
  /-- A string number past the list of strings. -/
  | badStringIndex (index : UInt8) (count : Nat)
  /-- A structure of another type. -/
  | unexpectedType (expected found : TypeCode)
  /-- A type without a decoder. -/
  | unsupportedType (type : TypeCode)
  /-- A list whose encoded form is not allowed. -/
  | invalidList (field reason : String)
  /-- A request that cannot be met. -/
  | misuse (reason : Misuse)
  /-- No structure of the type. -/
  | typeNotFound (type : TypeCode)
  /-- An entry of a type filter that is neither a keyword nor a number. -/
  | unknownFilter (entry : String)
  /-- A cause and the field it arose in. -/
  | inField (record field : String) (cause : Error)
  deriving DecidableEq, Repr

namespace Error

/-- The innermost cause. -/
def root : Error → Error
  | inField _ _ cause => cause.root
  | error => error

/-- Whether the input stopped short. -/
def isTruncation (error : Error) : Bool :=
  match error.root with
  | endOfData .. | outOfRange .. => true
  | _ => false

/-- The causes under an error, outside in. -/
def causes : Error → List Error
  | inField _ _ cause => cause :: cause.causes
  | _ => []

/-- The bytes of an anchor, with a dot for every byte that is no visible ASCII character. -/
def anchorText (bytes : List UInt8) : String :=
  String.ofList (bytes.map fun byte =>
    if 0x21 ≤ byte ∧ byte ≤ 0x7E then Char.ofNat byte.toNat else '.')

/-- A byte as messages compare it. -/
def byteText (byte : UInt8) : String :=
  "0x" ++ Hex.lower 2 byte.toNat

/-- The wording of an error. -/
def message : Error → String
  | unknownAnchor found => "invalid entry point anchor \"" ++ anchorText found ++ "\""
  | wrongLength expected found =>
    "entry point length is " ++ byteText found ++ ", expected " ++ byteText expected
  | wrongChecksum expected found =>
    "entry point checksum is " ++ byteText found ++ ", expected " ++ byteText expected
  | unknownIntermediateAnchor found => "invalid intermediate anchor \"" ++ anchorText found ++ "\""
  | wrongIntermediateChecksum expected found =>
    "intermediate checksum is " ++ byteText found ++ ", expected " ++ byteText expected
  | endOfData part offset =>
    "unexpected end of data in " ++ part.text ++ " at offset " ++ Hex.literal offset
  | outOfRange offset width length =>
    width.repr ++ "-byte read at offset " ++ Hex.literal offset ++ " is out of range (length " ++
      Hex.literal length ++ ")"
  | badStringIndex index count =>
    "bad string index " ++ index.toNat.repr ++ " (" ++ count.repr ++ " strings)"
  | unexpectedType expected found =>
    "unexpected table type " ++ found.code.toNat.repr ++ " (want " ++ expected.code.toNat.repr ++
      ")"
  | unsupportedType type => "unsupported table type " ++ type.code.toNat.repr
  | invalidList field reason => "invalid " ++ field ++ ": " ++ reason
  | misuse reason => "invalid argument: " ++ reason.text
  | typeNotFound type => "no table of type " ++ type.code.toNat.repr ++ " found"
  | unknownFilter entry => "invalid type: " ++ entry
  | inField record field cause =>
    "failed to parse " ++ record ++ "." ++ field ++ ": " ++ cause.message

@[simp] theorem root_inField (record field : String) (cause : Error) :
    (inField record field cause).root = cause.root := rfl

/-- A result that was evaluated, when its errors cannot be compared. -/
theorem eq_ok_of_toOption {α β : Type} {result : Except α β} {found : β}
    (same : result.toOption = some found) : result = .ok found := by
  cases result with
  | error error => cases same
  | ok other =>
    cases same
    rfl

/-- A step that succeeds has two halves that succeed. -/
theorem bind_eq_ok_iff {α β : Type} {first : Except Error α} {next : α → Except Error β}
    {last : β} :
    first >>= next = .ok last ↔ ∃ found, first = .ok found ∧ next found = .ok last := by
  cases first with
  | error error => simp [bind, Except.bind]
  | ok found => simp [bind, Except.bind]

/-- A step fails in its first half or in its second. -/
theorem bind_eq_error_iff {α β : Type} {first : Except Error α} {next : α → Except Error β}
    {error : Error} : first >>= next = .error error ↔
      first = .error error ∨ ∃ found, first = .ok found ∧ next found = .error error := by
  cases first with
  | error error => simp [bind, Except.bind]
  | ok found => simp [bind, Except.bind]

end Error

end Dmi
