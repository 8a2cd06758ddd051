/-
**Type filters.**

A filter is a set of type codes; the empty set accepts every type. It is written as entries with
commas between them, each a keyword for a group of types or a number below 256, in decimal or behind
`0x` in hexadecimal. Blanks around an entry and the case of its ASCII letters do not matter. Main
statements:

* `contains_insert` and `contains_insertAll` — what a set holds after an insertion;
* `mem_codes` — the list of codes holds the members of the set.
-/

import Dmi.Error
import Dmi.Text.Blank
import Dmi.TypeCode

namespace Dmi

/-- A set of type codes, one bit for each. -/
structure TypeFilter where
  mask : BitVec 256
  deriving DecidableEq, Repr

namespace TypeFilter

/-- The set without members. -/
def empty : TypeFilter := ⟨0⟩

/-- Whether the set has no members. -/
def isEmpty (filter : TypeFilter) : Bool :=
  filter.mask == 0

/-- Whether the set has a member. -/
def contains (filter : TypeFilter) (type : TypeCode) : Bool :=
  filter.mask.getLsbD type.code.toNat

/-- The set with one more member. -/
def insert (filter : TypeFilter) (type : TypeCode) : TypeFilter :=
  ⟨filter.mask ||| BitVec.twoPow 256 type.code.toNat⟩

/-- The set with more members. -/
def insertAll (filter : TypeFilter) (types : List TypeCode) : TypeFilter :=
  types.foldl insert filter

/-- The members in ascending order. -/
def codes (filter : TypeFilter) : List TypeCode :=
  TypeCode.all.filter filter.contains

/-- Whether a structure of a type passes the filter. -/
def accepts (filter : TypeFilter) (type : TypeCode) : Bool :=
  filter.isEmpty || filter.contains type

@[simp] theorem contains_insert (filter : TypeFilter) (added type : TypeCode) :
    (filter.insert added).contains type = (filter.contains type || added == type) := by
  have bound : added.code.toNat < 256 := added.code.toNat_lt
  have same : decide (added.code.toNat = type.code.toNat) = (added == type) := by
    rw [Bool.eq_iff_iff, decide_eq_true_iff, beq_iff_eq, UInt8.toNat_inj, TypeCode.mk.injEq]
  simp [contains, insert, bound, same]

theorem contains_insertAll (filter : TypeFilter) (types : List TypeCode) (type : TypeCode) :
    (filter.insertAll types).contains type = (filter.contains type || types.contains type) := by
  induction types generalizing filter with
  | nil => simp [insertAll]
  | cons first rest ih =>
    have step : filter.insertAll (first :: rest) = (filter.insert first).insertAll rest := rfl
    rw [step, ih, contains_insert, List.contains_cons, Bool.or_assoc]
    congr 2
    exact Bool.beq_comm

/-- The listed codes are the members. -/
theorem mem_codes (filter : TypeFilter) (type : TypeCode) :
    type ∈ filter.codes ↔ filter.contains type := by
  simp [codes, TypeCode.mem_all]

/-! ### Reading a filter -/

/-- The groups of types that have a keyword. -/
def groups : List (String × List Nat) :=
  [("bios", [0, 13]), ("system", [1, 12, 15, 23, 32]), ("baseboard", [2, 10, 41]),
    ("chassis", [3]), ("processor", [4]), ("memory", [5, 6, 16, 17]), ("cache", [7]),
    ("connector", [8]), ("slot", [9])]

/-- The value of a digit. -/
def digit? (base : Nat) (c : Char) : Option Nat :=
  let value :=
    if '0' ≤ c ∧ c ≤ '9' then c.toNat - '0'.toNat
    else if 'a' ≤ c ∧ c ≤ 'z' then c.toNat - 'a'.toNat + 10
    else base
  if value < base then some value else none

/-- The value of digits, the first of them behind `high`. -/
def digits? (base high : Nat) : List Char → Option Nat
  | [] => some high
  | c :: rest =>
    match digit? base c with
    | some low => digits? base (high * base + low) rest
    | none => none

/-- The number of one or more digits, which may have a plus sign in front. -/
def number? (base : Nat) (text : List Char) : Option Nat :=
  let digits := match text with
    | '+' :: rest => rest
    | digits => digits
  if digits = [] then none else digits? base 0 digits

/-- The types of an entry. -/
def types? (entry : List Char) : Option (List TypeCode) :=
  let small := entry.map Char.toLower
  match groups.lookup (String.ofList small) with
  | some codes => some (codes.map fun code => ⟨UInt8.ofNat code⟩)
  | none =>
    let number := match small with
      | '0' :: 'x' :: digits => number? 16 digits
      | digits => number? 10 digits
    match number with
    | some code => if code < 256 then some [⟨UInt8.ofNat code⟩] else none
    | none => none

/-- The entries of an argument. -/
def entries (argument : String) : List (List Char) :=
  (argument.toList.splitOn ',').map Blank.trim

/-- Adds entries to a set; the first one that cannot be read is an error. -/
def addEntries (filter : TypeFilter) : List (List Char) → Except Error TypeFilter
  | [] => .ok filter
  | entry :: rest =>
    match types? entry with
    | some types => (filter.insertAll types).addEntries rest
    | none => .error (.unknownFilter (String.ofList entry))

/-- The filter of some arguments. -/
def parse (arguments : List String) : Except Error TypeFilter :=
  empty.addEntries (arguments.flatMap entries)

end TypeFilter

end Dmi
