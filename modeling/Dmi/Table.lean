/-
**The structure table.**

A table is a run of structures with nothing between them. `Table.scan` splits bytes into structures
and says after each how far it has read; it stops at the first bytes that are no structure.
`Table.parse` accepts only bytes that are structures throughout. A `Reader` reads one structure at a
time. Main statement:

* `length_lt_of_read` — reading a structure consumes bytes, so that every scan ends.
-/

import Dmi.Error
import Dmi.Structure.Encode

namespace Dmi

/-- Where a structure could not be read any further. -/
structure Shortfall where
  /-- The part that the bytes end in. -/
  part : Part
  /-- The number of bytes that stayed unread. -/
  unread : Nat
  deriving DecidableEq, Repr

/-- Reads the structure that the bytes start with, and gives it with the bytes behind it. -/
def Structure.read (bytes : List UInt8) : Except Shortfall (Structure × List UInt8) :=
  match Header.ofBytes? bytes with
  | none => .error ⟨.header, bytes.length⟩
  | some header =>
    let rest := bytes.drop Header.size
    if rest.length < header.formattedSize then .error ⟨.formatted, rest.length⟩
    else
      match Strings.read (rest.drop header.formattedSize) with
      | .error unread => .error ⟨.strings, unread⟩
      | .ok (strings, behind) => .ok (⟨header, ⟨rest.take header.formattedSize, strings⟩⟩, behind)

/-! ### Reading consumes bytes -/

theorem Strings.length_le_of_readFrom {run bytes behind : List UInt8} {strings : List (List UInt8)}
    (read : readFrom run bytes = .ok (strings, behind)) : behind.length ≤ bytes.length := by
  induction bytes generalizing run strings behind with
  | nil => simp [readFrom] at read
  | cons byte rest ih =>
    unfold readFrom at read
    split at read
    · cases rest with
      | nil => simp at read
      | cons next after =>
        simp only at read
        split at read
        · simp only [Except.ok.injEq, Prod.mk.injEq] at read
          simp [← read.2]
          omega
        · split at read
          · rename_i inner
            simp only [Except.ok.injEq, Prod.mk.injEq] at read
            have bound := ih inner
            simp only [List.length_cons, read.2] at *
            omega
          · simp at read
    · have bound := ih read
      simp only [List.length_cons]
      omega

theorem Strings.length_le_of_read {bytes behind : List UInt8} {strings : List (List UInt8)}
    (found : read bytes = .ok (strings, behind)) : behind.length ≤ bytes.length := by
  unfold read at found
  split at found
  · simp only [Except.ok.injEq, Prod.mk.injEq] at found
    simp only [List.length_cons, found.2]
    omega
  · simp at found
  · exact length_le_of_readFrom found

/-- Behind a structure there are fewer bytes than before it. -/
theorem Structure.length_lt_of_read {bytes behind : List UInt8} {s : Structure}
    (found : read bytes = .ok (s, behind)) : behind.length < bytes.length := by
  unfold read at found
  split at found
  · cases found
  · rename_i header start
    have positive : 0 < bytes.length := by
      cases bytes with
      | nil => simp [Header.ofBytes?] at start
      | cons _ _ => simp
    simp only at found
    split at found
    · cases found
    · split at found
      · cases found
      · rename_i strings rest inner
        have bound := Strings.length_le_of_read inner
        simp only [Except.ok.injEq, Prod.mk.injEq] at found
        simp only [List.length_drop, Header.size, found.2] at *
        omega

/-! ### Splitting a table -/

/-- A table: its structures in stream order. -/
abbrev Table := List Structure

namespace Table

/-- What one step of a scan yields, and how many bytes have been read after it. -/
structure Step where
  offset : Nat
  item : Except Error Structure

/-- The steps of a scan of a table of `total` bytes, from where only `bytes` are left. -/
def scanFrom (total : Nat) (bytes : List UInt8) : List Step :=
  if bytes = [] then []
  else
    match _found : Structure.read bytes with
    | .ok (s, behind) => ⟨total - behind.length, .ok s⟩ :: scanFrom total behind
    | .error short => [⟨total - short.unread, .error (.endOfData short.part total)⟩]
  termination_by bytes.length
  decreasing_by exact Structure.length_lt_of_read _found

/-- The steps of a scan: the structures, and at most one error behind them. -/
def scan (bytes : List UInt8) : List Step :=
  scanFrom bytes.length bytes

/-- The structures of a table, or the error that ends its scan. -/
def parse (bytes : List UInt8) : Except Error Table :=
  (scan bytes).mapM Step.item

/-- The bytes of a table. -/
def bytes (table : Table) : List UInt8 :=
  table.flatMap Structure.bytes

/-- The structures of a type. -/
def ofType (table : Table) (type : TypeCode) : List Structure :=
  table.filter fun s => s.type == type

/-- The first structure of a type. -/
def first? (table : Table) (type : TypeCode) : Option Structure :=
  table.find? fun s => s.type == type

end Table

/-! ### Reading one structure at a time -/

/-- A table that is read one structure at a time. -/
structure Reader where
  source : List UInt8
  /-- The offset of the next byte to be read. -/
  offset : Nat
  /-- The reader has given an error. -/
  done : Bool
  deriving DecidableEq, Repr

namespace Reader

/-- A reader that has not begun. -/
def start (source : List UInt8) : Reader := ⟨source, 0, false⟩

/-- The bytes that are left. -/
def left (reader : Reader) : List UInt8 :=
  reader.source.drop reader.offset

/-- One call: the next structure, an error, or nothing any more; and the reader after it. -/
def next (reader : Reader) : Option (Except Error Structure) × Reader :=
  if reader.done ∨ reader.source.length ≤ reader.offset then (none, reader)
  else
    match Structure.read reader.left with
    | .ok (s, behind) =>
        (some (.ok s), { reader with offset := reader.source.length - behind.length })
    | .error short =>
      (some (.error (.endOfData short.part reader.source.length)),
        { reader with offset := reader.source.length - short.unread, done := true })

/-- The reader after some calls. -/
def after (reader : Reader) : (calls : Nat) → Reader
  | 0 => reader
  | calls + 1 => (reader.after calls).next.2

end Reader

end Dmi
