/-
**What is written stays written.**

A draft only appends: bytes to the formatted section, and strings to the list. So whatever is put
down in a body is found again in every body that it grows to. Main statements:

* `Body.bytes_of_growsTo`, `Body.number_of_growsTo` — what was appended is read back from its
  offset;
* `Draft.text_eq_ok`, `Draft.stringAt_of_text` — a text has become a number whose string is the
  text.
-/

import Dmi.Body.Write
import Dmi.Proofs.Text.Utf8

namespace Dmi

/-- The text as a structure can hold it: the empty text is none at all. -/
def Text.settled : Text → Text
  | .value text => ofString text
  | text => text

namespace Body

/-- The later body has more bytes and strings behind those of the earlier one. -/
structure GrowsTo (body later : Body) : Prop where
  formatted : body.formatted <+: later.formatted
  strings : body.strings <+: later.strings

variable {body later final : Body}

@[simp] theorem size_append (body : Body) (bytes : List UInt8) :
    (body.append bytes).size = body.size + bytes.length :=
  List.length_append

theorem append_append (body : Body) (first second : List UInt8) :
    (body.append first).append second = body.append (first ++ second) := by
  rw [append, append, append, List.append_assoc]

theorem GrowsTo.refl (body : Body) : body.GrowsTo body :=
  ⟨List.prefix_refl _, List.prefix_refl _⟩

theorem GrowsTo.trans (first : body.GrowsTo later) (second : later.GrowsTo final) :
    body.GrowsTo final :=
  ⟨first.formatted.trans second.formatted, first.strings.trans second.strings⟩

theorem GrowsTo.size_le (grown : body.GrowsTo later) : body.size ≤ later.size :=
  grown.formatted.length_le

theorem growsTo_append (body : Body) (bytes : List UInt8) : body.GrowsTo (body.append bytes) :=
  ⟨List.prefix_append _ _, List.prefix_refl _⟩

theorem growsTo_intern (body : Body) (string : List UInt8) : body.GrowsTo (body.intern string) := by
  unfold intern
  split
  · exact GrowsTo.refl body
  · exact ⟨List.prefix_refl _, List.prefix_append _ _⟩

theorem formatted_intern (body : Body) (string : List UInt8) :
    (body.intern string).formatted = body.formatted := by
  unfold intern
  split <;> rfl

theorem length_intern_le (body : Body) (string : List UInt8) :
    (body.intern string).strings.length ≤ body.strings.length + 1 := by
  unfold intern
  split
  · exact Nat.le_succ body.strings.length
  · exact Nat.le_of_eq List.length_append

theorem mem_strings_intern_iff {string added : List UInt8} :
    string ∈ (body.intern added).strings ↔ string ∈ body.strings ∨ string = added := by
  unfold intern
  split
  · rename_i there
    constructor
    · exact .inl
    · rintro (old | rfl)
      · exact old
      · exact there
  · rw [List.mem_append, List.mem_singleton]

/-! ### Reading back -/

/-- **Bytes are read back from where they were appended.** -/
theorem bytes_of_growsTo {bytes : List UInt8} (grown : (body.append bytes).GrowsTo final) :
    final.bytes body.size bytes.length = .ok bytes := by
  obtain ⟨behind, same⟩ := grown.formatted
  have split : final.formatted = body.formatted ++ (bytes ++ behind) := by
    rw [← same, append, List.append_assoc]
  have inside : body.size + bytes.length ≤ final.size := by
    rw [← size_append]
    exact grown.size_le
  rw [Body.bytes, if_pos inside, split, size, List.drop_left, List.take_left]

theorem number_of_growsTo {width : Width} {n : width.Number}
    (grown : (body.append (LittleEndian.digits width.size (Width.toNat n))).GrowsTo final) :
    final.number width body.size = .ok n := by
  have read := bytes_of_growsTo grown
  rw [LittleEndian.length_digits] at read
  rw [number, read]
  simp only
  rw [Width.number_value_digits]

theorem byte_of_growsTo {n : UInt8} (grown : (body.append [n]).GrowsTo final) :
    final.byte body.size = .ok n := by
  rw [← Width.digits_byte n] at grown
  exact number_of_growsTo grown

/-- A string of the list is found by its place, counted from 1. -/
theorem string_of_growsTo {string : List UInt8} (member : string ∈ body.strings)
    (grown : body.strings <+: final.strings) (fits : body.strings.idxOf string + 1 < 256) :
    final.string (UInt8.ofNat (body.strings.idxOf string + 1)) =
      .ok (.value (Utf8.decode string)) := by
  have place : (UInt8.ofNat (body.strings.idxOf string + 1)).toNat =
    body.strings.idxOf string + 1 := by
    rw [UInt8.toNat_ofNat', Nat.mod_eq_of_lt fits]
  have notZero : UInt8.ofNat (body.strings.idxOf string + 1) ≠ 0 := by
    intro zero
    rw [zero] at place
    exact absurd place (by simp)
  have inside : body.strings.idxOf string < body.strings.length :=
    List.idxOf_lt_length_iff.mpr member
  have found : final.strings[body.strings.idxOf string]? = some string := by
    obtain ⟨behind, same⟩ := grown
    rw [← same, List.getElem?_append_left inside, List.getElem?_eq_getElem inside,
      List.getElem_idxOf]
  rw [Body.string, if_neg notZero, place, Nat.add_sub_cancel, found]

/-- A body that becomes a structure is its body, and has room in the length byte. -/
theorem eq_of_seal {type : TypeCode} {handle : UInt16} {s : Structure}
    (sealed : body.seal type handle = .ok s) :
    body.size + Header.size < 256 ∧
      s = ⟨⟨type, UInt8.ofNat (body.size + Header.size), handle⟩, body⟩ := by
  rw [Body.seal] at sealed
  by_cases long : Structure.maxSize < body.size + Header.size
  · rw [if_pos long] at sealed
    cases sealed
  · rw [if_neg long] at sealed
    cases sealed
    exact ⟨Nat.lt_succ_of_le (Nat.le_of_not_lt long), rfl⟩

/-- The length byte counts header and formatted section. -/
theorem length_of_seal {type : TypeCode} {handle : UInt16} {s : Structure}
    (sealed : body.seal type handle = .ok s) :
    s.header.length.toNat = Header.size + s.body.size := by
  obtain ⟨fits, rfl⟩ := eq_of_seal sealed
  show (UInt8.ofNat (body.size + Header.size)).toNat = Header.size + body.size
  rw [UInt8.toNat_ofNat', Nat.mod_eq_of_lt fits, Nat.add_comm]

/-- A body that has no room in the length byte is refused. -/
theorem seal_of_long (long : 251 < body.size) (type : TypeCode) (handle : UInt16) :
    body.seal type handle = .error (.misuse .structureTooLong) := by
  have long : Structure.maxSize < body.size + Header.size := Nat.add_lt_add_right long Header.size
  rw [Body.seal, if_pos long]

end Body

/-! ### Drafts that succeed -/

namespace Draft

variable {α β : Type} {body later : Body}

/-- Two drafts succeed one after the other. -/
theorem bind_eq_ok_iff {first : Draft α} {next : α → Draft β} {found : β} :
    (first >>= next) body = .ok found later ↔
      ∃ value middle, first body = .ok value middle ∧ next value middle = .ok found later := by
  show EStateM.bind first next body = _ ↔ _
  unfold EStateM.bind
  cases first body with
  | error error middle => simp
  | ok value middle =>
    constructor
    · intro rest
      exact ⟨value, middle, rfl, rest⟩
    · rintro ⟨_, _, same, rest⟩
      cases same
      exact rest

/-- **A text becomes a number that stands for it.** The strings grow before the number is
appended. -/
theorem text_eq_ok {text : Text} (written : Draft.text text body = .ok () later) :
    ∃ (interned : Body) (index : UInt8), body.GrowsTo interned ∧ interned.size = body.size ∧
      later = interned.append [index] ∧
      ∀ final : Body, interned.strings <+: final.strings →
        final.string index = .ok text.settled := by
  cases text with
  | notSpecified =>
    cases written
    exact ⟨body, 0, .refl body, rfl, rfl, fun _ _ => rfl⟩
  | badIndex index => cases written
  | value text =>
    by_cases empty : text = ""
    · subst empty
      cases written
      exact ⟨body, 0, .refl body, rfl, rfl, fun _ _ => rfl⟩
    · rw [Draft.text, if_neg empty, Draft.string] at written
      by_cases fits : (body.intern (Utf8.encode text)).strings.idxOf (Utf8.encode text) + 1 < 256
      · rw [if_pos fits] at written
        cases written
        refine ⟨body.intern (Utf8.encode text), _, Body.growsTo_intern body _, ?_, rfl, ?_⟩
        · rw [Body.size, Body.formatted_intern, Body.size]
        · intro final grown
          rw [Body.string_of_growsTo (Body.mem_strings_intern_iff.mpr (.inr rfl)) grown fits,
            Utf8.decode_encode, Text.settled, Text.ofString, if_neg empty]
      · rw [if_neg fits] at written
        cases written

/-- **A text is read back** from where its number was put down. -/
theorem stringAt_of_text {text : Text} {final : Body}
    (written : Draft.text text body = .ok () later)
    (grown : later.GrowsTo final) : final.stringAt body.size = .ok text.settled := by
  obtain ⟨interned, index, _, size, rfl, string⟩ := text_eq_ok written
  have byte := Body.byte_of_growsTo grown
  rw [size] at byte
  rw [Body.stringAt, byte]
  exact string final ((Body.growsTo_append interned [index]).trans grown).strings

end Draft

end Dmi
