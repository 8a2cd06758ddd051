/-
**Structures read back what they write, and nothing else.**

A string section ends itself, and its empty form of two zero bytes competes with an empty first
string. So not every list of strings has a section: `Strings.WellFormed` says which have one, and
`Structure.WellFormed` says which structures are read back. Main statements:

* `Strings.read_eq_ok_iff` — a section is read as `strings` exactly when it is the section of these
  strings, and they are well formed;
* `Structure.read_eq_ok_iff` — the same for a structure, with any bytes behind it.
-/

import Dmi.Table
import Dmi.Width

namespace Dmi

/-! ### String sections -/

namespace Strings

/-- Strings that have a string section of their own: no zero byte in any of them, none empty behind
the first, and not the empty string alone. -/
structure WellFormed (strings : List (List UInt8)) : Prop where
  noZero : ∀ string ∈ strings, 0 ∉ string
  nonempty : ∀ string ∈ strings.tail, string ≠ []
  notEmptyAlone : strings ≠ [[]]

/-- The bytes of a section that opens with the string `first`. -/
theorem bytes_cons (first : List UInt8) (later : List (List UInt8)) :
    bytes (first :: later) =
      first ++ 0 :: (later.flatMap (fun string => string ++ [0]) ++ [0]) := by
  simp [bytes]

theorem readFrom_cons {byte : UInt8} (notZero : byte ≠ 0) (run rest : List UInt8) :
    readFrom run (byte :: rest) = readFrom (byte :: run) rest := by
  rw [readFrom.eq_def]
  exact if_neg notZero

/-- Bytes other than zero join the string that is being read. -/
theorem readFrom_append {string : List UInt8} (noZero : 0 ∉ string) (run rest : List UInt8) :
    readFrom run (string ++ rest) = readFrom (string.reverse ++ run) rest := by
  induction string generalizing run with
  | nil => rfl
  | cons byte string ih =>
    have parts : byte ≠ 0 ∧ 0 ∉ string := by
      rw [List.mem_cons, not_or] at noZero
      exact ⟨Ne.symm noZero.1, noZero.2⟩
    rw [List.cons_append, readFrom_cons parts.1, ih parts.2, List.reverse_cons, List.append_assoc,
      List.singleton_append]

/-- **A section is read to its end**, whatever stands behind it. The string being read may have been
begun before. -/
theorem readFrom_section {first : List UInt8} {later : List (List UInt8)} (noZero : 0 ∉ first)
    (noZeros : ∀ string ∈ later, 0 ∉ string) (nonempty : ∀ string ∈ later, string ≠ [])
    (run behind : List UInt8) :
    readFrom run (first ++ 0 :: (later.flatMap (fun string => string ++ [0]) ++ 0 :: behind)) =
      .ok ((run.reverse ++ first) :: later, behind) := by
  induction later generalizing run first with
  | nil =>
    rw [readFrom_append noZero]
    simp [readFrom]
  | cons second later ih =>
    obtain ⟨byte, tail, rfl⟩ := List.exists_cons_of_ne_nil (nonempty second List.mem_cons_self)
    have noZeroHere : 0 ∉ byte :: tail := noZeros _ List.mem_cons_self
    have byteNotZero : byte ≠ 0 := fun zero => noZeroHere (zero ▸ List.mem_cons_self)
    have rest := ih noZeroHere (fun string member => noZeros string (List.mem_cons_of_mem _ member))
      (fun string member => nonempty string (List.mem_cons_of_mem _ member)) []
    rw [readFrom_append noZero, List.flatMap_cons]
    simp only [List.cons_append, List.append_assoc, List.nil_append, List.reverse_nil] at rest ⊢
    rw [readFrom, if_pos rfl]
    simp only [if_neg byteNotZero, rest]
    simp

/-- **What is read is a section.** The strings behind the first are not empty, because a zero byte
in their place would have ended the section. -/
theorem section_of_readFrom {run bytes behind : List UInt8} {strings : List (List UInt8)}
    (found : readFrom run bytes = .ok (strings, behind)) :
    ∃ first later, strings = (run.reverse ++ first) :: later ∧ 0 ∉ first ∧
      (∀ string ∈ later, 0 ∉ string ∧ string ≠ []) ∧
      bytes = first ++ 0 :: (later.flatMap (fun string => string ++ [0]) ++ 0 :: behind) := by
  induction bytes generalizing run strings with
  | nil => simp [readFrom] at found
  | cons byte rest ih =>
    by_cases zero : byte = 0
    · rw [readFrom.eq_def] at found
      simp only [if_pos zero] at found
      cases rest with
      | nil => simp at found
      | cons next after =>
        simp only at found
        by_cases last : next = 0
        · rw [if_pos last] at found
          cases found
          exact ⟨[], [], by simp, by simp, by simp, by simp [zero, last]⟩
        · rw [if_neg last] at found
          cases inner : readFrom [] (next :: after) with
          | error unread => simp [inner] at found
          | ok result =>
            obtain ⟨others, left⟩ := result
            simp only [inner, Except.ok.injEq, Prod.mk.injEq] at found
            obtain ⟨rfl, rfl⟩ := found
            obtain ⟨second, later, rfl, noZero, rest, split⟩ := ih inner
            have nonempty : second ≠ [] := by
              rintro rfl
              simp only [List.nil_append, List.cons.injEq] at split
              exact last split.1
            refine ⟨[], second :: later, by simp, by simp, ?_, by simp [zero, split]⟩
            intro string member
            rcases List.mem_cons.mp member with rfl | member
            · exact ⟨noZero, nonempty⟩
            · exact rest string member
    · rw [readFrom_cons zero] at found
      obtain ⟨first, later, rfl, noZero, rest, rfl⟩ := ih found
      refine ⟨byte :: first, later, by simp, ?_, rest, by simp⟩
      rw [List.mem_cons, not_or]
      exact ⟨Ne.symm zero, noZero⟩

theorem read_bytes {strings : List (List UInt8)} (wellFormed : WellFormed strings)
    (behind : List UInt8) : read (bytes strings ++ behind) = .ok (strings, behind) := by
  cases strings with
  | nil => rfl
  | cons first later =>
    have noZeros : ∀ string ∈ later, 0 ∉ string := fun string member =>
      wellFormed.noZero string (List.mem_cons_of_mem _ member)
    have whole := readFrom_section (wellFormed.noZero first List.mem_cons_self) noZeros
      wellFormed.nonempty [] behind
    rw [List.reverse_nil, List.nil_append] at whole
    rw [bytes_cons, List.append_assoc, List.cons_append, List.append_assoc, List.singleton_append]
    -- The section opens with two zero bytes only if it holds the empty string alone.
    rw [← whole, read.eq_3]
    · intro rest opening
      cases first with
      | cons byte tail =>
        have noZero := wellFormed.noZero (byte :: tail) List.mem_cons_self
        simp only [List.cons_append, List.cons.injEq] at opening
        exact noZero (opening.1 ▸ List.mem_cons_self)
      | nil =>
        cases later with
        | nil => exact wellFormed.notEmptyAlone rfl
        | cons second later =>
          obtain ⟨byte, tail, rfl⟩ :=
            List.exists_cons_of_ne_nil (wellFormed.nonempty second List.mem_cons_self)
          have noZero := noZeros (byte :: tail) List.mem_cons_self
          simp only [List.nil_append, List.flatMap_cons, List.cons_append,
            List.cons.injEq] at opening
          exact noZero (opening.2.1 ▸ List.mem_cons_self)
    · intro byte alone
      have sizes := congrArg List.length alone
      simp only [List.length_append, List.length_cons, List.length_nil] at sizes
      omega

theorem section_of_read {source behind : List UInt8} {strings : List (List UInt8)}
    (found : read source = .ok (strings, behind)) :
    WellFormed strings ∧ source = bytes strings ++ behind := by
  unfold read at found
  split at found
  · cases found
    exact ⟨⟨by simp, by simp, by simp⟩, rfl⟩
  · simp at found
  · rename_i notTwoZeros _
    obtain ⟨first, later, rfl, noZero, rest, rfl⟩ := section_of_readFrom found
    refine ⟨⟨?_, fun string member => (rest string member).2, ?_⟩, by simp [bytes_cons]⟩
    · intro string member
      rcases List.mem_cons.mp member with rfl | member
      · exact noZero
      · exact (rest string member).1
    · intro alone
      simp only [List.reverse_nil, List.nil_append, List.cons.injEq] at alone
      obtain ⟨rfl, rfl⟩ := alone
      exact notTwoZeros behind rfl

/-- **A string section is read exactly as it is written.** -/
theorem read_eq_ok_iff {source behind : List UInt8} {strings : List (List UInt8)} :
    read source = .ok (strings, behind) ↔ WellFormed strings ∧ source = bytes strings ++ behind :=
  ⟨section_of_read, fun ⟨wellFormed, same⟩ => same ▸ read_bytes wellFormed behind⟩

end Strings

/-! ### Headers -/

namespace Header

theorem ofBytes?_bytes (header : Header) (rest : List UInt8) :
    ofBytes? (header.bytes ++ rest) = some header := by
  have handle : UInt16.ofNat (LittleEndian.value (LittleEndian.digits 2 header.handle.toNat)) =
    header.handle :=
    @Width.number_value_digits .word header.handle
  show some (Header.mk _ _ (UInt16.ofNat (LittleEndian.value (LittleEndian.digits 2 _)))) =
    some header
  rw [handle]

theorem bytes_of_ofBytes? {source : List UInt8} {header : Header}
    (found : ofBytes? source = some header) : source = header.bytes ++ source.drop size := by
  obtain _ | ⟨type, _ | ⟨length, _ | ⟨low, _ | ⟨high, rest⟩⟩⟩⟩ := source <;>
    simp only [ofBytes?, reduceCtorEq, Option.some.injEq] at found
  subst found
  have digits : LittleEndian.digits 2 (UInt16.ofNat (LittleEndian.value [low, high])).toNat =
    [low, high] :=
    @Width.digits_number_value .word [low, high] rfl
  rw [bytes, digits]
  rfl

end Header

/-! ### Structures -/

namespace Structure

/-- A structure that has the formatted section which its header declares, and strings that have a
string section of their own. -/
structure WellFormed (s : Structure) : Prop where
  declared : s.body.size = s.header.length.toNat - Header.size
  strings : Strings.WellFormed s.body.strings

theorem read_bytes {s : Structure} (wellFormed : s.WellFormed) (behind : List UInt8) :
    read (s.bytes ++ behind) = .ok (s, behind) := by
  have size : s.body.formatted.length = s.header.formattedSize := wellFormed.declared
  have split : s.bytes ++ behind = s.header.bytes ++
      (s.body.formatted ++ (Strings.bytes s.body.strings ++ behind)) := by
    simp [bytes, List.append_assoc]
  rw [read, split, Header.ofBytes?_bytes]
  simp only
  rw [List.drop_left' (Header.length_bytes s.header), ← size, if_neg (by simp), List.drop_left,
    List.take_left, Strings.read_bytes wellFormed.strings]

theorem bytes_of_read {source behind : List UInt8} {s : Structure}
    (found : read source = .ok (s, behind)) : s.WellFormed ∧ source = s.bytes ++ behind := by
  unfold read at found
  split at found
  · cases found
  · rename_i header start
    have opening := Header.bytes_of_ofBytes? start
    simp only at found
    split at found
    · cases found
    · rename_i long
      split at found
      · cases found
      · rename_i strings left inner
        cases found
        obtain ⟨stringsWellFormed, rest⟩ := Strings.section_of_read inner
        have size : ((source.drop Header.size).take header.formattedSize).length =
            header.formattedSize := by
          rw [List.length_take]
          omega
        refine ⟨⟨size, stringsWellFormed⟩, ?_⟩
        rw [bytes, List.append_assoc, ← rest, List.append_assoc, List.take_append_drop]
        exact opening

/-- **A structure is read exactly as it is written.** -/
theorem read_eq_ok_iff {source behind : List UInt8} {s : Structure} :
    read source = .ok (s, behind) ↔ s.WellFormed ∧ source = s.bytes ++ behind :=
  ⟨bytes_of_read, fun ⟨wellFormed, same⟩ => same ▸ read_bytes wellFormed behind⟩

end Structure

end Dmi
