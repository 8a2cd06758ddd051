/-
**The bytes of a structure in its text.**

The text of an undecoded structure has two lines of the header, a heading, and the bytes in rows.
Behind them stand the strings, which may hold line breaks, tabs and whatever looks like a row. A
reader that takes the lines behind the third, as long as they open with two tabs, finds the rows
nevertheless: the heading of the strings opens with one. Main statements:

* `Structure.flatten_rows`, `Structure.length_of_mem_dropLast_rows` — rows lose no byte, and are
  full except the last;
* `Structure.exists_lines_render` — the lines of the text, up to the heading of the strings;
* `Structure.rows?_render` — the rows are read from the text;
* `Structure.rows_lossless` — equal texts have equal headers and bytes.
-/

import Dmi.Proofs.Structure.RoundTrip
import Dmi.Structure.Render

namespace Dmi

/-! ### Digits and bytes -/

namespace Hex

/-- A digit in capital letters. -/
def digit (value : Nat) : Char :=
  (Nat.digitChar value).toUpper

/-- The number that a digit in capital letters stands for. -/
def digit? (c : Char) : Option Nat :=
  if '0' ≤ c ∧ c ≤ '9' then some (c.toNat - 48)
  else if 'A' ≤ c ∧ c ≤ 'F' then some (c.toNat - 55)
  else none

/-- The byte of two digits. -/
def byte? : List Char → Option UInt8
  | [high, low] => do return UInt8.ofNat (16 * (← digit? high) + (← digit? low))
  | _ => none

theorem digit?_digit : ∀ value < 16, digit? (digit value) = some value := by decide

/-- The characters of numbers in capital letters. -/
def capitals : List Char := "0123456789ABCDEF".toList

theorem digit_mem_capitals : ∀ value < 16, digit value ∈ capitals := by decide +kernel

theorem leftpad_digits : ∀ n < 256,
    List.leftpad 2 '0'
      ((Nat.toDigits 16 n).map Char.toUpper) = [digit (n / 16), digit (n % 16)] := by
  decide +kernel

/-- A byte is written with two digits. -/
theorem toList_upper_byte (byte : UInt8) :
    (upper 2 byte.toNat).toList = [digit (byte.toNat / 16), digit (byte.toNat % 16)] := by
  rw [upper, padded, String.toList_ofList, leftpad_digits _ byte.toNat_lt]

theorem byte?_upper (byte : UInt8) : byte? (upper 2 byte.toNat).toList = some byte := by
  have high := digit?_digit (byte.toNat / 16) (by have := byte.toNat_lt; omega)
  have low := digit?_digit (byte.toNat % 16) (Nat.mod_lt _ (by decide))
  rw [toList_upper_byte, byte?, high, low]
  show some (UInt8.ofNat (16 * (byte.toNat / 16) + byte.toNat % 16)) = some byte
  rw [Nat.div_add_mod, UInt8.ofNat_toNat]

/-- The digits of a number in base sixteen, by recursion on its upper part. -/
theorem exists_digitChar_of_mem {n : Nat} {c : Char} (member : c ∈ Nat.toDigits 16 n) :
    ∃ value < 16, c = Nat.digitChar value := by
  induction n using Nat.strongRecOn with
  | ind n ih =>
    rw [Nat.toDigits_eq_if (by decide)] at member
    split at member
    · rename_i small
      exact ⟨n, small, List.mem_singleton.mp member⟩
    · rcases List.mem_append.mp member with upper | last
      · exact ih (n / 16) (by omega) upper
      · exact ⟨n % 16, Nat.mod_lt _ (by decide), List.mem_singleton.mp last⟩

/-- A number in capital letters consists of digits. -/
theorem mem_capitals_of_upper {width n : Nat} {c : Char} (member : c ∈ (upper width n).toList) :
    c ∈ capitals := by
  rw [upper, padded, String.toList_ofList, List.leftpad, List.mem_append] at member
  rcases member with zero | figure
  · rw [List.eq_of_mem_replicate zero]
    decide
  · obtain ⟨small, listed, rfl⟩ := List.mem_map.mp figure
    obtain ⟨value, inside, rfl⟩ := exists_digitChar_of_mem listed
    exact digit_mem_capitals value inside

end Hex

/-! ### Lines without line breaks -/

theorem newline_not_mem_upper (width n : Nat) : '\n' ∉ (Hex.upper width n).toList :=
  fun member => absurd (Hex.mem_capitals_of_upper member) (by decide)

theorem newline_not_mem_toDigits (n : Nat) : '\n' ∉ Nat.toDigits 10 n :=
  fun member => absurd (Nat.isDigit_of_mem_toDigits (by decide) (by decide) member) (by decide)

theorem TypeCode.newline_not_mem_name (type : TypeCode) : '\n' ∉ type.name.toList := by
  have each : ∀ entry ∈ names, '\n' ∉ entry.2.toList := by decide
  unfold name
  split
  · rename_i name found
    obtain ⟨front, back, parts, _⟩ := List.lookup_eq_some_iff.mp found
    exact each (type, name) (parts ▸ List.mem_append_right _ List.mem_cons_self)
  · split <;> decide

namespace Header

-- The lines are opened by `delta`: the equations that `simp` asks for take seconds where a
-- definition holds texts.

/-- The first line of a header. -/
def firstLine (header : Header) : String :=
  "Handle 0x" ++ Hex.upper 4 header.handle.toNat ++ ", DMI type " ++ header.type.code.toNat.repr ++
    ", " ++ header.length.toNat.repr ++ " bytes"

theorem newline_not_mem_firstLine (header : Header) : '\n' ∉ header.firstLine.toList := by
  delta firstLine
  simp only [String.toList_append, List.mem_append, Nat.toList_repr, not_or]
  exact ⟨⟨⟨⟨⟨⟨by decide, newline_not_mem_upper _ _⟩, by decide⟩,
    newline_not_mem_toDigits _⟩, by decide⟩, newline_not_mem_toDigits _⟩, by decide⟩

/-- A header has two lines. -/
theorem toList_render (header : Header) :
    header.render.toList = header.firstLine.toList ++ '\n' :: header.type.name.toList := by
  have ending : " bytes\n".toList = " bytes".toList ++ ['\n'] := by decide
  delta render firstLine
  simp only [String.toList_append, ending, List.append_assoc, List.singleton_append]

end Header

namespace Structure

/-! ### Rows -/

theorem rows_nil : rows [] = [] := by
  rw [rows, if_pos rfl]

theorem rows_of_ne_nil {bytes : List UInt8} (some_ : bytes ≠ []) :
    rows bytes = bytes.take rowSize :: rows (bytes.drop rowSize) := by
  rw [rows, if_neg some_]

/-- **Rows lose no byte**, and add none. -/
theorem flatten_rows (bytes : List UInt8) : (rows bytes).flatten = bytes := by
  fun_induction rows bytes with
  | case1 => rfl
  | case2 bytes some_ ih => rw [List.flatten_cons, ih, List.take_append_drop]

theorem ne_nil_of_mem_rows {bytes row : List UInt8} (member : row ∈ rows bytes) : row ≠ [] := by
  fun_induction rows bytes with
  | case1 => cases member
  | case2 bytes some_ ih =>
    rcases List.mem_cons.mp member with rfl | member
    · exact fun none_ => (List.take_eq_nil_iff.mp none_).elim (by decide) some_
    · exact ih member

theorem length_le_of_mem_rows {bytes row : List UInt8} (member : row ∈ rows bytes) :
    row.length ≤ rowSize := by
  fun_induction rows bytes with
  | case1 => cases member
  | case2 bytes some_ ih =>
    rcases List.mem_cons.mp member with rfl | member
    · exact List.length_take_le _ _
    · exact ih member

/-- **Every row but the last is full**: the bytes go on behind it. -/
theorem length_of_mem_dropLast_rows {bytes row : List UInt8}
    (member : row ∈ (rows bytes).dropLast) : row.length = rowSize := by
  fun_induction rows bytes with
  | case1 => cases member
  | case2 bytes some_ ih =>
    by_cases last : bytes.drop rowSize = []
    · rw [last, rows_nil] at member
      cases member
    · rw [rows_of_ne_nil last, List.dropLast_cons_cons, ← rows_of_ne_nil last,
        List.mem_cons] at member
      rcases member with rfl | member
      · rw [List.drop_eq_nil_iff] at last
        rw [List.length_take]
        omega
      · exact ih member

/-! ### Reading the text -/

/-- The bytes of a row: its words are two digits each. -/
def readRow? (row : List Char) : Option (List UInt8) :=
  (row.splitOn ' ').mapM Hex.byte?

/-- The rows of a text: the lines behind the third, as long as they open with two tabs. -/
def rows? (text : String) : Option (List (List UInt8)) :=
  (((text.toList.splitOn '\n').drop 3).takeWhile (['\t', '\t'].isPrefixOf ·)).mapM
    fun line => readRow? (line.drop 2)

theorem mapM_map_eq_some {α β : Type} {write : α → β} {read : β → Option α} {items : List α}
    (inverse : ∀ item ∈ items, read (write item) = some item) :
    (items.map write).mapM read = some items := by
  induction items with
  | nil => rfl
  | cons item items ih =>
    rw [List.map_cons, List.mapM_cons, inverse item List.mem_cons_self,
      ih fun other member => inverse other (List.mem_cons_of_mem _ member)]
    rfl

theorem toList_renderRow (row : List UInt8) :
    (renderRow row).toList = [' '].intercalate
      (row.map fun byte => (Hex.upper 2 byte.toNat).toList) := by
  rw [renderRow, String.toList_intercalate, List.map_map]
  rfl

/-- **A row is read back.** -/
theorem readRow?_renderRow {row : List UInt8} (some_ : row ≠ []) :
    readRow? (renderRow row).toList = some row := by
  have words : ∀ word ∈ row.map (fun byte => (Hex.upper 2 byte.toNat).toList), ' ' ∉ word := by
    intro word member
    obtain ⟨byte, _, rfl⟩ := List.mem_map.mp member
    exact fun blank => absurd (Hex.mem_capitals_of_upper blank) (by decide)
  rw [readRow?, toList_renderRow, List.splitOn_intercalate ' ' words (by simpa using some_)]
  exact mapM_map_eq_some fun byte _ => Hex.byte?_upper byte

theorem newline_not_mem_renderRow (row : List UInt8) : '\n' ∉ (renderRow row).toList := by
  rw [toList_renderRow]
  induction row with
  | nil => exact List.not_mem_nil
  | cons byte row ih =>
    cases row with
    | nil => simpa using newline_not_mem_upper 2 byte.toNat
    | cons next row =>
      rw [List.map_cons] at ih
      rw [List.map_cons, List.map_cons, List.intercalate_cons_cons]
      simp only [List.mem_append, not_or]
      exact ⟨⟨newline_not_mem_upper 2 byte.toNat, by decide⟩, ih⟩

/-! ### The lines of the text -/

/-- The lines up to the strings. -/
def dumpLines (s : Structure) : List (List Char) :=
  s.header.firstLine.toList :: s.header.type.name.toList :: "\tHeader and Data:".toList ::
    (rows (s.header.bytes ++ s.body.formatted)).map
      fun row => ['\t', '\t'] ++ (renderRow row).toList

theorem newline_not_mem_dumpLines (s : Structure) : ∀ line ∈ s.dumpLines, '\n' ∉ line := by
  refine List.forall_mem_cons.mpr ⟨s.header.newline_not_mem_firstLine, ?_⟩
  refine List.forall_mem_cons.mpr ⟨s.header.type.newline_not_mem_name, ?_⟩
  refine List.forall_mem_cons.mpr ⟨by decide, fun line member => ?_⟩
  obtain ⟨row, _, rfl⟩ := List.mem_map.mp member
  simpa using newline_not_mem_renderRow row

theorem intercalate_cons {mark : Char} (line : List Char) (lines : List (List Char)) :
    [mark].intercalate (line :: lines) = line ++ lines.flatMap (mark :: ·) := by
  induction lines generalizing line with
  | nil => simp
  | cons next lines ih => rw [List.intercalate_cons_cons, ih, List.flatMap_cons]; simp

/-- The text is its lines, and behind them the strings under their heading if there are any. -/
theorem toList_render (s : Structure) :
    s.render.toList = ['\n'].intercalate s.dumpLines ++
      if s.body.strings = [] then []
      else '\n' :: "\tStrings:".toList ++
        s.body.strings.flatMap fun string => "\n\t\t".toList ++ (Utf8.decode string).toList := by
  rw [dumpLines, intercalate_cons]
  unfold render
  split <;> simp [Header.toList_render, String.toList_join, List.flatMap_map]

/-- **The lines of the text**: behind those of the bytes comes the heading of the strings or
nothing. -/
theorem exists_lines_render (s : Structure) : ∃ behind,
    s.render.toList.splitOn '\n' = s.dumpLines ++ behind ∧
      ∀ line ∈ behind.head?, line = "\tStrings:".toList := by
  have some_ : s.dumpLines ≠ [] := List.cons_ne_nil _ _
  have lines := List.splitOn_intercalate '\n' s.newline_not_mem_dumpLines some_
  rw [toList_render]
  cases s.body.strings with
  | nil => exact ⟨[], by simp [lines], by simp⟩
  | cons string strings =>
    have heading : ∃ rest, (if string :: strings = [] then []
        else '\n' :: "\tStrings:".toList ++
          (string :: strings).flatMap
            fun string => "\n\t\t".toList ++ (Utf8.decode string).toList) =
        '\n' :: ("\tStrings:".toList ++ '\n' :: rest) := ⟨_, rfl⟩
    obtain ⟨rest, text⟩ := heading
    refine ⟨"\tStrings:".toList :: rest.splitOn '\n', ?_, ?_⟩
    · rw [text, List.splitOn_append_cons_self, lines,
        List.splitOn_append_cons_self_of_not_mem (by decide)]
    · rintro line ⟨⟩
      rfl

/-- **The rows are read from the text**, whatever the strings hold. -/
theorem rows?_render (s : Structure) :
    rows? s.render = some (rows (s.header.bytes ++ s.body.formatted)) := by
  obtain ⟨behind, lines, heading⟩ := s.exists_lines_render
  have isRow : ∀ line ∈ (rows (s.header.bytes ++ s.body.formatted)).map
      (fun row => ['\t', '\t'] ++ (renderRow row).toList), ['\t', '\t'].isPrefixOf line := by
    intro line member
    obtain ⟨row, _, rfl⟩ := List.mem_map.mp member
    rfl
  have ends : behind.takeWhile (['\t', '\t'].isPrefixOf ·) = [] := by
    cases behind with
    | nil => rfl
    | cons line rest =>
      rw [heading line rfl]
      rfl
  rw [rows?, lines, dumpLines, List.cons_append, List.cons_append, List.cons_append]
  show (List.takeWhile _ (List.map _ _ ++ behind)).mapM _ = _
  rw [List.takeWhile_append_of_pos isRow, ends, List.append_nil]
  refine mapM_map_eq_some fun row member => ?_
  exact readRow?_renderRow (ne_nil_of_mem_rows member)

/-- **The dump of bytes is lossless.** From the text of a structure the rows are read again,
whatever its strings hold and whatever length its header declares. They are the bytes of the header
and those of the formatted section in order, sixteen in each row but the last. So structures with
the same text have the same header and the same formatted section. -/
theorem rows_lossless :
    (∀ s : Structure,
      ∃ rows, rows? s.render = some rows ∧ rows.flatten = s.header.bytes ++ s.body.formatted ∧
      (∀ row ∈ rows.dropLast, row.length = 16) ∧ ∀ row ∈ rows, 0 < row.length ∧ row.length ≤ 16) ∧
    ∀ s other : Structure, s.render = other.render →
      s.header = other.header ∧ s.body.formatted = other.body.formatted := by
  constructor
  · intro s
    refine ⟨_, rows?_render s, flatten_rows _,
      fun _ => length_of_mem_dropLast_rows, fun row member => ?_⟩
    exact ⟨List.length_pos_iff.mpr (ne_nil_of_mem_rows member), length_le_of_mem_rows member⟩
  · intro s other same
    have rows : rows (s.header.bytes ++ s.body.formatted) =
      rows (other.header.bytes ++ other.body.formatted) := by
      have read := rows?_render s
      rw [same, rows?_render other] at read
      exact (Option.some.inj read).symm
    have bytes := congrArg List.flatten rows
    rw [flatten_rows, flatten_rows] at bytes
    have headers := congrArg Header.ofBytes? bytes
    rw [Header.ofBytes?_bytes, Header.ofBytes?_bytes] at headers
    have header : s.header = other.header := Option.some.inj headers
    rw [header] at bytes
    exact ⟨header, List.append_cancel_left bytes⟩

/-- A vendor's structure with a declared length of its own and two strings. -/
def twoStrings : Structure where
  header := ⟨⟨200⟩, 9, 0x1234⟩
  body := { formatted := [0xAB], strings := [[0x37, 0x46, 0x20, 0x30, 0x34], [0x30, 0x31]] }

/-- The same structure with one string, which holds a line break and two tabs. -/
def oneString : Structure :=
  { twoStrings with body := {
      formatted := [0xAB],
        strings := [[0x37, 0x46, 0x20, 0x30, 0x34, 0x0A, 0x09, 0x09, 0x30, 0x31]] } }

/-- Both structures have the same text, although their strings look like rows and are not the
same. -/
theorem rows_lossless_imitated :
    twoStrings.render = oneString.render ∧ twoStrings.body.strings ≠ oneString.body.strings ∧
      twoStrings.header = oneString.header ∧ twoStrings.body.formatted = oneString.body.formatted ∧
      ∃ rows, rows? twoStrings.render = some rows ∧ rows.flatten = [200, 9, 0x34, 0x12, 0xAB] := by
  have strings :
    String.join (twoStrings.body.strings.map fun string => "\n\t\t" ++ Utf8.decode string) =
      String.join (oneString.body.strings.map
        fun string => "\n\t\t" ++ Utf8.decode string) := by decide +kernel
  have same : twoStrings.render = oneString.render := by
    rw [render, render, strings]
    rfl
  obtain ⟨reads, equal⟩ := rows_lossless
  obtain ⟨rows, read, flat, _⟩ := reads twoStrings
  exact ⟨same, by decide, (equal _ _ same).1, (equal _ _ same).2, rows, read, flat⟩

end Structure

end Dmi
