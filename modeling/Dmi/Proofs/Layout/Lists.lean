/-
**Counted lists are read and written without loss.**

A list is read exactly if the bytes that its count asks for are in the section, unless it is one of
contained elements that gives its items another size than three. Then it is written again with the
bytes it was read from, but for the size of no elements. And each list that the count has room for
is read back from wherever its bytes are put. Main statements:

* `ListKind.exists_read_iff` — when a list is read;
* `ListKind.exists_run` — a list has one run of bytes, from which it is read back in any
  surroundings;
* `ListKind.lossless` — reading and writing, for all three kinds of lists.
-/

import Dmi.Proofs.Layout.Addresses
import Dmi.Proofs.Layout.Flaw
import Dmi.Proofs.Layout.Typed
import Dmi.Proofs.Layout.Verbatim

namespace Dmi

namespace Body

variable {body : Body} {offset : Nat}

theorem exists_number (width : Width) (inside : offset + width.size ≤ body.size) :
    ∃ n, body.number width offset = .ok n := by
  obtain ⟨run, read⟩ := (bytes_eq_ok_iff body offset width.size).mpr inside
  exact ⟨width.number (LittleEndian.value run), by rw [number, read]⟩

theorem exists_byte (inside : offset < body.size) : ∃ n, body.byte offset = .ok n :=
  exists_number .byte inside

/-- A byte is read from where it is. -/
theorem byte_eq_ok_iff {n : UInt8} :
    body.byte offset = .ok n ↔ body.formatted[offset]? = some n := by
  have known {m : UInt8} (read : body.byte offset = .ok m) : body.formatted[offset]? = some m :=
    getElem?_of_bytes (bytes_of_byte read) Nat.one_pos
  constructor
  · exact known
  · intro found
    obtain ⟨inside, _⟩ := List.getElem?_eq_some_iff.mp found
    obtain ⟨m, read⟩ := exists_byte inside
    obtain rfl : m = n := Option.some.inj ((known read).symm.trans found)
    exact read

end Body

namespace ListKind

variable {kind : ListKind} {body : Body} {offset count consumed : Nat} {items : List Value}
  {value : Value} {error : Error}

/-! ### When a list is read -/

/-- The section has all the bytes that the count of the list asks for. -/
def HasRoom (kind : ListKind) (body : Body) (offset : Nat) : Prop :=
  ∃ count, body.formatted[offset]? = some count ∧
    offset + kind.openingSize + count.toNat * kind.itemSize ≤ body.size

/-- The list is one of contained elements, and says that they have another size than three. Without
elements, the size may be zero as well. -/
def OtherSize (kind : ListKind) (body : Body) (offset : Nat) : Prop :=
  kind = elements ∧
    ∃ count size, body.formatted[offset]? = some count ∧ body.formatted[offset + 1]? = some size ∧
    ¬(count = 0 ∧ size = 0) ∧ size ≠ 3

theorem exists_readItem (inside : offset + kind.itemSize ≤ body.size) :
    ∃ item, kind.readItem body offset = .ok item := by
  cases kind with
  | handles =>
    obtain ⟨handle, here⟩ := Body.exists_number .word inside
    exact ⟨_, Error.bind_eq_ok_iff.mpr ⟨handle, here, rfl⟩⟩
  | elements =>
    obtain ⟨run, here⟩ := (Body.bytes_eq_ok_iff body offset 3).mpr inside
    exact ⟨_, Error.bind_eq_ok_iff.mpr ⟨run, here, rfl⟩⟩
  | peers =>
    have reach (count : Nat) (few : count ≤ peers.itemSize) : offset + count ≤ body.size :=
      Nat.le_trans (Nat.add_le_add_left few offset) inside
    obtain ⟨segment, first⟩ := Body.exists_number .word (reach 2 (by decide))
    obtain ⟨bus, second⟩ := Body.exists_byte (reach 3 (by decide))
    obtain ⟨function, third⟩ := Body.exists_byte (reach 4 (by decide))
    obtain ⟨width, fourth⟩ := Body.exists_byte (reach 5 (by decide))
    refine ⟨.record [.word segment, .byte bus, .byte function, .byte width], ?_⟩
    rw [readItem, first, second, third, fourth]
    rfl

theorem exists_readItems (inside : offset + count * kind.itemSize ≤ body.size) :
    ∃ items, kind.readItems body count offset = .ok items := by
  induction count generalizing offset with
  | zero => exact ⟨[], rfl⟩
  | succ count ih =>
    rw [Nat.succ_mul] at inside
    obtain ⟨item, head⟩ : ∃ item, kind.readItem body offset = .ok item := exists_readItem (by omega)
    obtain ⟨items, tail⟩ :
      ∃ items, kind.readItems body count (offset + kind.itemSize) = .ok items := ih (by omega)
    exact ⟨item :: items,
      Error.bind_eq_ok_iff.mpr ⟨item, head, Error.bind_eq_ok_iff.mpr ⟨items, tail, rfl⟩⟩⟩

/-- What the list opens with, if it is there and allowed. -/
theorem readCount_of_room {first : UInt8} (byte : body.byte offset = .ok first)
    (inside : offset + kind.openingSize ≤ body.size) (allowed : ¬kind.OtherSize body offset) :
    kind.readCount body offset = .ok first.toNat := by
  cases kind with
  | handles => exact Error.bind_eq_ok_iff.mpr ⟨first, byte, rfl⟩
  | peers => exact Error.bind_eq_ok_iff.mpr ⟨first, byte, rfl⟩
  | elements =>
    obtain ⟨size, second⟩ := Body.exists_byte inside
    have fine : (first = 0 ∧ size = 0) ∨ size.toNat = elements.itemSize := by
      by_contra wrong
      obtain ⟨some_, wrong⟩ := not_or.mp wrong
      exact allowed ⟨rfl, first, size, Body.byte_eq_ok_iff.mp byte, Body.byte_eq_ok_iff.mp second,
        some_, fun three => wrong (three ▸ rfl)⟩
    rw [readCount, byte, second]
    exact if_pos fine

theorem read_of_otherSize (other : kind.OtherSize body offset) :
    kind.read body offset = .error (.invalidList elements.name "element size must be 3") := by
  obtain ⟨rfl, count, size, first, second, some_, wrong⟩ := other
  have refused : ¬((count = 0 ∧ size = 0) ∨ size.toNat = elements.itemSize) :=
    not_or.mpr ⟨some_, fun three => wrong (UInt8.toNat_inj.mp three)⟩
  have opening :
    elements.readCount body offset =
    .error (.invalidList elements.name "element size must be 3") := by
    rw [readCount, Body.byte_eq_ok_iff.mpr first, Body.byte_eq_ok_iff.mpr second]
    exact if_neg refused
  rw [read, opening]
  rfl

/-- **When a list is read.** -/
theorem exists_read_iff :
    (∃ value consumed, kind.read body offset = .ok (value, consumed)) ↔
      ¬kind.OtherSize body offset ∧ kind.HasRoom body offset := by
  constructor
  · rintro ⟨value, consumed, read⟩
    refine ⟨fun other => ?_, ?_⟩
    · rw [read_of_otherSize other] at read
      cases read
    · have reach := (spans_read read).inside
      obtain ⟨count, items, counted, _, rfl, rfl⟩ := read_eq_ok_iff.mp read
      obtain ⟨first, byte, rfl⟩ := exists_byte_of_readCount counted
      exact ⟨first, Body.byte_eq_ok_iff.mp byte, Nat.add_assoc _ _ _ ▸ reach⟩
  · rintro ⟨allowed, first, byte, inside⟩
    have reach := Nat.le_trans (Nat.le_add_right _ _) inside
    have opening := readCount_of_room (Body.byte_eq_ok_iff.mpr byte) reach allowed
    obtain ⟨items, rest⟩ := exists_readItems inside
    exact ⟨.list items, _, read_eq_ok_iff.mpr ⟨first.toNat, items, opening, rest, rfl, rfl⟩⟩

/-- A list whose items have the right size fails only for want of bytes. -/
theorem lacks_of_read (allowed : ¬kind.OtherSize body offset)
    (failed : kind.read body offset = .error error) :
    body.Lacks error := by
  rcases Error.bind_eq_error_iff.mp failed with opening | ⟨_, _, failed⟩
  · rcases flaw_of_readCount opening with lacks | ⟨rfl, _⟩
    · exact lacks
    rcases Error.bind_eq_error_iff.mp opening with first | ⟨count, first, opening⟩
    · exact Body.lacks_of_byte first
    rcases Error.bind_eq_error_iff.mp opening with second | ⟨size, second, opening⟩
    · exact Body.lacks_of_byte second
    by_cases fine : (count = 0 ∧ size = 0) ∨ size.toNat = elements.itemSize
    · rw [if_pos fine] at opening
      cases opening
    · obtain ⟨some_, wrong⟩ := not_or.mp fine
      exact absurd ⟨rfl, count, size, Body.byte_eq_ok_iff.mp first, Body.byte_eq_ok_iff.mp second,
        some_, fun three => wrong (three ▸ rfl)⟩ allowed
  · rcases Error.bind_eq_error_iff.mp failed with items | ⟨_, _, wrong⟩
    · exact lacks_of_readItems items
    · cases wrong

/-- **Why a list is not read**: its items have another size, or some of its bytes are missing. -/
theorem error_of_read (failed : kind.read body offset = .error error) :
    kind.OtherSize body offset ∧ error = .invalidList elements.name "element size must be 3" ∨
      ¬kind.OtherSize body offset ∧ ¬kind.HasRoom body offset ∧ body.Lacks error := by
  by_cases other : kind.OtherSize body offset
  · rw [read_of_otherSize other] at failed
    cases failed
    exact .inl ⟨other, rfl⟩
  · refine .inr ⟨other, fun room => ?_, lacks_of_read other failed⟩
    obtain ⟨value, consumed, read⟩ := exists_read_iff.mpr ⟨other, room⟩
    rw [read] at failed
    cases failed

/-! ### The bytes of a list -/

/-- The bytes of a list as they are written: no elements are written without a size. -/
theorem normal_of_read {run : List UInt8} (read : kind.read body offset = .ok (value, consumed))
    (here : body.bytes offset consumed = .ok run) :
    kind.normal run = if kind = elements ∧ run = [0, 3] then [0, 0] else run := by
  by_cases empty : kind = elements ∧ run[0]? = some 0
  · obtain ⟨rfl, none_⟩ := empty
    rcases run_of_empty read here none_ with rfl | rfl <;> rfl
  · have kept : kind.normal run = run := by
      unfold normal
      split
      · exact absurd ⟨rfl, rfl⟩ empty
      · rfl
    rw [kept, if_neg]
    rintro ⟨rfl, rfl⟩
    exact empty ⟨rfl, rfl⟩

/-- **A list that the count has room for has one run of bytes**, wherever it is written, and is read
back from it whatever is in front of it and behind it. -/
theorem exists_run (few : items.length ≤ 255) (fit : ∀ item ∈ items, kind.FitsItem item) :
    ∃ run, (∀ body, kind.write (.list items) body = .ok () (body.append run)) ∧
      ∀ front back strings, kind.read
        ⟨front ++ run ++ back, strings⟩ front.length = .ok (.list items, run.length) := by
  -- The bytes that an empty section gets are read from there, and so they are written into every
  -- other section as well.
  obtain ⟨_, written⟩ := exists_write (Nat.lt_succ_of_le few) fit {}
  obtain ⟨_, rfl, _, again⟩ := write_eq_ok written
  obtain ⟨found, _, anywhere⟩ := write_of_read (again _ (.refl _))
  refine ⟨kind.normal found, anywhere, fun front back strings => ?_⟩
  obtain ⟨run, same, _, read⟩ := write_eq_ok (anywhere ⟨front, strings⟩)
  obtain rfl : kind.normal found = run := List.append_cancel_left (congrArg Body.formatted same)
  exact read _ ⟨List.prefix_append _ back, List.prefix_refl _⟩

/-- A list that the count has no room for is refused in front of its first byte. -/
theorem write_of_many (many : 255 < items.length) (body : Body) :
    kind.write (.list items) body =
      .error (.invalidList kind.name ("more than 255 " ++ kind.items)) body := by
  rw [write, if_neg (Nat.not_lt_of_le many)]
  rfl

/-! ### Reading and writing -/

/-- What is read at an address of a section, and what is written from it. -/
structure ReadsBack (kind : ListKind) (body : Body) (offset : UInt64) : Prop where
  /-- No sum of addresses fails. -/
  addressed : kind.readAt body offset = Addressed.exact (kind.read body offset.toNat)
  /-- No byte in front of the list or behind it is looked at. -/
  spans : ∀ value consumed, kind.read body offset.toNat = .ok (value, consumed) →
    body.Spans offset.toNat (offset.toNat + consumed) (kind.read · offset.toNat) (value, consumed)
  /-- A list that is read lies in the section, has as many items as its count says, and is written
  with its bytes. -/
  written : ∀ value consumed, kind.read body offset.toNat = .ok (value, consumed) →
    offset.toNat + consumed ≤ body.size ∧ ∃ count items run,
      body.formatted[offset.toNat]? = some count ∧ value = .list items ∧
        items.length = count.toNat ∧
        body.bytes offset.toNat consumed = .ok run ∧ ∀ fresh, kind.write value fresh =
          .ok () (fresh.append (if kind = elements ∧ run = [0, 3] then [0, 0] else run))
  refused_iff : (∃ field reason, kind.read body offset.toNat = .error (.invalidList field reason)) ↔
    kind.OtherSize body offset.toNat
  truncated_iff : (∃ error, kind.read body offset.toNat = .error error ∧ error.isTruncation) ↔
    ¬kind.OtherSize body offset.toNat ∧ ¬kind.HasRoom body offset.toNat
  /-- There is no other failure. -/
  failure : ∀ error, kind.read body offset.toNat = .error error →
    error.isTruncation ∨ error = .invalidList elements.name "element size must be 3"

theorem readsBack (kind : ListKind) (room : body.size < UInt64.size) (offset : UInt64) :
    kind.ReadsBack body offset where
  addressed := readAt_eq room kind offset
  spans _ _ read := spans_read read
  written value consumed read := by
    obtain ⟨run, here, anywhere⟩ := write_of_read read
    have reach := (spans_read read).inside
    rw [normal_of_read read here] at anywhere
    obtain ⟨_, items, counted, rest, rfl, rfl⟩ := read_eq_ok_iff.mp read
    obtain ⟨count, byte, rfl⟩ := exists_byte_of_readCount counted
    exact ⟨reach, count, items, run, Body.byte_eq_ok_iff.mp byte, rfl, length_of_readItems rest,
      here, anywhere⟩
  refused_iff := by
    constructor
    · rintro ⟨field, reason, failed⟩
      rcases error_of_read failed with ⟨other, _⟩ | ⟨_, _, _, _, _, wrong⟩
      · exact other
      · cases wrong
    · intro other
      exact ⟨_, _, read_of_otherSize other⟩
  truncated_iff := by
    constructor
    · rintro ⟨error, failed, short⟩
      rcases error_of_read failed with ⟨_, rfl⟩ | ⟨allowed, lacking, _⟩
      · cases short
      · exact ⟨allowed, lacking⟩
    · rintro ⟨allowed, lacking⟩
      cases read : kind.read body offset.toNat with
      | ok found => exact absurd (exists_read_iff.mp ⟨found.1, found.2, read⟩).2 lacking
      | error error =>
        obtain ⟨_, _, _, rfl⟩ := lacks_of_read allowed read
        exact ⟨_, rfl, rfl⟩
  failure error failed := by
    rcases error_of_read failed with ⟨_, wrong⟩ | ⟨_, _, _, _, _, rfl⟩
    · exact .inr wrong
    · exact .inl rfl

/-- **Counted lists are read and written without loss.** From any section and any address, a list
that is read is written again with the bytes it was read from, except that no elements of size three
are written with the size zero. It fails if its elements have another size, and otherwise for want
of bytes only. Each list of at most 255 items is read back from wherever it is written, and a longer
one is refused in front of its first byte. -/
theorem lossless (kind : ListKind) :
    (∀ (body : Body) (offset : UInt64), body.size < UInt64.size → kind.ReadsBack body offset) ∧
      (∀ items : List Value, items.length ≤ 255 → (∀ item ∈ items, kind.FitsItem item) →
        ∃ run, (∀ body, kind.write (.list items) body = .ok () (body.append run)) ∧
          ∀ front back strings,
            kind.read ⟨front ++ run ++ back, strings⟩ front.length =
              .ok (.list items, run.length)) ∧
      ∀ (items : List Value) (body : Body), 255 < items.length →
        kind.write (.list items) body =
          .error (.invalidList kind.name ("more than 255 " ++ kind.items)) body :=
  ⟨fun _ offset room => readsBack kind room offset,
    fun _ => exists_run, fun _ body many => write_of_many many body⟩

/-- A chassis with one contained element, behind a byte of another field. -/
def chassis : Body := ⟨[9, 1, 3, 160, 0, 2], ["Rack".toUTF8.toList]⟩

/-- Reading and writing one element, and a list that is one item too long. -/
theorem lossless_chassis :
    elements.read chassis 1 = .ok (.list [.record [.byte 160, .byte 0, .byte 2]], 5) ∧
      elements.ReadsBack chassis 1 ∧
      (∃ run, (∀ body, elements.write (.list [.record [.byte 160, .byte 0, .byte 2]]) body =
        .ok () (body.append run)) ∧
        ∀ front back strings, elements.read ⟨front ++ run ++ back, strings⟩ front.length =
          .ok (.list [.record [.byte 160, .byte 0, .byte 2]], run.length)) ∧
      elements.write (.list (List.replicate 256 (.byte 0))) chassis =
        .error (.invalidList "ContainedElements" "more than 255 elements") chassis := by
  obtain ⟨reads, writes, refuses⟩ := lossless elements
  refine ⟨rfl, reads chassis 1 (by decide), writes _ (by decide) ?_, ?_⟩
  · intro item member
    rw [List.mem_singleton] at member
    exact ⟨160, 0, 2, member⟩
  · exact refuses _ chassis (by rw [List.length_replicate]; decide)

end ListKind

end Dmi
