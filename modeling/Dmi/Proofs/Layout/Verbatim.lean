/-
**Fields that are written as they were read.**

A field that has been read is written again with the bytes it was read from. There are two
exceptions. A list of contained elements that is empty loses the size of its items, and a text gets
the number that its string has in the new list. Since each field of a dense layout begins where the
one in front of it ends, on both sides, the bytes are still in their places. Behind them, the
defaults of the missing fields are put down. Main statements:

* `ListKind.write_of_read`, `Kind.keepsByte_of_write` — a list or a field that is written again;
* `Layout.write_of_defaults` — what the defaults put down;
* `Layout.Decoded.rewritten` — the bytes of a record that is written again.
-/

import Dmi.Proofs.Layout.Cut
import Dmi.Proofs.Layout.Extent
import Mathlib.Data.List.Basic

namespace Dmi

/-! ### Runs of bytes -/

namespace Body

variable {body other : Body} {offset width more index : Nat} {run behind : List UInt8}

theorem getElem?_of_bytes (read : body.bytes offset width = .ok run) (inside : index < width) :
    body.formatted[offset + index]? = run[index]? := by
  unfold bytes at read
  by_cases fits : offset + width ≤ body.size
  · rw [if_pos fits] at read
    cases read
    rw [List.getElem?_take_of_lt inside, List.getElem?_drop]
  · rw [if_neg fits] at read
    cases read

/-- Two bodies with the same run have the same bytes there. -/
theorem getElem?_eq_of_bytes (read : body.bytes offset width = .ok run)
    (again : other.bytes offset width = .ok run) {position : Nat} (lower : offset ≤ position)
    (upper : position < offset + width) :
    other.formatted[position]? = body.formatted[position]? := by
  obtain ⟨index, rfl⟩ := Nat.exists_eq_add_of_le lower
  have inside := Nat.lt_of_add_lt_add_left upper
  rw [getElem?_of_bytes read inside, getElem?_of_bytes again inside]

/-- Two runs, one behind the other, are one run. -/
theorem bytes_append (front : body.bytes offset width = .ok run)
    (rest : body.bytes (offset + width) more = .ok behind) :
    body.bytes offset (width + more) = .ok (run ++ behind) := by
  have inside : offset + width + more ≤ body.size := (bytes_eq_ok_iff body _ more).mp ⟨behind, rest⟩
  have first : offset + width ≤ body.size := Nat.le_trans (Nat.le_add_right _ more) inside
  rw [bytes, if_pos first] at front
  rw [bytes, if_pos inside] at rest
  cases front
  cases rest
  rw [bytes, if_pos (Nat.add_assoc offset width more ▸ inside), List.take_add, List.drop_drop]

theorem bytes_zero (inside : offset ≤ body.size) : body.bytes offset 0 = .ok [] := by
  rw [bytes, Nat.add_zero, if_pos inside, List.take_zero]

/-- A number is read from its digits. -/
theorem bytes_of_number {width : Width} {n : width.Number}
    (read : body.number width offset = .ok n) :
    body.bytes offset width.size = .ok (LittleEndian.digits width.size (Width.toNat n)) := by
  unfold number at read
  cases found : body.bytes offset width.size with
  | ok run =>
    rw [found] at read
    cases read
    rw [Width.digits_number_value (length_of_bytes found)]
  | error error =>
    rw [found] at read
    cases read

theorem bytes_of_byte {n : UInt8} (read : body.byte offset = .ok n) :
    body.bytes offset 1 = .ok [n] := by
  rw [← Width.digits_byte n]
  exact bytes_of_number read

end Body

/-! ### Counted lists -/

namespace ListKind

variable {kind : ListKind} {body : Body} {offset count consumed : Nat} {item value : Value}
  {items : List Value}

/-- The bytes of a list as they are written: contained elements have no size if there are none. -/
def normal : ListKind → List UInt8 → List UInt8
  | elements, 0 :: _ :: rest => 0 :: 0 :: rest
  | _, run => run

theorem normal_append {opening : List UInt8} (length : opening.length = kind.openingSize)
    (rest : List UInt8) : kind.normal (opening ++ rest) = kind.normal opening ++ rest := by
  cases kind with
  | handles => rfl
  | peers => rfl
  | elements =>
    obtain ⟨first, second, rfl⟩ := List.length_eq_two.mp length
    by_cases none_ : first = 0
    · rw [none_]
      rfl
    · simp [normal, none_]

theorem length_normal (kind : ListKind) (run : List UInt8) :
    (kind.normal run).length = run.length := by
  unfold normal
  split <;> rfl

/-- Only the size of contained elements changes, and only if there are none. -/
theorem getElem?_normal {run : List UInt8} {index : Nat}
    (other : kind ≠ elements ∨ ¬(run[0]? = some 0 ∧ index = 1)) :
    (kind.normal run)[index]? = run[index]? := by
  unfold normal
  split
  · rename_i size rest
    rcases other with other | other
    · exact absurd rfl other
    · match index with
      | 0 => rfl
      | 1 => exact absurd ⟨rfl, rfl⟩ other
      | index + 2 => rfl
  · rfl

/-- What contained elements open with: a size of three, or of zero if there are none. -/
theorem exists_opening_of_readCount (read : elements.readCount body offset = .ok count) :
    ∃ first size, body.bytes offset 2 = .ok [first, size] ∧ count = first.toNat ∧
      (first = 0 ∧ size = 0 ∨ size = 3) := by
  obtain ⟨first, here, read⟩ := Error.bind_eq_ok_iff.mp read
  obtain ⟨size, there, read⟩ := Error.bind_eq_ok_iff.mp read
  by_cases allowed : (first = 0 ∧ size = 0) ∨ size.toNat = elements.itemSize
  · rw [if_pos allowed] at read
    cases read
    refine ⟨first, size, Body.bytes_append (Body.bytes_of_byte here) (Body.bytes_of_byte there),
      rfl, ?_⟩
    exact allowed.imp_right fun three => UInt8.toNat_inj.mp three
  · rw [if_neg allowed] at read
    cases read

/-- The bytes of no contained elements. -/
theorem run_of_empty {run : List UInt8} (read : elements.read body offset = .ok (value, consumed))
    (here : body.bytes offset consumed = .ok run) (none_ : run[0]? = some 0) :
    run = [0, 0] ∨ run = [0, 3] := by
  obtain ⟨count, items, counted, _, _, rfl⟩ := read_eq_ok_iff.mp read
  obtain ⟨first, size, opening, rfl, allowed⟩ := exists_opening_of_readCount counted
  have byte : body.formatted[offset]? = some first := Body.getElem?_of_bytes opening Nat.two_pos
  have same : body.formatted[offset]? = run[0]? :=
    Body.getElem?_of_bytes here (Nat.lt_of_lt_of_le Nat.two_pos (Nat.le_add_right _ _))
  rw [byte, none_] at same
  obtain rfl : first = 0 := Option.some.inj same
  have alone : body.bytes offset 2 = .ok run := here
  rw [opening] at alone
  cases alone
  exact allowed.imp (fun zero => by rw [zero.2]) (fun three => by rw [three])

/-- An item is written with the bytes it was read from. -/
theorem writeItem_of_read (read : kind.readItem body offset = .ok item) :
    ∃ run, body.bytes offset kind.itemSize = .ok run ∧
      ∀ fresh, kind.writeItem item fresh = .ok () (fresh.append run) := by
  cases kind with
  | handles =>
    obtain ⟨handle, here, same⟩ := Error.bind_eq_ok_iff.mp read
    cases same
    exact ⟨_, Body.bytes_of_number here, fun fresh => rfl⟩
  | elements =>
    obtain ⟨run, here, same⟩ := Error.bind_eq_ok_iff.mp read
    cases same
    obtain ⟨type, least, most, rfl⟩ := List.length_eq_three.mp (Body.length_of_bytes here)
    exact ⟨_, here, fun fresh => rfl⟩
  | peers =>
    obtain ⟨segment, first, read⟩ := Error.bind_eq_ok_iff.mp read
    obtain ⟨bus, second, read⟩ := Error.bind_eq_ok_iff.mp read
    obtain ⟨function, third, read⟩ := Error.bind_eq_ok_iff.mp read
    obtain ⟨width, fourth, same⟩ := Error.bind_eq_ok_iff.mp read
    cases same
    have last := Body.bytes_append (Body.bytes_of_byte third) (Body.bytes_of_byte fourth)
    have rest := Body.bytes_append (Body.bytes_of_byte second) last
    refine ⟨_, Body.bytes_append (Body.bytes_of_number first) rest, fun fresh => ?_⟩
    rw [← Body.append_append]
    rfl

/-- **Items are written with the bytes they were read from.** -/
theorem writeItems_of_read (inside : offset ≤ body.size)
    (read : kind.readItems body count offset = .ok items) :
    ∃ run, body.bytes offset (count * kind.itemSize) = .ok run ∧
      ∀ fresh, kind.writeItems items fresh = .ok () (fresh.append run) := by
  induction count generalizing offset items with
  | zero =>
    cases read
    refine ⟨[], ?_, fun fresh => ?_⟩
    · rw [Nat.zero_mul]
      exact Body.bytes_zero inside
    · rw [Body.append, List.append_nil]
      rfl
  | succ count ih =>
    obtain ⟨item, head, read⟩ := Error.bind_eq_ok_iff.mp read
    obtain ⟨others, tail, same⟩ := Error.bind_eq_ok_iff.mp read
    cases same
    obtain ⟨run, here, first⟩ := writeItem_of_read head
    obtain ⟨behind, there, rest⟩ := ih (spans_readItem head).inside tail
    refine ⟨run ++ behind, ?_, fun fresh => ?_⟩
    · rw [Nat.succ_mul, Nat.add_comm]
      exact Body.bytes_append here there
    · exact Draft.bind_eq_ok_iff.mpr ⟨(), fresh.append run, first fresh,
        Body.append_append fresh run behind ▸ rest _⟩

theorem writeCount_of_read (read : kind.readCount body offset = .ok count) :
    count < 256 ∧ ∃ run, body.bytes offset kind.openingSize = .ok run ∧
      ∀ fresh, kind.writeCount (UInt8.ofNat count) fresh = .ok ()
        (fresh.append (kind.normal run)) := by
  cases kind with
  | handles =>
    obtain ⟨first, here, same⟩ := Error.bind_eq_ok_iff.mp read
    cases same
    refine ⟨first.toNat_lt, [first], Body.bytes_of_byte here, fun fresh => ?_⟩
    rw [UInt8.ofNat_toNat]
    rfl
  | peers =>
    obtain ⟨first, here, same⟩ := Error.bind_eq_ok_iff.mp read
    cases same
    refine ⟨first.toNat_lt, [first], Body.bytes_of_byte here, fun fresh => ?_⟩
    rw [UInt8.ofNat_toNat]
    rfl
  | elements =>
    obtain ⟨first, size, opening, rfl, allowed⟩ := exists_opening_of_readCount read
    refine ⟨first.toNat_lt, [first, size], opening, fun fresh => ?_⟩
    rw [UInt8.ofNat_toNat]
    by_cases none_ : first = 0
    · rw [none_]
      rfl
    · obtain rfl : size = 3 := allowed.resolve_left fun both => none_ both.1
      have kept : elements.normal [first, 3] = [first, 3] := by simp [normal, none_]
      rw [kept]
      show Draft.bytes [first, if first = 0 then 0 else UInt8.ofNat elements.itemSize] fresh = _
      rw [if_neg none_]
      rfl

/-- **A list is written with the bytes it was read from**, but for the size of no elements. -/
theorem write_of_read (read : kind.read body offset = .ok (value, consumed)) :
    ∃ run, body.bytes offset consumed = .ok run ∧
      ∀ fresh, kind.write value fresh = .ok () (fresh.append (kind.normal run)) := by
  obtain ⟨count, items, counted, found, rfl, rfl⟩ := read_eq_ok_iff.mp read
  obtain ⟨few, opening, here, first⟩ := writeCount_of_read counted
  obtain ⟨run, there, rest⟩ := writeItems_of_read (spans_readCount counted).inside found
  refine ⟨opening ++ run, Body.bytes_append here there, fun fresh => ?_⟩
  have length := length_of_readItems found
  rw [write, if_pos (length ▸ few), length]
  refine Draft.bind_eq_ok_iff.mpr ⟨(), fresh.append (kind.normal opening), first fresh, ?_⟩
  rw [normal_append (Body.length_of_bytes here), ← Body.append_append]
  exact rest _

end ListKind

/-! ### Fields -/

namespace Kind

/-- What becomes of a byte of a field that begins at `start`. The byte of a text is the number of
the same text in either body, and the size of contained elements becomes zero if there are none. All
other bytes stay. -/
def KeepsByte (kind : Kind) (old new : Body) (start position : Nat) : Prop :=
  match kind with
  | text => ∃ found, old.stringAt position = .ok found ∧ new.stringAt position = .ok found.settled
  | list .elements =>
    if old.formatted[start]? = some 0 ∧ position = start + 1 then
      (old.formatted[position]? = some 0 ∨ old.formatted[position]? = some 3) ∧
        new.formatted[position]? = some 0
    else new.formatted[position]? = old.formatted[position]?
  | _ => new.formatted[position]? = old.formatted[position]?

variable {kind : Kind} {policy : StringPolicy} {body fresh later final : Body}
  {record field : String} {next position : Nat} {value : Value}

/-- The bytes of a list stay, but for the size of no elements. -/
theorem keepsByte_list {list : ListKind} {start consumed : Nat} {run : List UInt8}
    (read : list.read body start = .ok (value, consumed))
    (here : body.bytes start consumed = .ok run)
    (there : final.bytes start consumed = .ok (list.normal run)) (lower : start ≤ position)
    (upper : position < start + consumed) :
    (Kind.list list).KeepsByte body final start position := by
  obtain ⟨index, rfl⟩ := Nat.exists_eq_add_of_le lower
  have inside := Nat.lt_of_add_lt_add_left upper
  have old := Body.getElem?_of_bytes here inside
  have new := Body.getElem?_of_bytes there inside
  have first : body.formatted[start]? = run[0]? :=
    Body.getElem?_of_bytes here (Nat.lt_of_le_of_lt (Nat.zero_le index) inside)
  have kept (other : list ≠ .elements ∨ ¬(run[0]? = some 0 ∧ index = 1)) :
      final.formatted[start + index]? = body.formatted[start + index]? := by
    rw [old, new, ListKind.getElem?_normal other]
  cases list with
  | handles => exact kept (.inl nofun)
  | peers => exact kept (.inl nofun)
  | elements =>
    show if _ then _ else _
    by_cases empty : body.formatted[start]? = some 0 ∧ start + index = start + 1
    · rw [if_pos empty]
      obtain ⟨none_, same⟩ := empty
      obtain rfl : index = 1 := Nat.add_left_cancel same
      rw [first] at none_
      rcases ListKind.run_of_empty read here none_ with rfl | rfl
      · exact ⟨.inl old, new⟩
      · exact ⟨.inr old, new⟩
    · rw [if_neg empty]
      refine kept (.inr fun ⟨none_, same⟩ => empty ⟨first.trans none_, ?_⟩)
      rw [same]

/-- **A field that is written again keeps its bytes**, if it stands in its old place. -/
theorem keepsByte_of_write
    (read : (kind.read policy body record field fresh.size).result = .ok (value, next))
    (written : kind.write value fresh = .ok () later) (grown : later.GrowsTo final)
    (lower : fresh.size ≤ position)
    (upper : position < next) : kind.KeepsByte body final fresh.size position := by
  cases kind with
  | number width =>
    obtain ⟨n, here, rfl, rfl⟩ := read_number_eq_ok_iff.mp read
    rw [write, if_pos rfl] at written
    cases written
    have again := Body.bytes_of_growsTo grown
    rw [LittleEndian.length_digits] at again
    exact Body.getElem?_eq_of_bytes (Body.bytes_of_number here) again lower upper
  | bytes count =>
    obtain ⟨run, here, rfl, rfl⟩ := read_bytes_eq_ok_iff.mp read
    have length := Body.length_of_bytes here
    rw [write, if_pos length] at written
    cases written
    have again := Body.bytes_of_growsTo grown
    rw [length] at again
    exact Body.getElem?_eq_of_bytes here again lower upper
  | list list =>
    obtain ⟨consumed, here, rfl⟩ := read_list_eq_ok_iff.mp read
    obtain ⟨run, bytes, anywhere⟩ := ListKind.write_of_read here
    have put : list.write value fresh = .ok () later := written
    rw [anywhere fresh] at put
    cases put
    have again := Body.bytes_of_growsTo grown
    rw [ListKind.length_normal, Body.length_of_bytes bytes] at again
    exact keepsByte_list here bytes again lower upper
  | text =>
    obtain ⟨found, here, rfl, rfl⟩ := read_text_eq_ok_iff.mp read
    obtain ⟨index, byte, string⟩ := readText_eq_ok_iff.mp here
    obtain rfl : position = fresh.size := Nat.le_antisymm (Nat.le_of_lt_succ upper) lower
    rcases string with string | ⟨_, _, _, rfl⟩
    · refine ⟨found, ?_, Draft.stringAt_of_text written grown⟩
      rw [Body.stringAt, byte]
      exact string
    · cases written

end Kind

/-! ### Defaults -/

/-- The bytes of a field that is worth its default. -/
def Kind.defaultBytes (kind : Kind) (default : Option UInt64) : List UInt8 :=
  match kind with
  | number width => LittleEndian.digits width.size (default.getD 0).toNat
  | text => [0]
  | bytes count => List.replicate count 0
  | list kind => List.replicate kind.openingSize 0

theorem Kind.write_worth {kind : Kind} {default : Option UInt64} (fits : kind.DefaultFits default)
    (fresh : Body) :
    kind.write (kind.worth default) fresh = .ok () (fresh.append (kind.defaultBytes default)) := by
  cases kind with
  | number width =>
    have small : (default.getD 0).toNat < LittleEndian.limit width.size := fits
    have same : (default.getD 0).toNat = Width.toNat (width.number (default.getD 0).toNat) := by
      rw [Width.toNat_number, Nat.mod_eq_of_lt small]
    have digits := congrArg (LittleEndian.digits width.size) same
    show (if width = width then _ else _ : Draft Unit) fresh = _
    rw [if_pos rfl, defaultBytes, digits]
    rfl
  | text => rfl
  | bytes count =>
    show (if (List.replicate count (0 : UInt8)).length = count then _ else _ : Draft Unit) fresh = _
    rw [if_pos List.length_replicate]
    rfl
  | list kind => cases kind <;> rfl

namespace Layout

/-- The bytes of fields that are worth their defaults, with the bytes that they skip. -/
def defaultBytes : Layout → List UInt8
  | done => []
  | field slot kind rest =>
    (if slot.ignored then [] else List.replicate slot.skip 0 ++ kind.defaultBytes slot.default) ++
      rest.defaultBytes
  | record slot _ inner rest =>
    (if slot.ignored then [] else List.replicate slot.skip 0 ++ inner.defaultBytes) ++
      rest.defaultBytes

variable {policy : StringPolicy} {body fresh later final : Body} {title : String} {layout : Layout}
  {offset last : Nat} {offsets : List Nat} {values : List Value}

/-- **What the defaults put down.** -/
theorem write_of_defaults (fit : layout.DefaultsFit)
    (written : write title layout layout.defaults fresh = .ok () later) :
    later = fresh.append layout.defaultBytes := by
  induction layout generalizing title fresh later with
  | done =>
    cases written
    rw [defaultBytes, Body.append, List.append_nil]
  | field slot kind rest ih =>
    obtain ⟨middle, head, tail⟩ := write_field_eq_ok written
    rw [ih fit.2 tail, defaultBytes]
    rcases head with ⟨ignored, rfl⟩ | ⟨present, head⟩
    · rw [if_pos ignored, List.nil_append]
    · rw [Kind.write_worth fit.1, opening, Body.append_append] at head
      cases head
      rw [present, if_neg Bool.false_ne_true, Body.append_append]
  | record slot name inner rest ihInner ihRest =>
    obtain ⟨middle, head, tail⟩ := write_record_eq_ok written
    rw [ihRest fit.2 tail, defaultBytes]
    rcases head with ⟨ignored, rfl⟩ | ⟨present, fields, same, _, head⟩
    · rw [if_pos ignored, List.nil_append]
    · cases same
      rw [ihInner fit.1 head, opening, Body.append_append, Body.append_append, present,
        if_neg Bool.false_ne_true, List.append_assoc]

/-! ### Records -/

/-- What another section keeps of the one whose fields were found at `offsets`, up to `last`. -/
structure Rewritten (layout : Layout) (old new : Body) (offsets : List Nat) (last : Nat) :
    Prop where
  inside : last ≤ old.size
  room : last ≤ new.size
  /-- Each byte in front of `last` belongs to a field, which keeps it. -/
  kept : ∀ position < last,
    ∃ index start stop slot kind, layout.slots[index]? = some (slot, some kind) ∧
    offsets[index]? = some start ∧ offsets[index + 1]? = some stop ∧ start ≤ position ∧
      position < stop ∧ kind.KeepsByte old new start position
  /-- The other bytes are the defaults of the fields that were not found. -/
  behind : new.formatted.drop last = (layout.drop (offsets.length - 1)).defaultBytes

/-- A walk over a dense layout ends at the last of its offsets. -/
theorem getLast?_offsets (dense : layout.Dense) (fit : layout.DefaultsFit)
    (inside : offset ≤ body.size)
    (found : (walk policy body title false false layout offset).result = .ok (values, last)) :
    (layout.offsets policy body title offset).getLast? = some last := by
  induction layout generalizing offset values with
  | done =>
    cases found
    rfl
  | field slot kind rest ih =>
    obtain ⟨kept, close, occupied, dense⟩ := dense
    by_cases before : offset < body.size
    · rw [walk_field_of_lt kept close before] at found
      obtain ⟨value, next, others, head, tail, rfl⟩ := Lenient.result_inFront_eq_ok.mp found
      have spans := Kind.spans_read (Lenient.result_inField_eq_ok.mp head)
      rw [Layout.offsets, isBehind_of_lt close before, if_neg Bool.false_ne_true,
        visit_of_close kept close, head]
      show (offset :: Layout.offsets policy body title rest next).getLast? = some last
      rw [List.getLast?_cons, ih dense fit.2 spans.inside tail]
      rfl
    · obtain rfl : offset = body.size := Nat.le_antisymm inside (Nat.le_of_not_lt before)
      rw [walk_of_unread fit (unread?_of_exhausted (Nat.le_refl body.size) false)] at found
      cases found
      have behind : slot.isBehind body.size body.size = true := by simp [Slot.isBehind]
      rw [Layout.offsets, if_pos behind]
      rfl
  | record slot name inner rest _ _ => cases dense

namespace Decoded

/-- A dense field is written right behind the one in front of it, and takes the bytes it was read
from. -/
theorem write_field {slot : Slot} {kind : Kind} {rest : Layout} {value : Value} {next : Nat}
    {record field : String} (kept : slot.ignored = false) (close : slot.skip = 0)
    (read : (kind.read policy body record field fresh.size).result = .ok (value, next))
    (written : write title (Layout.field slot kind rest) (value :: values) fresh = .ok () later) :
    ∃ middle, kind.write value fresh = .ok () middle ∧ middle.size = next ∧
      write title rest values middle = .ok () later := by
  obtain ⟨middle, head, tail⟩ := write_field_eq_ok written
  rcases head with ⟨ignored, _⟩ | ⟨_, head⟩
  · rw [kept] at ignored
    cases ignored
  · rw [opening, close, List.replicate_zero, Body.append, List.append_nil] at head
    refine ⟨middle, head, ?_, tail⟩
    rw [Kind.size_of_write head, Kind.extent_of_read read]

/-- **The bytes of the fields stay in their places**, by induction on how the fields were met. -/
theorem keepsByte_of_write (decoded : layout.Decoded policy body title fresh.size offsets values)
    (written : write title layout values fresh = .ok () later) (grown : later.GrowsTo final)
    (reach : offsets.getLast? = some last) {position : Nat} (lower : fresh.size ≤ position)
    (upper : position < last) :
    ∃ index start stop slot kind, layout.slots[index]? = some (slot, some kind) ∧
      offsets[index]? = some start ∧ offsets[index + 1]? = some stop ∧ start ≤ position ∧
        position < stop ∧ kind.KeepsByte body final start position := by
  generalize start : fresh.size = offset at decoded lower
  induction decoded generalizing fresh with
  | done inside =>
    cases reach
    exact absurd upper (Nat.not_lt_of_le lower)
  | exhausted layout =>
    cases reach
    exact absurd upper (Nat.not_lt_of_le lower)
  | @field slot kind rest offset next offsets value values kept close forward spans behind ih =>
    subst start
    obtain ⟨middle, head, size, tail⟩ := write_field kept close spans.read written
    by_cases here : position < next
    · have reached := (growsTo_of_write (behind.length_values ▸ rfl) tail).trans grown
      refine ⟨0, fresh.size, next, slot, kind, rfl, rfl, behind.getElem?_zero, lower, here, ?_⟩
      exact Kind.keepsByte_of_write spans.read head reached lower here
    · have last_ : offsets.getLast? = some last := by
        cases behind <;> exact reach
      obtain ⟨index, found⟩ := ih tail last_ size (Nat.le_of_not_lt here)
      exact ⟨index + 1, found⟩

/-- Behind the fields stand the defaults of the missing ones. -/
theorem append_of_write (decoded : layout.Decoded policy body title fresh.size offsets values)
    (fit : layout.DefaultsFit) (written : write title layout values fresh = .ok () later)
    (reach : offsets.getLast? = some last) :
    ∃ front : Body, front.size = last ∧ later = front.append
      (layout.drop (offsets.length - 1)).defaultBytes := by
  generalize start : fresh.size = offset at decoded
  induction decoded generalizing fresh with
  | done inside =>
    cases reach
    cases written
    refine ⟨_, start, ?_⟩
    show _ = Body.append _ []
    rw [Body.append, List.append_nil]
  | exhausted layout =>
    cases reach
    exact ⟨fresh, start, write_of_defaults fit written⟩
  | field kept close forward spans behind ih =>
    subst start
    obtain ⟨middle, head, size, tail⟩ := write_field kept close spans.read written
    cases behind <;> exact ih fit.2 tail reach size

/-- **The bytes of a record that is written again.** -/
theorem rewritten (decoded : layout.Decoded policy body title 0 offsets values)
    (fit : layout.DefaultsFit) (written : write title layout values {} = .ok () later)
    (reach : offsets.getLast? = some last) : layout.Rewritten body later offsets last := by
  have start : layout.Decoded policy body title (Body.size {}) offsets values := decoded
  obtain ⟨front, size, whole⟩ := append_of_write start fit written reach
  refine {
    inside := (decoded.range_of_mem last (List.mem_of_getLast? reach)).2
    room := ?_
    kept := fun position =>
      keepsByte_of_write start written (.refl later) reach (Nat.zero_le position)
    behind := ?_ }
  · rw [whole, Body.size_append, size]
    exact Nat.le_add_right _ _
  · rw [whole, Body.append, ← size, Body.size, List.drop_left]

end Decoded

end Layout

end Dmi
