/-
**Where a walk stops, and what it leaves over.**

A walk that may stop short splits the fields in two: those in front of the stop, which it has read
forward, and those left over. A field left over is worth its default, except that a record among
them is walked once more from the offset of the stop. If the walk has stopped because a skip reached
past the end, there may be bytes at this offset, and then such a record takes its fields from them.
The second walk may stop short as well, and is split in the same way.

`Layout.unread?` follows a walk as long as it reads no byte. Main statements:

* `Layout.onlyDefaults_iff` — fields are worth their defaults in every section of a size exactly
  when the walk over them reads no byte;
* `Layout.leftOver_of_walk` — what each of the fields left over is worth;
* `Layout.decode_split` — the split of a walk;
* `Layout.decode_skipping` — a section in which one byte becomes the value of two fields left over.
-/

import Dmi.Proofs.Layout.Areas

namespace Dmi

namespace Slot

theorem encounter_eq_present_iff {slot : Slot} {complete behind : Bool} :
    slot.encounter complete behind = .present ↔ behind = false ∧ slot.ignored = false := by
  unfold encounter
  cases behind <;> cases complete <;> cases slot.ignored <;> simp

end Slot

namespace Layout

/-! ### Walks that read no byte -/

/-- The offset behind a plain field, if the walk reads no byte of it. -/
def visitUnread? (slot : Slot) (kind : Kind) (met : Encounter) (offset : Nat) : Option Nat :=
  match met with
  | .present => if kind.size? = some 0 then some (offset + slot.skip) else none
  | .cutShort => none
  | .ignored => some offset
  | .missing => some offset

/-- The offset behind a record, if the walk reads no byte of it. `present` is where a complete
reading of its fields would end, and `again` where another reading from the stop would, if they read
none. -/
def visitRecordUnread? (slot : Slot) (met : Encounter) (offset : Nat) (present again : Option Nat) :
    Option Nat :=
  match met with
  | .present => present
  | .cutShort => none
  | .ignored => some offset
  | .missing => if slot.ignored then some offset else again.map fun _ => offset

/-- The offset behind the fields in a section of `size` bytes, if the walk reads no byte of any of
them. -/
def unread? (size : Nat) (complete stopped : Bool) : Layout → (offset : Nat) → Option Nat
  | done, offset => some offset
  | field slot kind rest, offset =>
    let behind := stopped || slot.isBehind size offset
    (visitUnread? slot kind (slot.encounter complete behind) offset).bind
      (unread? size complete behind rest)
  | record slot _ inner rest, offset =>
    let behind := stopped || slot.isBehind size offset
    (visitRecordUnread? slot (slot.encounter complete behind) offset
      (unread? size true false inner (offset + slot.skip))
      (unread? size false false inner offset)).bind (unread? size complete behind rest)

variable {policy : StringPolicy} {body : Body} {title : String}

/-- A field is met as present only in front of the end. -/
theorem inside_of_present {slot : Slot} {complete stopped : Bool} {size offset : Nat}
    (present : slot.encounter complete (stopped || slot.isBehind size offset) = .present) :
    offset + slot.skip < size := by
  obtain ⟨here, kept⟩ := Slot.encounter_eq_present_iff.mp present
  exact (Slot.isBehind_eq_false_iff.mp (Bool.or_eq_false_iff.mp here).2).2 kept

theorem visit_of_unread {slot : Slot} {kind : Kind} {met : Encounter} {offset next : Nat}
    (fits : kind.DefaultFits slot.default)
    (inside : met = .present → offset + slot.skip < body.size)
    (unread : visitUnread? slot kind met offset = some next) :
    visit policy body title slot kind met offset = pure (kind.worth slot.default, next) := by
  cases met with
  | present =>
    simp only [visitUnread?, Option.ite_none_right_eq_some, Option.some.injEq] at unread
    obtain ⟨empty, rfl⟩ := unread
    have inRange := inside rfl
    cases kind with
    | bytes count =>
      obtain rfl : count = 0 := Option.some.inj empty
      have nothing : body.bytes (offset + slot.skip) 0 = .ok [] := by
        rw [Body.bytes, if_pos (by omega), List.take_zero]
      simp only [visit, Kind.read, nothing, Lenient.ofExcept_ok, pure_bind]
      rfl
    | number width => cases width <;> cases empty
    | text => cases empty
    | list _ => cases empty
  | ignored =>
    cases unread
    simp only [visit, Kind.absent_of_fits fits, Lenient.ofExcept_ok, Lenient.map_pure]
  | missing =>
    cases unread
    simp only [visit, Kind.absent_of_fits fits, Lenient.ofExcept_ok, Lenient.map_pure,
      Lenient.inField_pure]
  | cutShort => cases unread

theorem visitRecord_of_unread {slot : Slot} {name : String} {inner : Layout} {met : Encounter}
    {offset next : Nat} (fit : inner.DefaultsFit)
    (walkInner : ∀ {complete : Bool} {start stop : Nat},
      inner.unread? body.size complete false start = some stop →
        walk policy body name complete false inner start = pure (inner.defaults, stop))
    (unread : visitRecordUnread? slot met offset
      (inner.unread? body.size true false (offset + slot.skip))
      (inner.unread? body.size false false offset) = some next) :
    visitRecord policy body title slot name inner met offset =
      pure (.record inner.defaults, next) := by
  cases met with
  | present => simp only [visitRecord, walkInner unread, Lenient.inField_pure, Lenient.map_pure]
  | ignored =>
    cases unread
    simp only [visitRecord, absent_of_fit fit, Lenient.ofExcept_ok, Lenient.map_pure]
  | missing =>
    cases ignored : slot.ignored with
    | true =>
      simp only [visitRecordUnread?, ignored, if_true, Option.some.injEq] at unread
      subst unread
      simp only [visitRecord, ignored, if_true, absent_of_fit fit, Lenient.ofExcept_ok,
        Lenient.map_pure, Lenient.inField_pure]
    | false =>
      simp only [visitRecordUnread?, ignored, Bool.false_eq_true, if_false,
        Option.map_eq_some_iff] at unread
      obtain ⟨stop, again, rfl⟩ := unread
      simp only [visitRecord, ignored, Bool.false_eq_true, if_false, walkInner again,
        Lenient.map_pure]
  | cutShort => cases unread

/-- **A walk that reads no byte gives every field its default**, whatever the section holds. -/
theorem walk_of_unread {layout : Layout} (fit : layout.DefaultsFit) {complete stopped : Bool}
    {offset last : Nat} (unread : layout.unread? body.size complete stopped offset = some last) :
    walk policy body title complete stopped layout offset = pure (layout.defaults, last) := by
  induction layout generalizing title complete stopped offset last with
  | done =>
    cases unread
    rfl
  | field slot kind rest ih =>
    obtain ⟨next, head, tail⟩ := Option.bind_eq_some_iff.mp unread
    rw [walk_field, visit_of_unread fit.1 inside_of_present head]
    exact Lenient.inFront_pure (ih fit.2 tail)
  | record slot name inner rest ihInner ihRest =>
    obtain ⟨next, head, tail⟩ := Option.bind_eq_some_iff.mp unread
    rw [walk_record, visitRecord_of_unread fit.1 (ihInner fit.1) head]
    exact Lenient.inFront_pure (ihRest fit.2 tail)

end Layout

/-! ### Bytes that a field cannot hide -/

/-- A section that repeats one byte, without strings. -/
def Body.uniform (size : Nat) (byte : UInt8) : Body := ⟨List.replicate size byte, []⟩

namespace Body

@[simp] theorem size_uniform (size : Nat) (byte : UInt8) : (uniform size byte).size = size :=
  List.length_replicate

theorem bytes_uniform {size offset width : Nat} (byte : UInt8) (inside : offset + width ≤ size) :
    (uniform size byte).bytes offset width = .ok (List.replicate width byte) := by
  rw [bytes, size_uniform, if_pos inside]
  simp only [uniform, List.drop_replicate, List.take_replicate]
  rw [Nat.min_eq_left (by omega)]

/-- A read of a uniform section gives the uniform bytes, or fails. -/
theorem eq_of_bytes_uniform {size offset width : Nat} {byte : UInt8} {found : List UInt8}
    (read : (uniform size byte).bytes offset width = .ok found) :
    found = List.replicate width byte := by
  have inside : offset + width ≤ size := by
    have within := (bytes_eq_ok_iff (uniform size byte) offset width).mp ⟨found, read⟩
    rwa [size_uniform] at within
  rw [bytes_uniform byte inside] at read
  exact (Except.ok.inj read).symm

theorem eq_of_number_uniform {size offset : Nat} {byte : UInt8} {width : Width} {n : width.Number}
    (read : (uniform size byte).number width offset = .ok n) :
    n = width.number (LittleEndian.value (List.replicate width.size byte)) := by
  unfold number at read
  split at read
  · rename_i found here
    rw [← eq_of_bytes_uniform here]
    exact (Except.ok.inj read).symm
  · cases read

theorem eq_of_byte_uniform {size offset : Nat} {byte found : UInt8}
    (read : (uniform size byte).byte offset = .ok found) : found = byte := by
  have number : found = UInt8.ofNat (byte.toNat + 256 * 0) := eq_of_number_uniform read
  rw [number, Nat.mul_zero, Nat.add_zero, UInt8.ofNat_toNat]

end Body

/-- A number of uniform ones is not zero. -/
theorem LittleEndian.value_ones {width : Nat} (positive : 0 < width) :
    value (List.replicate width 1) ≠ 0 := by
  obtain ⟨width, rfl⟩ := Nat.exists_eq_succ_of_ne_zero (Nat.pos_iff_ne_zero.mp positive)
  rw [List.replicate_succ, value]
  simp

theorem LittleEndian.value_zeros (width : Nat) : value (List.replicate width 0) = 0 := by
  induction width with
  | zero => rfl
  | succ width ih =>
    rw [List.replicate_succ, value, ih]
    rfl

namespace Width

theorem size_pos (width : Width) : 0 < width.size := by
  cases width <;> decide

theorem number_ones_ne_zero (width : Width) :
    width.number (LittleEndian.value (List.replicate width.size 1)) ≠ width.number 0 := by
  intro same
  have naturals := congrArg toNat same
  have small := LittleEndian.value_lt (List.replicate width.size 1)
  rw [List.length_replicate] at small
  rw [toNat_number, toNat_number, Nat.mod_eq_of_lt small, Nat.zero_mod] at naturals
  exact LittleEndian.value_ones width.size_pos naturals

end Width

namespace Kind

/-- **A field that has bytes shows them**: in some uniform section of any size it does not read as
its default. -/
theorem exists_read_ne_worth {kind : Kind} (occupied : kind.size? ≠ some 0) (size offset : Nat)
    (policy : StringPolicy) (record field : String) (default : Option UInt64) :
    ∃ byte : UInt8, ∀ next,
      (kind.read policy (.uniform size byte) record field offset).result ≠
        .ok (kind.worth default, next) := by
  cases kind with
  | number width =>
    -- A default of zero is told from ones, any other from zeros.
    by_cases zero : width.number (default.getD 0).toNat = width.number 0
    · refine ⟨1, fun next found => ?_⟩
      obtain ⟨n, step, same, _⟩ := read_number_eq_ok_iff.mp found
      rw [Body.eq_of_number_uniform step, worth, zero] at same
      exact width.number_ones_ne_zero (by injection same with _ same; exact same.symm)
    · refine ⟨0, fun next found => ?_⟩
      obtain ⟨n, step, same, _⟩ := read_number_eq_ok_iff.mp found
      rw [Body.eq_of_number_uniform step, worth, LittleEndian.value_zeros] at same
      injection same with _ same
      exact zero same
  | text =>
    refine ⟨1, fun next found => ?_⟩
    obtain ⟨found, step, same, _⟩ := read_text_eq_ok_iff.mp found
    cases same
    obtain ⟨index, number, string | ⟨_, _, _, other⟩⟩ := readText_eq_ok_iff.mp step
    · rw [Body.eq_of_byte_uniform number] at string
      cases string
    · cases other
  | bytes count =>
    refine ⟨1, fun next found => ?_⟩
    obtain ⟨found, step, same, _⟩ := read_bytes_eq_ok_iff.mp found
    obtain ⟨count, rfl⟩ := Nat.exists_eq_succ_of_ne_zero fun zero => occupied (zero ▸ rfl)
    rw [Body.eq_of_bytes_uniform step, worth, List.replicate_succ, List.replicate_succ] at same
    cases same
  | list kind =>
    refine ⟨1, fun next found => ?_⟩
    obtain ⟨consumed, step, _⟩ := read_list_eq_ok_iff.mp found
    obtain ⟨count, items, opening, rest, same, _⟩ := ListKind.read_eq_ok_iff.mp step
    cases same
    -- The list opens with the number one, and yet it is empty.
    obtain ⟨first, number, counted⟩ := ListKind.exists_byte_of_readCount opening
    rw [Body.eq_of_byte_uniform number, ← ListKind.length_of_readItems rest] at counted
    cases counted

end Kind

namespace Layout

variable {policy : StringPolicy} {body : Body} {title : String}

theorem exists_visit_ne_worth {slot : Slot} {kind : Kind} {met : Encounter} {offset : Nat}
    (read : visitUnread? slot kind met offset = none) (size : Nat) (policy : StringPolicy)
    (title : String) :
    ∃ byte : UInt8, ∀ next, (visit policy (.uniform size byte) title slot kind met offset).result ≠
      .ok (kind.worth slot.default, next) := by
  cases met with
  | present =>
    have occupied : kind.size? ≠ some 0 := by
      intro empty
      simp [visitUnread?, empty] at read
    obtain ⟨byte, differs⟩ :=
      Kind.exists_read_ne_worth occupied size (offset + slot.skip) policy title slot.name
        slot.default
    exact ⟨byte, fun next found => differs next (Lenient.result_inField_eq_ok.mp found)⟩
  | cutShort =>
    refine ⟨0, ?_⟩
    rintro next ⟨⟩
  | ignored => cases read
  | missing => cases read

theorem exists_visitRecord_ne_defaults {slot : Slot} {inner : Layout} {met : Encounter}
    {size offset : Nat}
    (walkInner : ∀ {complete : Bool} {start : Nat}, inner.unread? size complete false start = none →
      ∀ name, ∃ byte : UInt8, ∀ last, (walk policy (.uniform size byte) name complete false inner
        start).result ≠ .ok (inner.defaults, last))
    (read : visitRecordUnread? slot met offset
      (inner.unread? size true false (offset + slot.skip))
      (inner.unread? size false false offset) = none) (name title : String) :
    ∃ byte : UInt8, ∀ next,
      (visitRecord policy (.uniform size byte) title slot name inner met offset).result ≠
        .ok (.record inner.defaults, next) := by
  cases met with
  | present =>
    obtain ⟨byte, differs⟩ := walkInner read name
    refine ⟨byte, fun next found => ?_⟩
    obtain ⟨⟨fields, stop⟩, inField, same⟩ := Lenient.result_map_eq_ok.mp found
    cases same
    exact differs next (Lenient.result_inField_eq_ok.mp inField)
  | missing =>
    cases ignored : slot.ignored with
    | true => simp [visitRecordUnread?, ignored] at read
    | false =>
      simp only [visitRecordUnread?, ignored, Bool.false_eq_true, if_false,
        Option.map_eq_none_iff] at read
      obtain ⟨byte, differs⟩ := walkInner read name
      refine ⟨byte, fun next found => ?_⟩
      simp only [visitRecord, ignored, Bool.false_eq_true, if_false,
        Lenient.result_map_eq_ok] at found
      obtain ⟨⟨fields, stop⟩, again, same⟩ := found
      cases same
      exact differs stop again
  | cutShort =>
    refine ⟨0, ?_⟩
    rintro next ⟨⟩
  | ignored => cases read

/-- The values behind the first one, and where they begin. -/
theorem exists_tail_of_inFront {first : Lenient (Value × Nat)} {value : Value} {values : List Value}
    {rest : Nat → Lenient (List Value × Nat)} {last : Nat}
    (found : (first.inFront rest).result = .ok (value :: values, last)) :
    ∃ next, first.result = .ok (value, next) ∧ (rest next).result = .ok (values, last) := by
  obtain ⟨_, next, _, head, tail, same⟩ := Lenient.result_inFront_eq_ok.mp found
  cases same
  exact ⟨next, head, tail⟩

/-- **A walk that reads a byte shows it**: in some section of the same size the fields are not worth
their defaults. The induction finds the first field that is read; the walk reaches it in every
section, because it has read nothing before (`walk_of_unread`). -/
theorem exists_walk_ne_defaults {layout : Layout} (fit : layout.DefaultsFit) {size : Nat}
    {complete stopped : Bool} {offset : Nat}
    (read : layout.unread? size complete stopped offset = none) (policy : StringPolicy)
    (title : String) :
    ∃ byte : UInt8, ∀ last, (walk policy (.uniform size byte) title complete stopped layout
      offset).result ≠ .ok (layout.defaults, last) := by
  induction layout generalizing title complete stopped offset with
  | done => cases read
  | field slot kind rest ih =>
    cases head : visitUnread? slot kind
        (slot.encounter complete (stopped || slot.isBehind size offset)) offset with
    | none =>
      obtain ⟨byte, differs⟩ := exists_visit_ne_worth head size policy title
      refine ⟨byte, fun last found => ?_⟩
      rw [walk_field, Body.size_uniform] at found
      obtain ⟨next, first, _⟩ := exists_tail_of_inFront found
      exact differs next first
    | some next =>
      have tail := Option.bind_eq_none_iff.mp read next head
      obtain ⟨byte, differs⟩ := ih fit.2 tail title
      refine ⟨byte, fun last found => ?_⟩
      rw [walk_field, Body.size_uniform, visit_of_unread fit.1 ?_ head] at found
      · obtain ⟨_, first, others⟩ := exists_tail_of_inFront found
        cases first
        exact differs last others
      · rw [Body.size_uniform]
        exact inside_of_present
  | record slot name inner rest ihInner ihRest =>
    cases head : visitRecordUnread? slot
        (slot.encounter complete (stopped || slot.isBehind size offset)) offset
        (inner.unread? size true false (offset + slot.skip))
        (inner.unread? size false false offset) with
    | none =>
      obtain ⟨byte, differs⟩ := exists_visitRecord_ne_defaults (fun unread => ihInner fit.1 unread)
        head name title
      refine ⟨byte, fun last found => ?_⟩
      rw [walk_record, Body.size_uniform] at found
      obtain ⟨next, first, _⟩ := exists_tail_of_inFront found
      exact differs next first
    | some next =>
      have tail := Option.bind_eq_none_iff.mp read next head
      obtain ⟨byte, differs⟩ := ihRest fit.2 tail title
      refine ⟨byte, fun last found => ?_⟩
      rw [walk_record, Body.size_uniform, visitRecord_of_unread fit.1 (walk_of_unread fit.1) ?_]
        at found
      · obtain ⟨_, first, others⟩ := exists_tail_of_inFront found
        cases first
        exact differs last others
      · rw [Body.size_uniform]
        exact head

/-! ### The fields that a walk leaves over -/

/-- The fields are worth their defaults, whatever the bytes of a section of `size` bytes are, in a
walk from `offset` on that has `stopped` or may stop short. -/
def OnlyDefaults (policy : StringPolicy) (title : String) (size : Nat) (stopped : Bool)
    (offset : Nat) (layout : Layout) : Prop :=
  ∀ body : Body, body.size = size → ∃ last,
    (walk policy body title false stopped layout offset).result = .ok (layout.defaults, last)

/-- **Fields are worth their defaults exactly when no byte of them is read.** -/
theorem onlyDefaults_iff {layout : Layout} (fit : layout.DefaultsFit) {size : Nat} {stopped : Bool}
    {offset : Nat} : layout.OnlyDefaults policy title size stopped offset ↔
      ∃ last, layout.unread? size false stopped offset = some last := by
  constructor
  · intro only
    cases unread : layout.unread? size false stopped offset with
    | none =>
      obtain ⟨byte, differs⟩ := exists_walk_ne_defaults fit unread policy title
      obtain ⟨last, found⟩ := only _ (Body.size_uniform size byte)
      exact absurd found (differs last)
    | some last => exact ⟨last, rfl⟩
  · rintro ⟨last, unread⟩ body rfl
    exact ⟨last, congrArg Lenient.result (walk_of_unread fit unread)⟩

/-- A walk that has stopped stays where it is. -/
theorem eq_of_stopped {layout : Layout} {offset last : Nat} {values : List Value}
    (found : (walk policy body title false true layout offset).result = .ok (values, last)) :
    last = offset := by
  induction layout generalizing offset values with
  | done =>
    cases found
    rfl
  | field slot kind rest ih =>
    obtain ⟨value, next, others, head, tail, _⟩ := Lenient.result_inFront_eq_ok.mp found
    have stays : next = offset := by
      obtain ⟨_, _, same⟩ := Lenient.result_map_eq_ok.mp (Lenient.result_inField_eq_ok.mp head)
      cases same
      rfl
    exact (ih tail).trans stays
  | record slot name inner rest _ ih =>
    obtain ⟨value, next, others, head, tail, _⟩ := Lenient.result_inFront_eq_ok.mp found
    have stays : next = offset := by
      cases ignored : slot.ignored with
      | true =>
        simp only [ignored, Bool.true_or, Slot.encounter, if_true, Bool.false_eq_true,
          if_false] at head
        obtain ⟨_, _, same⟩ := Lenient.result_map_eq_ok.mp (Lenient.result_inField_eq_ok.mp head)
        cases same
        rfl
      | false =>
        simp only [ignored, Bool.true_or, Slot.encounter, if_true, Bool.false_eq_true,
          if_false] at head
        obtain ⟨_, _, same⟩ := Lenient.result_map_eq_ok.mp head
        cases same
        rfl
    exact (ih tail).trans stays

/-- **The split of a walk.** The fields in front of the stop are read completely, and the others are
met by a walk that has stopped. -/
theorem exists_split {layout : Layout} {offset last : Nat} {values : List Value}
    (found : (walk policy body title false false layout offset).result = .ok (values, last)) :
    ∃ (front rest : Layout) (first second : List Value),
      front.append rest = layout ∧ values = first ++ second ∧
      (walk policy body title true false front offset).result = .ok (first, last) ∧
      rest.BeginsBehind body.size last ∧
      (walk policy body title false true rest last).result = .ok (second, last) := by
  induction layout generalizing offset values with
  | done =>
    cases found
    exact ⟨done, done, [], [], rfl, rfl, rfl, trivial, rfl⟩
  | field slot kind rest ih =>
    cases behind : slot.isBehind body.size offset with
    | true =>
      have stop : (field slot kind rest).BeginsBehind body.size offset := behind
      rw [walk_of_beginsBehind stop] at found
      obtain rfl := eq_of_stopped found
      exact ⟨done, field slot kind rest, [], values, rfl, rfl, rfl, stop, found⟩
    | false =>
      rw [walk_field, Bool.false_or, behind] at found
      obtain ⟨value, next, others, head, tail, rfl⟩ := Lenient.result_inFront_eq_ok.mp found
      obtain ⟨front, rest, first, second, rfl, rfl, opening, stop, left⟩ := ih tail
      exact ⟨field slot kind front, rest, value :: first, second, rfl, rfl,
        complete_field_iff.mpr ⟨behind, value, next, first, head, opening, rfl⟩, stop, left⟩
  | record slot name inner rest _ ih =>
    cases behind : slot.isBehind body.size offset with
    | true =>
      have stop : (record slot name inner rest).BeginsBehind body.size offset := behind
      rw [walk_of_beginsBehind stop] at found
      obtain rfl := eq_of_stopped found
      exact ⟨done, record slot name inner rest, [], values, rfl, rfl, rfl, stop, found⟩
    | false =>
      rw [walk_record, Bool.false_or, behind] at found
      obtain ⟨value, next, others, head, tail, rfl⟩ := Lenient.result_inFront_eq_ok.mp found
      obtain ⟨front, rest, first, second, rfl, rfl, opening, stop, left⟩ := ih tail
      exact ⟨record slot name inner front, rest, value :: first, second, rfl, rfl,
        complete_record_iff.mpr ⟨behind, value, next, first, head, opening, rfl⟩, stop, left⟩

theorem defaultsFit_append {front rest : Layout} :
    (front.append rest).DefaultsFit ↔ front.DefaultsFit ∧ rest.DefaultsFit := by
  induction front with
  | done => simp [append, DefaultsFit]
  | field _ _ _ ih => rw [append, DefaultsFit, DefaultsFit, ih, and_assoc]
  | record _ _ _ _ _ ih => rw [append, DefaultsFit, DefaultsFit, ih, and_assoc]

/-- At the end of a section nothing is left to read, so that all fields left over there are worth
their defaults. -/
theorem unread?_of_exhausted {layout : Layout} {size offset : Nat} (exhausted : size ≤ offset)
    (stopped : Bool) : layout.unread? size false stopped offset = some offset := by
  have behind : ∀ slot : Slot, (stopped || slot.isBehind size offset) = true := by
    intro slot
    simp [Slot.isBehind, exhausted]
  induction layout generalizing stopped with
  | done => rfl
  | field slot kind rest ih =>
    rw [unread?, behind slot]
    exact ih true fun _ => rfl
  | record slot name inner rest ihInner ihRest =>
    have again := ihInner false fun slot => by simp [Slot.isBehind, exhausted]
    rw [unread?, behind slot, again]
    cases ignored : slot.ignored <;>
      simp [Slot.encounter, visitRecordUnread?, ignored, ihRest true fun _ => rfl]

/-- What the fields are worth that a walk has left over at the offset `last`, one by one. A plain
field and one that is ignored are worth their defaults. A record that is not ignored is split again
from `last` on, into the fields of `front`, which are read forward, and those of `later`, which it
leaves over in its turn. It is worth its defaults, whatever the bytes are, exactly when no byte of
it is read. -/
inductive LeftOver (policy : StringPolicy) (body : Body) : (last : Nat) → Layout → List Value → Prop
  | done {last : Nat} : LeftOver policy body last done []
  | field {last : Nat} {slot : Slot} {kind : Kind} {rest : Layout} {values : List Value}
    (others : LeftOver policy body last rest values) :
    LeftOver policy body last (field slot kind rest) (kind.worth slot.default :: values)
  | ignoredRecord {last : Nat} {slot : Slot} {name : String} {inner rest : Layout}
    {values : List Value} (ignored : slot.ignored = true)
    (others : LeftOver policy body last rest values) :
    LeftOver policy body last (record slot name inner rest) (.record inner.defaults :: values)
  | record {last next : Nat} {slot : Slot} {name : String} {front later rest : Layout}
    {first second values : List Value} (kept : slot.ignored = false)
    (forward : front.ReadsForward policy body name last first next)
    (stop : later.BeginsBehind body.size next)
    (left : LeftOver policy body next later second)
    (onlyDefaults_iff : (front.append later).OnlyDefaults policy name body.size false last ↔
      ∃ stop, (front.append later).unread? body.size false false last = some stop)
    (defaults : (front.append later).OnlyDefaults policy name body.size false last →
      first ++ second = (front.append later).defaults)
    (others : LeftOver policy body last rest values) :
    LeftOver policy body last (record slot name (front.append later) rest)
      (.record (first ++ second) :: values)

theorem sizeOf_le_append (front rest : Layout) : sizeOf rest ≤ sizeOf (front.append rest) := by
  induction front with
  | done => exact Nat.le_refl _
  | field slot kind front ih =>
    rw [append, field.sizeOf_spec]
    omega
  | record slot name inner front _ ih =>
    rw [append, record.sizeOf_spec]
    omega

/-- The values of fields that are worth their defaults in every section of the same size. -/
theorem OnlyDefaults.eq_defaults {layout : Layout} {stopped : Bool} {offset last : Nat}
    {values : List Value} (only : layout.OnlyDefaults policy title body.size stopped offset)
    (found : (walk policy body title false stopped layout offset).result = .ok (values, last)) :
    values = layout.defaults := by
  obtain ⟨_, again⟩ := only body rfl
  rw [found] at again
  cases again
  rfl

/-- **What the fields left over are worth.** The recursion goes to the fields that are left over
behind the first one, and to those that the first one leaves over if it is a record. -/
theorem leftOver_of_walk {title : String} {layout : Layout} (fit : layout.DefaultsFit) {last : Nat}
    {values : List Value}
    (found : (walk policy body title false true layout last).result = .ok (values, last)) :
    LeftOver policy body last layout values := by
  match layout with
  | done =>
    cases found
    exact .done
  | field slot kind rest =>
    rw [walk_field, Bool.true_or] at found
    obtain ⟨value, next, others, head, tail, rfl⟩ := Lenient.result_inFront_eq_ok.mp found
    cases fieldValue_of_visit head with
    | missing absent =>
      rw [Kind.absent_of_fits fit.1] at absent
      cases absent
      exact .field (leftOver_of_walk fit.2 tail)
  | record slot name inner rest =>
    rw [walk_record, Bool.true_or] at found
    obtain ⟨value, next, others, head, tail, rfl⟩ := Lenient.result_inFront_eq_ok.mp found
    cases recordValue_of_visitRecord head with
    | missingIgnored ignored absent =>
      rw [absent_of_fit fit.1] at absent
      cases absent
      exact .ignoredRecord ignored (leftOver_of_walk fit.2 tail)
    | missing kept walked =>
      have defaults only := OnlyDefaults.eq_defaults only walked
      obtain ⟨front, later, first, second, same, rfl, opening, stop, left⟩ := exists_split walked
      have fits := defaultsFit_append.mp (same ▸ fit.1)
      have smaller : sizeOf later ≤ sizeOf inner := same ▸ sizeOf_le_append front later
      have again := leftOver_of_walk fits.2 left
      have others := leftOver_of_walk fit.2 tail
      subst same
      exact .record kept (readsForward_of_walk fits.1 opening) stop again
        (onlyDefaults_iff fit.1) defaults others
termination_by sizeOf layout

/-- How a walk has split its fields: those of `front` have given `first` up to the offset `last`,
and those of `rest`, which are left over there, `second`. -/
structure Split (policy : StringPolicy) (body : Body) (title : String) (offset last : Nat)
    (front rest : Layout) (first second : List Value) : Prop where
  /-- The fields in front are read forward, each from bytes of its own. -/
  forward : front.ReadsForward policy body title offset first last
  /-- The section ends in front of the first field left over. -/
  stop : rest.BeginsBehind body.size last
  /-- What each of the fields left over is worth. -/
  left : LeftOver policy body last rest second
  /-- All of them are worth their defaults, whatever the bytes are, exactly when none is read. -/
  onlyDefaults_iff : rest.OnlyDefaults policy title body.size true last ↔
    ∃ stop, rest.unread? body.size false true last = some stop
  defaults : rest.OnlyDefaults policy title body.size true last → second = rest.defaults
  /-- So it is if the section is exhausted. -/
  exhausted : body.size ≤ last → rest.OnlyDefaults policy title body.size true last

/-- **What a walk that may stop short reads, and what it leaves to the defaults.** It splits its
fields in two. Those in front are read forward, at every depth from bytes of their own. Those left
over are worth their defaults, except for a record that is not ignored and finds a field in front of
the end. -/
theorem decode_split {layout : Layout} (fit : layout.DefaultsFit) {offset last : Nat}
    {values : List Value}
    (found : (layout.decode policy body title offset false).result = .ok (values, last)) :
    ∃ front rest first second, front.append rest = layout ∧ values = first ++ second ∧
      Split policy body title offset last front rest first second := by
  obtain ⟨front, rest, first, second, rfl, same, opening, stop, left⟩ := exists_split found
  have fits := defaultsFit_append.mp fit
  refine ⟨front, rest, first, second, rfl, same, {
    forward := readsForward_of_walk fits.1 opening
    stop := stop
    left := leftOver_of_walk fits.2 left
    onlyDefaults_iff := onlyDefaults_iff fits.2
    defaults := fun only => only.eq_defaults left
    exhausted := fun exhausted => ?_ }⟩
  exact (onlyDefaults_iff fits.2).mpr ⟨last, unread?_of_exhausted exhausted true⟩

/-- Two records behind a field that a skip puts past the end of a short section. -/
def skipping : Layout :=
  let inner := field { name := "X" } (.number .byte) done
  field { name := "A" } (.number .byte)
    (field { name := "B", skip := 1 } (.number .byte)
      (record { name := "C" } "inner" inner (record { name := "D" } "inner" inner done)))

/-- A walk over two bytes stops behind the first one. -/
theorem decode_split_skipping :
    skipping.DefaultsFit ∧ ∃ values last,
      (skipping.decode .tolerant ⟨[5, 7], []⟩ "outer" 0 false).result = .ok (values, last) ∧
      ∃ front rest first second, front.append rest = skipping ∧ values = first ++ second ∧
        Split .tolerant ⟨[5, 7], []⟩ "outer" 0 last front rest first second :=
  ⟨by decide, _, _, rfl, decode_split (by decide) rfl⟩

/-- **The byte behind the stop becomes the value of two fields left over**, where the default of
both is zero. -/
theorem decode_skipping :
    (skipping.decode .tolerant ⟨[5, 7], []⟩ "outer" 0 false).result =
        .ok ([.byte 5, .byte 0, .record [.byte 7], .record [.byte 7]], 1) ∧
      skipping.defaults = [.byte 0, .byte 0, .record [.byte 0], .record [.byte 0]] :=
  ⟨rfl, rfl⟩

end Layout

end Dmi
