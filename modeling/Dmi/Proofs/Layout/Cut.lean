/-
**A walk over a section cut short.**

The catalog lays its fields out densely: each begins where the one in front of it ends, and has
bytes. So a walk over such a layout has passed the whole section when it stops, and the offsets of
its fields rise. `Layout.Decoded` says of a walk which bytes each of its fields needs. From it
follows what becomes of the walk when the section is cut: at the end of a field, inside a field, or
behind the last one. Main statements:

* `Layout.decoded_of_walk` — a walk over a dense layout;
* `Layout.Decoded.walk_cut`, `Layout.Decoded.walk_cut_inside` — the walk over a cut section;
* `Layout.Decoded.exists_place` — there is no other cut.
-/

import Dmi.Proofs.Layout.Leftover
import Dmi.Proofs.Layout.Strictness

namespace Dmi

namespace Kind

variable {kind : Kind} {policy : StringPolicy} {body : Body} {record field : String}
  {offset next : Nat} {value : Value}

/-- A field that is read has the least size of its kind. -/
theorem leastSize_le_of_read
    (read : (kind.read policy body record field offset).result = .ok (value, next)) :
    offset + kind.leastSize ≤ next := by
  cases kind with
  | number width =>
    obtain ⟨_, _, _, rfl⟩ := read_number_eq_ok_iff.mp read
    exact Nat.le_refl _
  | text =>
    obtain ⟨_, _, _, rfl⟩ := read_text_eq_ok_iff.mp read
    exact Nat.le_refl _
  | bytes count =>
    obtain ⟨_, _, _, rfl⟩ := read_bytes_eq_ok_iff.mp read
    exact Nat.le_refl _
  | list kind =>
    obtain ⟨_, here, rfl⟩ := read_list_eq_ok_iff.mp read
    obtain ⟨count, _, _, _, _, rfl⟩ := ListKind.read_eq_ok_iff.mp here
    rw [leastSize, ← Nat.add_assoc]
    exact Nat.le_add_right _ _

theorem leastSize_pos (occupied : kind.size? ≠ some 0) : 0 < kind.leastSize := by
  cases kind with
  | number width => exact width.size_pos
  | text => exact Nat.one_pos
  | bytes count => exact Nat.pos_of_ne_zero fun zero => occupied (congrArg some zero)
  | list kind => cases kind <;> decide

/-- A field that has bytes ends behind where it begins. -/
theorem lt_of_read (occupied : kind.size? ≠ some 0)
    (read : (kind.read policy body record field offset).result = .ok (value, next)) :
    offset < next :=
  Nat.lt_of_lt_of_le (Nat.lt_add_of_pos_right (leastSize_pos occupied)) (leastSize_le_of_read read)

end Kind

namespace Layout

/-! ### Dense layouts -/

/-- Every field has bytes, and begins where the one in front of it ends. -/
def Dense : Layout → Prop
  | done => True
  | field slot kind rest => slot.ignored = false ∧ slot.skip = 0 ∧ kind.size? ≠ some 0 ∧ rest.Dense
  | record .. => False

instance decidableDense : (layout : Layout) → Decidable layout.Dense
  | done => .isTrue trivial
  | field slot kind rest =>
    have := decidableDense rest
    inferInstanceAs (Decidable (slot.ignored = false ∧ slot.skip = 0 ∧ kind.size? ≠ some 0 ∧
      rest.Dense))
  | record .. => .isFalse id

variable {policy : StringPolicy} {body : Body} {title : String} {layout rest : Layout} {slot : Slot}
  {kind : Kind} {offset last : Nat} {offsets : List Nat} {values : List Value}

theorem length_defaults (layout : Layout) : layout.defaults.length = layout.length := by
  induction layout with
  | done => rfl
  | field slot kind rest ih => rw [defaults, List.length_cons, ih, length]
  | record slot name inner rest _ ih => rw [defaults, List.length_cons, ih, length]

/-- In front of the end, a field that skips nothing is not behind it. -/
theorem isBehind_of_lt {size : Nat} (close : slot.skip = 0) (before : offset < size) :
    slot.isBehind size offset = false :=
  Slot.isBehind_eq_false_iff.mpr ⟨before, fun _ => by rwa [close, Nat.add_zero]⟩

theorem visit_of_close (kept : slot.ignored = false) (close : slot.skip = 0) (complete : Bool) :
    visit policy body title slot kind (slot.encounter complete false) offset =
      (kind.read policy body title slot.name offset).inField title slot.name := by
  rw [Slot.encounter_false, kept]
  simp only [visit, close, Nat.add_zero, Bool.false_eq_true, if_false]

/-- A walk in front of the end reads a dense field right there. -/
theorem walk_field_of_lt (kept : slot.ignored = false) (close : slot.skip = 0)
    (before : offset < body.size) (complete : Bool) :
    walk policy body title complete false (field slot kind rest) offset =
      ((kind.read policy body title slot.name offset).inField title slot.name).inFront
        (walk policy body title complete false rest) := by
  rw [walk_field, isBehind_of_lt close before, Bool.or_false, visit_of_close kept close]

/-- How a walk over `body` has met the fields of a dense layout, at which offsets and with which
values. It has read each field in its place, until no field was left or no byte was. -/
inductive Decoded (policy : StringPolicy) (body : Body) (title : String) :
    Layout → Nat → List Nat → List Value → Prop
  | done {offset : Nat} (inside : offset ≤ body.size) :
    Decoded policy body title done offset [offset] []
  | exhausted (layout : Layout) :
    Decoded policy body title layout body.size [body.size] layout.defaults
  | field {slot : Slot} {kind : Kind} {rest : Layout} {offset next : Nat} {offsets : List Nat}
    {value : Value} {values : List Value} (kept : slot.ignored = false) (close : slot.skip = 0)
    (forward : offset < next)
    (spans : body.Spans offset next
      (fun other => (kind.read policy other title slot.name offset).result) (value, next))
    (behind : Decoded policy body title rest next offsets values) :
    Decoded policy body title (field slot kind rest) offset (offset :: offsets) (value :: values)

/-- **A walk over a dense layout** reads one field behind the other, and stops at the end of the
section if at all. -/
theorem decoded_of_walk (dense : layout.Dense) (fit : layout.DefaultsFit)
    (inside : offset ≤ body.size)
    (found : (walk policy body title false false layout offset).result = .ok (values, last)) :
    layout.Decoded policy body title offset (layout.offsets policy body title offset) values := by
  induction layout generalizing offset values with
  | done =>
    cases found
    exact .done inside
  | field slot kind rest ih =>
    obtain ⟨kept, close, occupied, dense⟩ := dense
    by_cases before : offset < body.size
    · rw [walk_field_of_lt kept close before] at found
      obtain ⟨value, next, others, head, tail, rfl⟩ := Lenient.result_inFront_eq_ok.mp found
      have read := Lenient.result_inField_eq_ok.mp head
      have spans := Kind.spans_read read
      rw [Layout.offsets, isBehind_of_lt close before, if_neg Bool.false_ne_true,
        visit_of_close kept close, head]
      exact .field kept close (Kind.lt_of_read occupied read) spans
        (ih dense fit.2 spans.inside tail)
    · obtain rfl : offset = body.size := Nat.le_antisymm inside (Nat.le_of_not_lt before)
      rw [walk_of_unread fit (unread?_of_exhausted (Nat.le_refl body.size) false)] at found
      cases found
      have behind : slot.isBehind body.size body.size = true := by simp [Slot.isBehind]
      rw [Layout.offsets, if_pos behind]
      exact .exhausted (Layout.field slot kind rest)
  | record slot name inner rest _ _ => cases dense

namespace Decoded

/-! ### The offsets of the fields -/

variable {index start stop : Nat}

theorem getElem?_zero (decoded : layout.Decoded policy body title offset offsets values) :
    offsets[0]? = some offset := by
  cases decoded <;> rfl

/-- No offset is in front of the first one, and none behind the end. -/
theorem range_of_mem (decoded : layout.Decoded policy body title offset offsets values) :
    ∀ start ∈ offsets, offset ≤ start ∧ start ≤ body.size := by
  induction decoded with
  | done inside =>
    intro start member
    obtain rfl := List.mem_singleton.mp member
    exact ⟨Nat.le_refl start, inside⟩
  | exhausted layout =>
    intro start member
    obtain rfl := List.mem_singleton.mp member
    exact ⟨Nat.le_refl body.size, Nat.le_refl body.size⟩
  | field kept close forward spans behind ih =>
    intro start member
    rcases List.mem_cons.mp member with rfl | member
    · exact ⟨Nat.le_refl start, Nat.le_trans spans.forward spans.inside⟩
    · obtain ⟨lower, upper⟩ := ih start member
      exact ⟨Nat.le_trans spans.forward lower, upper⟩

/-- **The offsets rise**, since every field has bytes. -/
theorem pairwise (decoded : layout.Decoded policy body title offset offsets values) :
    offsets.Pairwise (· < ·) := by
  induction decoded with
  | done inside => exact List.pairwise_singleton _ _
  | exhausted layout => exact List.pairwise_singleton _ _
  | field kept close forward spans behind ih =>
    refine List.pairwise_cons.mpr ⟨?_, ih⟩
    intro start member
    exact Nat.lt_of_lt_of_le forward (behind.range_of_mem start member).1

theorem length_values (decoded : layout.Decoded policy body title offset offsets values) :
    values.length = layout.length := by
  induction decoded with
  | done inside => rfl
  | exhausted layout => exact length_defaults layout
  | field kept close forward spans behind ih => rw [List.length_cons, ih, Layout.length]

/-- Where every field is in front, there is none to get its default. -/
theorem take_append_drop (decoded : layout.Decoded policy body title offset offsets values) :
    values.take layout.length ++ layout.defaults.drop layout.length = values := by
  rw [← decoded.length_values, List.take_length, decoded.length_values, ← length_defaults,
    List.drop_length, List.append_nil]

/-- **A field that the section has no room for is worth its default**, since those in front of it
take their least sizes. By induction on how the fields were met. -/
theorem getElem?_of_short (decoded : layout.Decoded policy body title offset offsets values)
    (short : body.size < offset + (layout.take (index + 1)).leastSize) :
    values[index]? = layout.defaults[index]? := by
  induction decoded generalizing index with
  | done inside => rfl
  | exhausted layout => rfl
  | @field slot kind rest offset next offsets value values kept close forward spans behind ih =>
    have reach := Kind.leastSize_le_of_read spans.read
    have inside := spans.inside
    rw [Layout.take, leastSize, if_neg (by simp [kept]), close] at short
    cases index with
    | zero =>
      rw [Layout.take, leastSize] at short
      omega
    | succ index =>
      refine ih ?_
      omega

/-! ### The walk over a part of the fields or of the section -/

/-- The first fields alone are read as they are in front of the others. -/
theorem walk_take (decoded : layout.Decoded policy body title offset offsets values)
    (here : offsets[index]? = some start) :
    (walk policy body title true false (layout.take index) offset).result = .ok (values.take index,
      start) := by
  induction decoded generalizing index with
  | done inside =>
    cases index with
    | zero =>
      cases here
      rfl
    | succ index => cases here
  | exhausted layout =>
    cases index with
    | zero =>
      cases here
      rfl
    | succ index => cases here
  | field kept close forward spans behind ih =>
    cases index with
    | zero =>
      cases here
      rfl
    | succ index =>
      show (walk policy body title true false (Layout.field _ _ (Layout.take index _)) _).result = _
      rw [walk_field_of_lt kept close (Nat.lt_of_lt_of_le forward spans.inside)]
      exact Lenient.result_inFront_eq_ok.mpr ⟨_, _, _, Lenient.result_inField_eq_ok.mpr spans.read,
        ih here, rfl⟩

/-- **A section cut at the end of a field, or anywhere behind the last one**: the fields in front of
the cut have their values, and the others their defaults. -/
theorem walk_cut (decoded : layout.Decoded policy body title offset offsets values)
    (fit : layout.DefaultsFit) (here : offsets[index]? = some start) {size : Nat}
    (inside : size ≤ body.size) (place : size = start ∨ index = layout.length ∧ start ≤ size) :
    (walk policy (body.cut size) title false false layout offset).result =
      .ok (values.take index ++ layout.defaults.drop index, start) := by
  have reached : start ≤ size := by omega
  -- A walk over fields that begin at the cut reads nothing.
  have nothing {layout : Layout} (fit : layout.DefaultsFit) :
      (walk policy (body.cut size) title false false layout size).result = .ok (layout.defaults,
        size) := by
    rw [walk_of_unread fit (unread?_of_exhausted (Nat.le_of_eq (Body.size_cut inside)) false)]
    rfl
  induction decoded generalizing index with
  | done _ =>
    cases index with
    | zero =>
      cases here
      rfl
    | succ index => cases here
  | exhausted layout =>
    cases index with
    | zero =>
      cases here
      obtain rfl : size = body.size := Nat.le_antisymm inside reached
      exact nothing fit
    | succ index => cases here
  | field kept close forward spans behind ih =>
    cases index with
    | zero =>
      cases here
      rcases place with rfl | ⟨none_, _⟩
      · exact nothing fit
      · cases none_
    | succ index =>
      have passed := Nat.le_trans (behind.range_of_mem start (List.mem_of_getElem? here)).1 reached
      have tail := ih fit.2 here (place.imp_right fun ⟨all, kept⟩ => ⟨Nat.succ.inj all, kept⟩)
      rw [walk_field_of_lt kept close (by rw [Body.size_cut inside]; omega)]
      exact Lenient.result_inFront_eq_ok.mpr
        ⟨_, _, _, Lenient.result_inField_eq_ok.mpr (spans.read_cut passed inside), tail, rfl⟩

/-- **A section cut inside a field**: the field reaches past the end. -/
theorem walk_cut_inside (decoded : layout.Decoded policy body title offset offsets values)
    (here : offsets[index]? = some start) (next : offsets[index + 1]? = some stop) {size : Nat}
    (behind : start < size) (lost : size < stop) :
    ∃ slot kind, layout.slots[index]? = some (slot, some kind) ∧ ∃ position width,
      (walk policy (body.cut size) title false false layout offset).result =
        .error (.inField title slot.name (.outOfRange position width size)) := by
  induction decoded generalizing index with
  | done _ => cases next
  | exhausted _ => cases next
  | @field slot kind rest offset middle offsets value values kept close forward spans later ih =>
    have whole := Decoded.field kept close forward spans later
    have lower := (whole.range_of_mem start (List.mem_of_getElem? here)).1
    have upper := (whole.range_of_mem stop (List.mem_of_getElem? next)).2
    have inside : size ≤ body.size := Nat.le_of_lt (Nat.lt_of_lt_of_le lost upper)
    have before : offset < (body.cut size).size := by
      rw [Body.size_cut inside]
      exact Nat.lt_of_le_of_lt lower behind
    rw [walk_field_of_lt kept close before]
    cases index with
    | zero =>
      cases here
      obtain rfl : middle = stop := Option.some.inj (later.getElem?_zero.symm.trans next)
      obtain ⟨position, width, failed⟩ := spans.short size (Nat.le_of_lt behind) lost
      refine ⟨slot, kind, rfl, position, width, Lenient.result_inFront_eq_error.mpr (.inl ?_)⟩
      exact Lenient.result_inField_eq_error.mpr ⟨_, failed, rfl⟩
    | succ index =>
      obtain ⟨slot, kind, found, position, width, failed⟩ := ih here next
      have passed :=
        Nat.le_trans (later.range_of_mem start (List.mem_of_getElem? here)).1 (Nat.le_of_lt behind)
      refine ⟨slot, kind, found, position, width,
        Lenient.result_inFront_eq_error.mpr (.inr ⟨value, middle, ?_, failed⟩)⟩
      exact Lenient.result_inField_eq_ok.mpr (spans.read_cut passed inside)

/-- **There is no other place for a cut** than the end of a field, the bytes behind all fields, and
the inside of a field that has been read. -/
theorem exists_place (decoded : layout.Decoded policy body title offset offsets values) {size : Nat}
    (behind : offset ≤ size) (inside : size ≤ body.size) :
    size ∈ offsets ∨ (∃ last, offsets[layout.length]? = some last ∧ last < size) ∨
      ∃ index start stop, offsets[index]? = some start ∧ offsets[index + 1]? = some stop ∧
        start < size ∧ size < stop := by
  induction decoded with
  | @done offset _ =>
    rcases Nat.lt_or_eq_of_le behind with beyond | rfl
    · exact .inr (.inl ⟨offset, rfl, beyond⟩)
    · exact .inl (List.mem_singleton.mpr rfl)
  | exhausted layout => exact .inl (List.mem_singleton.mpr (Nat.le_antisymm inside behind))
  | @field slot kind rest offset middle offsets value values kept close forward spans later ih =>
    by_cases passed : middle ≤ size
    · rcases ih passed with here | ⟨last, found, beyond⟩ | ⟨index, start, stop, here, next, among⟩
      · exact .inl (List.mem_cons_of_mem _ here)
      · exact .inr (.inl ⟨last, found, beyond⟩)
      · exact .inr (.inr ⟨index + 1, start, stop, here, next, among⟩)
    · rcases Nat.lt_or_eq_of_le behind with among | rfl
      · exact .inr (.inr ⟨0, offset, middle, rfl, later.getElem?_zero, among,
          Nat.lt_of_not_le passed⟩)
      · exact .inl List.mem_cons_self

/-- **No cut gives a field a wrong value**: it has its own or its default, if the walk succeeds at
all. -/
theorem values_of_walk_cut (decoded : layout.Decoded policy body title offset offsets values)
    (fit : layout.DefaultsFit) {size : Nat} (behind : offset ≤ size) (inside : size ≤ body.size)
    {others : List Value}
    (found : (walk policy (body.cut size) title false false layout offset).result =
      .ok (others, last)) :
    ∃ count, others = values.take count ++ layout.defaults.drop count := by
  rcases decoded.exists_place behind inside with
    here | ⟨stop, here, beyond⟩ | ⟨index, start, stop, here, next, among⟩
  · obtain ⟨index, here⟩ := List.mem_iff_getElem?.mp here
    rw [decoded.walk_cut fit here inside (.inl rfl)] at found
    cases found
    exact ⟨index, rfl⟩
  · rw [decoded.walk_cut fit here inside (.inr ⟨rfl, Nat.le_of_lt beyond⟩)] at found
    cases found
    exact ⟨layout.length, rfl⟩
  · obtain ⟨slot, kind, _, position, width, failed⟩ :=
      decoded.walk_cut_inside here next among.1 among.2
    rw [failed] at found
    cases found

/-! ### The tolerated errors of the first fields -/

/-- Fields that are worth their defaults tolerate nothing, so that the errors are those of the
fields in front. -/
theorem misreadings_cut (decoded : layout.Decoded policy body title offset offsets values)
    (fit : layout.DefaultsFit) (here : offsets[index]? = some start) (count : Nat) :
    layout.misreadings count title (values.take index ++ layout.defaults.drop index) =
      (layout.take index).misreadings count title (values.take index) := by
  have nothing {layout : Layout} (fit : layout.DefaultsFit) :
    layout.misreadings count title layout.defaults = [] :=
    misreadings_of_absent (absent_of_fit fit)
  induction decoded generalizing index with
  | done _ =>
    cases index with
    | zero => rfl
    | succ index => cases here
  | exhausted layout =>
    cases index with
    | zero => exact nothing fit
    | succ index => cases here
  | @field slot kind rest offset next offsets value values kept close forward spans behind ih =>
    cases index with
    | zero => exact nothing fit
    | succ index => exact congrArg (slot.misreading title count value ++ ·) (ih fit.2 here)

end Decoded

/-- A walk that succeeds is told from its values and the offset where it ends. -/
theorem walk_eq_of_result {complete stopped : Bool}
    (found : (walk policy body title complete stopped layout offset).result = .ok (values, last)) :
    walk policy body title complete stopped layout offset =
      ⟨.ok (values, last), layout.misreadings body.strings.length title values⟩ := by
  rw [← tolerated_of_walk found, ← found]

/-- The first fields alone, with what they tolerate. -/
theorem Decoded.decode_take (decoded : layout.Decoded policy body title offset offsets values)
    {index start : Nat} (here : offsets[index]? = some start) :
    (layout.take index).decode policy body title offset true =
      ⟨.ok (values.take index, start),
        (layout.take index).misreadings body.strings.length title (values.take index)⟩ :=
  walk_eq_of_result (decoded.walk_take here)

/-- **What a cut section is read as**: the first fields, with what they tolerate, and the defaults
of the others. -/
theorem Decoded.decode_cut (decoded : layout.Decoded policy body title offset offsets values)
    (fit : layout.DefaultsFit) {index start size : Nat} (here : offsets[index]? = some start)
    (inside : size ≤ body.size) (place : size = start ∨ index = layout.length ∧ start ≤ size) :
    layout.decode policy (body.cut size) title offset false =
      ⟨.ok (values.take index ++ layout.defaults.drop index, start),
        ((layout.take index).decode policy body title offset true).tolerated⟩ := by
  rw [decoded.decode_take here, ← decoded.misreadings_cut fit here]
  exact walk_eq_of_result (decoded.walk_cut fit here inside place)

theorem misreadings_take_prefix (count : Nat) (title : String) (layout : Layout)
    (values : List Value) (index : Nat) :
    (layout.take index).misreadings count title
      (values.take index) <+: layout.misreadings count title values := by
  induction layout generalizing values index with
  | done =>
    have none_ : (done : Layout).take index = done := by cases index <;> rfl
    rw [none_]
    exact List.nil_prefix
  | field slot kind rest ih =>
    cases index with
    | zero => exact List.nil_prefix
    | succ index =>
      cases values with
      | nil => exact List.nil_prefix
      | cons value values => exact (List.prefix_append_right_inj _).mpr (ih values index)
  | record slot name inner rest _ ih =>
    cases index with
    | zero => exact List.nil_prefix
    | succ index =>
      cases values with
      | nil => exact List.nil_prefix
      | cons value values =>
        cases value with
        | record fields => exact (List.prefix_append_right_inj _).mpr (ih values index)
        | _ => exact List.nil_prefix

end Layout

end Dmi
