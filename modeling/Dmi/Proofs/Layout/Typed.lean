/-
**What a reading gives.**

A reading gives one value for each field, of the kind of the field and such that it can be written
again, and ends inside the section. Main statements:

* `Layout.accepts_of_walk` — the values have the kinds of the fields;
* `Layout.range_of_walk` — a walk stays inside the section.
-/

import Dmi.Layout.Encode
import Dmi.Proofs.Body.Growth
import Dmi.Proofs.Layout.Leftover
import Dmi.Proofs.Layout.Each

namespace Dmi

/-! ### Values that can be written -/

namespace ListKind

variable {kind : ListKind} {body : Body}

/-- An item of the right shape can be written. -/
theorem exists_writeItem {item : Value} (fits : kind.FitsItem item) (body : Body) :
    ∃ later, kind.writeItem item body = .ok () later := by
  cases kind with
  | handles =>
    obtain ⟨handle, rfl⟩ := fits
    exact ⟨_, rfl⟩
  | elements =>
    obtain ⟨type, least, most, rfl⟩ := fits
    exact ⟨_, rfl⟩
  | peers =>
    obtain ⟨segment, bus, function, width, rfl⟩ := fits
    exact ⟨_, rfl⟩

theorem exists_writeItems {items : List Value} (fit : ∀ item ∈ items, kind.FitsItem item)
    (body : Body) : ∃ later, kind.writeItems items body = .ok () later := by
  induction items generalizing body with
  | nil => exact ⟨body, rfl⟩
  | cons item items ih =>
    obtain ⟨middle, head⟩ := exists_writeItem (fit item List.mem_cons_self) body
    obtain ⟨later, tail⟩ :=
      ih (fun other member => fit other (List.mem_cons_of_mem _ member)) middle
    exact ⟨later, Draft.bind_eq_ok_iff.mpr ⟨(), middle, head, tail⟩⟩

/-- **A list of few items can be written**, if the items have the right shape. -/
theorem exists_write {items : List Value} (few : items.length < 256)
    (fit : ∀ item ∈ items, kind.FitsItem item)
    (body : Body) : ∃ later, kind.write (.list items) body = .ok () later := by
  have opening : ∃ middle, kind.writeCount (UInt8.ofNat items.length) body = .ok () middle := by
    cases kind <;> exact ⟨_, rfl⟩
  obtain ⟨middle, first⟩ := opening
  obtain ⟨later, rest⟩ := exists_writeItems fit middle
  refine ⟨later, ?_⟩
  rw [write, if_pos few]
  exact Draft.bind_eq_ok_iff.mpr ⟨(), middle, first, rest⟩

end ListKind

namespace Kind

/-- The value is one of this kind, and can be written if it is a list. -/
def Accepts (kind : Kind) (value : Value) : Prop :=
  kind.Fits value ∧
    ∀ sort, kind = .list sort → ∀ body, ∃ later, sort.write value body = .ok () later

variable {kind : Kind} {policy : StringPolicy} {body : Body} {record field : String}
  {offset next : Nat} {value : Value}

theorem accepts_of_read
    (found : (kind.read policy body record field offset).result = .ok (value, next)) :
    kind.Accepts value := by
  refine ⟨fits_of_read found, ?_⟩
  rintro sort rfl
  obtain ⟨_, here, _⟩ := read_list_eq_ok_iff.mp found
  obtain ⟨count, items, opening, rest, rfl, _⟩ := ListKind.read_eq_ok_iff.mp here
  obtain ⟨first, _, rfl⟩ := ListKind.exists_byte_of_readCount opening
  refine ListKind.exists_write ?_ (ListKind.fitsItems_of_read rest)
  rw [ListKind.length_of_readItems rest]
  exact first.toNat_lt

theorem accepts_of_absent {default : Option UInt64} (found : kind.absent default = .ok value) :
    kind.Accepts value := by
  refine ⟨fits_of_absent found, ?_⟩
  rintro sort rfl
  cases found
  exact ListKind.exists_write (by decide) (by simp)

end Kind

namespace Layout

variable {policy : StringPolicy} {body : Body} {title : String} {complete stopped : Bool}
  {layout : Layout} {offset next last : Nat} {values : List Value} {slot : Slot} {kind : Kind}
  {met : Encounter}

theorem Each.length_eq {holds : Kind → Value → Prop} (each : layout.Each holds values) :
    values.length = layout.length := by
  induction layout generalizing values with
  | done =>
    rw [show values = [] from each]
    rfl
  | field slot kind rest ih =>
    obtain ⟨value, others, rfl, _, behind⟩ := each
    rw [List.length_cons, ih behind, length]
  | record slot name inner rest _ ih =>
    obtain ⟨fields, others, rfl, _, behind⟩ := each
    rw [List.length_cons, ih behind, length]

/-- **Every value that a walk gives is of the kind of its field**, and can be written if it is a
list. -/
theorem accepts_of_walk
    (found : (walk policy body title complete stopped layout offset).result = .ok (values, last)) :
    layout.Each Kind.Accepts values :=
  each_of_walk (fun _ _ _ _ _ _ => Kind.accepts_of_read) (fun _ _ _ => Kind.accepts_of_absent) found

/-! ### A walk stays inside the section -/

theorem range_of_visit {value : Value} (inside : offset ≤ body.size)
    (found : (visit policy body title slot kind met offset).result = .ok (value, next)) :
    offset ≤ next ∧ next ≤ body.size := by
  cases fieldValue_of_visit found with
  | present read =>
    have bytes := Kind.spans_read read
    exact ⟨Nat.le_trans (Nat.le_add_right _ _) bytes.forward, bytes.inside⟩
  | ignored absent => exact ⟨Nat.le_refl offset, inside⟩
  | missing absent => exact ⟨Nat.le_refl offset, inside⟩

/-- A record is read forward, from a place inside the section if it is met as present. -/
theorem range_of_visitRecord {name : String} {inner : Layout} {value : Value}
    (inside : offset ≤ body.size) (begins : met = .present → offset + slot.skip < body.size)
    (range : ∀ {start stop : Nat} {fields : List Value}, start ≤ body.size →
      (walk policy body name true false inner start).result = .ok (fields, stop) →
        start ≤ stop ∧ stop ≤ body.size)
    (found : (visitRecord policy body title slot name inner met offset).result =
      .ok (value, next)) :
    offset ≤ next ∧ next ≤ body.size := by
  cases recordValue_of_visitRecord found with
  | present walked =>
    obtain ⟨forward, within⟩ := range (Nat.le_of_lt (begins rfl)) walked
    exact ⟨Nat.le_trans (Nat.le_add_right _ _) forward, within⟩
  | ignored absent => exact ⟨Nat.le_refl offset, inside⟩
  | missing kept walked => exact ⟨Nat.le_refl offset, inside⟩
  | missingIgnored ignored absent => exact ⟨Nat.le_refl offset, inside⟩

/-- **A walk goes forward only, and never past the section.** By induction on the layout, for walks
of every sort: a record begins inside the section, since it is met as present only there. -/
theorem range_of_walk (inside : offset ≤ body.size)
    (found : (walk policy body title complete stopped layout offset).result = .ok (values, last)) :
    offset ≤ last ∧ last ≤ body.size := by
  induction layout generalizing title complete stopped offset last values with
  | done =>
    cases found
    exact ⟨Nat.le_refl offset, inside⟩
  | field slot kind rest ih =>
    rw [walk_field] at found
    obtain ⟨value, next, others, head, tail, rfl⟩ := Lenient.result_inFront_eq_ok.mp found
    obtain ⟨forward, within⟩ := range_of_visit inside head
    obtain ⟨further, end_⟩ := ih within tail
    exact ⟨Nat.le_trans forward further, end_⟩
  | record slot name inner rest ihInner ihRest =>
    rw [walk_record] at found
    obtain ⟨value, next, others, head, tail, rfl⟩ := Lenient.result_inFront_eq_ok.mp found
    obtain ⟨forward, within⟩ := range_of_visitRecord inside inside_of_present ihInner head
    obtain ⟨further, end_⟩ := ihRest within tail
    exact ⟨Nat.le_trans forward further, end_⟩

end Layout

end Dmi
