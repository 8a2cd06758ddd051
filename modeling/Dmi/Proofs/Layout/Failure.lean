/-
**What a reading fails with.**

An error says where it arose: it names a field of the layout and the record that has the field, at
whatever depth the walk was. The only other failure is that the data ends before a complete reading
does. This holds of layouts whose defaults fit, where no field can fail for want of a default. Main
statements:

* `Layout.misread_of_walk` — what a walk fails with;
* `Layout.Misread.root_ne_misuse`, `Layout.Misread.exists_flaw`, `Layout.failure_of_walk` — what the
  error tells.
-/

import Dmi.Proofs.Layout.Defaults
import Dmi.Proofs.Layout.Flaw
import Dmi.Proofs.Layout.Plain

namespace Dmi

theorem Slot.eq_true_of_encounter {slot : Slot} {complete behind : Bool}
    (met : slot.encounter complete behind = .cutShort) : complete = true := by
  cases complete with
  | true => rfl
  | false =>
    unfold Slot.encounter at met
    split at met
    · cases met
    · split at met <;> cases met

namespace Layout

/-- The fields of a record called `title`, and those of the records in it, each behind the name of
its record. -/
def places (title : String) : Layout → List (String × String)
  | done => []
  | field slot _ rest => (title, slot.name) :: places title rest
  | record slot name inner rest => (title, slot.name) :: (places name inner ++ places title rest)

/-- The errors that a reading of a record called `title` can fail with. -/
inductive Failure (title : String) (complete : Bool) (layout : Layout) : Error → Prop
  /-- A cause arose in one of the fields. -/
  | inField {record field : String} (place : (record, field) ∈ layout.places title)
    (cause : Error) : Failure title complete layout (.inField record field cause)
  /-- A complete reading came to the end of the data. -/
  | cutShort (whole : complete = true) (offset : Nat) :
    Failure title complete layout (.endOfData (.named title) offset)

variable {policy : StringPolicy} {body : Body} {title : String} {complete : Bool} {error : Error}

/-- What a reading can fail with stays so with other fields in the layout. -/
theorem Failure.mono {layout whole : Layout} (failure : layout.Failure title complete error)
    (inside : ∀ place ∈ layout.places title, place ∈ whole.places title) :
    whole.Failure title complete error := by
  cases failure with
  | inField place cause => exact .inField (inside _ place) cause
  | cutShort whole offset => exact .cutShort whole offset

/-- The errors of a walk over a record called `title`, by the field that fails. -/
inductive Misread (policy : StringPolicy) (body : Body) :
    (title : String) → (complete : Bool) → (layout : Layout) → Error → Prop
  /-- The first field has a flaw. -/
  | flaw {title : String} {complete : Bool} {slot : Slot} {kind : Kind} {rest : Layout}
    {cause : Error} (flaw : kind.Flaw policy body cause) :
    Misread policy body title complete (field slot kind rest) (.inField title slot.name cause)
  /-- The first field is a record that cannot be read completely. -/
  | inside {title name : String} {complete : Bool} {slot : Slot} {inner rest : Layout}
    {cause : Error} (deeper : Misread policy body name true inner cause) :
    Misread policy body title complete (record slot name inner rest)
      (.inField title slot.name cause)
  /-- The first field is a missing record, which is read from where the walk has stopped and fails
  in a field of its own. -/
  | missing {title name : String} {complete : Bool} {slot : Slot} {inner rest : Layout}
    {error : Error} (deeper : Misread policy body name false inner error) :
    Misread policy body title complete (record slot name inner rest) error
  /-- A complete reading comes to the end of the data. -/
  | cutShort {title : String} {layout : Layout} (offset : Nat) :
    Misread policy body title true layout (.endOfData (.named title) offset)
  /-- One of the fields behind the first fails. -/
  | behindField {title : String} {complete : Bool} {slot : Slot} {kind : Kind} {rest : Layout}
    {error : Error} (behind : Misread policy body title complete rest error) :
    Misread policy body title complete (field slot kind rest) error
  | behindRecord {title name : String} {complete : Bool} {slot : Slot} {inner rest : Layout}
    {error : Error} (behind : Misread policy body title complete rest error) :
    Misread policy body title complete (record slot name inner rest) error

/-- A field fails because of its flaw, unless it must not be missing. Its default cannot fail, since
it fits. -/
theorem flaw_of_visit {slot : Slot} {kind : Kind} {met : Encounter} {offset : Nat}
    (fits : kind.DefaultFits slot.default)
    (failed : (visit policy body title slot kind met offset).result = .error error) :
    (∃ cause, kind.Flaw policy body cause ∧ error = .inField title slot.name cause) ∨
      met = .cutShort ∧ error = .endOfData (.named title) offset := by
  cases result_visit_eq_error_iff.mp failed with
  | present read => exact .inl ⟨_, Kind.flaw_of_read read, rfl⟩
  | ignored absent => exact absurd absent (Kind.absent_ne_error fits _)
  | missing absent => exact absurd absent (Kind.absent_ne_error fits _)
  | cutShort => exact .inr ⟨rfl, rfl⟩

/-- A record fails as its fields do. Missing, it is read from where the walk has stopped. -/
theorem misread_of_visitRecord {slot : Slot} {name : String} {inner rest : Layout} {met : Encounter}
    {offset : Nat} (fit : inner.DefaultsFit) (whole : met = .cutShort → complete = true)
    (deeper : ∀ {complete : Bool} {start : Nat} {cause : Error},
      (walk policy body name complete false inner start).result = .error cause →
        Misread policy body name complete inner cause)
    (failed : (visitRecord policy body title slot name inner met offset).result = .error error) :
    Misread policy body title complete (record slot name inner rest) error := by
  cases result_visitRecord_eq_error_iff.mp failed with
  | present walked => exact .inside (deeper walked)
  | ignored absent => exact absurd absent (absent_ne_error fit _)
  | missing kept walked => exact .missing (deeper walked)
  | missingIgnored ignored absent => exact absurd absent (absent_ne_error fit _)
  | cutShort =>
    obtain rfl := whole rfl
    exact .cutShort offset

/-- **What a walk fails with.** By induction on the layout: the first field of it fails, or those
behind it do. -/
theorem misread_of_walk {layout : Layout} (fit : layout.DefaultsFit) {stopped : Bool} {offset : Nat}
    (failed : (walk policy body title complete stopped layout offset).result = .error error) :
    Misread policy body title complete layout error := by
  induction layout generalizing title complete stopped offset error with
  | done => cases failed
  | field slot kind rest ih =>
    rw [walk_field] at failed
    rcases Lenient.result_inFront_eq_error.mp failed with head | ⟨_, _, _, tail⟩
    · rcases flaw_of_visit fit.1 head with ⟨cause, flaw, rfl⟩ | ⟨met, rfl⟩
      · exact .flaw flaw
      · obtain rfl := Slot.eq_true_of_encounter met
        exact .cutShort offset
    · exact .behindField (ih fit.2 tail)
  | record slot name inner rest ihInner ihRest =>
    rw [walk_record] at failed
    rcases Lenient.result_inFront_eq_error.mp failed with head | ⟨_, _, _, tail⟩
    · exact misread_of_visitRecord fit.1 Slot.eq_true_of_encounter (ihInner fit.1) head
    · exact .behindRecord (ihRest fit.2 tail)

/-! ### What the errors tell -/

namespace Misread

variable {layout : Layout}

/-- An error tells the field it arose in, unless a complete reading came to the end of the data. -/
theorem failure (misread : Misread policy body title complete layout error) :
    layout.Failure title complete error := by
  induction misread with
  | flaw flaw => exact .inField List.mem_cons_self _
  | inside deeper _ => exact .inField List.mem_cons_self _
  | missing deeper ih =>
    cases ih with
    | inField place cause =>
        exact .inField (List.mem_cons_of_mem _ (List.mem_append_left _ place)) cause
    -- A missing record is read as far as there are bytes, so that it is never cut short.
    | cutShort whole offset => cases whole
  | cutShort offset => exact .cutShort rfl offset
  | behindField behind ih => exact ih.mono fun _ => List.mem_cons_of_mem _
  | behindRecord behind ih =>
      exact ih.mono fun _ place => List.mem_cons_of_mem _ (List.mem_append_right _ place)

/-- **No reading blames the layout or the caller.** -/
theorem root_ne_misuse (misread : Misread policy body title complete layout error)
    (reason : Misuse) : error.root ≠ .misuse reason := by
  induction misread with
  | flaw flaw =>
    rw [Error.root_inField, flaw.root_eq]
    exact flaw.ne_misuse reason
  | cutShort offset => exact fun wrong => by cases wrong
  | inside deeper ih => exact ih
  | missing deeper ih => exact ih
  | behindField behind ih => exact ih
  | behindRecord behind ih => exact ih

/-- **The field in which a walk over plain fields fails**, when the walk may end early. -/
theorem exists_flaw (plain : layout.isPlain)
    (misread : Misread policy body title false layout error) :
    ∃ slot kind cause, (slot, some kind) ∈ layout.slots ∧ kind.Flaw policy body cause ∧
      error = .inField title slot.name cause := by
  induction layout with
  | done => cases misread
  | field slot kind rest ih =>
    rw [isPlain, Bool.and_eq_true] at plain
    cases misread with
    | flaw flaw => exact ⟨slot, kind, _, List.mem_cons_self, flaw, rfl⟩
    | behindField behind =>
      obtain ⟨other, sort, cause, place, flaw, same⟩ := ih plain.2 behind
      exact ⟨other, sort, cause, List.mem_cons_of_mem _ place, flaw, same⟩
  | record slot name inner rest _ _ => cases plain

end Misread

/-- **Where a walk fails**: in a field of the layout, at whatever depth, or at the end of the
data. -/
theorem failure_of_walk {layout : Layout} (fit : layout.DefaultsFit) {stopped : Bool} {offset : Nat}
    (failed : (walk policy body title complete stopped layout offset).result = .error error) :
    layout.Failure title complete error :=
  (misread_of_walk fit failed).failure

end Layout

end Dmi
