/-
**The path that an error carries.**

The error of a field says which field of which record it arose in. For a field of a record inside
another, it should say so at each level: that the inner record failed in its field, and the outer
one in the field that is the inner record. The fields that are read do so. The default of an ignored
field is reported without any place, though, and a record that is missing reports what its fields
report, without a place of its own. Main statements:

* `Layout.traced_of_walk` — the error of a walk that does not go astray carries its whole path;
* `Layout.stray_of_astray`, `Layout.Stray.not_traced` — the error of one that goes astray does not;
* `Layout.traced_of_decode` — both together.
-/

import Dmi.Proofs.Layout.Failure

namespace Dmi

/-! ### Defaults that do not fit -/

theorem Kind.absent_of_misfit {kind : Kind} {default : Option UInt64}
    (misfit : ¬kind.DefaultFits default) :
    ∃ reason, kind.absent default = .error (.misuse reason) := by
  cases kind with
  | number width => exact ⟨.defaultTooWide, if_neg misfit⟩
  | text => exact absurd trivial misfit
  | bytes count =>
    cases default with
    | none => exact absurd rfl misfit
    | some value => exact ⟨.defaultOnBytes, rfl⟩
  | list kind => exact absurd trivial misfit

theorem Kind.misuse_of_absent {kind : Kind} {default : Option UInt64} {error : Error}
    (failed : kind.absent default = .error error) : ∃ reason, error = .misuse reason := by
  by_cases fits : kind.DefaultFits default
  · exact absurd failed (absent_ne_error fits error)
  · obtain ⟨reason, found⟩ := absent_of_misfit fits
    rw [found] at failed
    cases failed
    exact ⟨reason, rfl⟩

theorem Kind.Flaw.causes_eq {kind : Kind} {policy : StringPolicy} {body : Body} {error : Error}
    (flaw : kind.Flaw policy body error) : error.causes = [] := by
  cases flaw <;> rfl

namespace Slot

variable {slot : Slot} {complete behind : Bool}

theorem ignored_of_encounter (met : slot.encounter complete behind = .ignored) :
    slot.ignored = true := by
  unfold encounter at met
  split at met
  · split at met <;> cases met
  · split at met
    · assumption
    · cases met

theorem encounter_ne_missing : slot.encounter true behind ≠ .missing := by
  unfold encounter
  cases behind <;> cases slot.ignored <;> decide

end Slot

namespace Layout

variable {policy : StringPolicy} {body : Body} {title name : String} {complete stopped : Bool}
  {layout inner rest : Layout} {slot : Slot} {met : Encounter} {offset : Nat} {error : Error}

theorem absent_of_misfit (misfit : ¬layout.DefaultsFit) :
    ∃ reason, layout.absent = .error (.misuse reason) := by
  induction layout with
  | done => exact absurd trivial misfit
  | field slot kind rest ih =>
    rw [absent]
    by_cases fits : kind.DefaultFits slot.default
    · obtain ⟨reason, tail⟩ := ih fun behind => misfit ⟨fits, behind⟩
      refine ⟨reason, Error.bind_eq_error_iff.mpr (.inr ⟨_, Kind.absent_of_fits fits, ?_⟩)⟩
      exact Error.bind_eq_error_iff.mpr (.inl tail)
    · obtain ⟨reason, head⟩ := Kind.absent_of_misfit fits
      exact ⟨reason, Error.bind_eq_error_iff.mpr (.inl head)⟩
  | record slot name inner rest ihInner ihRest =>
    rw [absent]
    by_cases fit : inner.DefaultsFit
    · obtain ⟨reason, tail⟩ := ihRest fun behind => misfit ⟨fit, behind⟩
      refine ⟨reason, Error.bind_eq_error_iff.mpr (.inr ⟨_, absent_of_fit fit, ?_⟩)⟩
      exact Error.bind_eq_error_iff.mpr (.inl tail)
    · obtain ⟨reason, head⟩ := ihInner fit
      exact ⟨reason, Error.bind_eq_error_iff.mpr (.inl head)⟩

theorem misuse_of_absent (failed : layout.absent = .error error) :
    ∃ reason, error = .misuse reason := by
  by_cases fit : layout.DefaultsFit
  · exact absurd failed (absent_ne_error fit error)
  · obtain ⟨reason, found⟩ := absent_of_misfit fit
    rw [found] at failed
    cases failed
    exact ⟨reason, rfl⟩

/-! ### Paths -/

/-- The error of a reading of the record `title` carries its whole path. -/
inductive Traced : (title : String) → (complete : Bool) → (layout : Layout) → Error → Prop
  /-- A complete reading of the record itself has come to the end of the data, in front of a
  field. -/
  | cutShort {title : String} {layout : Layout} (fields : layout ≠ done) (offset : Nat) :
    Traced title true layout (.endOfData (.named title) offset)
  /-- The first field has failed, and its cause is in no field. -/
  | field {title : String} {complete : Bool} {slot : Slot} {kind : Kind} {rest : Layout}
    {cause : Error} (alone : cause.causes = []) :
    Traced title complete (field slot kind rest) (.inField title slot.name cause)
  /-- The first field is a record, whose error carries the path from there on. -/
  | record {title name : String} {complete : Bool} {slot : Slot} {inner rest : Layout}
    {cause : Error} (deeper : Traced name true inner cause) :
    Traced title complete (record slot name inner rest) (.inField title slot.name cause)
  | behindField {title : String} {complete : Bool} {slot : Slot} {kind : Kind} {rest : Layout}
    {error : Error} (behind : Traced title complete rest error) :
    Traced title complete (field slot kind rest) error
  | behindRecord {title name : String} {complete : Bool} {slot : Slot} {inner rest : Layout}
    {error : Error} (behind : Traced title complete rest error) :
    Traced title complete (record slot name inner rest) error

/-- A record fails without a place in it. How it is walked, if it is present, is told by
`inside`. -/
def LosesRecord (policy : StringPolicy) (body : Body) (slot : Slot) (name : String) (inner : Layout)
    (met : Encounter) (offset : Nat) (inside : Prop) : Prop :=
  match met with
  | .present => inside
  | .ignored => ¬inner.DefaultsFit
  | .missing =>
    if slot.ignored then ¬inner.DefaultsFit
    else ∃ error, (walk policy body name false false inner offset).result = .error error
  | .cutShort => False

/-- The walk comes to a field whose failure it does not report with its place. Such a field is
ignored, and its default does not fit; or it is a record with an error inside, and is missing; or a
record in which the walk goes astray. -/
def Astray (policy : StringPolicy) (body : Body) (title : String) (complete stopped : Bool) :
    Layout → (offset : Nat) → Prop
  | done, _ => False
  | field slot kind rest, offset =>
    let behind := stopped || slot.isBehind body.size offset
    let met := slot.encounter complete behind
    (met = .ignored ∧ ¬kind.DefaultFits slot.default) ∨
      ∃ value next, (visit policy body title slot kind met offset).result = .ok (value, next) ∧
        Astray policy body title complete behind rest next
  | record slot name inner rest, offset =>
    let behind := stopped || slot.isBehind body.size offset
    let met := slot.encounter complete behind
    LosesRecord policy body slot name inner met offset
      (Astray policy body name true false inner (offset + slot.skip)) ∨
      ∃ value next, (visitRecord policy body title slot name inner met offset).result =
        .ok (value, next) ∧ Astray policy body title complete behind rest next

/-! ### Walks that do not go astray -/

/-- A field fails with its place, unless it is ignored. -/
theorem FieldError.traced {kind : Kind}
    (failed : FieldError policy body title slot kind offset met error)
    (whole : met = .cutShort → complete = true)
    (fits : met = .ignored → kind.DefaultFits slot.default) :
    Traced title complete (field slot kind rest) error := by
  cases failed with
  | present read => exact .field (Kind.flaw_of_read read).causes_eq
  | ignored absent => exact absurd absent (Kind.absent_ne_error (fits rfl) _)
  | missing absent =>
    obtain ⟨reason, rfl⟩ := Kind.misuse_of_absent absent
    exact .field rfl
  | cutShort =>
    obtain rfl := whole rfl
    refine .cutShort ?_ offset
    intro wrong
    cases wrong

/-- A record fails with its place, if it is present and its own error carries the path from there
on. -/
theorem RecordError.traced {inside : Prop}
    (failed : RecordError policy body title slot name inner offset met error)
    (whole : met = .cutShort → complete = true)
    (straight : ¬LosesRecord policy body slot name inner met offset inside)
    (deeper : ∀ {cause : Error}, ¬inside →
      (walk policy body name true false inner (offset + slot.skip)).result = .error cause →
        Traced name true inner cause) :
    Traced title complete (record slot name inner rest) error := by
  cases failed with
  | present walked => exact .record (deeper straight walked)
  | ignored absent => exact absurd absent (absent_ne_error (Classical.not_not.mp straight) _)
  | missing kept walked =>
    rw [LosesRecord, kept] at straight
    exact absurd ⟨error, walked⟩ straight
  | missingIgnored ignored absent =>
    rw [LosesRecord, ignored] at straight
    exact absurd absent (absent_ne_error (Classical.not_not.mp straight) _)
  | cutShort =>
    obtain rfl := whole rfl
    refine .cutShort ?_ offset
    intro wrong
    cases wrong

/-- **A walk that does not go astray fails with the whole path.** By induction on the layout: the
first field fails, or those behind it do, to which the walk comes only if the first one does not
fail. -/
theorem traced_of_walk (straight : ¬layout.Astray policy body title complete stopped offset)
    (failed : (walk policy body title complete stopped layout offset).result = .error error) :
    Traced title complete layout error := by
  induction layout generalizing title complete stopped offset error with
  | done => cases failed
  | field slot kind rest ih =>
    obtain ⟨here, behind⟩ := not_or.mp straight
    rw [walk_field] at failed
    rcases Lenient.result_inFront_eq_error.mp failed with head | ⟨value, next, head, tail⟩
    · have fits (met : slot.encounter complete (stopped || slot.isBehind body.size offset) =
        .ignored) :
          kind.DefaultFits slot.default := Classical.not_not.mp fun misfit => here ⟨met, misfit⟩
      exact (result_visit_eq_error_iff.mp head).traced Slot.eq_true_of_encounter fits
    · exact .behindField (ih (fun astray => behind ⟨value, next, head, astray⟩) tail)
  | record slot name inner rest ihInner ihRest =>
    obtain ⟨here, behind⟩ := not_or.mp straight
    rw [walk_record] at failed
    rcases Lenient.result_inFront_eq_error.mp failed with head | ⟨value, next, head, tail⟩
    · exact (result_visitRecord_eq_error_iff.mp head).traced Slot.eq_true_of_encounter here
        fun inside => ihInner inside
    · exact .behindRecord (ihRest (fun astray => behind ⟨value, next, head, astray⟩) tail)

/-! ### Walks that go astray -/

/-- The names of the fields. -/
def names (layout : Layout) : List String := layout.slots.map fun place => place.1.name

/-- The titles of the records inside, at every depth. -/
def titles : Layout → List String
  | done => []
  | field _ _ rest => rest.titles
  | record _ name inner rest => name :: (inner.titles ++ rest.titles)

/-- No two fields of a record have the same name, and no record has the title of one that it is
inside. -/
def NamesApart (title : String) : Layout → Prop
  | done => True
  | field slot _ rest => slot.name ∉ rest.names ∧ rest.NamesApart title
  | record slot name inner rest =>
    slot.name ∉ rest.names ∧ title ∉ name :: inner.titles ∧ inner.NamesApart name ∧
      rest.NamesApart title

/-- The error of a reading of the record `title` lacks a part of its path. -/
inductive Stray : (title : String) → (layout : Layout) → Error → Prop
  /-- It is in no field at all. -/
  | bare {title : String} {layout : Layout} (reason : Misuse) : Stray title layout (.misuse reason)
  /-- It is in a field of a record inside, but not in the field that is that record. -/
  | foreign {title record field : String} {layout : Layout} {cause : Error}
    (inside : record ∈ layout.titles) : Stray title layout (.inField record field cause)
  /-- It is in a record, and lacks a part of the path from there on. -/
  | inside {title name : String} {slot : Slot} {inner rest : Layout} {cause : Error}
    (deeper : Stray name inner cause) :
    Stray title (record slot name inner rest) (.inField title slot.name cause)
  | behindField {title : String} {slot : Slot} {kind : Kind} {rest : Layout} {error : Error}
      (behind : Stray title rest error) : Stray title (field slot kind rest) error
  | behindRecord {title name : String} {slot : Slot} {inner rest : Layout} {error : Error}
      (behind : Stray title rest error) : Stray title (record slot name inner rest) error

theorem Traced.not_misuse {reason : Misuse} : ¬Traced title complete layout (.misuse reason) := by
  intro traced
  generalize same : Error.misuse reason = error at traced
  induction traced with
  | behindField behind ih => exact ih same
  | behindRecord behind ih => exact ih same
  | _ => cases same

/-- The field that a path begins with. -/
theorem Traced.mem_names {record field : String} {cause : Error}
    (traced : Traced title complete layout (.inField record field cause)) :
    record = title ∧ field ∈ layout.names := by
  generalize same : Error.inField record field cause = error at traced
  induction traced with
  | cutShort => cases same
  | field | record =>
    cases same
    exact ⟨rfl, List.mem_cons_self⟩
  | behindField behind ih | behindRecord behind ih =>
    obtain ⟨here, member⟩ := ih same
    exact ⟨here, List.mem_cons_of_mem _ member⟩

theorem Stray.mem_names {record field : String} {cause : Error}
    (stray : Stray title layout (.inField record field cause)) :
    record ∈ layout.titles ∨ record = title ∧ field ∈ layout.names := by
  generalize same : Error.inField record field cause = error at stray
  induction stray with
  | bare => cases same
  | foreign inside =>
    cases same
    exact .inl inside
  | inside =>
    cases same
    exact .inr ⟨rfl, List.mem_cons_self⟩
  | behindField behind ih =>
      exact (ih same).imp_right fun here => ⟨here.1, List.mem_cons_of_mem _ here.2⟩
  | behindRecord behind ih =>
    refine (ih same).imp (fun member => ?_) fun here => ⟨here.1, List.mem_cons_of_mem _ here.2⟩
    exact List.mem_cons_of_mem _ (List.mem_append_right _ member)

theorem Stray.ne_endOfData (stray : Stray title layout error) (part : Part) (place : Nat) :
    error ≠ .endOfData part place := by
  induction stray with
  | behindField behind ih | behindRecord behind ih => exact ih
  | _ =>
    intro wrong
    cases wrong

theorem NamesApart.not_mem_titles (apart : layout.NamesApart title) : title ∉ layout.titles := by
  induction layout with
  | done => exact List.not_mem_nil
  | field slot kind rest ih => exact ih apart.2
  | record slot name inner rest _ ih =>
    obtain ⟨_, other, _, behind⟩ := apart
    rw [titles, ← List.cons_append, List.mem_append]
    exact not_or.mpr ⟨other, ih behind⟩

/-- **An error that lacks a part of its path does not carry it**, where the names tell the fields
apart. -/
theorem Stray.not_traced (apart : layout.NamesApart title) (stray : Stray title layout error) :
    ¬Traced title complete layout error := by
  induction stray generalizing complete with
  | bare reason => exact Traced.not_misuse
  | foreign inside =>
    intro traced
    obtain ⟨rfl, _⟩ := traced.mem_names
    exact apart.not_mem_titles inside
  | inside deeper ih =>
    obtain ⟨single, _, deep, _⟩ := apart
    intro traced
    cases traced with
    | record path => exact ih deep path
    | behindRecord behind => exact single behind.mem_names.2
  | behindField behind ih =>
    obtain ⟨single, apart⟩ := apart
    intro traced
    cases traced with
    | cutShort => exact behind.ne_endOfData _ _ rfl
    | field alone =>
      rcases behind.mem_names with member | ⟨_, member⟩
      · exact apart.not_mem_titles member
      · exact single member
    | behindField traced => exact ih apart traced
  | behindRecord behind ih =>
    obtain ⟨single, _, _, apart⟩ := apart
    intro traced
    cases traced with
    | cutShort => exact behind.ne_endOfData _ _ rfl
    | record path =>
      rcases behind.mem_names with member | ⟨_, member⟩
      · exact apart.not_mem_titles member
      · exact single member
    | behindRecord traced => exact ih apart traced

/-- What a reading of the record `title` fails with, whether its path is whole or not. -/
inductive Origin (title : String) (complete : Bool) (layout : Layout) : Error → Prop
  | bare (reason : Misuse) : Origin title complete layout (.misuse reason)
  | inField {record : String} (known : record ∈ title :: layout.titles) (field : String)
    (cause : Error) : Origin title complete layout (.inField record field cause)
  | cutShort (whole : complete = true) (place : Nat) :
    Origin title complete layout (.endOfData (.named title) place)

theorem Origin.mono (origin : rest.Origin title complete error)
    (inside : ∀ record ∈ rest.titles, record ∈ layout.titles) :
    layout.Origin title complete error := by
  cases origin with
  | bare reason => exact .bare reason
  | inField known field cause =>
    rcases List.mem_cons.mp known with rfl | known
    · exact .inField List.mem_cons_self field cause
    · exact .inField (List.mem_cons_of_mem _ (inside _ known)) field cause
  | cutShort whole place => exact .cutShort whole place

/-- The error of a record inside that is missing stays as it is. -/
theorem Origin.stray (origin : inner.Origin name false error) :
    Stray title (record slot name inner rest) error := by
  cases origin with
  | bare reason => exact .bare reason
  | inField known field cause => exact .foreign (List.mem_append_left rest.titles known)
  | cutShort whole place => cases whole

theorem Origin.outside (origin : inner.Origin name false error) :
    (record slot name inner rest).Origin title complete error := by
  cases origin with
  | bare reason => exact .bare reason
  | inField known field cause =>
    exact .inField (List.mem_cons_of_mem _ (List.mem_append_left rest.titles known)) field cause
  | cutShort whole place => cases whole

theorem FieldError.origin {kind : Kind}
    (failed : FieldError policy body title slot kind offset met error)
    (whole : met = .cutShort → complete = true) : layout.Origin title complete error := by
  cases failed with
  | present read => exact .inField List.mem_cons_self _ _
  | ignored absent =>
    obtain ⟨reason, rfl⟩ := Kind.misuse_of_absent absent
    exact .bare reason
  | missing absent => exact .inField List.mem_cons_self _ _
  | cutShort => exact .cutShort (whole rfl) offset

theorem RecordError.origin (failed : RecordError policy body title slot name inner offset met error)
    (whole : met = .cutShort → complete = true)
    (deeper : ∀ {cause : Error},
      (walk policy body name false false inner offset).result = .error cause →
      inner.Origin name false cause) :
    (record slot name inner rest).Origin title complete error := by
  cases failed with
  | present walked => exact .inField List.mem_cons_self _ _
  | ignored absent =>
    obtain ⟨reason, rfl⟩ := misuse_of_absent absent
    exact .bare reason
  | missing kept walked => exact (deeper walked).outside
  | missingIgnored ignored absent => exact .inField List.mem_cons_self _ _
  | cutShort => exact .cutShort (whole rfl) offset

/-- **What any walk fails with**, whatever the defaults are. -/
theorem origin_of_walk
    (failed : (walk policy body title complete stopped layout offset).result = .error error) :
    layout.Origin title complete error := by
  induction layout generalizing title complete stopped offset error with
  | done => cases failed
  | field slot kind rest ih =>
    rw [walk_field] at failed
    rcases Lenient.result_inFront_eq_error.mp failed with head | ⟨_, _, _, tail⟩
    · exact (result_visit_eq_error_iff.mp head).origin Slot.eq_true_of_encounter
    · exact (ih tail).mono fun _ => id
  | record slot name inner rest ihInner ihRest =>
    rw [walk_record] at failed
    rcases Lenient.result_inFront_eq_error.mp failed with head | ⟨_, _, _, tail⟩
    · exact (result_visitRecord_eq_error_iff.mp head).origin Slot.eq_true_of_encounter ihInner
    · exact (ihRest tail).mono
        fun _ member => List.mem_cons_of_mem _ (List.mem_append_right _ member)

/-- A record that fails without a place lacks a part of its path. -/
theorem LosesRecord.stray {inside : Prop}
    (lost : LosesRecord policy body slot name inner met offset inside) (deeper : inside → ∃ cause,
      (walk policy body name true false inner (offset + slot.skip)).result = .error cause ∧
        Stray name inner cause) :
    ∃ error, RecordError policy body title slot name inner offset met error ∧
      Stray title (record slot name inner rest) error := by
  cases met with
  | present =>
    obtain ⟨cause, walked, stray⟩ := deeper lost
    exact ⟨_, .present walked, .inside stray⟩
  | ignored =>
    obtain ⟨reason, absent⟩ := absent_of_misfit lost
    exact ⟨_, .ignored absent, .bare reason⟩
  | missing =>
    cases ignored : slot.ignored with
    | true =>
      rw [LosesRecord, ignored] at lost
      obtain ⟨reason, absent⟩ := absent_of_misfit lost
      exact ⟨_, .missingIgnored ignored absent, .inside (.bare reason)⟩
    | false =>
      rw [LosesRecord, ignored] at lost
      obtain ⟨error, walked⟩ := lost
      exact ⟨error, .missing ignored walked, (origin_of_walk walked).stray⟩
  | cutShort => cases lost

/-- **A walk that goes astray fails without the whole path.** By induction on the layout: the walk
comes to a field that does not report its place, and everything in front of that field is read. -/
theorem stray_of_astray (astray : layout.Astray policy body title complete stopped offset) :
    ∃ error, (walk policy body title complete stopped layout offset).result = .error error ∧
      Stray title layout error := by
  induction layout generalizing title complete stopped offset with
  | done => cases astray
  | field slot kind rest ih =>
    rw [walk_field]
    rcases astray with ⟨met, misfit⟩ | ⟨value, next, head, behind⟩
    · obtain ⟨reason, absent⟩ := Kind.absent_of_misfit misfit
      refine ⟨_, Lenient.result_inFront_eq_error.mpr (.inl ?_), .bare reason⟩
      rw [met]
      exact result_visit_eq_error_iff.mpr (.ignored absent)
    · obtain ⟨error, tail, stray⟩ := ih behind
      exact ⟨error, Lenient.result_inFront_eq_error.mpr (.inr ⟨value, next, head, tail⟩),
        .behindField stray⟩
  | record slot name inner rest ihInner ihRest =>
    rw [walk_record]
    rcases astray with lost | ⟨value, next, head, behind⟩
    · obtain ⟨error, head, stray⟩ := LosesRecord.stray lost ihInner
      exact ⟨error, Lenient.result_inFront_eq_error.mpr
        (.inl (result_visitRecord_eq_error_iff.mpr head)), stray⟩
    · obtain ⟨error, tail, stray⟩ := ihRest behind
      exact ⟨error, Lenient.result_inFront_eq_error.mpr (.inr ⟨value, next, head, tail⟩),
        .behindRecord stray⟩

/-! ### Walks that cannot go astray -/

theorem not_astray_of_isPlain (plain : layout.isPlain) :
    ¬layout.Astray policy body title complete stopped offset := by
  induction layout generalizing stopped offset with
  | done => exact id
  | field slot kind rest ih =>
    rw [isPlain, Bool.and_eq_true, Bool.not_eq_true'] at plain
    rintro (⟨met, _⟩ | ⟨_, _, _, behind⟩)
    · exact Bool.false_ne_true (plain.1.symm.trans (Slot.ignored_of_encounter met))
    · exact ih plain.2 behind
  | record slot name inner rest _ _ => cases plain

theorem not_astray_of_complete (fit : layout.DefaultsFit) :
    ¬layout.Astray policy body title true stopped offset := by
  induction layout generalizing title stopped offset with
  | done => exact id
  | field slot kind rest ih =>
    rintro (⟨_, misfit⟩ | ⟨_, _, _, behind⟩)
    · exact misfit fit.1
    · exact ih fit.2 behind
  | record slot name inner rest ihInner ihRest =>
    rintro (lost | ⟨_, _, _, behind⟩)
    · cases met : slot.encounter true (stopped || slot.isBehind body.size offset) with
      | present =>
        rw [met] at lost
        exact ihInner fit.1 lost
      | ignored =>
        rw [met] at lost
        exact lost fit.1
      | missing => exact Slot.encounter_ne_missing met
      | cutShort =>
        rw [met] at lost
        exact lost
    · exact ihRest fit.2 behind

/-! ### Readings -/

/-- **Where a reading fails, and where it says so.** Unless it goes astray, its error carries the
whole path from the record to the field that fails, or says that the record itself was cut short.
Where names tell the fields apart, the error of a reading that goes astray does not. No reading does
so in a layout of plain fields, whatever their defaults are, and no complete reading does if the
defaults fit. -/
theorem traced_of_decode
    (failed : (layout.decode policy body title offset complete).result = .error error) :
    (¬layout.Astray policy body title complete false offset → layout.Traced title complete error) ∧
      (layout.NamesApart title → layout.Astray policy body title complete false offset →
        ¬layout.Traced title complete error) ∧
      (layout.isPlain ∨ complete = true ∧ layout.DefaultsFit →
        ¬layout.Astray policy body title complete false offset) := by
  refine ⟨fun straight => traced_of_walk straight failed, fun apart astray => ?_, ?_⟩
  · obtain ⟨cause, found, stray⟩ := stray_of_astray astray
    obtain rfl : error = cause := Except.error.inj (failed.symm.trans found)
    exact stray.not_traced apart
  · rintro (plain | ⟨rfl, fit⟩)
    · exact not_astray_of_isPlain plain
    · exact not_astray_of_complete fit

/-- A record with one word, in a record. -/
def nested (default : Option UInt64) : Layout :=
  record { name := "Inner" } "inner" (field { name := "Count", default } (.number .word) done) done

/-- A word that is cut short is reported at both levels. The default of a missing one is not. -/
theorem traced_of_decode_nested :
    (nested none).Traced "outer" true
      (.inField "outer" "Inner" (.inField "inner" "Count" (.outOfRange 0 2 1))) ∧
      ¬(nested (some 65536)).Traced "outer" false
        (.inField "inner" "Count" (.misuse .defaultTooWide)) := by
  have short : ((nested none).decode .strict ⟨[7], []⟩ "outer" 0 true).result =
      .error (.inField "outer" "Inner" (.inField "inner" "Count" (.outOfRange 0 2 1))) := rfl
  have wide : ((nested (some 65536)).decode .strict ⟨[], []⟩ "outer" 0 false).result =
      .error (.inField "inner" "Count" (.misuse .defaultTooWide)) := rfl
  have apart : (nested (some 65536)).NamesApart "outer" :=
    ⟨List.not_mem_nil, by decide, ⟨List.not_mem_nil, trivial⟩, trivial⟩
  obtain ⟨traced, _, straight⟩ := traced_of_decode short
  exact ⟨traced (straight (.inr ⟨rfl, by decide⟩)),
    (traced_of_decode wide).2.1 apart (.inl ⟨_, rfl⟩)⟩

/-- An ignored field whose default does not fit. -/
def unfitting :
    Layout := field { name := "A", ignored := true, default := some 256 } (.number .byte) done

/-- **The error of an ignored field carries no path.** -/
theorem not_traced_of_unfitting :
    (unfitting.decode .tolerant ⟨[0], []⟩ "rec" 0 false).result = .error (.misuse .defaultTooWide) ∧
      ¬unfitting.Traced "rec" false (.misuse .defaultTooWide) :=
  ⟨rfl, Traced.not_misuse⟩

end Layout

end Dmi
