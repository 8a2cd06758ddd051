/-
**The strict policy fails where the tolerant one first tolerates.**

The two policies differ at a string number without a string only. The tolerant reading hands back an
error there and goes on; the strict one fails with the same error, which then gets the names of the
records around it. So up to the first tolerated error both are one reading (`Lenient.FailsFirst`).
What a reading tolerates can be told from its values: each error belongs to a number among them that
has no string, in depth-first order. Main statements:

* `Lenient.FailsFirst.andThen` — two readings one behind the other;
* `Layout.failsFirst_walk`, `Layout.failsFirst_walk_of_isPlain` — the two policies on any walk, and
  on one without records inside, where the error of the strict reading is the tolerated one itself;
* `Layout.tolerated_of_walk` — the tolerated errors are those of the values;
* `Layout.roots_misreadings` — their causes, told from the values without their layout.
-/

import Dmi.Proofs.Layout.Flaw
import Dmi.Proofs.Layout.Plain

namespace Dmi

/-! ### Readings that fail where others tolerate -/

namespace Lenient

variable {α β : Type} {same : Error → Error → Prop}

/-- `strict` tolerates nothing. It has the result of `tolerant` unless that tolerates an error, and
then it fails with an error that is the `same` as the first of them. -/
structure FailsFirst (same : Error → Error → Prop) (strict tolerant : Lenient α) : Prop where
  tolerated : strict.tolerated = []
  agree : tolerant.tolerated = [] → strict.result = tolerant.result
  fails : ∀ first later, tolerant.tolerated = first :: later →
    ∃ error, strict.result = .error error ∧ same error first

theorem FailsFirst.of_nothing {reading : Lenient α} (nothing : reading.tolerated = []) :
    FailsFirst same reading reading where
  tolerated := nothing
  agree _ := rfl
  fails first later some := by
    rw [nothing] at some
    cases some

theorem FailsFirst.mono {strict tolerant : Lenient α} (reading : FailsFirst same strict tolerant)
    {weaker : Error → Error → Prop}
    (implies : ∀ error first, same error first → weaker error first) :
    FailsFirst weaker strict tolerant where
  tolerated := reading.tolerated
  agree := reading.agree
  fails first later some := by
    obtain ⟨error, failed, alike⟩ := reading.fails first later some
    exact ⟨error, failed, implies error first alike⟩

theorem FailsFirst.map {strict tolerant : Lenient α} (reading : FailsFirst same strict tolerant)
    (change : α → β) : FailsFirst same (strict.map change) (tolerant.map change) where
  tolerated := reading.tolerated
  agree nothing := by rw [Lenient.map, Lenient.map, reading.agree nothing]
  fails first later some := by
    obtain ⟨error, failed, alike⟩ := reading.fails first later some
    exact ⟨error, result_map_eq_error.mpr failed, alike⟩

theorem FailsFirst.inField {strict tolerant : Lenient α} (reading : FailsFirst same strict tolerant)
    {record field : String} {wrapped : Error → Error → Prop}
    (wraps : ∀ error first, same error first → wrapped (.inField record field error) first) :
    FailsFirst wrapped (strict.inField record field) (tolerant.inField record field) where
  tolerated := reading.tolerated
  agree nothing := by rw [Lenient.inField, Lenient.inField, reading.agree nothing]
  fails first later some := by
    obtain ⟨error, failed, alike⟩ := reading.fails first later some
    exact ⟨.inField record field error, result_inField_eq_error.mpr ⟨error, failed, rfl⟩,
      wraps error first alike⟩

/-- What two readings tolerate, one behind the other. -/
theorem tolerated_andThen {first : Lenient α} {found : α} (here : first.result = .ok found)
    (next : α → Lenient β) :
    (first.andThen next).tolerated = first.tolerated ++ (next found).tolerated := by
  rw [Lenient.andThen, here]

theorem tolerated_andThen_of_error {first : Lenient α} {error : Error}
    (here : first.result = .error error)
    (next : α → Lenient β) : (first.andThen next).tolerated = first.tolerated := by
  rw [Lenient.andThen, here]

/-- **Readings one behind the other** fail first if each of them does: the tolerant one tolerates
its first error in the first half, or in the second with nothing tolerated before. -/
theorem FailsFirst.andThen {strict tolerant : Lenient α} {strictNext tolerantNext : α → Lenient β}
    (head : FailsFirst same strict tolerant)
    (tail : ∀ found, FailsFirst same (strictNext found) (tolerantNext found)) :
    FailsFirst same (strict.andThen strictNext) (tolerant.andThen tolerantNext) where
  tolerated := by
    cases here : strict.result with
    | error error => rw [tolerated_andThen_of_error here, head.tolerated]
    | ok found => rw [tolerated_andThen here, head.tolerated, (tail found).tolerated,
        List.nil_append]
  agree nothing := by
    cases here : tolerant.result with
    | error error =>
      rw [tolerated_andThen_of_error here] at nothing
      rw [result_andThen_eq_error.mpr (.inl here),
        result_andThen_eq_error.mpr (.inl ((head.agree nothing).trans here))]
    | ok found =>
      rw [tolerated_andThen here, List.append_eq_nil_iff] at nothing
      rw [Lenient.andThen, Lenient.andThen, (head.agree nothing.1).trans here, here]
      exact (tail found).agree nothing.2
  fails first later some := by
    cases before : tolerant.tolerated with
    | cons one others =>
      have same_ : one = first := by
        cases here : tolerant.result with
        | error error =>
          rw [tolerated_andThen_of_error here, before] at some
          exact (List.cons.inj some).1
        | ok found =>
          rw [tolerated_andThen here, before] at some
          exact (List.cons.inj some).1
      obtain ⟨error, failed, alike⟩ := head.fails one others before
      exact ⟨error, result_andThen_eq_error.mpr (.inl failed), same_ ▸ alike⟩
    | nil =>
      cases here : tolerant.result with
      | error error =>
        rw [tolerated_andThen_of_error here, before] at some
        cases some
      | ok found =>
        rw [tolerated_andThen here, before, List.nil_append] at some
        obtain ⟨error, failed, alike⟩ := (tail found).fails first later some
        exact ⟨error, result_andThen_eq_error.mpr (.inr ⟨found, (head.agree before).trans here,
          failed⟩), alike⟩

theorem tolerated_inFront {first : Lenient (Value × Nat)} {rest : Nat → Lenient (List Value × Nat)}
    {value : Value} {values : List Value} {next last : Nat}
    (head : first.result = .ok (value, next)) (tail : (rest next).result = .ok (values, last)) :
    (first.inFront rest).tolerated = first.tolerated ++ (rest next).tolerated := by
  rw [Lenient.inFront, tolerated_andThen head]
  exact congrArg (first.tolerated ++ ·) ((tolerated_andThen tail _).trans (List.append_nil _))

theorem FailsFirst.inFront {strict tolerant : Lenient (Value × Nat)}
    {strictRest tolerantRest : Nat → Lenient (List Value × Nat)}
    (head : FailsFirst same strict tolerant)
    (tail : ∀ next, FailsFirst same (strictRest next) (tolerantRest next)) :
    FailsFirst same (strict.inFront strictRest) (tolerant.inFront tolerantRest) :=
  head.andThen fun (_, next) => (tail next).andThen fun _ => .of_nothing rfl

end Lenient

open Lenient (FailsFirst)

/-! ### The two policies -/

namespace Kind

variable {body : Body} {record field : String} {offset : Nat}

/-- The error of a text is tolerated with the names of its field, and without them it is what the
strict policy fails with. -/
theorem failsFirst_readText : FailsFirst (fun error first => .inField record field error = first)
    (readText .strict body record field offset) (readText .tolerant body record field offset) := by
  unfold readText
  cases body.byte offset with
  | error error => exact .of_nothing rfl
  | ok index =>
    cases string : body.string index with
    | ok found =>
      simp only [string]
      exact .of_nothing rfl
    | error error =>
      simp only [string]
      refine ⟨rfl, ?_, ?_⟩
      · rintro ⟨⟩
      rintro first later ⟨⟩
      exact ⟨error, rfl, rfl⟩

theorem tolerated_ofExcept_bind {α β : Type} (result : Except Error α) (change : α → β) :
    (Lenient.ofExcept result >>= fun found => pure (change found)).tolerated = [] := by
  cases result <;> rfl

theorem failsFirst_read (kind : Kind) :
    FailsFirst (fun error first => .inField record field error = first)
      (kind.read .strict body record field offset)
      (kind.read .tolerant body record field offset) := by
  cases kind with
  | text => exact failsFirst_readText.andThen fun _ => .of_nothing rfl
  | number width => exact .of_nothing (tolerated_ofExcept_bind ..)
  | bytes count => exact .of_nothing (tolerated_ofExcept_bind ..)
  | list kind => exact .of_nothing (tolerated_ofExcept_bind ..)

end Kind

namespace Layout

variable {body : Body} {title : String} {complete stopped : Bool} {offset : Nat}

theorem failsFirst_visit (slot : Slot) (kind : Kind) (met : Encounter) : FailsFirst Eq
    (visit .strict body title slot kind met offset)
    (visit .tolerant body title slot kind met offset) := by
  cases met with
  | present => exact kind.failsFirst_read.inField fun _ _ wraps => wraps
  | ignored => exact .of_nothing rfl
  | missing => exact .of_nothing rfl
  | cutShort => exact .of_nothing rfl

/-- Without records inside, the strict reading fails with the first tolerated error itself. -/
theorem failsFirst_walk_of_isPlain {layout : Layout} (plain : layout.isPlain) : FailsFirst Eq
    (walk .strict body title complete stopped layout offset)
    (walk .tolerant body title complete stopped layout offset) := by
  induction layout generalizing stopped offset with
  | done => exact .of_nothing rfl
  | field slot kind rest ih =>
    rw [isPlain, Bool.and_eq_true] at plain
    rw [walk_field, walk_field]
    exact (failsFirst_visit slot kind _).inFront fun next => ih plain.2
  | record slot name inner rest _ _ => cases plain

/-- Two errors have the same cause. -/
def SameRoot (error other : Error) : Prop :=
  error.root = other.root

theorem failsFirst_visitRecord {slot : Slot} {name : String} {inner : Layout} (met : Encounter)
    (fields : ∀ complete start,
      FailsFirst SameRoot (walk .strict body name complete false inner start)
      (walk .tolerant body name complete false inner start)) :
    FailsFirst SameRoot (visitRecord .strict body title slot name inner met offset)
      (visitRecord .tolerant body title slot name inner met offset) := by
  cases met with
  | present => exact ((fields true _).inField fun error first alike => alike).map _
  | ignored => exact .of_nothing rfl
  | missing =>
    rw [visitRecord, visitRecord]
    by_cases ignored : slot.ignored = true
    · simp only [if_pos ignored]
      exact .of_nothing rfl
    · simp only [if_neg ignored]
      exact (fields false offset).map _
  | cutShort => exact .of_nothing rfl

/-- **The two policies are one reading up to the first tolerated error**, on any walk. By induction
on the layout, for walks of every sort. A record that stands inside wraps the error of the strict
reading, and not the tolerated one, so that only their causes are the same. -/
theorem failsFirst_walk (layout : Layout) : FailsFirst SameRoot
    (walk .strict body title complete stopped layout offset)
    (walk .tolerant body title complete stopped layout offset) := by
  induction layout generalizing title complete stopped offset with
  | done => exact .of_nothing rfl
  | field slot kind rest ih =>
    rw [walk_field, walk_field]
    exact ((failsFirst_visit slot kind _).mono
      fun error first equal => congrArg Error.root equal).inFront
      fun next => ih
  | record slot name inner rest ihInner ihRest =>
    rw [walk_record, walk_record]
    exact (failsFirst_visitRecord _ fun _ _ => ihInner).inFront fun next => ihRest

/-- The error of a text inside a record: the strict reading names the field of the record as
well. -/
example :
    let layout := record { name := "Inner" } "inner" (field { name := "Text" } .text done) done
    let wrong := Error.inField "inner" "Text" (.badStringIndex 1 0)
    (layout.decode .tolerant ⟨[1], []⟩ "outer" 0 false).tolerated = [wrong] ∧
      (layout.decode .strict ⟨[1], []⟩ "outer" 0 false).result =
        .error (.inField "outer" "Inner" wrong) :=
  ⟨rfl, rfl⟩

end Layout

/-! ### What a reading tolerates, told from its values -/

mutual

/-- The string numbers without a string in a value, depth first. -/
def Value.badIndices : Value → List UInt8
  | .text (.badIndex index) => [index]
  | .record values => badIndicesOf values
  | .list items => badIndicesOf items
  | _ => []

/-- The string numbers without a string among some values, depth first. -/
def Value.badIndicesOf : List Value → List UInt8
  | [] => []
  | value :: values => value.badIndices ++ badIndicesOf values

end

/-- The error of a field whose value is a string number without a string. -/
def Slot.misreading (title : String) (slot : Slot) (count : Nat) : Value → List Error
  | .text (.badIndex index) => [.inField title slot.name (.badStringIndex index count)]
  | _ => []

/-- The errors of all fields whose values are string numbers without a string, where there are
`count` strings: depth first, and each with the names of its own record and field. -/
def Layout.misreadings (count : Nat) (title : String) : Layout → List Value → List Error
  | field slot _ rest, value :: values =>
      slot.misreading title count value ++ rest.misreadings count title values
  | record _ name inner rest, .record fields :: values =>
    inner.misreadings count name fields ++ rest.misreadings count title values
  | _, _ => []

namespace Body

variable {body : Body} {index : UInt8}

/-- A string number that is answered has a string, or is zero. -/
theorem ne_badIndex_of_string {found : Text} (answered : body.string index = .ok found)
    (other : UInt8) : found ≠ .badIndex other := by
  rw [string] at answered
  split at answered
  · cases answered
    rintro ⟨⟩
  · split at answered <;> cases answered
    rintro ⟨⟩

end Body

theorem Slot.misreading_eq_nil {slot : Slot} {title : String} {count : Nat} {value : Value}
    (other : ∀ index, value ≠ .text (.badIndex index)) :
    slot.misreading title count value = [] := by
  unfold misreading
  split
  · rename_i index
    exact absurd rfl (other index)
  · rfl

namespace Kind

variable {kind : Kind} {policy : StringPolicy} {body : Body} {title : String} {slot : Slot}
  {offset next : Nat} {value : Value}

theorem tolerated_of_readText {found : Text}
    (read : (readText policy body title slot.name offset).result = .ok found) :
    (readText policy body title slot.name offset).tolerated =
      slot.misreading title body.strings.length (.text found) := by
  unfold readText at read ⊢
  cases byte : body.byte offset with
  | error error =>
    rw [byte] at read
    cases read
  | ok index =>
    rw [byte] at read
    cases string : body.string index with
    | ok text =>
      simp only [string] at read ⊢
      cases read
      refine (Slot.misreading_eq_nil fun other wrong => ?_).symm
      cases wrong
      exact Body.ne_badIndex_of_string string other rfl
    | error error =>
      cases policy with
      | strict =>
        simp only [string] at read
        cases read
      | tolerant =>
        simp only [string] at read ⊢
        cases read
        rw [Body.error_of_string string]
        rfl

/-- **What a field tolerates is told from its value.** -/
theorem tolerated_of_read
    (read : (kind.read policy body title slot.name offset).result = .ok (value, next)) :
    (kind.read policy body title slot.name offset).tolerated =
      slot.misreading title body.strings.length value := by
  cases kind with
  | text =>
    obtain ⟨found, here, rfl, _⟩ := read_text_eq_ok_iff.mp read
    rw [← tolerated_of_readText here, Kind.read, Lenient.bind_eq_andThen,
      Lenient.tolerated_andThen here]
    exact List.append_nil _
  | number width =>
    obtain ⟨n, _, rfl, _⟩ := read_number_eq_ok_iff.mp read
    exact tolerated_ofExcept_bind ..
  | bytes count =>
    obtain ⟨found, _, rfl, _⟩ := read_bytes_eq_ok_iff.mp read
    exact tolerated_ofExcept_bind ..
  | list kind =>
    obtain ⟨_, here, _⟩ := read_list_eq_ok_iff.mp read
    obtain ⟨_, items, _, _, rfl, _⟩ := ListKind.read_eq_ok_iff.mp here
    exact tolerated_ofExcept_bind ..

theorem ne_badIndex_of_absent {default : Option UInt64} (absent : kind.absent default = .ok value)
    (index : UInt8) : value ≠ .text (.badIndex index) := by
  rintro rfl
  cases kind with
  | text => cases absent
  | list kind => cases absent
  | number width =>
    rw [Kind.absent] at absent
    split at absent <;> cases absent
  | bytes count =>
    rw [Kind.absent] at absent
    split at absent <;> cases absent

end Kind

namespace Layout

variable {policy : StringPolicy} {body : Body} {title : String} {complete stopped : Bool}
  {layout : Layout} {offset last : Nat} {values : List Value}

/-- Fields whose values all have strings tolerate nothing. -/
theorem misreadings_eq_nil {count : Nat}
    (each : layout.Each (fun _ value => ∀ index, value ≠ .text (.badIndex index))
    values) : layout.misreadings count title values = [] := by
  induction layout generalizing title values with
  | done => rfl
  | field slot kind rest ih =>
    obtain ⟨value, others, rfl, here, behind⟩ := each
    rw [misreadings, Slot.misreading_eq_nil here, ih behind]
    rfl
  | record slot name inner rest ihInner ihRest =>
    obtain ⟨fields, others, rfl, inside, behind⟩ := each
    rw [misreadings, ihInner inside, ihRest behind]
    rfl

theorem misreadings_of_absent {count : Nat} (absent : layout.absent = .ok values) :
    layout.misreadings count title values = [] :=
  misreadings_eq_nil (each_of_absent (fun _ _ _ => Kind.ne_badIndex_of_absent) absent)

theorem tolerated_of_visit {slot : Slot} {kind : Kind} {met : Encounter} {next : Nat}
    {value : Value}
    (found : (visit policy body title slot kind met offset).result = .ok (value, next)) :
    (visit policy body title slot kind met offset).tolerated =
      slot.misreading title body.strings.length value := by
  cases met with
  | present => exact Kind.tolerated_of_read (Lenient.result_inField_eq_ok.mp found)
  | ignored =>
    obtain ⟨_, absent, same⟩ := Lenient.result_map_eq_ok.mp found
    cases same
    exact (Slot.misreading_eq_nil (Kind.ne_badIndex_of_absent absent)).symm
  | missing =>
    obtain ⟨_, absent, same⟩ := Lenient.result_map_eq_ok.mp (Lenient.result_inField_eq_ok.mp found)
    cases same
    exact (Slot.misreading_eq_nil (Kind.ne_badIndex_of_absent absent)).symm
  | cutShort => cases found

theorem tolerated_of_visitRecord {slot : Slot} {name : String} {inner : Layout} {met : Encounter}
    {next : Nat} {value : Value} (inside : ∀ {complete start stop fields},
      (walk policy body name complete false inner start).result = .ok (fields, stop) →
      (walk policy body name complete false inner start).tolerated =
        inner.misreadings body.strings.length name fields)
    (found : (visitRecord policy body title slot name inner met offset).result =
      .ok (value, next)) :
    ∃ fields, value = .record fields ∧
      (visitRecord policy body title slot name inner met offset).tolerated =
      inner.misreadings body.strings.length name fields := by
  cases met with
  | present =>
    obtain ⟨⟨fields, stop⟩, read, same⟩ := Lenient.result_map_eq_ok.mp found
    cases same
    exact ⟨fields, rfl, inside (Lenient.result_inField_eq_ok.mp read)⟩
  | ignored =>
    obtain ⟨fields, absent, same⟩ := Lenient.result_map_eq_ok.mp found
    cases same
    exact ⟨fields, rfl, (misreadings_of_absent absent).symm⟩
  | missing =>
    rw [visitRecord] at found ⊢
    by_cases ignored : slot.ignored = true
    · simp only [if_pos ignored] at found ⊢
      obtain ⟨fields, absent, same⟩ :=
        Lenient.result_map_eq_ok.mp (Lenient.result_inField_eq_ok.mp found)
      cases same
      exact ⟨fields, rfl, (misreadings_of_absent absent).symm⟩
    · simp only [if_neg ignored] at found ⊢
      obtain ⟨⟨fields, stop⟩, read, same⟩ := Lenient.result_map_eq_ok.mp found
      cases same
      exact ⟨fields, rfl, inside read⟩
  | cutShort => cases found

/-- **The tolerated errors of a reading are those of its values**, in their order. -/
theorem tolerated_of_walk
    (found : (walk policy body title complete stopped layout offset).result = .ok (values, last)) :
    (walk policy body title complete stopped layout offset).tolerated =
      layout.misreadings body.strings.length title values := by
  induction layout generalizing title complete stopped offset last values with
  | done => rfl
  | field slot kind rest ih =>
    rw [walk_field] at found ⊢
    obtain ⟨value, next, others, head, tail, rfl⟩ := Lenient.result_inFront_eq_ok.mp found
    rw [Lenient.tolerated_inFront head tail, tolerated_of_visit head, ih tail, misreadings]
  | record slot name inner rest ihInner ihRest =>
    rw [walk_record] at found ⊢
    obtain ⟨value, next, others, head, tail, rfl⟩ := Lenient.result_inFront_eq_ok.mp found
    obtain ⟨fields, rfl, inside⟩ := tolerated_of_visitRecord (fun {_ _ _ _} => ihInner) head
    rw [Lenient.tolerated_inFront head tail, inside, ihRest tail, misreadings]

end Layout

/-! ### The values alone -/

theorem Value.badIndicesOf_eq_nil {values : List Value}
    (each : ∀ value ∈ values, value.badIndices = []) :
    badIndicesOf values = [] := by
  induction values with
  | nil => rfl
  | cons value values ih =>
    obtain ⟨here, behind⟩ := List.forall_mem_cons.mp each
    rw [badIndicesOf, here, ih behind]
    rfl

theorem ListKind.badIndices_of_fitsItem {kind : ListKind} {item : Value}
    (fits : kind.FitsItem item) : item.badIndices = [] := by
  cases kind with
  | handles =>
    obtain ⟨_, rfl⟩ := fits
    rfl
  | elements =>
    obtain ⟨_, _, _, rfl⟩ := fits
    rfl
  | peers =>
    obtain ⟨_, _, _, _, rfl⟩ := fits
    rfl

theorem Kind.roots_misreading {kind : Kind} {slot : Slot} {title : String} {count : Nat}
    {value : Value} (fits : kind.Fits value) :
    (slot.misreading title count value).map Error.root = value.badIndices.map
      (.badStringIndex · count) := by
  cases kind with
  | number width =>
    obtain ⟨n, rfl⟩ := fits
    rfl
  | bytes size =>
    obtain ⟨block, rfl⟩ := fits
    rfl
  | text =>
    obtain ⟨found, rfl⟩ := fits
    cases found <;> rfl
  | list kind =>
    obtain ⟨items, rfl, each⟩ := fits
    rw [Value.badIndices,
      Value.badIndicesOf_eq_nil fun item member => kind.badIndices_of_fitsItem (each item member)]
    rfl

/-- **The causes of the tolerated errors are the string numbers among the values** that have no
string, whatever the layout of the values is. -/
theorem Layout.roots_misreadings {layout : Layout} {title : String} {count : Nat}
    {values : List Value} (fits : layout.Each Kind.Fits values) :
    (layout.misreadings count title values).map Error.root =
      (Value.badIndicesOf values).map (.badStringIndex · count) := by
  induction layout generalizing title values with
  | done =>
    obtain rfl : values = [] := fits
    rfl
  | field slot kind rest ih =>
    obtain ⟨value, others, rfl, here, behind⟩ := fits
    rw [misreadings, Value.badIndicesOf, List.map_append, List.map_append,
      Kind.roots_misreading here, ih behind]
  | record slot name inner rest ihInner ihRest =>
    obtain ⟨fields, others, rfl, inside, behind⟩ := fits
    rw [misreadings, Value.badIndicesOf, Value.badIndices, List.map_append, List.map_append,
      ihInner inside, ihRest behind]

end Dmi
