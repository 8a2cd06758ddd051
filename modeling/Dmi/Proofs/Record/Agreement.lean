/-
**Layout, fields and values agree.**

The fields of a record are written down three times: in its layout, where it takes them from values,
and where it gives their values. `Take.Follows` says that values are taken field by field along a
layout. Then as many values are needed as the layout has fields, and the first value that its field
does not admit is refused. Main statements:

* `Take.Follows.error_of_short`, `Take.Follows.error_of_set` — what is missing or of another kind is
  refused;
* `Content.follows_take` — all twelve kinds of records are taken along their layouts;
* `Record.ofValues_agrees` — layout, fields and values agree for every record.
-/

import Dmi.Proofs.Layout.Typed
import Dmi.Proofs.Record.RoundTrip

namespace Dmi

/-! ### What a field admits -/

/-- The item begins with the values of the list's items; what a record has behind them is not looked
at. -/
def ListKind.AdmitsItem : ListKind → Value → Prop
  | handles, item => ∃ handle : UInt16, item = .word handle
  | elements, item => ∃ (type least most : UInt8) (more : List Value),
      item = .record (.byte type :: .byte least :: .byte most :: more)
  | peers, item => ∃ (segment : UInt16) (bus function width : UInt8) (more : List Value),
      item = .record (.word segment :: .byte bus :: .byte function :: .byte width :: more)

namespace Kind

/-- The value can be taken for a field of the kind. -/
def Admits : Kind → Value → Prop
  | list kind, value => ∃ items, value = .list items ∧ ∀ item ∈ items, kind.AdmitsItem item
  | kind, value => kind.Fits value

/-- The value is of another kind than the field. A list is of the kind of lists, whatever its items
are. -/
def Excludes : Kind → Value → Prop
  | list _, value => ∀ items, value ≠ .list items
  | kind, value => ¬kind.Fits value

theorem admits_of_fits {kind : Kind} {value : Value} (fits : kind.Fits value) :
    kind.Admits value := by
  cases kind with
  | list kind =>
    obtain ⟨items, rfl, each⟩ := fits
    refine ⟨items, rfl, fun item member => ?_⟩
    cases kind with
    | handles => exact each item member
    | elements =>
      obtain ⟨type, least, most, same⟩ := each item member
      exact ⟨type, least, most, [], same⟩
    | peers =>
      obtain ⟨segment, bus, function, width, same⟩ := each item member
      exact ⟨segment, bus, function, width, [], same⟩
  | _ => exact fits

theorem not_admits_of_excludes {kind : Kind} {value : Value} (excludes : kind.Excludes value) :
    ¬kind.Admits value := by
  cases kind with
  | list kind =>
    rintro ⟨items, rfl, _⟩
    exact excludes items rfl
  | _ => exact excludes

end Kind

/-! ### Taking along a layout -/

namespace Take

variable {α β : Type}

/-- The next value is taken for a field of the kind. One that the field does not admit is refused,
and taken off all the same. -/
structure TakesFor (take : Take α) (kind : Kind) : Prop where
  short : take [] = .error (.misuse .tooFewValues) []
  admitted : ∀ value rest, kind.Admits value → ∃ found, take (value :: rest) = .ok found rest
  refused : ∀ value rest, ¬kind.Admits value →
    ∃ reason, (kind.Excludes value → reason = .wrongKind) ∧
      take (value :: rest) = .error (.misuse reason) rest

/-- Values are taken for the fields of a layout, one after the other, whatever the values before
are. -/
inductive Follows {α : Type} : Layout → Take α → Prop
  | done (found : α) : Follows .done (pure found)
  | field {β : Type} {slot : Slot} {kind : Kind} {rest : Layout} {first : Take β}
    {next : β → Take α} :
    first.TakesFor kind → (∀ found, Follows rest (next found)) → Follows (.field slot kind rest)
      (first >>= next)

namespace Follows

variable {layout : Layout} {take : Take α} {values : List Value}

/-- **Missing values are asked for in vain**, however many are missing at the end. -/
theorem error_of_short (follows : Follows layout take) (each : layout.Each Kind.Admits values)
    {count : Nat} (few : count < values.length) :
    take (values.take count) = .error (.misuse .tooFewValues) [] := by
  induction follows generalizing values count with
  | done found =>
    rw [show values = [] from each] at few
    cases few
  | field takes others ih =>
    obtain ⟨value, rest, rfl, admits, behind⟩ := each
    cases count with
    | zero => exact bind_of_error takes.short
    | succ count =>
      obtain ⟨found, taken⟩ := takes.admitted value (rest.take count) admits
      rw [List.take_succ_cons, bind_of_ok taken]
      exact ih found behind (Nat.lt_of_succ_lt_succ few)

/-- **A value that its field does not admit is refused**, once those before it are taken. -/
theorem error_of_set (follows : Follows layout take) (each : layout.Each Kind.Admits values)
    {index : Nat} {slot : Slot} {kind : Kind}
    (place : layout.slots[index]? = some (slot, some kind)) {other : Value}
    (foreign : ¬kind.Admits other) : ∃ reason rest, (kind.Excludes other → reason = .wrongKind) ∧
      take (values.set index other) = .error (.misuse reason) rest := by
  induction follows generalizing values index with
  | done found => cases place
  | field takes others ih =>
    obtain ⟨value, rest, rfl, admits, behind⟩ := each
    cases index with
    | zero =>
      cases place
      obtain ⟨reason, why, failed⟩ := takes.refused other rest foreign
      exact ⟨reason, rest, why, bind_of_error failed⟩
    | succ index =>
      obtain ⟨found, taken⟩ := takes.admitted value (rest.set index other) admits
      obtain ⟨reason, left, why, failed⟩ := ih found behind place
      exact ⟨reason, left, why, (bind_of_ok taken).trans failed⟩

/-- Values are taken, as far as the layout goes, or one is missing or refused. -/
theorem taken_or_refused (follows : Follows layout take) (values : List Value) :
    (∃ front more, values = front ++ more ∧ layout.Each Kind.Admits front) ∨
      ∃ reason rest, take values = .error (.misuse reason) rest := by
  induction follows generalizing values with
  | done found => exact .inl ⟨[], values, rfl, rfl⟩
  | @field β slot kind rest first next takes others ih =>
    cases values with
    | nil => exact .inr ⟨_, _, bind_of_error takes.short⟩
    | cons value values =>
      by_cases admits : kind.Admits value
      · obtain ⟨found, taken⟩ := takes.admitted value values admits
        rcases ih found values with ⟨front, more, rfl, behind⟩ | ⟨reason, left, failed⟩
        · exact .inl ⟨value :: front, more, rfl, value, front, rfl, admits, behind⟩
        · exact .inr ⟨reason, left, (bind_of_ok taken).trans failed⟩
      · obtain ⟨reason, _, failed⟩ := takes.refused value values admits
        exact .inr ⟨reason, values, bind_of_error failed⟩

/-- What is made of the values in the end does not matter. -/
theorem map (follows : Follows layout take) (f : α → β) :
    Follows layout (take >>= fun found => pure (f found)) := by
  induction follows with
  | done found => exact .done (f found)
  | field takes others ih =>
    rw [bind_assoc]
    exact .field takes ih

end Follows

/-! ### Taking one value -/

theorem takesFor_nextAs {select : Value → Option α} {kind : Kind}
    (finds : ∀ value, kind.Admits value → ∃ found, select value = some found)
    (misses : ∀ value, ¬kind.Admits value → select value = none) :
    (nextAs select).TakesFor kind where
  short := rfl
  admitted value rest admits := by
    obtain ⟨found, selected⟩ := finds value admits
    exact ⟨found, by simp only [nextAs, selected]⟩
  refused value rest foreign :=
    ⟨.wrongKind, fun _ => rfl, by simp only [nextAs, misses value foreign]⟩

theorem takesFor_number (width : Width) : (number width).TakesFor (.number width) := by
  refine takesFor_nextAs ?_ fun value foreign => ?_
  · rintro _ ⟨n, rfl⟩
    exact ⟨n, by cases width <;> rfl⟩
  · cases value with
    | number other n =>
      have apart : other ≠ width := by
        rintro rfl
        exact foreign ⟨n, rfl⟩
      cases width <;> cases other <;> first | exact absurd rfl apart | rfl
    | _ => cases width <;> rfl

theorem takesFor_text : text.TakesFor .text := by
  refine takesFor_nextAs ?_ fun value foreign => ?_
  · rintro _ ⟨found, rfl⟩
    exact ⟨found, rfl⟩
  · cases value with
    | text found => exact absurd ⟨found, rfl⟩ foreign
    | _ => rfl

theorem takesFor_block (count : Nat) : (block count).TakesFor (.bytes count) := by
  refine takesFor_nextAs ?_ fun value foreign => ?_
  · rintro _ ⟨found, rfl⟩
    exact ⟨found, Block.ofList?_val found⟩
  · cases value with
    | bytes bytes => exact dif_neg fun length => foreign ⟨⟨bytes, length⟩, rfl⟩
    | _ => rfl

theorem exists_mapM {item : Value → Except Error α} {admits : Value → Prop}
    (finds : ∀ value, admits value → ∃ found, item value = .ok found) {items : List Value}
    (each : ∀ value ∈ items, admits value) : ∃ found, items.mapM item = .ok found := by
  induction items with
  | nil => exact ⟨[], rfl⟩
  | cons value items ih =>
    obtain ⟨found, first⟩ := finds value (each value List.mem_cons_self)
    obtain ⟨others, rest⟩ := ih fun other member => each other (List.mem_cons_of_mem _ member)
    exact ⟨found :: others, by rw [List.mapM_cons, first, rest]; rfl⟩

theorem exists_mapM_error {item : Value → Except Error α} {admits : Value → Prop}
    (finds : ∀ value, admits value → ∃ found, item value = .ok found)
    (misses : ∀ value, ¬admits value → ∃ reason, item value = .error (.misuse reason))
    {items : List Value} (foreign : ¬∀ value ∈ items, admits value) :
    ∃ reason, items.mapM item = .error (.misuse reason) := by
  induction items with
  | nil => exact absurd (by simp) foreign
  | cons value items ih =>
    rw [List.forall_mem_cons, not_and] at foreign
    by_cases here : admits value
    · obtain ⟨found, first⟩ := finds value here
      obtain ⟨reason, rest⟩ := ih (foreign here)
      exact ⟨reason, by rw [List.mapM_cons, first, rest]; rfl⟩
    · obtain ⟨reason, failed⟩ := misses value here
      exact ⟨reason, by rw [List.mapM_cons, failed]; rfl⟩

theorem takesFor_listOf {item : Value → Except Error α} {kind : ListKind}
    (finds : ∀ value, kind.AdmitsItem value → ∃ found, item value = .ok found)
    (misses : ∀ value, ¬kind.AdmitsItem value → ∃ reason, item value = .error (.misuse reason)) :
    (listOf item).TakesFor (.list kind) where
  short := rfl
  admitted := by
    rintro _ rest ⟨items, rfl, each⟩
    obtain ⟨found, all⟩ := exists_mapM finds each
    exact ⟨found, by simp only [listOf, list, nextAs, all]⟩
  refused value rest foreign := by
    cases value with
    | list items =>
      obtain ⟨reason, failed⟩ :=
        exists_mapM_error finds misses fun each => foreign ⟨items, rfl, each⟩
      exact ⟨reason,
        fun excludes => absurd rfl (excludes items), by simp only [listOf, list, nextAs, failed]⟩
    | _ => exact ⟨.wrongKind, fun _ => rfl, rfl⟩

end Take

/-! ### Items of lists -/

theorem ContainedElement.follows_take :
    Take.Follows (.ofFields [.byte "Type", .byte "Least", .byte "Most"])
      (do return { type := ← Take.byte, least := ← Take.byte, most := ← Take.byte :
        ContainedElement }) :=
  .field (Take.takesFor_number .byte) fun _ => .field (Take.takesFor_number .byte) fun _ =>
    .field (Take.takesFor_number .byte) fun _ => .done _

theorem PeerGroup.follows_take :
    Take.Follows (.ofFields [.word "Segment", .byte "Bus", .byte "DeviceFunction", .byte "Width"])
      (do
        return {
          segment := ← Take.word
          bus := ← Take.byte
          deviceFunction := ← Take.byte
          width := ← Take.byte : PeerGroup }) :=
  .field (Take.takesFor_number .word) fun _ => .field (Take.takesFor_number .byte) fun _ =>
    .field (Take.takesFor_number .byte) fun _ => .field (Take.takesFor_number .byte) fun _ =>
    .done _

namespace Take

theorem takesFor_handles : (listOf Baseboard.handleOf).TakesFor (.list .handles) := by
  refine takesFor_listOf ?_ fun value foreign => ?_
  · rintro _ ⟨handle, rfl⟩
    exact ⟨handle, rfl⟩
  · rcases value with ⟨_ | _, n⟩ | _ <;> first | exact ⟨_, rfl⟩ | exact absurd ⟨n, rfl⟩ foreign

theorem takesFor_elements : (listOf ContainedElement.ofValue).TakesFor (.list .elements) := by
  refine takesFor_listOf ?_ fun value foreign => ?_
  · rintro _ ⟨type, least, most, more, rfl⟩
    exact ⟨⟨type, least, most⟩, rfl⟩
  · cases value with
    | record values =>
      rcases ContainedElement.follows_take.taken_or_refused values with ⟨front, more, rfl, each⟩ |
        ⟨reason, _, failed⟩
      · obtain ⟨_, _, rfl, ⟨type, rfl⟩, _, _, rfl, ⟨least, rfl⟩, _, _, rfl, ⟨most, rfl⟩, rfl⟩ :=
          each
        exact absurd ⟨type, least, most, more, rfl⟩ foreign
      · exact ⟨reason, by simp only [ContainedElement.ofValue, run', failed]⟩
    | _ => exact ⟨_, rfl⟩

theorem takesFor_peers : (listOf PeerGroup.ofValue).TakesFor (.list .peers) := by
  refine takesFor_listOf ?_ fun value foreign => ?_
  · rintro _ ⟨segment, bus, function, width, more, rfl⟩
    exact ⟨⟨segment, bus, function, width⟩, rfl⟩
  · cases value with
    | record values =>
      rcases PeerGroup.follows_take.taken_or_refused values with ⟨front, more, rfl, each⟩ |
        ⟨reason, _, failed⟩
      · obtain ⟨_, _, rfl, ⟨segment, rfl⟩, _, _, rfl, ⟨bus, rfl⟩, _, _, rfl, ⟨function, rfl⟩, _, _,
          rfl, ⟨width, rfl⟩, rfl⟩ := each
        exact absurd ⟨segment, bus, function, width, more, rfl⟩ foreign
      · exact ⟨reason, by simp only [PeerGroup.ofValue, run', failed]⟩
    | _ => exact ⟨_, rfl⟩

end Take

/-! ### Records -/

/-- What a field holds is taken from the values of its kind. -/
theorem Kind.takesFor : (kind : Kind) → kind.take.TakesFor kind
  | number width => Take.takesFor_number width
  | text => Take.takesFor_text
  | bytes count => Take.takesFor_block count
  | list .handles => Take.takesFor_handles
  | list .elements => Take.takesFor_elements
  | list .peers => Take.takesFor_peers

theorem Fields.follows_take {α : Type} (fields : List Field) (make : Fields.Makes α fields) :
    Take.Follows (.ofFields fields) (Fields.take fields make) := by
  induction fields with
  | nil => exact .done make
  | cons field rest ih => exact .field field.kind.takesFor fun held => ih (make held)

/-- **A record that is listed is taken along its layout.** -/
theorem Listed.follows {α : Type} {layout : Layout} {take : Take α} {values : α → List Value}
    (listed : Listed layout take values) : Take.Follows layout take := by
  obtain ⟨fields, make⟩ := listed
  exact Fields.follows_take fields make

/-- **Records are taken along their layouts**: of each kind, the fields of a record and those of its
layout are the same, in the same order. -/
theorem Content.follows_take (kind : RecordKind) :
    Take.Follows kind.layout (Content.take kind) := by
  cases kind with
  | bios => exact Bios.listed.follows.map Content.bios
  | system => exact System.listed.follows.map Content.system
  | baseboard => exact Baseboard.listed.follows.map Content.baseboard
  | chassis => exact Chassis.listed.follows.map Content.chassis
  | processor => exact Processor.listed.follows.map Content.processor
  | cache => exact Cache.listed.follows.map Content.cache
  | slot => exact SystemSlot.listed.follows.map Content.slot
  | memoryDevice => exact MemoryDevice.listed.follows.map Content.memoryDevice
  | ipmiDevice => exact IpmiDevice.listed.follows.map Content.ipmiDevice
  | tpmDevice => exact TpmDevice.listed.follows.map Content.tpmDevice
  | inactive => exact .done Content.inactive
  | endOfTable => exact .done Content.endOfTable

namespace Record

variable {kind : RecordKind} {source : Structure} {values rest : List Value}

theorem ofValues_of_ok {content : Content} (taken : Content.take kind values = .ok content rest) :
    ofValues kind source values = .ok (⟨source, content⟩, rest) := by
  rw [ofValues, taken]

theorem ofValues_of_error {error : Error} (failed : Content.take kind values = .error error rest) :
    ofValues kind source values = .error error := by
  rw [ofValues, failed]

/-- **Layout, fields and values agree for every record.** Values that match the layout make a record
of the structure given; none is left over, and the record gives them back. A value less, or one of
another kind, and no record is made. The values of a record match its layout, and make the same
record of any structure. -/
theorem ofValues_agrees (source : Structure) :
    (∀ (kind : RecordKind) (values : List Value), kind.layout.Each Kind.Fits values →
      (∃ record, ofValues kind source values = .ok (record, []) ∧ record.source = source ∧
        record.content.kind = kind ∧ record.content.values = values) ∧
      (∀ count < values.length,
        ofValues kind source (values.take count) = .error (.misuse .tooFewValues)) ∧
      ∀ index < values.length, ∃ slot sort, kind.layout.slots[index]? = some (slot, some sort) ∧
        (∀ other, sort.Excludes other →
          ofValues kind source (values.set index other) = .error (.misuse .wrongKind)) ∧
        ∀ other, ¬sort.Admits other →
          ∃ reason, ofValues kind source (values.set index other) = .error (.misuse reason)) ∧
    ∀ record : Record, record.content.kind.layout.Each Kind.Fits record.content.values ∧
      ofValues record.content.kind source record.content.values = .ok ({ record with source },
        []) := by
  refine ⟨fun kind values fits => ⟨?made, ?short, ?foreign⟩,
    fun record => ⟨record.content.fits_values, ?again⟩⟩
  case made =>
    obtain ⟨content, taken, same, sort⟩ := Content.exists_take fits
    exact ⟨⟨source, content⟩, ofValues_of_ok taken, rfl, sort, same⟩
  case short =>
    intro count few
    have admits := fits.mono fun _ _ => Kind.admits_of_fits
    exact ofValues_of_error ((Content.follows_take kind).error_of_short admits few)
  case foreign =>
    intro index inside
    have admits := fits.mono fun _ _ => Kind.admits_of_fits
    obtain ⟨slot, sort, place⟩ :=
      Layout.exists_slot_of_isPlain kind.isPlain_layout (fits.length_eq ▸ inside)
    refine ⟨slot, sort, place, fun other excludes => ?_, fun other refused => ?_⟩
    · obtain ⟨reason, _, why, failed⟩ :=
        (Content.follows_take kind).error_of_set admits place (Kind.not_admits_of_excludes excludes)
      rw [ofValues_of_error failed, why excludes]
    · obtain ⟨reason, _, _, failed⟩ := (Content.follows_take kind).error_of_set admits place refused
      exact ⟨reason, ofValues_of_error failed⟩
  case again => exact ofValues_of_ok record.content.take_values

/-- A structure without fields, which says nothing of a chassis. -/
def unrelated : Structure := ⟨⟨.endOfTable, 4, 7⟩, {}⟩

/-- The values of a locked rack with one contained element, of a type that has no name. -/
def rackValues : List Value :=
  [.text (.value "Acme"), .byte 0x97, .text .notSpecified, .text (.badIndex 9), .text .notSpecified,
    .byte 3, .byte 3,
    .byte 3, .byte 2, .dword 0, .byte 42, .byte 2, .list [.record [.byte 0x7F, .byte 0, .byte 2]],
    .text .notSpecified]

/-- The rack is made of all its values. It is not made without the last one, nor with a number for
the elements, nor with an element that says nothing of how often it is contained. -/
theorem ofValues_agrees_rack :
    (∃ record, ofValues .chassis unrelated rackValues = .ok (record, []) ∧
      record.source = unrelated ∧
      record.content.kind = .chassis ∧ record.content.values = rackValues) ∧
    ofValues .chassis unrelated (rackValues.take 13) = .error (.misuse .tooFewValues) ∧
    ofValues .chassis unrelated (rackValues.set 12 (.byte 1)) = .error (.misuse .wrongKind) ∧
    ∃ reason, ofValues .chassis unrelated (rackValues.set 12 (.list [.record [.byte 0x7F]])) =
      .error (.misuse reason) := by
  have elements : Kind.Fits (.list .elements) (.list [.record [.byte 0x7F, .byte 0, .byte 2]]) :=
    ⟨_, rfl, List.forall_mem_singleton.mpr ⟨0x7F, 0, 2, rfl⟩⟩
  have fits : RecordKind.chassis.layout.Each Kind.Fits rackValues := by
    iterate 12 refine ⟨_, _, rfl, ⟨_, rfl⟩, ?_⟩
    exact ⟨_, _, rfl, elements, _, _, rfl, ⟨_, rfl⟩, rfl⟩
  obtain ⟨made, short, foreign⟩ := (ofValues_agrees unrelated).1 .chassis rackValues fits
  obtain ⟨slot, sort, place, kinds, items⟩ := foreign 12 (by decide)
  cases place
  refine ⟨made, short 13 (by decide), kinds _ fun _ => nofun, items _ ?_⟩
  rintro ⟨_, ⟨⟩, each⟩
  obtain ⟨_, _, _, _, same⟩ := each _ (List.mem_singleton_self _)
  cases same

end Record

end Dmi
