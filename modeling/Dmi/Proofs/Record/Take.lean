/-
**A record holds exactly the values of its fields.**

What a field holds in a record depends on its kind only (`Kind.Held`), and so does how it is taken
from a value and how it is given back. A record is listed (`Listed`) if it is made of what the
fields of a layout hold, taken one after the other, and gives their values in the same order. Then
values of the right kinds are all taken, none is left, and the record gives them back. Main
statements:

* `Kind.take_value`, `Kind.fits_iff` — what a field holds and the values of its kind;
* `Listed.fits_values`, `Listed.take_values`, `Listed.exists_values` — records that are listed;
* `Content.fits_values`, `Content.take_values`, `Content.exists_take` — the twelve kinds of
  records.
-/

import Dmi.Proofs.Layout.Each
import Dmi.Record.Basic

namespace Dmi

/-! ### Taking one value after the other -/

namespace Take

variable {α β : Type}

theorem bind_of_ok {take : Take α} {next : α → Take β} {values rest : List Value} {found : α}
    (taken : take values = .ok found rest) : (take >>= next) values = next found rest := by
  show EStateM.bind take next values = _
  rw [EStateM.bind, taken]

theorem bind_of_error {take : Take α} {next : α → Take β} {values rest : List Value} {error : Error}
    (failed : take values = .error error rest) : (take >>= next) values = .error error rest := by
  show EStateM.bind take next values = _
  rw [EStateM.bind, failed]

theorem bind_eq_ok {take : Take α} {next : α → Take β} {values rest left : List Value} {found : α}
    {last : β} (taken : take values = .ok found rest) (others : next found rest = .ok last left) :
    (take >>= next) values = .ok last left :=
  (bind_of_ok taken).trans others

theorem block_val {count : Nat} (held : Block count) (rest : List Value) :
    block count (.bytes held.val :: rest) = .ok held rest := by
  simp only [block, nextAs, Block.ofList?_val]

theorem listOf_map (item : Value → Except Error α) (value : α → Value)
    (inverse : ∀ one, item (value one) = .ok one) (items : List α) (rest : List Value) :
    listOf item (.list (items.map value) :: rest) = .ok items rest := by
  have all : (items.map value).mapM item = .ok items := by
    induction items with
    | nil => rfl
    | cons one items ih =>
      rw [List.map_cons, List.mapM_cons, inverse, ih]
      rfl
  simp only [listOf, list, nextAs, all]

end Take

/-! ### What a field holds -/

namespace ListKind

/-- What an item of a list holds in a record. -/
def Item : ListKind → Type
  | handles => UInt16
  | elements => ContainedElement
  | peers => PeerGroup

/-- What an item of a list holds, from its value. -/
def itemOf : (kind : ListKind) → Value → Except Error kind.Item
  | handles => Baseboard.handleOf
  | elements => ContainedElement.ofValue
  | peers => PeerGroup.ofValue

/-- The value of an item of a list. -/
def itemValue : (kind : ListKind) → kind.Item → Value
  | handles => .word
  | elements => ContainedElement.value
  | peers => PeerGroup.value

theorem itemOf_itemValue (kind : ListKind) (item : kind.Item) :
    kind.itemOf (kind.itemValue item) = .ok item := by
  cases kind <;> rfl

theorem fitsItem_iff {kind : ListKind} {value : Value} :
    kind.FitsItem value ↔ ∃ item, value = kind.itemValue item := by
  cases kind with
  | handles => exact Iff.rfl
  | elements =>
    constructor
    · rintro ⟨type, least, most, rfl⟩
      exact ⟨(⟨type, least, most⟩ : ContainedElement), rfl⟩
    · rintro ⟨element, rfl⟩
      exact ⟨_, _, _, rfl⟩
  | peers =>
    constructor
    · rintro ⟨segment, bus, function, width, rfl⟩
      exact ⟨(⟨segment, bus, function, width⟩ : PeerGroup), rfl⟩
    · rintro ⟨peer, rfl⟩
      exact ⟨_, _, _, _, rfl⟩

/-- Values that are each the value of an item are the values of a list of items. -/
theorem exists_map_eq {kind : ListKind} {values : List Value}
    (each : ∀ value ∈ values, kind.FitsItem value) :
    ∃ items : List kind.Item, values = items.map kind.itemValue := by
  induction values with
  | nil => exact ⟨[], rfl⟩
  | cons value values ih =>
    obtain ⟨item, rfl⟩ := fitsItem_iff.mp (each value List.mem_cons_self)
    obtain ⟨items, rfl⟩ := ih fun other member => each other (List.mem_cons_of_mem _ member)
    exact ⟨item :: items, rfl⟩

end ListKind

namespace Kind

/-- What a field of the kind holds in a record. -/
def Held : Kind → Type
  | number width => width.Number
  | text => Text
  | bytes count => Block count
  | list kind => List kind.Item

/-- Takes what a field of the kind holds. -/
def take : (kind : Kind) → Take kind.Held
  | number width => Take.number width
  | text => Take.text
  | bytes count => Take.block count
  | list kind => Take.listOf kind.itemOf

/-- The value of what a field of the kind holds. -/
def value : (kind : Kind) → kind.Held → Value
  | number width, n => .number width n
  | text, found => .text found
  | bytes _, block => .bytes block.val
  | list kind, items => .list (items.map kind.itemValue)

/-- **What a field holds is taken from its value.** -/
theorem take_value (kind : Kind) (held : kind.Held) (rest : List Value) :
    kind.take (kind.value held :: rest) = .ok held rest := by
  cases kind with
  | number width => cases width <;> rfl
  | text => rfl
  | bytes count => exact Take.block_val held rest
  | list kind => exact Take.listOf_map kind.itemOf kind.itemValue kind.itemOf_itemValue held rest

/-- **The values of a kind** are those of what its fields hold. -/
theorem fits_iff {kind : Kind} {value : Value} :
    kind.Fits value ↔ ∃ held, value = kind.value held := by
  cases kind with
  | number width => exact Iff.rfl
  | text => exact Iff.rfl
  | bytes count => exact Iff.rfl
  | list kind =>
    constructor
    · rintro ⟨values, rfl, each⟩
      obtain ⟨items, rfl⟩ := ListKind.exists_map_eq each
      exact ⟨items, rfl⟩
    · rintro ⟨items, rfl⟩
      refine ⟨_, rfl, fun value member => ?_⟩
      obtain ⟨item, _, rfl⟩ := List.mem_map.mp member
      exact ListKind.fitsItem_iff.mpr ⟨item, rfl⟩

end Kind

/-! ### What the fields of a record hold -/

namespace Fields

variable {α : Type}

/-- What the fields hold, one after the other. -/
def Held : List Field → Type
  | [] => Unit
  | field :: rest => field.kind.Held × Held rest

/-- The values of what the fields hold. -/
def values : (fields : List Field) → Held fields → List Value
  | [], _ => []
  | field :: rest, held => field.kind.value held.1 :: values rest held.2

/-- A function of what the fields hold. -/
def Makes (α : Type) : List Field → Type
  | [] => α
  | field :: rest => field.kind.Held → Makes α rest

/-- What a function makes of what the fields hold. -/
def made : (fields : List Field) → Makes α fields → Held fields → α
  | [], make, _ => make
  | _ :: rest, make, held => made rest (make held.1) held.2

/-- All that a function makes of what the fields can hold has a property. -/
def All (holds : α → Prop) : (fields : List Field) → Makes α fields → Prop
  | [], make => holds make
  | field :: rest, make => ∀ held : field.kind.Held, All holds rest (make held)

/-- Takes what the fields hold, one after the other, and makes something of it. -/
def take : (fields : List Field) → Makes α fields → Take α
  | [], make => pure make
  | field :: rest, make => field.kind.take >>= fun held => take rest (make held)

theorem all_of_made {holds : α → Prop} {fields : List Field} {make : Makes α fields}
    (each : ∀ held, holds (made fields make held)) : All holds fields make := by
  induction fields with
  | nil => exact each ()
  | cons field rest ih => exact fun held => ih fun others => each (held, others)

/-- What has every property of all that a function makes is made by it. -/
theorem exists_made {fields : List Field} {make : Makes α fields} {record : α}
    (onto : ∀ holds : α → Prop, All holds fields make → holds record) :
    ∃ held, made fields make held = record :=
  onto (fun record => ∃ held, made fields make held = record) <|
    all_of_made fun held => ⟨held, rfl⟩

theorem each_values (fields : List Field) (held : Held fields) :
    (Layout.ofFields fields).Each Kind.Fits (values fields held) := by
  induction fields with
  | nil => rfl
  | cons field rest ih => exact ⟨_, _, rfl, Kind.fits_iff.mpr ⟨held.1, rfl⟩, ih held.2⟩

theorem exists_held {fields : List Field} {found : List Value}
    (each : (Layout.ofFields fields).Each Kind.Fits found) :
    ∃ held, found = values fields held := by
  induction fields generalizing found with
  | nil => exact ⟨(), each⟩
  | cons field rest ih =>
    obtain ⟨value, others, rfl, fits, behind⟩ := each
    obtain ⟨first, rfl⟩ := Kind.fits_iff.mp fits
    obtain ⟨held, rfl⟩ := ih behind
    exact ⟨(first, held), rfl⟩

theorem take_values (fields : List Field) (make : Makes α fields) (held : Held fields) :
    take fields make (values fields held) = .ok (made fields make held) [] := by
  induction fields with
  | nil => rfl
  | cons field rest ih => exact Take.bind_eq_ok (field.kind.take_value held.1 _) (ih _ held.2)

end Fields

/-- Records are taken along a layout without records inside: all of them are made of what its fields
hold, taken one after the other, and give back the values of just that. -/
inductive Listed {α : Type} : Layout → Take α → (α → List Value) → Prop
  | mk (fields : List Field) (make : Fields.Makes α fields) {values : α → List Value}
    (onto : ∀ record, ∀ holds : α → Prop, Fields.All holds fields make → holds record)
    (same : ∀ held, values (Fields.made fields make held) = Fields.values fields held) :
    Listed (.ofFields fields) (Fields.take fields make) values

namespace Listed

variable {α : Type} {layout : Layout} {take : Take α} {values : α → List Value}

theorem fits_values (listed : Listed layout take values) (record : α) :
    layout.Each Kind.Fits (values record) := by
  obtain ⟨fields, make, onto, same⟩ := listed
  obtain ⟨held, rfl⟩ := Fields.exists_made (onto record)
  exact same held ▸ Fields.each_values fields held

/-- **A record is taken back from its values**, and none is left over. -/
theorem take_values (listed : Listed layout take values) (record : α) :
    take (values record) = .ok record [] := by
  obtain ⟨fields, make, onto, same⟩ := listed
  obtain ⟨held, rfl⟩ := Fields.exists_made (onto record)
  rw [same, Fields.take_values]

/-- **Values of the right kinds are those of a record.** -/
theorem exists_values (listed : Listed layout take values) {found : List Value}
    (fits : layout.Each Kind.Fits found) : ∃ record, values record = found := by
  obtain ⟨fields, make, onto, same⟩ := listed
  obtain ⟨held, rfl⟩ := Fields.exists_held fits
  exact ⟨_, same held⟩

end Listed

/-! ### The records

Each record is written down with its layout, what it takes and its values. That it is listed matches
the three, field by field. -/

theorem Bios.listed : Listed Bios.layout Bios.take Bios.values :=
  .mk Bios.layout.fields Bios.mk (fun (.mk ..) _ all => all ..) fun _ => rfl

theorem System.listed : Listed System.layout System.take System.values :=
  .mk System.layout.fields System.mk (fun (.mk ..) _ all => all ..) fun _ => rfl

theorem Baseboard.listed : Listed Baseboard.layout Baseboard.take Baseboard.values :=
  .mk Baseboard.layout.fields Baseboard.mk (fun (.mk ..) _ all => all ..) fun _ => rfl

theorem Chassis.listed : Listed Chassis.layout Chassis.take Chassis.values :=
  .mk Chassis.layout.fields Chassis.mk (fun (.mk ..) _ all => all ..) fun _ => rfl

theorem Processor.listed : Listed Processor.layout Processor.take Processor.values :=
  .mk Processor.layout.fields Processor.mk (fun (.mk ..) _ all => all ..) fun _ => rfl

theorem Cache.listed : Listed Cache.layout Cache.take Cache.values :=
  .mk Cache.layout.fields Cache.mk (fun (.mk ..) _ all => all ..) fun _ => rfl

theorem SystemSlot.listed : Listed SystemSlot.layout SystemSlot.take SystemSlot.values :=
  .mk SystemSlot.layout.fields SystemSlot.mk (fun (.mk ..) _ all => all ..) fun _ => rfl

theorem MemoryDevice.listed : Listed MemoryDevice.layout MemoryDevice.take MemoryDevice.values :=
  .mk MemoryDevice.layout.fields MemoryDevice.mk (fun (.mk ..) _ all => all ..) fun _ => rfl

theorem IpmiDevice.listed : Listed IpmiDevice.layout IpmiDevice.take IpmiDevice.values :=
  .mk IpmiDevice.layout.fields IpmiDevice.mk (fun (.mk ..) _ all => all ..) fun _ => rfl

theorem TpmDevice.listed : Listed TpmDevice.layout TpmDevice.take TpmDevice.values :=
  .mk TpmDevice.layout.fields TpmDevice.mk (fun (.mk ..) _ all => all ..) fun _ => rfl

/-! ### All kinds -/

namespace Content

variable {found : List Value}

/-- **The values of a record are of the kinds of its layout.** -/
theorem fits_values (content : Content) : content.kind.layout.Each Kind.Fits content.values := by
  cases content with
  | bios fields => exact Bios.listed.fits_values fields
  | system fields => exact System.listed.fits_values fields
  | baseboard fields => exact Baseboard.listed.fits_values fields
  | chassis fields => exact Chassis.listed.fits_values fields
  | processor fields => exact Processor.listed.fits_values fields
  | cache fields => exact Cache.listed.fits_values fields
  | slot fields => exact SystemSlot.listed.fits_values fields
  | memoryDevice fields => exact MemoryDevice.listed.fits_values fields
  | ipmiDevice fields => exact IpmiDevice.listed.fits_values fields
  | tpmDevice fields => exact TpmDevice.listed.fits_values fields
  | inactive => rfl
  | endOfTable => rfl

/-- **A record is taken back from its values**, and none is left over. -/
theorem take_values (content : Content) : take content.kind content.values = .ok content [] := by
  cases content with
  | bios fields => exact Take.bind_eq_ok (Bios.listed.take_values fields) rfl
  | system fields => exact Take.bind_eq_ok (System.listed.take_values fields) rfl
  | baseboard fields => exact Take.bind_eq_ok (Baseboard.listed.take_values fields) rfl
  | chassis fields => exact Take.bind_eq_ok (Chassis.listed.take_values fields) rfl
  | processor fields => exact Take.bind_eq_ok (Processor.listed.take_values fields) rfl
  | cache fields => exact Take.bind_eq_ok (Cache.listed.take_values fields) rfl
  | slot fields => exact Take.bind_eq_ok (SystemSlot.listed.take_values fields) rfl
  | memoryDevice fields => exact Take.bind_eq_ok (MemoryDevice.listed.take_values fields) rfl
  | ipmiDevice fields => exact Take.bind_eq_ok (IpmiDevice.listed.take_values fields) rfl
  | tpmDevice fields => exact Take.bind_eq_ok (TpmDevice.listed.take_values fields) rfl
  | inactive => rfl
  | endOfTable => rfl

/-- Values of the right kinds are those of a record. -/
theorem exists_values {kind : RecordKind} (fits : kind.layout.Each Kind.Fits found) :
    ∃ content : Content, content.kind = kind ∧ content.values = found := by
  cases kind with
  | bios => exact (Bios.listed.exists_values fits).imp' bios fun _ same => ⟨rfl, same⟩
  | system => exact (System.listed.exists_values fits).imp' system fun _ same => ⟨rfl, same⟩
  | baseboard =>
    exact (Baseboard.listed.exists_values fits).imp' baseboard fun _ same => ⟨rfl, same⟩
  | chassis => exact (Chassis.listed.exists_values fits).imp' chassis fun _ same => ⟨rfl, same⟩
  | processor =>
    exact (Processor.listed.exists_values fits).imp' processor fun _ same => ⟨rfl, same⟩
  | cache => exact (Cache.listed.exists_values fits).imp' cache fun _ same => ⟨rfl, same⟩
  | slot => exact (SystemSlot.listed.exists_values fits).imp' slot fun _ same => ⟨rfl, same⟩
  | memoryDevice =>
    exact (MemoryDevice.listed.exists_values fits).imp' memoryDevice fun _ same => ⟨rfl, same⟩
  | ipmiDevice =>
    exact (IpmiDevice.listed.exists_values fits).imp' ipmiDevice fun _ same => ⟨rfl, same⟩
  | tpmDevice =>
    exact (TpmDevice.listed.exists_values fits).imp' tpmDevice fun _ same => ⟨rfl, same⟩
  | inactive => exact ⟨.inactive, rfl, fits.symm⟩
  | endOfTable => exact ⟨.endOfTable, rfl, fits.symm⟩

/-- **Values of the right kinds make a record**, and none is left over. The record has the kind
asked for, and gives the values back. -/
theorem exists_take {kind : RecordKind} (fits : kind.layout.Each Kind.Fits found) :
    ∃ content, take kind found = .ok content [] ∧ content.values = found ∧ content.kind = kind := by
  obtain ⟨content, rfl, rfl⟩ := exists_values fits
  exact ⟨content, take_values content, rfl, rfl⟩

end Content

end Dmi
