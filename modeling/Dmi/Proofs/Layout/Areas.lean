/-
**The bytes that a complete walk reads.**

Every field that a complete walk reads has an area of the section, from where it begins to where the
next one does, and depends on no byte outside of it: `Body.AgreesOn` relates two bodies that differ
at most outside an area. `Layout.Reads` lists the areas of a walk in the order of the fields, those
of the records inside it among them. So no byte is read for two fields, at whatever depth they
stand. Main statements:

* `Kind.read_congr` — a field depends on the bytes of its area only;
* `Layout.exists_reads_of_walk` — the areas of a complete walk;
* `Layout.Reads.inside`, `Layout.Reads.apart` — they lie in the part of the section that the walk
  passes over, one behind the other.
-/

import Dmi.Proofs.Layout.Defaults
import Dmi.Proofs.Layout.Spans

namespace Dmi

/-! ### Areas -/

/-- The bytes of a section from `start` up to `stop`. -/
structure Area where
  start : Nat
  stop : Nat
  deriving DecidableEq, Repr

/-- The area lies between two offsets. -/
structure Area.Inside (low high : Nat) (area : Area) : Prop where
  above : low ≤ area.start
  forward : area.start ≤ area.stop
  below : area.stop ≤ high

theorem Area.Inside.mono {low high lower higher : Nat} {area : Area} (inside : area.Inside low high)
    (down : lower ≤ low) (up : high ≤ higher) : area.Inside lower higher where
  above := Nat.le_trans down inside.above
  forward := inside.forward
  below := Nat.le_trans inside.below up

/-- Areas that lie one behind the other, and hence have no byte in common. -/
def Area.Apart (areas : List Area) : Prop :=
  areas.Pairwise fun one other => one.stop ≤ other.start

/-- The bodies have the same size, the same strings, and the same bytes from `start` to `stop`. -/
structure Body.AgreesOn (start stop : Nat) (body other : Body) : Prop where
  size : other.size = body.size
  strings : other.strings = body.strings
  bytes : ∀ index, start ≤ index → index < stop → other.formatted[index]? = body.formatted[index]?

namespace Body

variable {start stop : Nat} {body other : Body}

theorem AgreesOn.refl (start stop : Nat) (body : Body) : body.AgreesOn start stop body where
  size := rfl
  strings := rfl
  bytes _ _ _ := rfl

/-- Bodies that agree keep the bytes of each other, as far as these are inside. -/
theorem AgreesOn.keeps (agree : AgreesOn start stop body other) (inside : stop ≤ body.size) :
    Keeps start stop body other where
  strings := agree.strings
  inside := agree.size.symm ▸ inside
  bytes := agree.bytes

end Body

/-- **A field depends on the bytes of its area only.** -/
theorem Kind.read_congr {policy : StringPolicy} {body other : Body} {record field : String}
    {kind : Kind} {offset next : Nat} {value : Value}
    (found : (kind.read policy body record field offset).result = .ok (value, next))
    (agree : body.AgreesOn offset next other) :
    (kind.read policy other record field offset).result = .ok (value, next) :=
  (spans_read found).whole other (agree.keeps (spans_read found).inside)

/-! ### The areas of a walk -/

namespace Layout

/-- A complete walk from `offset` to `last` gives these values. Each field that is read has its area
among those listed, and is read alike in every body that agrees on it; the others are worth their
defaults. -/
inductive Reads (policy : StringPolicy) (body : Body) :
    (title : String) → Layout → (offset : Nat) → List Value → (last : Nat) → List Area → Prop
  | done {title : String} {offset : Nat} : Reads policy body title done offset [] offset []
  | field {title : String} {slot : Slot} {kind : Kind} {rest : Layout} {offset next last : Nat}
    {value : Value} {values : List Value} {areas : List Area} (kept : slot.ignored = false)
    (read : ∀ other, body.AgreesOn (offset + slot.skip) next other →
      (kind.read policy other title slot.name (offset + slot.skip)).result = .ok (value, next))
    (behind : Reads policy body title rest next values last areas) :
    Reads policy body title (field slot kind rest) offset (value :: values) last
      (⟨offset + slot.skip, next⟩ :: areas)
  | ignoredField {title : String} {slot : Slot} {kind : Kind} {rest : Layout} {offset last : Nat}
    {values : List Value} {areas : List Area} (ignored : slot.ignored = true)
    (behind : Reads policy body title rest offset values last areas) :
    Reads policy body title (field slot kind rest) offset
      (kind.worth slot.default :: values) last areas
  | record {title name : String} {slot : Slot} {inner rest : Layout} {offset next last : Nat}
    {fields values : List Value} {within areas : List Area} (kept : slot.ignored = false)
    (walked : Reads policy body name inner (offset + slot.skip) fields next within)
    (behind : Reads policy body title rest next values last areas) :
    Reads policy body title (record slot name inner rest) offset
      (.record fields :: values) last (within ++ areas)
  | ignoredRecord {title name : String} {slot : Slot} {inner rest : Layout} {offset last : Nat}
    {values : List Value} {areas : List Area} (ignored : slot.ignored = true)
    (behind : Reads policy body title rest offset values last areas) :
    Reads policy body title (record slot name inner rest) offset
      (.record inner.defaults :: values) last areas

variable {policy : StringPolicy} {body : Body} {title : String} {layout : Layout}
  {offset last : Nat} {values : List Value} {areas : List Area}

/-- **The areas of a complete walk.** -/
theorem exists_reads_of_walk (fit : layout.DefaultsFit)
    (found : (walk policy body title true false layout offset).result = .ok (values, last)) :
    ∃ areas, Reads policy body title layout offset values last areas := by
  induction layout generalizing title offset last values with
  | done =>
    cases found
    exact ⟨[], .done⟩
  | field slot kind rest ih =>
    obtain ⟨_, value, next, others, head, tail, rfl⟩ := complete_field_iff.mp found
    obtain ⟨areas, behind⟩ := ih fit.2 tail
    rw [Slot.encounter_false] at head
    cases ignored : slot.ignored with
    | true =>
      rw [ignored, if_pos rfl] at head
      cases fieldValue_of_visit head with
      | ignored absent =>
        rw [Kind.absent_of_fits fit.1] at absent
        cases absent
        exact ⟨areas, .ignoredField ignored behind⟩
    | false =>
      rw [ignored, if_neg Bool.false_ne_true] at head
      cases fieldValue_of_visit head with
      | present read => exact ⟨_, .field ignored (fun _ => Kind.read_congr read) behind⟩
  | record slot name inner rest ihInner ihRest =>
    obtain ⟨_, value, next, others, head, tail, rfl⟩ := complete_record_iff.mp found
    obtain ⟨areas, behind⟩ := ihRest fit.2 tail
    rw [Slot.encounter_false] at head
    cases ignored : slot.ignored with
    | true =>
      rw [ignored, if_pos rfl] at head
      cases recordValue_of_visitRecord head with
      | ignored absent =>
        rw [absent_of_fit fit.1] at absent
        cases absent
        exact ⟨areas, .ignoredRecord ignored behind⟩
    | false =>
      rw [ignored, if_neg Bool.false_ne_true] at head
      cases recordValue_of_visitRecord head with
      | present walked =>
        obtain ⟨within, reads⟩ := ihInner fit.1 walked
        exact ⟨_, .record ignored reads behind⟩

namespace Reads

/-- A complete walk goes forward, and never past the end of the section. -/
theorem inside (reads : Reads policy body title layout offset values last areas) :
    offset ≤ last ∧ ∀ area ∈ areas, area.Inside offset last ∧ area.stop ≤ body.size := by
  induction reads with
  | done => exact ⟨Nat.le_refl _, fun area member => absurd member List.not_mem_nil⟩
  | @field _ slot _ _ offset next last _ _ _ _ read _ ih =>
    have spans := Kind.spans_read (read body (.refl _ _ body))
    have skipped : offset ≤ offset + slot.skip := Nat.le_add_right _ _
    have passed := Nat.le_trans skipped spans.forward
    refine ⟨Nat.le_trans passed ih.1, List.forall_mem_cons.mpr ⟨⟨?_, spans.inside⟩, ?_⟩⟩
    · exact ⟨skipped, spans.forward, ih.1⟩
    · exact fun area member => (ih.2 area member).imp_left (·.mono passed (Nat.le_refl last))
  | ignoredField _ _ ih => exact ih
  | @record _ _ slot _ _ offset next last _ _ _ _ _ _ _ ihInner ihRest =>
    have skipped : offset ≤ offset + slot.skip := Nat.le_add_right _ _
    have passed := Nat.le_trans skipped ihInner.1
    refine ⟨Nat.le_trans passed ihRest.1, List.forall_mem_append.mpr ⟨?_, ?_⟩⟩
    · exact fun area member => (ihInner.2 area member).imp_left (·.mono skipped ihRest.1)
    · exact fun area member => (ihRest.2 area member).imp_left (·.mono passed (Nat.le_refl last))
  | ignoredRecord _ _ ih => exact ih

/-- **No byte is read for two fields**, at whatever depth these stand. -/
theorem apart (reads : Reads policy body title layout offset values last areas) :
    Area.Apart areas := by
  induction reads with
  | done => exact .nil
  | field _ _ behind ih =>
    exact List.pairwise_cons.mpr ⟨fun area member => (behind.inside.2 area member).1.above, ih⟩
  | ignoredField _ _ ih => exact ih
  | record _ walked behind ihInner ihRest =>
    refine List.pairwise_append.mpr ⟨ihInner, ihRest, fun one member other member' => ?_⟩
    exact Nat.le_trans (walked.inside.2 one member).1.below (behind.inside.2 other member').1.above
  | ignoredRecord _ _ ih => exact ih

end Reads

/-- A complete walk from `offset` to `last` gives these values, and reads each field from an area of
its own between the two. -/
def ReadsForward (policy : StringPolicy) (body : Body) (title : String) (layout : Layout)
    (offset : Nat) (values : List Value) (last : Nat) : Prop :=
  offset ≤ last ∧ ∃ areas, Reads policy body title layout offset values last areas ∧
    Area.Apart areas ∧ ∀ area ∈ areas, area.Inside offset last ∧ area.stop ≤ body.size

theorem readsForward_of_walk (fit : layout.DefaultsFit)
    (found : (walk policy body title true false layout offset).result = .ok (values, last)) :
    layout.ReadsForward policy body title offset values last := by
  obtain ⟨areas, reads⟩ := exists_reads_of_walk fit found
  exact ⟨reads.inside.1, areas, reads, reads.apart, reads.inside.2⟩

end Layout

end Dmi
