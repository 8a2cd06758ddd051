/-
**What missing fields are worth.**

`Kind.worth` and `Layout.defaults` say it without a way to fail, for defaults that fit their fields.
Main statement:

* `Layout.absent_of_fit` — fields without bytes get exactly their defaults.
-/

import Dmi.Layout.Decode

namespace Dmi

namespace Kind

/-- Whether a field can be worth its default: a number has room for it, and a run of bytes has
none. -/
def DefaultFits : (kind : Kind) → (default : Option UInt64) → Prop
  | number width, default => (default.getD 0).toNat < LittleEndian.limit width.size
  | bytes _, default => default = none
  | text, _ => True
  | list _, _ => True

instance : (kind : Kind) → (default : Option UInt64) → Decidable (kind.DefaultFits default)
  | number width, default =>
    inferInstanceAs (Decidable ((default.getD 0).toNat < LittleEndian.limit width.size))
  | bytes _, default => inferInstanceAs (Decidable (default = none))
  | text, _ => .isTrue trivial
  | list _, _ => .isTrue trivial

/-- The default of a field, or zero. -/
def worth : (kind : Kind) → (default : Option UInt64) → Value
  | number width, default => .number width (width.number (default.getD 0).toNat)
  | text, _ => .text .notSpecified
  | bytes count, _ => .bytes (List.replicate count 0)
  | list _, _ => .list []

theorem absent_of_fits {kind : Kind} {default : Option UInt64} (fits : kind.DefaultFits default) :
    kind.absent default = .ok (kind.worth default) := by
  cases kind with
  | number width => exact if_pos fits
  | bytes count =>
    have none_ : default = none := fits
    rw [none_]
    rfl
  | text => rfl
  | list _ => rfl

theorem absent_ne_error {kind : Kind} {default : Option UInt64} (fits : kind.DefaultFits default)
    (error : Error) : kind.absent default ≠ .error error := by
  rw [absent_of_fits fits]
  intro wrong
  cases wrong

end Kind

namespace Layout

/-- Every default fits its field, at every depth. -/
def DefaultsFit : Layout → Prop
  | done => True
  | field slot kind rest => kind.DefaultFits slot.default ∧ rest.DefaultsFit
  | record _ _ inner rest => inner.DefaultsFit ∧ rest.DefaultsFit

instance decidableDefaultsFit : (layout : Layout) → Decidable layout.DefaultsFit
  | done => .isTrue trivial
  | field slot kind rest =>
    have := decidableDefaultsFit rest
    inferInstanceAs (Decidable (kind.DefaultFits slot.default ∧ rest.DefaultsFit))
  | record _ _ inner rest =>
    have := decidableDefaultsFit inner
    have := decidableDefaultsFit rest
    inferInstanceAs (Decidable (inner.DefaultsFit ∧ rest.DefaultsFit))

/-- The defaults of all fields; a record is worth the defaults of its own fields. -/
def defaults : Layout → List Value
  | done => []
  | field slot kind rest => kind.worth slot.default :: rest.defaults
  | record _ _ inner rest => .record inner.defaults :: rest.defaults

/-- **Fields without bytes get their defaults**, at every depth. -/
theorem absent_of_fit {layout : Layout} (fit : layout.DefaultsFit) :
    layout.absent = .ok layout.defaults := by
  induction layout with
  | done => rfl
  | field slot kind rest ih =>
    rw [absent, Kind.absent_of_fits fit.1, ih fit.2]
    rfl
  | record slot title inner rest ihInner ihRest =>
    rw [absent, ihInner fit.1, ihRest fit.2]
    rfl

theorem absent_ne_error {layout : Layout} (fit : layout.DefaultsFit) (error : Error) :
    layout.absent ≠ .error error := by
  rw [absent_of_fit fit]
  intro wrong
  cases wrong

end Layout

end Dmi
