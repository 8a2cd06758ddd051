/-
**A record under the two policies.**

The records of the catalog have no records inside them, so that under the strict policy a structure
fails with the very error that the tolerant one hands back first. Main statements:

* `Record.read_strict` — the strict reading of a structure from its tolerant one;
* `Layout.strict_of_tolerant` — the two policies on any layout and on the catalog.
-/

import Dmi.Proofs.Layout.Strictness
import Dmi.Proofs.Record.RoundTrip

namespace Dmi

/-- **A structure under the strict policy**: the record if nothing is tolerated, and otherwise the
first error that is. -/
theorem Record.read_strict {kind : RecordKind} {s : Structure} {record : Record}
    {errors : List Error} (found : Record.read kind .tolerant s = .ok (record, errors)) :
    (errors = [] → Record.read kind .strict s = .ok (record, [])) ∧
      ∀ first later, errors = first :: later → Record.read kind .strict s = .error first := by
  obtain ⟨type, long, values, last, rest, decoded, built⟩ := read_eq_ok_iff.mp found
  have reading : Lenient.FailsFirst Eq (kind.layout.decode .strict s.body kind.title 0 false)
      (kind.layout.decode .tolerant s.body kind.title 0 false) :=
        Layout.failsFirst_walk_of_isPlain kind.isPlain_layout
  rw [decoded] at reading
  constructor
  · intro nothing
    refine read_eq_ok_iff.mpr ⟨type, long, values, last, rest, ?_, built⟩
    calc kind.layout.decode .strict s.body kind.title 0 false
        = ⟨(kind.layout.decode .strict s.body kind.title 0 false).result,
            (kind.layout.decode .strict s.body kind.title 0 false).tolerated⟩ := rfl
      _ = ⟨.ok (values, last), []⟩ := by rw [reading.agree nothing, reading.tolerated]
  · intro first later some
    obtain ⟨error, failed, rfl⟩ := reading.fails first later some
    exact read_of_failed type long failed

namespace Layout

/-- **Strict and tolerant reading agree.** On any layout and body, from any offset, complete or not:
the strict reading tolerates nothing. It is the tolerant one if that tolerates nothing, and
otherwise it fails, with the cause of the first tolerated error. When the tolerant reading succeeds,
its errors are those of the string numbers without a string among its values, one for each and in
depth-first order, with the names of their record and field. For a structure of the catalog, the
strict policy gives the record, or the first tolerated error itself. -/
theorem strict_of_tolerant (layout : Layout) (body : Body) (title : String) (offset : Nat)
    (complete : Bool) : let tolerant := layout.decode .tolerant body title offset complete
    let strict := layout.decode .strict body title offset complete
    strict.tolerated = [] ∧
      (tolerant.tolerated = [] → strict.result = tolerant.result) ∧
      (∀ first later, tolerant.tolerated = first :: later →
        ∃ error, strict.result = .error error ∧ error.root = first.root) ∧
      (∀ values last, tolerant.result = .ok (values, last) →
        tolerant.tolerated = layout.misreadings body.strings.length title values ∧
          tolerant.tolerated.map Error.root =
            (Value.badIndicesOf values).map (.badStringIndex · body.strings.length)) ∧
      ∀ kind s record errors, Record.read kind .tolerant s = .ok (record, errors) →
        (errors = [] → Record.read kind .strict s = .ok (record, [])) ∧
          ∀ first later, errors = first :: later → Record.read kind .strict s = .error first := by
  intro tolerant strict
  have reading : Lenient.FailsFirst SameRoot strict tolerant := failsFirst_walk layout
  refine ⟨reading.tolerated, reading.agree, reading.fails, ?_,
    fun kind s record errors => Record.read_strict⟩
  intro values last found
  have errors := tolerated_of_walk found
  exact ⟨errors, errors.symm ▸ roots_misreadings (fits_of_walk found)⟩

end Layout

end Dmi
