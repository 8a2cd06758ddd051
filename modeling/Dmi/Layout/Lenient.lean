/-
**Results with tolerated errors.**

A reader that goes on after an error that it can do without hands it back beside its result, in the
order of the fields. The errors stay when the reader fails later. Main statement: a lenient result
is a lawful monad.
-/

import Dmi.Error

namespace Dmi

/-- A result and the errors tolerated on the way to it. -/
structure Lenient (α : Type) where
  result : Except Error α
  tolerated : List Error := []

namespace Lenient

variable {α β : Type}

/-- Fails. -/
def fail (error : Error) : Lenient α := ⟨.error error, []⟩

/-- A result that tolerates nothing. -/
def ofExcept (result : Except Error α) : Lenient α := ⟨result, []⟩

/-- Goes on with `found` after an error. -/
def tolerate (error : Error) (found : α) : Lenient α := ⟨.ok found, [error]⟩

/-- Goes on with the result, if there is one. -/
def andThen (first : Lenient α) (next : α → Lenient β) : Lenient β :=
  match first.result with
  | .ok found =>
    let second := next found
    ⟨second.result, first.tolerated ++ second.tolerated⟩
  | .error error => ⟨.error error, first.tolerated⟩

/-- The result after a function. -/
def map (change : α → β) (reading : Lenient α) : Lenient β :=
  { reading with
    result := match reading.result with
      | .ok found => .ok (change found)
      | .error error => .error error }

instance : Monad Lenient where
  pure found := ⟨.ok found, []⟩
  bind := andThen

instance : LawfulMonad Lenient := LawfulMonad.mk' Lenient
  (by
    rintro α ⟨result, tolerated⟩
    cases result <;> simp [Functor.map, andThen])
  (by
    intro α β found next
    simp [pure, bind, andThen])
  (by
    rintro α β γ ⟨result, tolerated⟩ second third
    cases result with
    | error _ => rfl
    | ok found =>
      simp only [bind, andThen]
      cases (second found).result <;> simp)

/-- The error of a failure, said to be in a field. Tolerated errors name their field already. -/
def inField (record field : String) (reading : Lenient α) : Lenient α :=
  { reading with
    result := match reading.result with
      | .ok found => .ok found
      | .error error => .error (.inField record field error) }

/-! ### Steps that tolerate nothing -/

theorem bind_eq_andThen (first : Lenient α) (next : α → Lenient β) :
    first >>= next = first.andThen next := rfl

@[simp] theorem ofExcept_ok (found : α) : ofExcept (.ok found) = pure found := rfl

@[simp] theorem andThen_pure (found : α) (next : α → Lenient β) :
    (pure found : Lenient α).andThen next = next found := by
  simp [andThen, pure]

@[simp] theorem map_pure (change : α → β) (found : α) :
    (pure found : Lenient α).map change = pure (change found) := rfl

@[simp] theorem inField_pure (record field : String) (found : α) :
    (pure found : Lenient α).inField record field = pure found := rfl

/-! ### When a step succeeds -/

@[simp] theorem result_pure (found : α) : (pure found : Lenient α).result = .ok found := rfl

@[simp] theorem result_ofExcept (result : Except Error α) : (ofExcept result).result = result := rfl

theorem result_andThen_eq_ok {first : Lenient α} {next : α → Lenient β} {last : β} :
    (first.andThen next).result = .ok last ↔
      ∃ found, first.result = .ok found ∧ (next found).result = .ok last := by
  unfold andThen
  cases first.result <;> simp

theorem result_map_eq_ok {reading : Lenient α} {change : α → β} {last : β} :
    (reading.map change).result = .ok last ↔
      ∃ found, reading.result = .ok found ∧ change found = last := by
  unfold map
  cases reading.result <;> simp

theorem result_inField_eq_ok {reading : Lenient α} {record field : String} {found : α} :
    (reading.inField record field).result = .ok found ↔ reading.result = .ok found := by
  unfold inField
  cases reading.result <;> simp

/-! ### When a step fails -/

theorem result_andThen_eq_error {first : Lenient α} {next : α → Lenient β} {error : Error} :
    (first.andThen next).result = .error error ↔
      first.result = .error error ∨
        ∃ found, first.result = .ok found ∧ (next found).result = .error error := by
  unfold andThen
  cases first.result <;> simp

theorem result_map_eq_error {reading : Lenient α} {change : α → β} {error : Error} :
    (reading.map change).result = .error error ↔ reading.result = .error error := by
  unfold map
  cases reading.result <;> simp

theorem result_inField_eq_error {reading : Lenient α} {record field : String} {error : Error} :
    (reading.inField record field).result = .error error ↔
      ∃ cause, reading.result = .error cause ∧ .inField record field cause = error := by
  unfold inField
  cases reading.result <;> simp

/-- The result, with the tolerated errors unless it is a failure. -/
def toExcept (reading : Lenient α) : Except Error (α × List Error) :=
  match reading.result with
  | .ok found => .ok (found, reading.tolerated)
  | .error error => .error error

theorem toExcept_eq_ok_iff {reading : Lenient α} {found : α} {tolerated : List Error} :
    reading.toExcept = .ok (found, tolerated) ↔
      reading.result = .ok found ∧ reading.tolerated = tolerated := by
  unfold toExcept
  cases reading.result <;> simp

theorem toExcept_eq_error_iff {reading : Lenient α} {error : Error} :
    reading.toExcept = .error error ↔ reading.result = .error error := by
  unfold toExcept
  cases reading.result <;> simp

end Lenient

end Dmi
