/-
**Bodies under any operations.**

A body is built by operations, one after the other. One that fails leaves behind what it has
appended before, and the next goes on from there. The strings of the body are then the texts among
the operations that are not empty. So the only thing that can keep the body out of a table is a zero
byte in one of them, and that comes from a character zero. Main statements:

* `Draft.mem_strings_after` — the strings that any operations leave behind;
* `Draft.wellFormed_strings_after` — when these strings have a string section of their own;
* `Structure.wellFormed_iff_of_seal` — when a structure with this body is well formed.
-/

import Dmi.Proofs.Body.Growth
import Dmi.Proofs.Structure.RoundTrip

namespace Dmi

namespace Draft

/-- What can be done to a body under construction. -/
inductive Operation where
  | number (width : Width) (n : width.Number)
  | bytes (run : List UInt8)
  | zeros (count : Nat)
  | text (found : Text)

/-- The draft of an operation. -/
def Operation.draft : Operation → Draft Unit
  | .number width n => Draft.number width n
  | .bytes run => Draft.bytes run
  | .zeros count => Draft.zeros count
  | .text found => Draft.text found

/-- The body behind an operation, whether it succeeds or fails. -/
def Operation.after (operation : Operation) (body : Body) : Body :=
  match operation.draft body with
  | .ok _ later => later
  | .error _ later => later

/-- The body behind some operations, the first of them first. -/
def after (operations : List Operation) (body : Body) : Body :=
  operations.foldl (fun body operation => operation.after body) body

variable {body : Body} {string : List UInt8}

/-- A text that is not empty joins the strings, also where its number has no room. -/
theorem strings_after_text {text : String} (nonempty : text ≠ "") (body : Body) :
    ((Operation.text (.value text)).after body).strings =
      (body.intern (Utf8.encode text)).strings := by
  rw [Operation.after, Operation.draft, Draft.text, if_neg nonempty, Draft.string]
  by_cases room : (body.intern (Utf8.encode text)).strings.idxOf (Utf8.encode text) + 1 < 256
  · rw [if_pos room]
    rfl
  · rw [if_neg room]

/-- **The strings behind one operation** are those from before and its text, unless that is
empty. -/
theorem mem_strings_after_one (operation : Operation) (body : Body) :
    string ∈ (operation.after body).strings ↔
      string ∈ body.strings ∨
        ∃ text, operation = .text (.value text) ∧ text ≠ "" ∧ string = Utf8.encode text := by
  -- All but the texts that are not empty leave the strings alone.
  have unchanged (same : (operation.after body).strings = body.strings)
      (none_ : ∀ text, operation = .text (.value text) → text = "") :
        string ∈ (operation.after body).strings ↔ string ∈ body.strings ∨
          ∃ text, operation = .text (.value text) ∧ text ≠ "" ∧ string = Utf8.encode text := by
    rw [same]
    refine (or_iff_left ?_).symm
    rintro ⟨text, here, nonempty, _⟩
    exact nonempty (none_ text here)
  cases operation with
  | number width n => exact unchanged rfl (by rintro _ ⟨⟩)
  | bytes run => exact unchanged rfl (by rintro _ ⟨⟩)
  | zeros count => exact unchanged rfl (by rintro _ ⟨⟩)
  | text found =>
    cases found with
    | notSpecified => exact unchanged rfl (by rintro _ ⟨⟩)
    | badIndex index => exact unchanged rfl (by rintro _ ⟨⟩)
    | value text =>
      by_cases empty : text = ""
      · subst empty
        exact unchanged rfl (by rintro _ ⟨⟩; rfl)
      · rw [strings_after_text empty, Body.mem_strings_intern_iff]
        refine or_congr_right ⟨fun same => ⟨text, rfl, empty, same⟩, ?_⟩
        rintro ⟨_, ⟨⟩, _, same⟩
        exact same

/-- **The strings behind any operations** are those from before and the texts among the operations
that are not empty. -/
theorem mem_strings_after (operations : List Operation) (body : Body) :
    string ∈ (after operations body).strings ↔
      string ∈ body.strings ∨
        ∃ text, .text (.value text) ∈ operations ∧ text ≠ "" ∧ string = Utf8.encode text := by
  induction operations generalizing body with
  | nil => simp [after]
  | cons operation operations ih =>
    show string ∈ (after operations (operation.after body)).strings ↔ _
    rw [ih, mem_strings_after_one, or_assoc]
    refine or_congr_right ?_
    simp only [List.mem_cons, or_and_right, exists_or, eq_comm]

/-- **The strings behind any operations have a string section of their own** unless a text holds the
character zero. -/
theorem wellFormed_strings_after (operations : List Operation) :
    Strings.WellFormed (after operations {}).strings ↔
      ∀ text, .text (.value text) ∈ operations → '\x00' ∉ text.toList := by
  have strings (string : List UInt8) : string ∈ (after operations {}).strings ↔
      ∃ text, .text (.value text) ∈ operations ∧ text ≠ "" ∧ string = Utf8.encode text := by
    rw [mem_strings_after]
    exact or_iff_right List.not_mem_nil
  have nonempty : ∀ string ∈ (after operations {}).strings, string ≠ [] := by
    intro string member
    obtain ⟨text, _, nonempty, rfl⟩ := (strings string).mp member
    exact Utf8.encode_ne_nil nonempty
  constructor
  · intro wellFormed text member zero
    have nonempty : text ≠ "" := by
      rintro rfl
      exact List.not_mem_nil zero
    exact wellFormed.noZero _ ((strings _).mpr ⟨text, member, nonempty,
      rfl⟩) ((Utf8.zero_mem_encode_iff text).mpr zero)
  · intro noZero
    refine ⟨?_, fun string member => nonempty string (List.mem_of_mem_tail member), fun alone => ?_⟩
    · intro string member zero
      obtain ⟨text, inside, _, rfl⟩ := (strings string).mp member
      exact noZero text inside ((Utf8.zero_mem_encode_iff text).mp zero)
    · exact nonempty [] (alone ▸ List.mem_singleton.mpr rfl) rfl

end Draft

/-- A sealed body has the size that its header declares, so that its strings decide whether it is
well formed. -/
theorem Structure.wellFormed_iff_of_seal {body : Body} {type : TypeCode} {handle : UInt16}
    {s : Structure} (sealed : body.seal type handle = .ok s) :
    s.WellFormed ↔ Strings.WellFormed body.strings := by
  have length := Body.length_of_seal sealed
  obtain ⟨_, rfl⟩ := Body.eq_of_seal sealed
  refine ⟨fun wellFormed => wellFormed.strings, fun strings => ⟨?_, strings⟩⟩
  rw [length, Nat.add_sub_cancel_left]

end Dmi
