/-
**Why a field cannot be read.**

A field fails because of the bytes or the strings, never because of the layout: a read reaches past
the section, a string is missing under the strict policy, or the items of a list have the wrong
size. Main statement:

* `Kind.flaw_of_read` — for every kind of field.
-/

import Dmi.Proofs.Layout.Walk

namespace Dmi

/-- The error is that of a read past the section. -/
def Body.Lacks (body : Body) (error : Error) : Prop :=
  ∃ offset width, body.size < offset + width ∧ error = .outOfRange offset width body.size

namespace Body

variable {body : Body} {offset : Nat} {error : Error}

theorem lacks_of_bytes {width : Nat} (failed : body.bytes offset width = .error error) :
    body.Lacks error := by
  rw [bytes] at failed
  split at failed
  · cases failed
  · rename_i lacking
    cases failed
    exact ⟨offset, width, Nat.lt_of_not_le lacking, rfl⟩

theorem lacks_of_number {width : Width} (failed : body.number width offset = .error error) :
    body.Lacks error := by
  rw [number] at failed
  split at failed
  · cases failed
  · rename_i cause read
    cases failed
    exact lacks_of_bytes read

theorem lacks_of_byte (failed : body.byte offset = .error error) : body.Lacks error :=
  lacks_of_number failed

theorem error_of_string {index : UInt8} (refused : body.string index = .error error) :
    error = .badStringIndex index body.strings.length := by
  rw [string] at refused
  split at refused
  · cases refused
  · split at refused <;> cases refused
    rfl

/-- A string number that is refused is greater than the number of strings. -/
theorem lt_of_string {index : UInt8} (refused : body.string index = .error error) :
    body.strings.length < index.toNat := by
  rw [string] at refused
  split at refused
  · cases refused
  · rename_i named
    split at refused
    · cases refused
    · rename_i lacking
      have positive : index.toNat ≠ 0 := fun zero => named (UInt8.toNat_inj.mp zero)
      have behind := List.getElem?_eq_none_iff.mp lacking
      omega

end Body

namespace ListKind

variable {kind : ListKind} {body : Body} {offset : Nat} {error : Error}

theorem lacks_of_readItem (failed : kind.readItem body offset = .error error) :
    body.Lacks error := by
  cases kind with
  | handles =>
    rcases Error.bind_eq_error_iff.mp failed with first | ⟨_, _, wrong⟩
    · exact Body.lacks_of_number first
    · cases wrong
  | elements =>
    rcases Error.bind_eq_error_iff.mp failed with first | ⟨_, _, wrong⟩
    · exact Body.lacks_of_bytes first
    · cases wrong
  | peers =>
    rcases Error.bind_eq_error_iff.mp failed with segment | ⟨_, _, failed⟩
    · exact Body.lacks_of_number segment
    rcases Error.bind_eq_error_iff.mp failed with bus | ⟨_, _, failed⟩
    · exact Body.lacks_of_byte bus
    rcases Error.bind_eq_error_iff.mp failed with function | ⟨_, _, failed⟩
    · exact Body.lacks_of_byte function
    rcases Error.bind_eq_error_iff.mp failed with width | ⟨_, _, wrong⟩
    · exact Body.lacks_of_byte width
    · cases wrong

theorem lacks_of_readItems {count : Nat}
    (failed : kind.readItems body count offset = .error error) :
    body.Lacks error := by
  induction count generalizing offset with
  | zero => cases failed
  | succ count ih =>
    rcases Error.bind_eq_error_iff.mp failed with head | ⟨_, _, failed⟩
    · exact lacks_of_readItem head
    rcases Error.bind_eq_error_iff.mp failed with tail | ⟨_, _, wrong⟩
    · exact ih tail
    · cases wrong

/-- The count of a list is past the section, or the list is one of elements that says its items have
another size. -/
theorem flaw_of_readCount (failed : kind.readCount body offset = .error error) :
    body.Lacks error ∨ kind = elements ∧
      error = .invalidList elements.name "element size must be 3" := by
  cases kind with
  | handles =>
    rcases Error.bind_eq_error_iff.mp failed with first | ⟨_, _, wrong⟩
    · exact .inl (Body.lacks_of_byte first)
    · cases wrong
  | peers =>
    rcases Error.bind_eq_error_iff.mp failed with first | ⟨_, _, wrong⟩
    · exact .inl (Body.lacks_of_byte first)
    · cases wrong
  | elements =>
    rcases Error.bind_eq_error_iff.mp failed with first | ⟨_, _, failed⟩
    · exact .inl (Body.lacks_of_byte first)
    rcases Error.bind_eq_error_iff.mp failed with size | ⟨_, _, failed⟩
    · exact .inl (Body.lacks_of_byte size)
    split at failed
    · cases failed
    · cases failed
      exact .inr ⟨rfl, rfl⟩

theorem flaw_of_read (failed : kind.read body offset = .error error) :
    body.Lacks error ∨ kind = elements ∧
      error = .invalidList elements.name "element size must be 3" := by
  rcases Error.bind_eq_error_iff.mp failed with opening | ⟨_, _, failed⟩
  · exact flaw_of_readCount opening
  rcases Error.bind_eq_error_iff.mp failed with items | ⟨_, _, wrong⟩
  · exact .inl (lacks_of_readItems items)
  · cases wrong

end ListKind

namespace Kind

/-- What can be wrong with the bytes and strings of a field. -/
inductive Flaw (policy : StringPolicy) (body : Body) : Kind → Error → Prop
  /-- A read reaches past the section. -/
  | outOfRange (kind : Kind) {offset width : Nat} (lacking : body.size < offset + width) :
    Flaw policy body kind (.outOfRange offset width body.size)
  /-- The strict policy misses a string. -/
  | noString (strict : policy = .strict) {index : UInt8}
    (lacking : body.strings.length < index.toNat) :
    Flaw policy body .text (.badStringIndex index body.strings.length)
  /-- The contained elements say that they have another size. -/
  | elementSize :
    Flaw policy body (.list .elements)
      (.invalidList ListKind.elements.name "element size must be 3")

variable {kind : Kind} {policy : StringPolicy} {body : Body} {record field : String} {offset : Nat}
  {error : Error}

theorem flaw_of_lacks (lacks : body.Lacks error) : kind.Flaw policy body error := by
  obtain ⟨offset, width, lacking, rfl⟩ := lacks
  exact .outOfRange kind lacking

theorem Flaw.root_eq (flaw : kind.Flaw policy body error) : error.root = error := by
  cases flaw <;> rfl

theorem Flaw.ne_misuse (flaw : kind.Flaw policy body error) (reason : Misuse) :
    error ≠ .misuse reason := by
  cases flaw <;> exact fun wrong => by cases wrong

theorem flaw_of_readText
    (failed : (readText policy body record field offset).result = .error error) :
    text.Flaw policy body error := by
  unfold readText at failed
  cases byte : body.byte offset with
  | error cause =>
    rw [byte] at failed
    cases failed
    exact flaw_of_lacks (Body.lacks_of_byte byte)
  | ok index =>
    rw [byte] at failed
    cases string : body.string index with
    | ok found =>
      simp only [string] at failed
      cases failed
    | error cause =>
      cases policy with
      | tolerant =>
        simp only [string] at failed
        cases failed
      | strict =>
        simp only [string] at failed
        cases failed
        rw [Body.error_of_string string]
        exact .noString rfl (Body.lt_of_string string)

/-- **A field that cannot be read has a flaw.** -/
theorem flaw_of_read (failed : (kind.read policy body record field offset).result = .error error) :
    kind.Flaw policy body error := by
  cases kind with
  | number width =>
    rcases Lenient.result_andThen_eq_error.mp failed with read | ⟨_, _, wrong⟩
    · exact flaw_of_lacks (Body.lacks_of_number read)
    · cases wrong
  | text =>
    rcases Lenient.result_andThen_eq_error.mp failed with read | ⟨_, _, wrong⟩
    · exact flaw_of_readText read
    · cases wrong
  | bytes count =>
    rcases Lenient.result_andThen_eq_error.mp failed with read | ⟨_, _, wrong⟩
    · exact flaw_of_lacks (Body.lacks_of_bytes read)
    · cases wrong
  | list kind =>
    rcases Lenient.result_andThen_eq_error.mp failed with read | ⟨_, _, wrong⟩
    · rcases ListKind.flaw_of_read read with lacks | ⟨rfl, rfl⟩
      · exact flaw_of_lacks lacks
      · exact .elementSize
    · cases wrong

end Kind

end Dmi
