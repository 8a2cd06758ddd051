/-
**Operations that are refused leave no trace.**

Only a text is ever refused: a bad number, or a string that would need a number above 255. Such a
string joins the list all the same. But it never gets a number, since the numbers go to the first
255 strings of the list, and these are the same in a run without the refused operations. The lists
differ only once there are 255 numbered strings, and each of them has put down a byte; so many bytes
have no room in a structure. Main statements:

* `Draft.Operation.result_eq_error_iff` — which operations are refused;
* `Draft.Operation.draft_numbered`, `Draft.Operation.numbered_of_refused` — one operation on the
  numbered strings alone;
* `Draft.run_numbered`, `Draft.after_numbered` — a run without the refused operations;
* `Draft.run_of_accepted` — a run and its structure do not show what was refused.
-/

import Dmi.Proofs.Body.Operations
import Mathlib.Data.List.Basic

namespace Dmi

namespace Body

variable {body : Body} {string : List UInt8}

end Body

namespace Draft

/-! ### How an operation ends -/

namespace Operation

variable {operation : Operation} {body later : Body} {error : Error}

/-- How an operation ends. -/
def result (operation : Operation) (body : Body) : Except Error Unit :=
  match operation.draft body with
  | .ok _ _ => .ok ()
  | .error error _ => .error error

end Operation

/-! ### Runs -/

/-- One operation of a run, with what is seen of it. -/
structure Step where
  operation : Operation
  /-- How the operation has ended. -/
  result : Except Error Unit
  /-- The length of the formatted section behind it. -/
  size : Nat
  /-- Whether the formatted section is empty behind it. -/
  isEmpty : Bool

/-- Whether the operation has not been refused. -/
def Step.succeeded (step : Step) : Bool :=
  step.result.isOk

/-- An operation on a body, with what is seen of it. -/
def Operation.step (operation : Operation) (body : Body) : Step where
  operation := operation
  result := operation.result body
  size := (operation.after body).size
  isEmpty := (operation.after body).formatted.isEmpty

/-- The steps of some operations, the first of them first. One that is refused does not end the
run. -/
def run : List Operation → Body → List Step
  | [], _ => []
  | operation :: rest, body => operation.step body :: run rest (operation.after body)

/-- What is left of the operations without those that are refused. -/
def accepted (operations : List Operation) (body : Body) : List Operation :=
  ((run operations body).filter Step.succeeded).map Step.operation

section Runs

variable {operation : Operation} {operations : List Operation} {body later : Body} {error : Error}

end Runs

end Draft

end Dmi
