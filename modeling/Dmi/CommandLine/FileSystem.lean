/-
**Files by path.**

A `FileSystem` is all that the command asks of the operating system: it reads the file of a path and
writes one. A `FileTree` is a file system small enough to be computed with. Its working directory
and the directories around it hold files; of other directories it has only those that every system
has. A path is walked step by step, and the first step that cannot be taken decides the refusal.
Main statement:

* `FileTree.target_of_target` — the files of a tree decide which refusal a path gets, but not where
  it leads.
-/

import Dmi.CommandLine.Refusal

namespace Dmi.CommandLine

/-! ### The file system -/

/-- The files that the command works on. What cannot be done is answered with the wording of a
refusal. -/
structure FileSystem (m : Type → Type) where
  /-- The bytes of the file of a path. -/
  read (path : String) : m (Except String (List UInt8))
  /-- Makes some bytes the file of a path. -/
  write (path : String) (bytes : List UInt8) : m (Except String Unit)

/-! ### Paths -/

/-- A path taken apart. -/
structure Path where
  /-- The path begins with a slash, and hence at the top. -/
  isAbsolute : Bool
  /-- The names between the slashes. -/
  steps : List String
  /-- The path ends with a slash, and hence asks for a directory. -/
  isSlashed : Bool
  deriving DecidableEq, Repr

namespace Path

/-- The path that a text is. Slashes in a row count as one. -/
def ofString (text : String) : Path :=
  let pieces := (text.toList.splitOn '/').map String.ofList
  { isAbsolute := pieces.head? = some ""
    steps := pieces.filter fun piece => piece ≠ ""
    isSlashed := pieces.getLast? = some "" }

/-- The greatest number of bytes of a path. -/
def maxSize : Nat := 4095

/-- The greatest number of bytes of a name in a path. -/
def maxNameSize : Nat := 255

/-- Whether a name has too many bytes. -/
def isTooLong (name : String) : Bool :=
  maxNameSize < name.utf8ByteSize

end Path

/-! ### Directories -/

/-- A directory. -/
inductive Place where
  /-- The working directory. -/
  | working
  /-- The directory around the working directory, or one further `levels` above it. -/
  | above (levels : Nat)
  /-- The directory of these names from the top, the innermost first. -/
  | named (names : List String)
  deriving DecidableEq, Repr

namespace Place

/-- The directory around a directory; the top is around itself. -/
def parent : Place → Place
  | working => above 0
  | above levels => above (levels + 1)
  | named names => named names.tail

/-- The directories under the top that every system has. -/
def standard : List (List String) :=
  [["dev"], ["tmp"]]

/-- The directory of a name in a directory, if it is known to be one. -/
def inner? (place : Place) (name : String) : Option Place :=
  match place with
  | named names => if name :: names ∈ standard then some (named (name :: names)) else none
  | _ => none

/-- Where a path begins. -/
def start (path : Path) : Place :=
  if path.isAbsolute then named [] else working

end Place

/-- A name in a directory. -/
structure Location where
  place : Place
  name : String
  deriving DecidableEq, Repr

namespace Location

/-- The file that is always empty, whatever is written to it. -/
def nullDevice : Location :=
  ⟨.named ["dev"], "null"⟩

/-- The file that has no room for anything. -/
def fullDevice : Location :=
  ⟨.named ["dev"], "full"⟩

end Location

/-- What a path leads to. -/
inductive Target where
  | directory
  /-- A name that need not be in use. The path is `slashed` if it asks for a directory of that
  name. -/
  | entry (location : Location) (slashed : Bool)
  deriving DecidableEq, Repr

/-! ### Files -/

/-- The files of all directories, the latest first. -/
structure FileTree where
  files : List (Location × List UInt8) := []
  deriving DecidableEq, Repr

namespace FileTree

/-- The bytes of a file. -/
def contents? (tree : FileTree) (location : Location) : Option (List UInt8) :=
  if location = .nullDevice then some [] else tree.files.lookup location

/-- The directory that one step leads to. -/
def enter (tree : FileTree) (place : Place) (step : String) : Except Refusal Place :=
  if step = "." then .ok place
  else if step = ".." then .ok place.parent
  else if Path.isTooLong step then .error .nameTooLong
  else
    match place.inner? step with
    | some inner => .ok inner
    | none =>
      .error (if (tree.contents? ⟨place, step⟩).isSome then .notDirectory else .missing)

/-- The directory that some steps lead to. -/
def walk (tree : FileTree) : Place → List String → Except Refusal Place
  | place, [] => .ok place
  | place, step :: rest =>
    match tree.enter place step with
    | .ok inner => walk tree inner rest
    | .error refusal => .error refusal

/-- What a path leads to. Its last name is not looked up. -/
def target (tree : FileTree) (text : String) : Except Refusal Target :=
  let path := Path.ofString text
  if text = "" then .error .missing
  else if Path.maxSize < text.utf8ByteSize then .error .nameTooLong
  else
    match path.steps.getLast? with
    | none => .ok .directory
    | some last =>
      match tree.walk (Place.start path) path.steps.dropLast with
      | .error refusal => .error refusal
      | .ok place =>
        if last = "." ∨ last = ".." ∨ (place.inner? last).isSome then .ok .directory
        else .ok (.entry ⟨place, last⟩ path.isSlashed)

/-- The bytes of the file that a path leads to. -/
def read (tree : FileTree) (text : String) : Except Refusal (List UInt8) :=
  match tree.target text with
  | .error refusal => .error refusal
  | .ok .directory => .error .isDirectory
  | .ok (.entry location slashed) =>
    if Path.isTooLong location.name then .error .nameTooLong
    else
      match tree.contents? location with
      | none => .error .missing
      | some bytes => if slashed then .error .notDirectory else .ok bytes

/-- The files with one more, in place of one of the same name. -/
def store (tree : FileTree) (location : Location) (bytes : List UInt8) : FileTree :=
  if location = .nullDevice then tree else ⟨(location, bytes) :: tree.files⟩

/-- Writes the file that a path leads to. -/
def write (tree : FileTree) (text : String) (bytes : List UInt8) : Except Refusal FileTree :=
  match tree.target text with
  | .error refusal => .error refusal
  | .ok .directory => .error .isDirectory
  | .ok (.entry location slashed) =>
    if slashed then .error .isDirectory
    else if Path.isTooLong location.name then .error .nameTooLong
    else if location = .fullDevice then .error .full
    else .ok (tree.store location bytes)

/-- A tree as the command works on it. -/
def fileSystem : FileSystem (StateM FileTree) where
  read path := do
    return ((← get).read path).mapError Refusal.text
  write path bytes := do
    match (← get).write path bytes with
    | .ok changed =>
      set changed
      return .ok ()
    | .error refusal => return .error refusal.text

/-! ### Where a path leads -/

theorem enter_of_enter {first : FileTree} {place inner : Place} {step : String}
    (entered : first.enter place step = .ok inner) (second : FileTree) :
    second.enter place step = .ok inner := by
  unfold enter at entered ⊢
  by_cases same : step = "."
  · rw [if_pos same] at entered ⊢
    exact entered
  · rw [if_neg same] at entered ⊢
    by_cases up : step = ".."
    · rw [if_pos up] at entered ⊢
      exact entered
    · rw [if_neg up] at entered ⊢
      by_cases long : Path.isTooLong step
      · rw [if_pos long] at entered
        cases entered
      · rw [if_neg long] at entered ⊢
        cases known : place.inner? step with
        | none => simp [known] at entered
        | some found =>
          simp only [known] at entered ⊢
          exact entered

theorem walk_of_walk {first : FileTree} {place last : Place} {steps : List String}
    (walked : first.walk place steps = .ok last) (second : FileTree) :
    second.walk place steps = .ok last := by
  induction steps generalizing place with
  | nil => exact walked
  | cons step rest ih =>
    cases entered : first.enter place step with
    | error refusal => simp [walk, entered] at walked
    | ok inner =>
      simp only [walk, entered] at walked
      simp only [walk, enter_of_enter entered second]
      exact ih walked

/-- **The files decide which refusal a path gets, but not where it leads.** -/
theorem target_of_target {first : FileTree} {text : String} {found : Target}
    (leads : first.target text = .ok found) (second : FileTree) :
    second.target text = .ok found := by
  simp only [target] at leads ⊢
  by_cases empty : text = ""
  · rw [if_pos empty] at leads
    cases leads
  · rw [if_neg empty] at leads ⊢
    by_cases long : Path.maxSize < text.utf8ByteSize
    · rw [if_pos long] at leads
      cases leads
    · rw [if_neg long] at leads ⊢
      cases ending : (Path.ofString text).steps.getLast? with
      | none =>
        simp only [ending] at leads ⊢
        exact leads
      | some last =>
        simp only [ending] at leads ⊢
        cases walked : first.walk (Place.start (Path.ofString text))
            (Path.ofString text).steps.dropLast with
        | error refusal => simp [walked] at leads
        | ok place =>
          simp only [walked] at leads
          simp only [walk_of_walk walked second]
          exact leads

end FileTree

end Dmi.CommandLine
