/-
**What comes of a run on an image.**

A run on a dump file checks the type arguments, reads the file, takes it apart, and then writes the
parts as a dump or prints the report on them. Each of these steps can go wrong but two: the parts of
a dump always make a dump again, and their entry point can always be read. So a run takes one of six
courses (`Course`), and these tell its exit code, what it prints and what it writes.

The files are any that can be read without being changed (`FileSystem.IsSteady`). Of the file to
write it is assumed that it keeps what is written to it, and that no other file changes
(`FileSystem.Writable`). Main statements:

* `TypeFilter.exists_parse_error_iff` — when the type arguments are refused;
* `Dump.build_and_parse_of_split` — the two steps that cannot go wrong;
* `course_of_plan` — every run takes one of the courses;
* `run_of_file` — what comes of writing the dump, or of failing to;
* `conduct_of_run` — what comes of a run;
* `FileTree.writable_of_target` — which files of a tree can be written.
-/

import Dmi.CommandLine.Run
import Dmi.Proofs.Snapshot.Redump

namespace Dmi

/-! ### Type arguments -/

namespace TypeFilter

theorem exists_addEntries_error_iff {filter : TypeFilter} {entries : List (List Char)} :
    (∃ error, filter.addEntries entries = .error error) ↔
      ∃ entry ∈ entries, types? entry = none := by
  induction entries generalizing filter with
  | nil => simp [addEntries]
  | cons entry rest ih =>
    simp only [addEntries, List.mem_cons, exists_eq_or_imp]
    cases known : types? entry with
    | none => simp
    | some types => simp [ih]

/-- Type arguments are refused exactly for an entry that is neither a keyword nor a small number. -/
theorem exists_parse_error_iff {arguments : List String} :
    (∃ error, parse arguments = .error error) ↔
      ∃ entry ∈ arguments.flatMap entries, types? entry = none :=
  exists_addEntries_error_iff

end TypeFilter

/-! ### The parts of a dump -/

/-- **The parts of a dump make a dump again, and their entry point can be read.** -/
theorem Dump.build_and_parse_of_split {image entryBytes tableBytes : List UInt8}
    (apart : split image = .ok (entryBytes, tableBytes)) :
    (∃ dump, build entryBytes tableBytes = .ok dump) ∧
      ∃ entry, EntryPoint.parse entryBytes = .ok entry := by
  obtain ⟨entry, accepted, _, same⟩ := split_eq_ok_iff.mp apart
  have read : EntryPoint.parse entryBytes = .ok entry := by
    rw [(Prod.mk.inj same).1]
    exact EntryPoint.parse_take accepted
  obtain ⟨moved, done⟩ := entry.exists_moved
  exact ⟨⟨_, build_eq read done tableBytes⟩, entry, read⟩

namespace CommandLine

/-! ### Files that can be written -/

namespace FileSystem

variable {σ : Type} (files : FileSystem (StateM σ))

/-- What reading a path yields in a state. -/
def contents (state : σ) (path : String) : Except String (List UInt8) :=
  ((files.read path).run state).1

/-- Reading changes nothing. -/
def IsSteady : Prop :=
  ∀ state path, ((files.read path).run state).2 = state

/-- Two states differ by the bytes of one file. The paths of one file are the `same`. -/
structure Written (same : String → String → Prop) (before : σ) (path : String) (bytes : List UInt8)
    (after : σ) : Prop where
  /-- The file has the bytes. -/
  kept : files.contents after path = .ok bytes
  /-- Every other file has the bytes that it had, and no other has come or gone. -/
  others : ∀ other, ¬same path other → ∀ found,
    files.contents after other = .ok found ↔ files.contents before other = .ok found

/-- The file of a path takes whatever is written to it. -/
def Writable (same : String → String → Prop) (state : σ) (path : String) : Prop :=
  ∀ bytes, ∃ after, (files.write path bytes).run state = (.ok (), after) ∧
    files.Written same state path bytes after

end FileSystem

/-! ### Courses -/

variable {arguments : Arguments} {input : String} {image : Except String (List UInt8)}
  {outcome : Outcome}

/-- Some entry of the type arguments is neither a keyword nor a small number. -/
def Arguments.HasBadType (arguments : Arguments) : Prop :=
  ∃ entry ∈ arguments.types.flatMap TypeFilter.entries, TypeFilter.types? entry = none

/-- What keeps a run on an image from its end: the image is missing or is no dump, or there is a
report to be printed on a table that is none. -/
inductive Arguments.FailsOn (arguments : Arguments) : (image : Except String (List UInt8)) → Prop
  | missing (reason : String) : arguments.FailsOn (.error reason)
  | noDump {image : List UInt8} {error : Error} (whole : Dump.split image = .error error) :
    arguments.FailsOn (.ok image)
  | noTable {image entryBytes tableBytes : List UInt8} {error : Error}
    (asked : arguments.dumpBin = none) (apart : Dump.split image = .ok (entryBytes, tableBytes))
    (broken : Table.parse tableBytes = .error error) :
    arguments.FailsOn (.ok image)

/-- The courses of a run on the image of the file `input`, each with its outcome. -/
inductive Course (arguments : Arguments) (input : String) :
    (image : Except String (List UInt8)) → Outcome → Prop
  | refused {image : Except String (List UInt8)} {error : Error}
    (bad : TypeFilter.parse arguments.types = .error error) :
    Course arguments input image
      { code := Outcome.usageCode, complaint := "invalid --type: " ++ error.message }
  | missing {reason : String} {filter : TypeFilter}
    (types : TypeFilter.parse arguments.types = .ok filter) :
    Course arguments input (.error reason) (failure (input ++ ": " ++ reason))
  | noDump {image : List UInt8} {filter : TypeFilter} {error : Error}
    (types : TypeFilter.parse arguments.types = .ok filter)
    (whole : Dump.split image = .error error) :
    Course arguments input (.ok image) (failureIn "error reading dump" error)
  | noTable {image entryBytes tableBytes : List UInt8} {filter : TypeFilter} {error : Error}
    (types : TypeFilter.parse arguments.types = .ok filter) (asked : arguments.dumpBin = none)
    (apart : Dump.split image = .ok (entryBytes, tableBytes))
    (broken : Table.parse tableBytes = .error error) :
    Course arguments input (.ok image) (failureIn "error parsing SMBIOS data" error)
  | dumped {image entryBytes tableBytes dump : List UInt8} {filter : TypeFilter}
    {name output : String} (types : TypeFilter.parse arguments.types = .ok filter)
    (asked : arguments.dumpBin = some name)
    (apart : Dump.split image = .ok (entryBytes, tableBytes))
    (built : Dump.build entryBytes tableBytes = .ok dump) :
    Course arguments input (.ok image) { output := output, file := some (name, dump) }
  | reported {image entryBytes tableBytes : List UInt8} {filter : TypeFilter} {snapshot : Snapshot}
    (types : TypeFilter.parse arguments.types = .ok filter) (asked : arguments.dumpBin = none)
    (apart : Dump.split image = .ok (entryBytes, tableBytes))
    (parsed : Snapshot.parse entryBytes tableBytes = .ok snapshot) :
    Course arguments input (.ok image)
      { output := titleLine ++ snapshot.report filter .builtin .tolerant }

/-- The source that a file yields, or the reason why it does not. -/
def sourceOf (input : String) (image : Except String (List UInt8)) : Except String Source :=
  match image with
  | .ok image => .ok (.dump image)
  | .error reason => .error (input ++ ": " ++ reason)

/-- **Every answer to an image ends one of the courses.** -/
theorem course_of_answer {filter : TypeFilter}
    (types : TypeFilter.parse arguments.types = .ok filter) (input : String)
    (image : Except String (List UInt8)) :
    Course arguments input image (answer arguments filter (sourceOf input image)) := by
  cases image with
  | error reason => exact .missing types
  | ok image =>
    cases apart : Dump.split image with
    | error error =>
      simp only [answer, sourceOf, apart]
      exact .noDump types apart
    | ok parts =>
      obtain ⟨entryBytes, tableBytes⟩ := parts
      simp only [answer, sourceOf, apart, process]
      obtain ⟨⟨dump, built⟩, entry, read⟩ := Dump.build_and_parse_of_split apart
      cases asked : arguments.dumpBin with
      | some name =>
        simp only [writeDump, built]
        exact .dumped types asked apart built
      | none =>
        have opened : Snapshot.parse entryBytes tableBytes =
            (Table.parse tableBytes).map fun table => ⟨entry, table⟩ := by
          rw [Snapshot.parse, read]
          cases Table.parse tableBytes <;> rfl
        cases parsed : Table.parse tableBytes with
        | error error =>
          rw [parsed] at opened
          rw [printReport, opened]
          exact .noTable types asked apart parsed
        | ok table =>
          rw [parsed] at opened
          rw [printReport, opened]
          exact .reported types asked apart opened

theorem hasBadType_of_error {error : Error}
    (bad : TypeFilter.parse arguments.types = .error error) :
    arguments.HasBadType :=
  TypeFilter.exists_parse_error_iff.mp ⟨error, bad⟩

theorem not_hasBadType_of_ok {filter : TypeFilter}
    (types : TypeFilter.parse arguments.types = .ok filter) :
    ¬arguments.HasBadType := by
  intro bad
  obtain ⟨error, refused⟩ := TypeFilter.exists_parse_error_iff.mpr bad
  rw [types] at refused
  cases refused

/-- The run has written the dump of the parts of the image. -/
def Dumped (arguments : Arguments) (image : Except String (List UInt8)) (outcome : Outcome) :
    Prop :=
  ∃ name bytes entryBytes tableBytes dump, arguments.dumpBin = some name ∧ image = .ok bytes ∧
    Dump.split bytes = .ok (entryBytes, tableBytes) ∧ Dump.build entryBytes tableBytes = .ok dump ∧
    outcome.file = some (name, dump)

/-- The run has printed the report on the parts of the image. -/
def Reported (arguments : Arguments) (image : Except String (List UInt8)) (outcome : Outcome) :
    Prop :=
  ∃ filter bytes entryBytes tableBytes snapshot, arguments.dumpBin = none ∧
    TypeFilter.parse arguments.types = .ok filter ∧ image = .ok bytes ∧
    Dump.split bytes = .ok (entryBytes, tableBytes) ∧
      Snapshot.parse entryBytes tableBytes = .ok snapshot ∧
    outcome.output = titleLine ++ snapshot.report filter .builtin .tolerant ∧ outcome.file = none

/-- **Where the courses end**: with bad arguments, with a failure, or with a dump or a report. -/
theorem Course.ends (course : Course arguments input image outcome) :
    (arguments.HasBadType ∧ outcome.code = 2 ∧ outcome.output = "" ∧ outcome.file = none) ∨
      (¬arguments.HasBadType ∧ arguments.FailsOn image ∧ outcome.code = 1 ∧ outcome.file = none) ∨
      (¬arguments.HasBadType ∧ ¬arguments.FailsOn image ∧ outcome.code = 0 ∧
        (Dumped arguments image outcome ∨ Reported arguments image outcome)) := by
  cases course with
  | refused bad => exact .inl ⟨hasBadType_of_error bad, rfl, rfl, rfl⟩
  | missing types => exact .inr (.inl ⟨not_hasBadType_of_ok types, .missing _, rfl, rfl⟩)
  | noDump types whole => exact .inr (.inl ⟨not_hasBadType_of_ok types, .noDump whole, rfl, rfl⟩)
  | noTable types asked apart broken =>
    exact .inr (.inl ⟨not_hasBadType_of_ok types, .noTable asked apart broken, rfl, rfl⟩)
  | dumped types asked apart built =>
    refine .inr (.inr ⟨not_hasBadType_of_ok types, ?_, rfl,
      .inl ⟨_, _, _, _, _, asked, rfl, apart, built, rfl⟩⟩)
    rintro (_ | whole | ⟨noName, _, _⟩)
    · rw [apart] at whole
      cases whole
    · rw [asked] at noName
      cases noName
  | reported types asked apart parsed =>
    refine .inr (.inr ⟨not_hasBadType_of_ok types, ?_, rfl,
      .inr ⟨_, _, _, _, _, asked, types, rfl, apart, parsed, rfl, rfl⟩⟩)
    rintro (_ | whole | ⟨_, again, broken⟩)
    · rw [apart] at whole
      cases whole
    · rw [apart] at again
      cases again
      obtain ⟨_, _, parsed⟩ := Error.bind_eq_ok_iff.mp parsed
      obtain ⟨_, whole, _⟩ := Error.bind_eq_ok_iff.mp parsed
      rw [broken] at whole
      cases whole

namespace Course

theorem code_eq_two_iff (course : Course arguments input image outcome) :
    outcome.code = 2 ↔ arguments.HasBadType := by
  rcases course.ends with ⟨bad, code, _⟩ | ⟨good, _, code, _⟩ | ⟨good, _, code, _⟩
  · exact iff_of_true code bad
  · exact iff_of_false (by omega) good
  · exact iff_of_false (by omega) good

theorem code_eq_one_iff (course : Course arguments input image outcome)
    (good : ¬arguments.HasBadType) : outcome.code = 1 ↔ arguments.FailsOn image := by
  rcases course.ends with ⟨bad, _⟩ | ⟨_, fails, code, _⟩ | ⟨_, runs, code, _⟩
  · exact absurd bad good
  · exact iff_of_true code fails
  · exact iff_of_false (by omega) runs

theorem code_eq_zero_iff (course : Course arguments input image outcome) :
    outcome.code = 0 ↔ ¬arguments.HasBadType ∧ ¬arguments.FailsOn image := by
  rcases course.ends with ⟨bad, code, _⟩ | ⟨_, fails, code, _⟩ | ⟨good, runs, code, _⟩
  · exact iff_of_false (by omega) fun ⟨good, _⟩ => good bad
  · exact iff_of_false (by omega) fun ⟨_, runs⟩ => runs fails
  · exact iff_of_true code ⟨good, runs⟩

theorem dumped_of_file (course : Course arguments input image outcome) {name : String}
    {dump : List UInt8} (file : outcome.file = some (name, dump)) :
    outcome.code = 0 ∧ Dumped arguments image outcome := by
  rcases course.ends with ⟨_, _, _, noFile⟩ | ⟨_, _, _, noFile⟩ | ⟨_, _, code, dumped | reported⟩
  · rw [noFile] at file
    cases file
  · rw [noFile] at file
    cases file
  · exact ⟨code, dumped⟩
  · obtain ⟨_, _, _, _, _, _, _, _, _, _, _, noFile⟩ := reported
    rw [noFile] at file
    cases file

theorem exists_file_iff (course : Course arguments input image outcome) (name : String) :
    (∃ dump, outcome.file = some (name, dump)) ↔
      arguments.dumpBin = some name ∧ outcome.code = 0 := by
  constructor
  · rintro ⟨dump, file⟩
    obtain ⟨code, other, _, _, _, _, asked, _, _, _, same⟩ := course.dumped_of_file file
    rw [file] at same
    cases same
    exact ⟨asked, code⟩
  · rintro ⟨asked, code⟩
    rcases course.ends with ⟨_, wrong, _⟩ | ⟨_, _, wrong, _⟩ | ⟨_, _, _, dumped | reported⟩
    · omega
    · omega
    · obtain ⟨other, _, _, _, dump, again, _, _, _, file⟩ := dumped
      rw [asked] at again
      cases again
      exact ⟨dump, file⟩
    · obtain ⟨_, _, _, _, _, noName, _⟩ := reported
      rw [asked] at noName
      cases noName

theorem reported_of_code (course : Course arguments input image outcome)
    (asked : arguments.dumpBin = none)
    (code : outcome.code = 0) : Reported arguments image outcome := by
  rcases course.ends with ⟨_, wrong, _⟩ | ⟨_, _, wrong, _⟩ | ⟨_, _, _, dumped | reported⟩
  · omega
  · omega
  · obtain ⟨_, _, _, _, _, name, _⟩ := dumped
    rw [asked] at name
    cases name
  · exact reported

end Course

/-! ### Runs on files -/

section

variable {σ : Type} {files : FileSystem (StateM σ)} {state after : σ}

theorem run_bind_of_run {α β : Type} {action : StateM σ α} {value : α}
    (ran : action.run state = (value, after)) (next : α → StateM σ β) :
    (action >>= next).run state = (next value).run after := by
  rw [StateT.run_bind, ran]
  rfl

/-- A run takes its image from the file that the arguments name. -/
theorem load_of_fromDump (steady : files.IsSteady) (given : arguments.fromDump = some input) :
    (Source.load files.read arguments).run state =
      (sourceOf input (files.contents state input), state) := by
  have read : (files.read input).run state = (files.contents state input, state) :=
    Prod.ext rfl (steady state input)
  simp only [Source.load, given]
  rw [run_bind_of_run read]
  cases files.contents state input <;> rfl

/-- **Every run on an image takes one of the courses.** Up to there it changes no file. -/
theorem course_of_plan (steady : files.IsSteady) (given : arguments.fromDump = some input)
    (state : σ) :
    ∃ outcome, (plan files arguments).run state = (outcome, state) ∧
      Course arguments input (files.contents state input) outcome := by
  cases types : TypeFilter.parse arguments.types with
  | error error =>
    refine ⟨_, ?_, .refused types⟩
    simp only [plan, types]
    rfl
  | ok filter =>
    refine ⟨_, ?_, course_of_answer types input (files.contents state input)⟩
    simp only [plan, types]
    rw [run_bind_of_run (load_of_fromDump steady given)]
    rfl

theorem run_of_noFile (planned : (plan files arguments).run state = (outcome, state))
    (noFile : outcome.file = none) : (run files arguments).run state = (outcome, state) := by
  rw [run, run_bind_of_run planned, noFile]
  rfl

/-- **What comes of writing the file**: the outcome stands if it is written, and is a failure if it
is not. -/
theorem run_of_file (planned : (plan files arguments).run state = (outcome, state)) {name : String}
    {bytes : List UInt8} (file : outcome.file = some (name, bytes))
    {written : Except String Unit} (wrote : (files.write name bytes).run state = (written, after)) :
    (run files arguments).run state =
      (match written with
        | .ok () => outcome
        | .error reason => outcome.refused reason, after) := by
  rw [run, run_bind_of_run planned]
  simp only [file]
  rw [run_bind_of_run wrote]
  cases written <;> rfl

/-- **What a run leaves behind**: the files as they were, but for the dump that it has written. -/
theorem exists_after {same : String → String → Prop}
    (writable : ∀ name, arguments.dumpBin = some name → files.Writable same state name)
    (planned : (plan files arguments).run state = (outcome, state))
    (course : Course arguments input image outcome) :
    ∃ after, (run files arguments).run state = (outcome, after) ∧
      (outcome.file = none → after = state) ∧
      ∀ name dump, outcome.file = some (name, dump) →
        files.Written same state name dump after := by
  cases file : outcome.file with
  | none => exact ⟨state, run_of_noFile planned file, fun _ => rfl, by rintro _ _ ⟨⟩⟩
  | some target =>
    obtain ⟨name, dump⟩ := target
    have asked := ((course.exists_file_iff name).mp ⟨dump, file⟩).1
    obtain ⟨after, wrote, written⟩ := writable name asked dump
    refine ⟨after, run_of_file planned file wrote, by rintro ⟨⟩, ?_⟩
    rintro _ _ ⟨⟩
    exact written

end

/-- What comes of a run on the image of the file `input`: its `outcome`, and the state `after` it.
The paths of one file are the `same`. -/
structure Conduct {σ : Type} (files : FileSystem (StateM σ)) (same : String → String → Prop)
    (state : σ) (arguments : Arguments) (input : String) (outcome : Outcome) (after : σ) :
    Prop where
  /-- The exit code is 2 exactly for bad type arguments. -/
  refused_iff : outcome.code = 2 ↔ arguments.HasBadType
  /-- Bad type arguments are found before anything is printed or written. -/
  refused : arguments.HasBadType → outcome.output = "" ∧ outcome.file = none ∧ after = state
  /-- Otherwise the exit code is 1 exactly for what keeps a run from its end. -/
  failed_iff : ¬arguments.HasBadType →
    (outcome.code = 1 ↔ arguments.FailsOn (files.contents state input))
  /-- Otherwise it is 0. -/
  succeeded_iff : outcome.code = 0 ↔
    ¬arguments.HasBadType ∧ ¬arguments.FailsOn (files.contents state input)
  /-- A dump is written exactly if one is asked for and the run succeeds. -/
  written_iff : ∀ name, (∃ dump, outcome.file = some (name, dump)) ↔
    arguments.dumpBin = some name ∧ outcome.code = 0
  /-- What is written is the dump of the parts of the image; no other file changes. -/
  written : ∀ name dump, outcome.file = some (name, dump) →
    (∃ image entryBytes tableBytes, files.contents state input = .ok image ∧
      Dump.split image = .ok (entryBytes, tableBytes) ∧
      Dump.build entryBytes tableBytes = .ok dump) ∧
    files.Written same state name dump after
  /-- Nothing changes if no dump is written. -/
  unwritten : outcome.file = none → after = state
  /-- An image that is taken apart makes a dump again, and its entry point can be read again. -/
  parts : ∀ image entryBytes tableBytes, Dump.split image = .ok (entryBytes, tableBytes) →
    (∃ dump, Dump.build entryBytes tableBytes = .ok dump) ∧
      ∃ entry, EntryPoint.parse entryBytes = .ok entry
  /-- A run that succeeds without a dump prints the title and the report on the parts of the
  image. -/
  reported : arguments.dumpBin = none → outcome.code = 0 →
    ∃ filter image entryBytes tableBytes snapshot, TypeFilter.parse arguments.types = .ok filter ∧
      files.contents state input = .ok image ∧ Dump.split image = .ok (entryBytes, tableBytes) ∧
      Snapshot.parse entryBytes tableBytes = .ok snapshot ∧
      outcome.output = titleLine ++ snapshot.report filter .builtin .tolerant
  /-- How much the run logs makes no difference. -/
  verbosity : ∀ level,
    (run files { arguments with verbosity := level }).run state = (outcome, after)

/-- **What comes of a run on an image**, whatever the files, the type arguments, the image and the
other arguments are, if the dump that is asked for can be written. -/
theorem conduct_of_run {σ : Type} (files : FileSystem (StateM σ)) (same : String → String → Prop)
    (state : σ) (arguments : Arguments) (input : String) (steady : files.IsSteady)
    (given : arguments.fromDump = some input)
    (writable : ∀ name, arguments.dumpBin = some name → files.Writable same state name) :
    Conduct files same state arguments input ((run files arguments).run state).1
      ((run files arguments).run state).2 := by
  obtain ⟨outcome, planned, course⟩ := course_of_plan steady given state
  obtain ⟨after, ran, unwritten, written⟩ := exists_after writable planned course
  rw [ran]
  refine {
    refused_iff := course.code_eq_two_iff
    refused := ?refused
    failed_iff := course.code_eq_one_iff
    succeeded_iff := course.code_eq_zero_iff
    written_iff := course.exists_file_iff
    written := ?written
    unwritten := unwritten
    parts := fun _ _ _ apart => Dump.build_and_parse_of_split apart
    reported := ?reported
    verbosity := fun level => ran }
  case refused =>
    intro bad
    rcases course.ends with ⟨_, _, output, noFile⟩ | ⟨good, _⟩ | ⟨good, _⟩
    · exact ⟨output, noFile, unwritten noFile⟩
    · exact absurd bad good
    · exact absurd bad good
  case written =>
    intro name dump file
    obtain ⟨_, _, image, entryBytes, tableBytes, _, _, found, apart, built, same⟩ :=
      course.dumped_of_file file
    rw [file] at same
    cases same
    exact ⟨⟨image, entryBytes, tableBytes, found, apart, built⟩, written name dump file⟩
  case reported =>
    intro asked code
    obtain ⟨filter, image, entryBytes, tableBytes, snapshot, _, types, found, apart, parsed, output,
      _⟩ := course.reported_of_code asked code
    exact ⟨filter, image, entryBytes, tableBytes, snapshot, types, found, apart, parsed, output⟩

/-! ### Runs on a tree -/

namespace FileTree

variable {tree : FileTree} {path : String} {location : Location} {bytes found : List UInt8}

/-- Two paths lead to one name of a directory. -/
def SameFile (tree : FileTree) (path other : String) : Prop :=
  ∃ location slashed slashed', tree.target path = .ok (.entry location slashed) ∧
    tree.target other = .ok (.entry location slashed')

theorem isSteady : fileSystem.IsSteady :=
  fun _ _ => rfl

theorem read_eq_ok_iff : tree.read path = .ok found ↔
    ∃ location, tree.target path = .ok (.entry location false) ∧
      Path.isTooLong location.name = false ∧ tree.contents? location = some found := by
  unfold read
  constructor
  · intro done
    split at done
    · cases done
    · cases done
    · rename_i location slashed leads
      by_cases long : Path.isTooLong location.name
      · simp [long] at done
      · cases held : tree.contents? location with
        | none => simp [long, held] at done
        | some bytes =>
          cases slashed with
          | true => simp [long, held] at done
          | false =>
            simp only [long, held, Bool.false_eq_true, if_false, Except.ok.injEq] at done
            exact ⟨location, leads, by simpa using long, done ▸ held⟩
  · rintro ⟨location, leads, short, held⟩
    simp only [leads, short, held, Bool.false_eq_true, if_false]

theorem contents_eq_ok_iff :
    fileSystem.contents tree path = .ok found ↔ tree.read path = .ok found := by
  change (tree.read path).mapError Refusal.text = .ok found ↔ _
  cases tree.read path <;> simp [Except.mapError]

theorem contents?_store_of_ne {other : Location} (apart : other ≠ location) :
    (tree.store location bytes).contents? other = tree.contents? other := by
  have missed : (other == location) = false := beq_false_of_ne apart
  unfold store
  by_cases null : location = .nullDevice
  · rw [if_pos null]
  · simp only [contents?, if_neg null, List.lookup_cons, missed]

theorem run_write_of_write {changed : FileTree} (written : tree.write path bytes = .ok changed) :
    (fileSystem.write path bytes).run tree = (.ok (), changed) := by
  have got : (get : StateM FileTree FileTree).run tree = (tree, tree) := rfl
  rw [fileSystem, run_bind_of_run got, written]
  rfl

/-- **Which files of a tree can be written**: those of any name, but for the two devices. -/
theorem writable_of_target (leads : tree.target path = .ok (.entry location false))
    (short : Path.isTooLong location.name = false) (notNull : location ≠ .nullDevice)
    (notFull : location ≠ .fullDevice) : fileSystem.Writable tree.SameFile tree path := by
  intro bytes
  refine ⟨tree.store location bytes, run_write_of_write ?written, ?kept, ?others⟩
  case written =>
    simp only [write, leads, short, notFull, Bool.false_eq_true, if_false]
  case kept =>
    refine contents_eq_ok_iff.mpr (read_eq_ok_iff.mpr ?_)
    refine ⟨location, target_of_target leads _, short, ?_⟩
    simp [store, contents?, notNull]
  case others =>
    intro other apart found
    have elsewhere {another : Location} (leads' : tree.target other = .ok (.entry another false)) :
        (tree.store location bytes).contents? another = tree.contents? another :=
      contents?_store_of_ne fun hit => apart ⟨_, _, _, leads, hit ▸ leads'⟩
    simp only [contents_eq_ok_iff, read_eq_ok_iff]
    refine exists_congr fun another => ⟨?_, ?_⟩
    · rintro ⟨leads', short', held⟩
      have leads' := target_of_target leads' tree
      exact ⟨leads', short', elsewhere leads' ▸ held⟩
    · rintro ⟨leads', short', held⟩
      exact ⟨target_of_target leads' _, short', (elsewhere leads').symm ▸ held⟩

end FileTree

/-- A working directory with a dump in it, which holds the end of a table. -/
def saved : FileTree where
  files := [(⟨.working, "in.bin"⟩,
    [0x5F, 0x53, 0x4D, 0x5F, 0x64, 0x1F, 0x02, 0x08, 0x14, 0x01, 0x00, 0x00, 0x00, 0x00, 0x00, 0x00,
      0x5F, 0x44, 0x4D, 0x49, 0x5F, 0x8F, 0x6E, 0x08, 0x20, 0x00, 0x00, 0x00, 0x1B, 0x00, 0x28,
      0x00, 0x7F, 0x04, 0x03, 0x00, 0x00, 0x00])]

/-- The dump is written to another file, and would not be for a type that is none. -/
theorem conduct_of_run_saved :
    let arguments (type : String) : Arguments :=
      { fromDump := some "in.bin", dumpBin := some "out.bin", types := [type], verbosity := 2 }
    FileTree.fileSystem.Writable saved.SameFile saved "out.bin" ∧
      (∃ image entryBytes tableBytes dump, saved.read "in.bin" = .ok image ∧
        Dump.split image = .ok (entryBytes, tableBytes) ∧
        Dump.build entryBytes tableBytes = .ok dump ∧
        (runIn saved (arguments "4, 0x11")).2.read "out.bin" = .ok dump ∧
        (runIn saved (arguments "4, 0x11")).2.read "in.bin" = .ok image) ∧
      (runIn saved (arguments "4, 256")).1.code = 2 ∧
      (runIn saved (arguments "4, 256")).2 = saved := by
  intro arguments
  have leads : saved.target "out.bin" = .ok (.entry ⟨.working, "out.bin"⟩ false) := rfl
  have writable : FileTree.fileSystem.Writable saved.SameFile saved "out.bin" :=
    FileTree.writable_of_target leads rfl (by decide) (by decide)
  have conduct (type : String) :=
    conduct_of_run FileTree.fileSystem saved.SameFile saved (arguments type) "in.bin"
      FileTree.isSteady rfl (by rintro _ ⟨⟩; exact writable)
  have code : (runIn saved (arguments "4, 0x11")).1.code = 0 := rfl
  have bad : (runIn saved (arguments "4, 256")).1.code = 2 := rfl
  have apart : ¬saved.SameFile "out.bin" "in.bin" := by
    rintro ⟨_, _, _, out, input⟩
    cases out
    cases input
  obtain ⟨dump, file⟩ := ((conduct "4, 0x11").written_iff "out.bin").mpr ⟨rfl, code⟩
  obtain ⟨⟨image, entryBytes, tableBytes, found, split, built⟩, written⟩ :=
    (conduct "4, 0x11").written "out.bin" dump file
  refine ⟨writable, ⟨image, entryBytes, tableBytes, dump,
    FileTree.contents_eq_ok_iff.mp found, split, built,
    FileTree.contents_eq_ok_iff.mp written.kept,
    FileTree.contents_eq_ok_iff.mp ((written.others "in.bin" apart image).mpr found)⟩, bad, ?_⟩
  exact ((conduct "4, 256").refused ((conduct "4, 256").refused_iff.mp bad)).2.2

end CommandLine

end Dmi
