/-
**What a registry has become.**

A registry is empty or the catalog, and then decoders are put in, one after the other, each for a
type. The catalog itself comes about in this way, so that a whole history is one list of
registrations. What the registry makes of a structure depends on the last registration for the type
of the structure, and on no other one. Main statements:

* `decoder?_step`, `decoder?_after` — what one registration changes, and what any run of them
  leaves;
* `decode_of_foreign` — the decoder of a kind of records under another type refuses all structures;
* `dispatch_of_history` — types, answers and reports of a registry, told from its history.
-/

import Dmi.Registry

namespace Dmi

/-- A step in the history of a registry. -/
inductive Registration where
  /-- Any decoder, for any type. -/
  | register (type : TypeCode) (decoder : Decoder)
  /-- The decoder of a kind of records, for the type of the kind. -/
  | registerKind (kind : RecordKind)

/-- The decoder of a kind of records. -/
def RecordKind.decoder (kind : RecordKind) :
    Decoder := fun source policy => Record.read kind policy source

namespace Registration

/-- The type that gets a decoder. -/
def type : Registration → TypeCode
  | register type _ => type
  | registerKind kind => kind.type

/-- The decoder that the type gets. -/
def decoder : Registration → Decoder
  | register _ decoder => decoder
  | registerKind kind => kind.decoder

/-- The decoder that a type has got last. -/
def latest? (history : List Registration) (type : TypeCode) : Option Decoder :=
  (history.filter fun step => step.type = type).getLast?.map decoder

theorem latest?_eq_none_iff {history : List Registration} {type : TypeCode} :
    latest? history type = none ↔ ∀ step ∈ history, step.type ≠ type := by
  simp [latest?]

theorem isSome_latest?_iff {history : List Registration} {type : TypeCode} :
    (latest? history type).isSome ↔ ∃ step ∈ history, step.type = type := by
  rw [← Option.ne_none_iff_isSome, Ne, latest?_eq_none_iff]
  simp

/-- The first registration counts only if no later one is for the same type. -/
theorem latest?_cons (step : Registration) (rest : List Registration) (type : TypeCode) :
    latest? (step :: rest) type = (latest? rest type).or
      (if type = step.type then some step.decoder else none) := by
  unfold latest?
  by_cases same : step.type = type
  · rw [List.filter_cons_of_pos (by simpa using same), List.getLast?_cons, if_pos same.symm]
    cases (rest.filter fun step => step.type = type).getLast? <;> rfl
  · rw [List.filter_cons_of_neg (by simpa using same), if_neg (Ne.symm same), Option.or_none]

end Registration

namespace Registry

open Registration

/-! ### Histories -/

/-- What a registration hands back, and the registry behind it. -/
def step (registry : Registry) : Registration → Option Decoder × Registry
  | .register type decoder => registry.replace type decoder
  | .registerKind kind => registry.replaceKind kind

/-- The registry behind a run of registrations. -/
def after (registry : Registry) : List Registration → Registry
  | [] => registry
  | first :: rest => (registry.step first).2.after rest

/-- What each registration of a run hands back. -/
def replaced (registry : Registry) : List Registration → List (Option Decoder)
  | [] => []
  | first :: rest => (registry.step first).1 :: (registry.step first).2.replaced rest

/-- What a history begins with. -/
inductive Origin where
  | empty
  | catalog
  deriving DecidableEq, Repr

/-- The registry that a history begins with. -/
def Origin.registry : Origin → Registry
  | empty => .empty
  | catalog => .builtin

/-- The registrations that make the first registry out of the empty one. -/
def Origin.steps : Origin → List Registration
  | empty => []
  | catalog => RecordKind.all.map .registerKind

variable {registry : Registry} {policy : StringPolicy} {source : Structure}

/-- **What one registration changes**: the decoder of its type, and no other. -/
theorem decoder?_step (registry : Registry) (step : Registration) (type : TypeCode) :
    (registry.step step).2.decoder? type =
      if type = step.type then some step.decoder else registry.decoder? type := by
  cases step with
  | register type decoder => exact decoder?_register registry type _ decoder
  | registerKind kind => exact decoder?_register registry kind.type _ kind.decoder

theorem replaced_step (registry : Registry) (step : Registration) :
    (registry.step step).1 = registry.decoder? step.type := by
  cases step <;> rfl

/-- **What a run of registrations leaves**: each type has the decoder that it has got last, or the
one from before. By induction on the run, with any registry in front of it. -/
theorem decoder?_after (registry : Registry) (steps : List Registration) (type : TypeCode) :
    (registry.after steps).decoder? type = (latest? steps type).or (registry.decoder? type) := by
  induction steps generalizing registry with
  | nil => rfl
  | cons first rest ih =>
    rw [after, ih, decoder?_step, latest?_cons, Option.or_assoc]
    by_cases same : type = first.type
    · rw [if_pos same, if_pos same, Option.some_or]
    · rw [if_neg same, if_neg same, Option.none_or]

theorem after_append (registry : Registry) (steps more : List Registration) :
    registry.after (steps ++ more) = (registry.after steps).after more := by
  induction steps generalizing registry with
  | nil => rfl
  | cons first rest ih => rw [List.cons_append, after, ih, after]

/-- Each registration hands back the decoder that its type has had in front of it. -/
theorem getElem?_replaced {steps : List Registration} {index : Nat} {step : Registration}
    (found : steps[index]? = some step) :
    (registry.replaced steps)[index]? = some
      ((registry.after (steps.take index)).decoder? step.type) := by
  induction steps generalizing registry index with
  | nil => cases found
  | cons first rest ih =>
    cases index with
    | zero =>
      cases found
      rw [replaced, List.getElem?_cons_zero, replaced_step, List.take_zero, after]
    | succ index =>
      rw [List.getElem?_cons_succ] at found
      rw [replaced, List.getElem?_cons_succ, ih found, List.take_succ_cons, after]

/-- **The first registry comes about by registrations** out of the empty one. -/
theorem after_steps (origin : Origin) : empty.after origin.steps = origin.registry := by
  have kinds (all : List RecordKind) (registry : Registry) :
      registry.after (all.map .registerKind) = all.foldl registerKind registry := by
    induction all generalizing registry with
    | nil => rfl
    | cons kind rest ih => exact ih (registry.registerKind kind)
  cases origin with
  | empty => rfl
  | catalog => exact kinds RecordKind.all empty

/-- A type has the decoder that it has got last in the whole history. -/
theorem decoder?_of_history (origin : Origin) (steps : List Registration) (type : TypeCode) :
    (origin.registry.after steps).decoder? type = latest? (origin.steps ++ steps) type := by
  rw [← after_steps, ← after_append, decoder?_after]
  exact Option.or_none

/-! ### Answers -/

theorem decode_of_some {decoder : Decoder} (found : registry.decoder? source.type = some decoder) :
    registry.decode policy source = decoder source policy := by
  rw [decode, found]

theorem decode_of_none (none_ : registry.decoder? source.type = none) :
    registry.decode policy source = .error (.unsupportedType source.type) := by
  rw [decode, none_]

/-- **A registration for one type changes no answer on structures of another.** -/
theorem decode_of_other {step : Registration} (other : source.type ≠ step.type) :
    (registry.step step).2.decode policy source = registry.decode policy source := by
  rw [decode, decode, decoder?_step, if_neg other]

/-- **The decoder of a kind of records refuses every structure of another type**, since it checks
the type itself. -/
theorem decode_of_foreign {kind : RecordKind} (foreign : source.type ≠ kind.type)
    (found : registry.decoder? source.type = some kind.decoder) :
    registry.decode policy source = .error (.unexpectedType kind.type source.type) := by
  rw [decode_of_some found, RecordKind.decoder, Record.read, if_pos foreign]

/-- The types are listed in ascending order, each once. -/
theorem pairwise_types (registry : Registry) :
    registry.types.Pairwise fun one next => one.code < next.code :=
  List.Pairwise.filter _ TypeCode.pairwise_all

/-! ### The whole history -/

/-- What a registry is by its history. -/
structure Dispatches (registry : Registry) (history : List Registration) : Prop where
  types_ascend : registry.types.Pairwise fun one next => one.code < next.code
  mem_types_iff : ∀ type, type ∈ registry.types ↔ ∃ step ∈ history, step.type = type
  contains_iff : ∀ type, registry.contains type ↔ type ∈ registry.types
  /-- The decoder that the type has got last gives the answer. -/
  decode_eq : ∀ policy source,
    registry.decode policy source = match latest? history source.type with
    | some decoder => decoder source policy
    | none => .error (.unsupportedType source.type)
  /-- There is none only if the type has never got any. -/
  unsupported_iff : ∀ type, latest? history type = none ↔ ∀ step ∈ history, step.type ≠ type
  /-- A type without a decoder is told as such, and nothing else is, unless a decoder says so
  itself. -/
  decode_eq_unsupported_iff : ∀ policy source,
    registry.decode policy source = .error (.unsupportedType source.type) ↔
      (∀ step ∈ history, step.type ≠ source.type) ∨
        ∃ decoder, latest? history source.type = some decoder ∧
        decoder source policy = .error (.unsupportedType source.type)
  /-- The decoder of a kind of records under another type refuses every structure of that type. -/
  foreign : ∀ (kind : RecordKind) policy source, source.type ≠ kind.type →
    latest? history source.type = some kind.decoder →
      registry.decode policy source = .error (.unexpectedType kind.type source.type)

theorem dispatches_of_decoder? {history : List Registration}
    (decoders : ∀ type, registry.decoder? type = latest? history type) :
    registry.Dispatches history where
  types_ascend := pairwise_types registry
  mem_types_iff type := by rw [mem_types, contains, decoders, isSome_latest?_iff]
  contains_iff type := (mem_types registry type).symm
  decode_eq policy source := by
    cases found : latest? history source.type with
    | some decoder => exact decode_of_some ((decoders source.type).trans found)
    | none => exact decode_of_none ((decoders source.type).trans found)
  unsupported_iff type := latest?_eq_none_iff
  decode_eq_unsupported_iff policy source := by
    rw [← latest?_eq_none_iff]
    cases found : latest? history source.type with
    | none => simp [decode_of_none ((decoders source.type).trans found)]
    | some decoder => simp [decode_of_some ((decoders source.type).trans found)]
  foreign kind policy source other found :=
    decode_of_foreign other ((decoders source.type).trans found)

/-- **A registry answers by its history.** From the empty registry or the catalog on, whatever is
registered: the types are those that have got a decoder, in ascending order, and each structure is
read by the decoder that its type has got last. Each registration hands back the decoder that its
type had got last before, if any, and changes no answer on a structure of another type. -/
theorem dispatch_of_history (origin : Origin) (steps : List Registration) :
    (origin.registry.after steps).Dispatches (origin.steps ++ steps) ∧
      (∀ index step, steps[index]? = some step →
        let before := origin.steps ++ steps.take index
        (origin.registry.replaced steps)[index]? = some (latest? before step.type) ∧
          ((latest? before step.type).isSome ↔ ∃ earlier ∈ before, earlier.type = step.type)) ∧
      ∀ (step : Registration) policy source, source.type ≠ step.type →
        (origin.registry.after (steps ++ [step])).decode policy source =
          (origin.registry.after steps).decode policy source := by
  refine ⟨dispatches_of_decoder? (decoder?_of_history origin steps), ?_, ?_⟩
  · intro index step found
    rw [getElem?_replaced found, decoder?_of_history]
    exact ⟨rfl, isSome_latest?_iff⟩
  · intro step policy source other
    rw [after_append, after, after]
    exact decode_of_other other

end Registry

end Dmi
