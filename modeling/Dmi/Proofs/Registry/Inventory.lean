/-
**Reading a table loses, reorders and invents nothing.**

A registry makes one of three things of a structure: a record, a failure, or nothing for want of a
decoder. The inventory of a table has one entry for each structure, in stream order, and each entry
has its structure with it. This takes decoders that keep the structure they are given and leave it
to the registry to say that a type has none, as those of the catalog do. Main statements:

* `Record.failure_of_read` — what a kind of records fails with;
* `Registry.faithful_of_built` — every decoder that is found in a registry is faithful;
* `Inventory.ofStructure_eq` — what one structure adds;
* `Inventory.ofTable_append` — tables are read one behind the other;
* `Inventory.ofTable_of_parse` — what the inventory of a table is.
-/

import Dmi.Proofs.Layout.Failure
import Dmi.Proofs.Record.RoundTrip
import Dmi.Registry

namespace Dmi

/-! ### The decoders of the catalog -/

namespace Record

variable {kind : RecordKind} {policy : StringPolicy} {s : Structure}

/-- **What a kind of records fails with.** The structure is of another type or too short, or a cause
arose in one of the fields. The values that a walk gives always make a record. -/
theorem failure_of_read {error : Error} (failed : Record.read kind policy s = .error error) :
    (s.type ≠ kind.type ∧ error = .unexpectedType kind.type s.type) ∨
      (s.size < kind.minSize ∧ error = .endOfData (.named kind.title) s.size) ∨
      ∃ place ∈ kind.layout.places kind.title, ∃ cause, error = .inField place.1 place.2 cause := by
  rcases read_cases kind policy s with
    ⟨other, answer⟩ | ⟨_, short, answer⟩ | ⟨_, _, ⟨_, _, answer⟩ | ⟨cause, walked, answer⟩⟩
  · rw [answer] at failed
    cases failed
    exact .inl ⟨other, rfl⟩
  · rw [answer] at failed
    cases failed
    exact .inr (.inl ⟨short, rfl⟩)
  · rw [answer] at failed
    cases failed
  · rw [answer] at failed
    cases failed
    cases Layout.failure_of_walk kind.defaultsFit_layout walked with
    | inField place cause => exact .inr (.inr ⟨_, place, cause, rfl⟩)
    | cutShort whole offset => cases whole

end Record

/-- A decoder is faithful: its records keep the structure that they were read from, and it never
answers that the type has no decoder. -/
structure Decoder.Faithful (decoder : Decoder) : Prop where
  source_eq : ∀ {source policy record tolerated}, decoder source policy = .ok (record, tolerated) →
    record.source = source
  supported : ∀ {source policy type}, decoder source policy ≠ .error (.unsupportedType type)

/-- **The decoders of the catalog are faithful.** -/
theorem RecordKind.faithful (kind : RecordKind) :
    Decoder.Faithful fun source policy => Record.read kind policy source where
  source_eq found := Record.source_of_read found
  supported failed := by
    rcases Record.failure_of_read failed with ⟨_, wrong⟩ | ⟨_, wrong⟩ |
      ⟨_, _, _, wrong⟩ <;> cases wrong

/-! ### Registries -/

namespace Registry

/-- Every decoder that is found is faithful. -/
def Faithful (registry : Registry) : Prop :=
  ∀ type decoder, registry.decoder? type = some decoder → Decoder.Faithful decoder

theorem faithful_empty : empty.Faithful := by
  intro type decoder found
  cases found

theorem Faithful.register {registry : Registry} (faithful : registry.Faithful) (type : TypeCode)
    {decoder : Decoder} (new : Decoder.Faithful decoder) :
    (registry.register type decoder).Faithful := by
  intro other found lookup
  rw [decoder?_register] at lookup
  split at lookup
  · cases lookup
    exact new
  · exact faithful other found lookup

theorem faithful_builtin : builtin.Faithful := by
  have kinds (all : List RecordKind) {registry : Registry} (faithful : registry.Faithful) :
      (all.foldl registerKind registry).Faithful := by
    induction all generalizing registry with
    | nil => exact faithful
    | cons kind rest ih => exact ih (faithful.register kind.type kind.faithful)
  exact kinds RecordKind.all faithful_empty

/-- The registries that come about by registering faithful decoders, one after the other. -/
inductive Built : Registry → Prop
  | empty : Built empty
  | builtin : Built builtin
  | register {registry : Registry} (built : Built registry) (type : TypeCode) {decoder : Decoder}
    (faithful : Decoder.Faithful decoder) : Built (registry.register type decoder)
  | registerKind {registry : Registry} (built : Built registry) (kind : RecordKind) :
    Built (registry.registerKind kind)

/-- **A registry that is built of faithful decoders finds no other.** -/
theorem faithful_of_built {registry : Registry} (built : registry.Built) : registry.Faithful := by
  induction built with
  | empty => exact faithful_empty
  | builtin => exact faithful_builtin
  | register _ type new ih => exact ih.register type new
  | registerKind _ kind ih => exact ih.register kind.type kind.faithful

/-! ### What becomes of a structure -/

/-- What a registry makes of a structure. -/
inductive Outcome where
  /-- Its decoder has made a record of it, with the errors that the policy tolerates. -/
  | typed (record : Record) (tolerated : List Error)
  /-- Its decoder has failed. -/
  | failed (error : Error)
  /-- Its type has no decoder. -/
  | unsupported
  deriving DecidableEq, Repr

/-- What the registry makes of a structure. -/
def outcome (registry : Registry) (policy : StringPolicy) (source : Structure) : Outcome :=
  match registry.decoder? source.type with
  | none => .unsupported
  | some decoder =>
    match decoder source policy with
    | .ok (record, tolerated) => .typed record tolerated
    | .error error => .failed error

/-- The entry of a structure: its record, or the structure as it is. -/
def entry (registry : Registry) (policy : StringPolicy) (source : Structure) : Entry :=
  match registry.outcome policy source with
  | .typed record _ => .typed record
  | .failed _ | .unsupported => .raw source

/-- The diagnostics of a structure: one for each tolerated error, or one for the failure. -/
def diagnostics (registry : Registry) (policy : StringPolicy) (source : Structure) :
    List Diagnostic :=
  match registry.outcome policy source with
  | .typed _ tolerated => tolerated.map fun error => ⟨source.handle, source.type, error⟩
  | .failed error => [⟨source.handle, source.type, error⟩]
  | .unsupported => []

variable {registry : Registry} {policy : StringPolicy} {source : Structure}

theorem outcome_eq_unsupported_iff :
    registry.outcome policy source = .unsupported ↔ registry.contains source.type = false := by
  unfold contains outcome
  cases registry.decoder? source.type with
  | none => simp
  | some decoder => cases decoded : decoder source policy <;> simp [decoded]

theorem source_entry (faithful : registry.Faithful) (policy : StringPolicy) (source : Structure) :
    (registry.entry policy source).source = source := by
  unfold entry outcome
  cases found : registry.decoder? source.type with
  | none => rfl
  | some decoder =>
    cases decoded : decoder source policy with
    | error error => simp only [decoded, Entry.source]
    | ok result =>
      obtain ⟨record, tolerated⟩ := result
      simp only [decoded, Entry.source]
      exact (faithful _ _ found).source_eq decoded

end Registry

/-! ### Tables -/

namespace Inventory

open Registry

variable {registry : Registry} {policy : StringPolicy}

theorem append_assoc (first second third : Inventory) :
    first ++ second ++ third = first ++ (second ++ third) := by
  show Inventory.mk (first.entries ++ second.entries ++ third.entries)
    (first.diagnostics ++ second.diagnostics ++ third.diagnostics) = _
  rw [List.append_assoc, List.append_assoc]
  rfl

/-- **What one structure adds**: its entry, unless its type has no decoder and such structures are
left out, and its diagnostics. -/
theorem ofStructure_eq (faithful : registry.Faithful) (options : ReadOptions) (source : Structure) :
    ofStructure registry options source =
      ⟨if registry.contains source.type || options.keepUnsupported
        then [registry.entry options.policy source] else [],
        registry.diagnostics options.policy source⟩ := by
  unfold ofStructure Registry.decode Registry.entry Registry.diagnostics Registry.outcome
    Registry.contains
  cases found : registry.decoder? source.type with
  | none => simp
  | some decoder =>
    cases decoded : decoder source options.policy with
    | ok result =>
      obtain ⟨record, tolerated⟩ := result
      simp [decoded, Diagnostic.about]
    | error error =>
      -- An error of this sort would be passed over without a diagnostic.
      have other : ∀ type, error ≠ .unsupportedType type := by
        rintro type rfl
        exact (faithful _ _ found).supported decoded
      simp [decoded, Diagnostic.about]

/-- **Tables are read one behind the other.** -/
theorem ofTable_append (registry : Registry) (options : ReadOptions) (first second : Table) :
    ofTable registry options (first ++ second) =
      ofTable registry options first ++ ofTable registry options second := by
  induction first with
  | nil => rfl
  | cons source rest ih =>
    rw [List.cons_append, ofTable, ih, ofTable, append_assoc]

/-- **The inventory of a table**: the entries of the structures that stay in, in stream order, and
the diagnostics of all of them. -/
theorem ofTable_eq (faithful : registry.Faithful) (options : ReadOptions) (table : Table) :
    ofTable registry options table =
      ⟨(table.filter fun source => registry.contains source.type || options.keepUnsupported).map
          (registry.entry options.policy),
        table.flatMap (registry.diagnostics options.policy)⟩ := by
  induction table with
  | nil => rfl
  | cons source rest ih =>
    rw [ofTable, ih, ofStructure_eq faithful, List.flatMap_cons, List.filter_cons]
    by_cases kept : (registry.contains source.type || options.keepUnsupported) = true
    · rw [if_pos kept, if_pos kept, List.map_cons]
      rfl
    · rw [if_neg kept, if_neg kept]
      rfl

/-- **Reading a table loses, reorders and invents nothing.** With all structures kept, the inventory
has one entry for each of them, in stream order, so that the structures of the entries are the table
and their bytes the bytes of the table. Without those that have no decoder, exactly these are
missing. An entry is a record where a decoder has made one, and the structure otherwise. The
diagnostics are those of the structures, in stream order: one for each tolerated error of a record,
one for a failed decoder, and none for want of a decoder. A table behind another adds its
inventory. -/
theorem ofTable_of_parse {bytes : List UInt8} {table : Table}
    (parsed : Table.parse bytes = .ok table) {registry : Registry} (built : registry.Built)
    (policy : StringPolicy) :
    let whole := ofTable registry { policy, keepUnsupported := true } table
    let known := ofTable registry { policy, keepUnsupported := false } table
    whole.entries.map Entry.source = table ∧
      Table.bytes (whole.entries.map Entry.source) = bytes ∧
      known.entries.map Entry.source = table.filter (fun source => registry.contains source.type) ∧
      whole.entries = table.map (registry.entry policy) ∧
      known.entries = whole.entries.filter (fun entry => registry.contains entry.source.type) ∧
      whole.diagnostics = table.flatMap (registry.diagnostics policy) ∧
      known.diagnostics = whole.diagnostics ∧
      (∀ source, registry.outcome policy source = .unsupported ↔
        registry.contains source.type = false) ∧
      ∀ options (other : Table), ofTable registry options (table ++ other) =
        ofTable registry options table ++ ofTable registry options other := by
  have faithful := faithful_of_built built
  have sources (others : Table) : (others.map (registry.entry policy)).map Entry.source =
    others := by
    rw [List.map_map]
    exact List.map_id'' (source_entry faithful policy) others
  intro whole known
  have wholeEntries : whole.entries = table.map (registry.entry policy) := by
    simp only [whole, ofTable_eq faithful, Bool.or_true]
    rw [List.filter_eq_self.mpr fun _ _ => rfl]
  have knownEntries : known.entries =
      (table.filter fun source => registry.contains source.type).map (registry.entry policy) := by
    simp only [known, ofTable_eq faithful, Bool.or_false]
  refine ⟨?_, ?_, ?_, wholeEntries, ?_, ?_, ?_, fun _ => outcome_eq_unsupported_iff,
    fun options => ofTable_append registry options table⟩
  · rw [wholeEntries, sources]
  · rw [wholeEntries, sources]
    exact (Table.bytes_of_parse parsed).2
  · rw [knownEntries, sources]
  · rw [knownEntries, wholeEntries, List.filter_map]
    congr 2
    funext source
    exact congrArg (fun same : Structure => registry.contains same.type)
      (source_entry faithful policy source).symm
  · simp only [whole, ofTable_eq faithful]
  · simp only [whole, known, ofTable_eq faithful]

/-- A decoder for structures that say nothing but their type. -/
def silent : Decoder := fun source _ => .ok (⟨source, .inactive⟩, [])

/-- The catalog with a decoder for a vendor's type. -/
def extended : Registry := builtin.register ⟨0xC8⟩ silent

/-- A system whose first string has no place in the list, two vendors' structures, and a firmware
that is too short. -/
def mixed : Table :=
  [⟨⟨.system, 8, 1⟩, ⟨[2, 0, 0, 0], [[0x53]]⟩⟩, ⟨⟨⟨0xC8⟩, 5, 2⟩, ⟨[0xAA], []⟩⟩,
    ⟨⟨⟨0xC9⟩, 4, 3⟩, ⟨[], []⟩⟩, ⟨⟨.bios, 5, 4⟩, ⟨[0], []⟩⟩]

/-- The table stays whole, or loses the structure of the one type without a decoder. The system and
the firmware have a diagnostic each. -/
theorem ofTable_of_parse_mixed :
    let whole := ofTable extended { policy := .tolerant, keepUnsupported := true } mixed
    let known := ofTable extended { policy := .tolerant, keepUnsupported := false } mixed
    whole.entries.map Entry.source = mixed ∧
      (known.entries.map Entry.source).map Structure.handle = [1, 2, 4] ∧
      known.diagnostics.map Diagnostic.handle = [1, 4] := by
  intro whole known
  have wellFormed : Table.WellFormed mixed := by
    intro s member
    simp only [mixed, List.mem_cons, List.not_mem_nil, or_false] at member
    rcases member with rfl | rfl | rfl | rfl <;> exact ⟨by decide, by decide, by decide, by decide⟩
  have faithful : Decoder.Faithful silent :=
    ⟨fun found => by cases found; rfl, fun failed => by cases failed⟩
  obtain ⟨kept, -, filtered, -, -, diagnostics, same, -⟩ :=
    ofTable_of_parse (Table.parse_of_wellFormed wellFormed)
      (.register .builtin ⟨0xC8⟩ faithful) .tolerant
  refine ⟨kept, ?_, ?_⟩
  · exact (congrArg (List.map Structure.handle) filtered).trans (by decide +kernel)
  · rw [show known.diagnostics = _ from same.trans diagnostics]
    decide +kernel

end Inventory

end Dmi
