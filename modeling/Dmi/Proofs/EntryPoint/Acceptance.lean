/-
**Which bytes are an entry point.**

The anchor chooses the variant, and each variant has rules that the bytes must keep. Bytes that keep
them all are an entry point, and all others are answered by the first rule they break. The rules
speak of sums: that a stored checksum is the expected one says the same
(`Checksum.getD_eq_expected_iff`). Main statements:

* `EntryPoint.decides_cons` — a check in front of others decides a rule in front of theirs;
* `Entry32.decides_parse`, `Entry64.decides_parse` — the rules of a variant decide what reading it
  answers;
* `EntryPoint.variant_ne_of_set` — no accepted bytes are one changed byte apart, within a variant;
* `EntryPoint.parse_decides` — all of this for the entry point that some bytes begin with.
-/

import Dmi.Proofs.EntryPoint.Image

namespace Dmi

/-! ### Rules in order -/

namespace EntryPoint

/-- A rule for bytes: what keeps it, and which errors say that it is broken. -/
structure Rule where
  kept : Prop
  answer : Error → Prop

/-- The rule that `kept` holds, which has one error. -/
def Rule.require (kept : Prop) (error : Error) : Rule :=
  ⟨kept, fun other => other = error⟩

/-- The rule that a run of bytes adds up to zero. Its error names the only byte that would make it
so in the place of the checksum, and the byte that is there. -/
def Rule.addUp (run : List UInt8) (place : Nat) (wrong : (expected found : UInt8) → Error) :
    Rule where
  kept := Checksum.sum run = 0
  answer error := ∃ expected, (∀ byte, Checksum.sum (run.set place byte) = 0 ↔ byte = expected) ∧
    error = wrong expected (run.getD place 0)

/-- The error says that the first broken one of the rules is broken. -/
inductive FirstBroken : List Rule → Error → Prop
  | here {rule : Rule} {later : List Rule} {error : Error} (broken : ¬rule.kept)
    (answer : rule.answer error) : FirstBroken (rule :: later) error
  | behind {rule : Rule} {later : List Rule} {error : Error} (kept : rule.kept)
    (broken : FirstBroken later error) : FirstBroken (rule :: later) error

variable {α β : Type} {rule : Rule} {later rules : List Rule} {result : Except Error α} {found : α}
  {error : Error}

theorem firstBroken_cons_of_kept (kept : rule.kept) :
    FirstBroken (rule :: later) error ↔ FirstBroken later error := by
  constructor
  · intro first
    cases first with
    | here broken _ => exact absurd kept broken
    | behind _ broken => exact broken
  · exact .behind kept

theorem firstBroken_cons_of_broken (broken : ¬rule.kept) :
    FirstBroken (rule :: later) error ↔ rule.answer error := by
  constructor
  · intro first
    cases first with
    | here _ answer => exact answer
    | behind kept _ => exact absurd kept broken
  · exact .here broken

/-- The rules decide a result: it is `found` where all of them are kept, and else the error of the
first broken one. -/
structure Decides (rules : List Rule) (result : Except Error α) (found : α) : Prop where
  ok_iff : ∀ other, result = .ok other ↔ (∀ rule ∈ rules, rule.kept) ∧ other = found
  error_iff : ∀ error, result = .error error ↔ FirstBroken rules error

theorem decides_nil (found : α) : Decides [] (.ok found) found where
  ok_iff other := by simp [eq_comm]
  error_iff error := by
    constructor
    · intro same
      cases same
    · intro first
      cases first

/-- **A check in front of others decides a rule in front of theirs.** The others are asked only
where it is kept. -/
theorem decides_cons {broken : Prop} [Decidable broken] {rest : Except Error α}
    (breaks : broken ↔ ¬rule.kept) (answer : ∀ other, rule.answer other ↔ other = error)
    (behind : rule.kept → Decides later rest found) :
    Decides (rule :: later) (if broken then .error error else rest) found := by
  by_cases kept : rule.kept
  · rw [if_neg fun wrong => breaks.mp wrong kept]
    have later := behind kept
    refine ⟨fun other => ?_, fun other => ?_⟩
    · rw [later.ok_iff, List.forall_mem_cons, and_iff_right kept]
    · rw [later.error_iff, firstBroken_cons_of_kept kept]
  · rw [if_pos (breaks.mpr kept)]
    refine ⟨fun other => ?_, fun other => ?_⟩
    · simp [kept]
    · rw [firstBroken_cons_of_broken kept, answer, Except.error.injEq, eq_comm]

theorem Decides.map (decides : Decides rules result found) (change : α → β) :
    Decides rules (result.map change) (change found) := by
  cases result with
  | error other =>
    have refused := decides.error_iff
    refine ⟨fun changed => ?_, fun error => ?_⟩
    · have broken : ¬∀ rule ∈ rules, rule.kept := fun kept => by
        have accepted := (decides.ok_iff found).mpr ⟨kept, rfl⟩
        cases accepted
      simp [Except.map, broken]
    · rw [← refused error]
      simp [Except.map]
  | ok here =>
    obtain ⟨kept, rfl⟩ := (decides.ok_iff here).mp rfl
    refine ⟨fun changed => ?_, fun error => ?_⟩
    · simp only [Except.map, Except.ok.injEq, and_iff_right kept, eq_comm]
    · rw [← decides.error_iff error]
      simp [Except.map]

/-- Where only one of the rules can be broken, it decides alone. -/
theorem Decides.eq_ite {first : Rule} {kept : Prop} [Decidable kept]
    (decides : Decides (first :: .require kept error :: later) result found) (opening : first.kept)
    (rest : ∀ rule ∈ later, rule.kept) : result = if kept then .ok found else .error error := by
  by_cases here : kept
  · rw [if_pos here, decides.ok_iff, List.forall_mem_cons, List.forall_mem_cons]
    exact ⟨⟨opening, here, rest⟩, rfl⟩
  · rw [if_neg here, decides.error_iff]
    exact .behind opening (.here here rfl)

/-- The check of a stored checksum decides that the run adds up to zero. -/
theorem decides_addUp {run : List UInt8} {place : Nat} {wrong : UInt8 → UInt8 → Error}
    {rest : Except Error α} (inside : place < run.length) (behind : Decides later rest found) :
    Decides (Rule.addUp run place wrong :: later)
      (if run.getD place 0 ≠ Checksum.expected run place then
        .error (wrong (Checksum.expected run place) (run.getD place 0))
      else rest) found := by
  refine decides_cons (not_congr (Checksum.getD_eq_expected_iff inside)) (fun other => ?_)
    fun _ => behind
  have unique := Checksum.sum_set_eq_zero_iff inside
  constructor
  · rintro ⟨expected, only, rfl⟩
    rw [(only (Checksum.expected run place)).mp ((unique _).mpr rfl)]
  · rintro rfl
    exact ⟨_, unique, rfl⟩

end EntryPoint

/-! ### The rules of the variants -/

open EntryPoint

/-- What bytes behind the anchor `_SM_` must keep, in the order in which it is checked. -/
def Entry32.rules (source : List UInt8) : List Rule :=
  let image := source.take size
  let area := image.drop intermediateStart
  [.require (size ≤ source.length) (.endOfData .entry32 source.length),
    .require ((image.getD 0x05 0).toNat =
      size) (.wrongLength (UInt8.ofNat size) (image.getD 0x05 0)),
    .addUp image 0x04 .wrongChecksum,
    .require (area.take 5 = intermediateAnchor) (.unknownIntermediateAnchor (area.take 5)),
    .addUp area 0x05 .wrongIntermediateChecksum]

/-- What bytes behind the anchor `_SM3_` must keep, in the order in which it is checked. -/
def Entry64.rules (source : List UInt8) : List Rule :=
  let image := source.take size
  [.require (size ≤ source.length) (.endOfData .entry64 source.length),
    .require ((image.getD 0x06 0).toNat =
      size) (.wrongLength (UInt8.ofNat size) (image.getD 0x06 0)),
    .addUp image 0x05 .wrongChecksum]

theorem Entry32.decides_parse {source : List UInt8} (opening : source.take 4 = anchor) :
    Decides (rules source) (parse source) (ofImage (source.take size)) := by
  refine decides_cons Nat.not_le.symm (fun _ => Iff.rfl) fun long => ?_
  have length : (source.take size).length = size := List.length_take_of_le long
  have areaLength : ((source.take size).drop intermediateStart).length =
    size - intermediateStart := by
    rw [List.length_drop, length]
  have again : (source.take size).take 4 = anchor := by
    rw [List.take_take]
    exact opening
  rw [ofImage?, if_neg (not_not_intro again)]
  refine decides_cons Iff.rfl (fun _ => Iff.rfl) fun _ => ?_
  refine decides_addUp (by rw [length]; decide) ?_
  refine decides_cons Iff.rfl (fun _ => Iff.rfl) fun _ => ?_
  -- The fields name the place of this checksum in the whole, the rule its place in the area.
  have stored : (ofImage (source.take size)).intermediateChecksum =
      ((source.take size).drop intermediateStart).getD 0x05 0 := by
    simp only [ofImage, List.getD_eq_getElem?_getD, List.getElem?_drop]
    rfl
  rw [stored]
  exact decides_addUp (by rw [areaLength]; decide) (decides_nil _)

theorem Entry64.decides_parse {source : List UInt8} (opening : source.take 5 = anchor) :
    Decides (rules source) (parse source) (ofImage (source.take size)) := by
  refine decides_cons Nat.not_le.symm (fun _ => Iff.rfl) fun long => ?_
  have length : (source.take size).length = size := List.length_take_of_le long
  have again : (source.take size).take 5 = anchor := by
    rw [List.take_take]
    exact opening
  rw [ofImage?, if_neg (not_not_intro again)]
  refine decides_cons Iff.rfl (fun _ => Iff.rfl) fun _ => ?_
  exact decides_addUp (by rw [length]; decide) (decides_nil _)

/-! ### The entry point that some bytes begin with -/

namespace EntryPoint

/-- The two variants. -/
inductive Variant where
  | bits32
  | bits64
  deriving DecidableEq, Repr

namespace Variant

/-- The number of bytes. -/
def size : Variant → Nat
  | bits32 => Entry32.size
  | bits64 => Entry64.size

/-- The bytes that a variant opens with. -/
def anchor : Variant → List UInt8
  | bits32 => Entry32.anchor
  | bits64 => Entry64.anchor

/-- The variant that an anchor chooses. -/
def ofAnchor? (source : List UInt8) : Option Variant :=
  if source.take 4 = Entry32.anchor then some bits32
  else if source.take 5 = Entry64.anchor then some bits64
  else none

/-- What bytes behind the anchor of the variant must keep. -/
def rules : Variant → List UInt8 → List Rule
  | bits32 => Entry32.rules
  | bits64 => Entry64.rules

/-- The fields of the bytes of an entry point of the variant. -/
def entry : Variant → List UInt8 → EntryPoint
  | bits32, source => .bits32 (Entry32.ofImage (source.take Entry32.size))
  | bits64, source => .bits64 (Entry64.ofImage (source.take Entry64.size))

theorem take_of_ofAnchor? {source : List UInt8} {variant : Variant}
    (chosen : ofAnchor? source = some variant) :
    source.take variant.anchor.length = variant.anchor := by
  unfold ofAnchor? at chosen
  split at chosen
  · rename_i opening
    cases chosen
    exact opening
  · split at chosen
    · rename_i opening
      cases chosen
      exact opening
    · cases chosen

end Variant

/-- The variant of an entry point. -/
def variant : EntryPoint → Variant
  | bits32 _ => .bits32
  | bits64 _ => .bits64

theorem size_variant (entry : EntryPoint) : entry.variant.size = entry.size := by
  cases entry <;> rfl

theorem variant_entry (variant : Variant) (source : List UInt8) :
    (variant.entry source).variant = variant := by
  cases variant <;> rfl

variable {source : List UInt8} {entry : EntryPoint} {variant : Variant}

/-- **The rules of the variant that the anchor chooses decide what reading answers.** -/
theorem decides_parse (long : anchorSize ≤ source.length)
    (chosen : Variant.ofAnchor? source = some variant) :
    Decides (variant.rules source) (parse source) (variant.entry source) := by
  rw [parse, if_neg (Nat.not_lt_of_le long)]
  unfold Variant.ofAnchor? at chosen
  by_cases narrow : source.take 4 = Entry32.anchor
  · rw [if_pos narrow] at chosen ⊢
    cases chosen
    exact (Entry32.decides_parse narrow).map bits32
  · rw [if_neg narrow] at chosen ⊢
    by_cases wide : source.take 5 = Entry64.anchor
    · rw [if_pos wide] at chosen ⊢
      cases chosen
      exact (Entry64.decides_parse wide).map bits64
    · rw [if_neg wide] at chosen
      cases chosen

theorem parse_of_short (short : source.length < anchorSize) :
    parse source = .error (.endOfData .anchor source.length) := by
  rw [parse, if_pos short]

theorem parse_of_noAnchor (long : anchorSize ≤ source.length)
    (noAnchor : Variant.ofAnchor? source = none) :
    parse source = .error (.unknownAnchor (source.take 5)) := by
  rw [parse, if_neg (Nat.not_lt_of_le long)]
  unfold Variant.ofAnchor? at noAnchor
  split at noAnchor
  · cases noAnchor
  · rename_i narrow
    split at noAnchor
    · cases noAnchor
    · rename_i wide
      rw [if_neg narrow, if_neg wide]

/-- Bytes that are read as an entry point have its anchor, keep its rules, and hold its fields. -/
theorem kept_of_parse (accepted : parse source = .ok entry) :
    Variant.ofAnchor? source = some entry.variant ∧
      (∀ rule ∈ entry.variant.rules source, rule.kept) ∧
      entry = entry.variant.entry source := by
  by_cases short : source.length < anchorSize
  · rw [parse_of_short short] at accepted
    cases accepted
  have long := Nat.le_of_not_lt short
  cases chosen : Variant.ofAnchor? source with
  | none =>
    rw [parse_of_noAnchor long chosen] at accepted
    cases accepted
  | some variant =>
    obtain ⟨kept, rfl⟩ := ((decides_parse long chosen).ok_iff entry).mp accepted
    rw [variant_entry]
    exact ⟨rfl, kept, rfl⟩

/-- The bytes of an entry point are all there and add up to zero. -/
theorem sum_of_parse (accepted : parse source = .ok entry) :
    entry.size ≤ source.length ∧ Checksum.sum (source.take entry.size) = 0 := by
  obtain ⟨_, kept, _⟩ := kept_of_parse accepted
  cases entry with
  | bits32 entry => exact ⟨kept _ (.head _), kept _ (.tail _ (.tail _ (.head _)))⟩
  | bits64 entry => exact ⟨kept _ (.head _), kept _ (.tail _ (.tail _ (.head _)))⟩

/-- The bytes of a 32-bit entry point in front of its intermediate area add up to zero as well. -/
theorem sum_front_of_parse (accepted : parse source = .ok entry)
    (narrow : entry.variant = .bits32) :
    Checksum.sum (source.take Entry32.intermediateStart) = 0 := by
  obtain ⟨_, kept, _⟩ := kept_of_parse accepted
  rw [narrow] at kept
  have whole : Checksum.sum (source.take Entry32.size) = 0 := kept _ (.tail _ (.tail _ (.head _)))
  have area : Checksum.sum ((source.take Entry32.size).drop Entry32.intermediateStart) = 0 :=
    kept _ (.tail _ (.tail _ (.tail _ (.tail _ (.head _)))))
  rw [← List.take_append_drop Entry32.intermediateStart (source.take Entry32.size),
    Checksum.sum_append, area, UInt8.add_zero, List.take_take] at whole
  exact whole

/-- **One changed byte is noticed.** Accepted bytes of which one is changed are not accepted as the
same variant. -/
theorem variant_ne_of_set (accepted : parse source = .ok entry) {place : Nat}
    (inside : place < entry.size) {byte : UInt8} (other : byte ≠ source.getD place 0)
    {changed : EntryPoint} (again : parse (source.set place byte) = .ok changed) :
    changed.variant ≠ entry.variant := by
  intro same
  have size : changed.size = entry.size := by
    rw [← size_variant, same, size_variant]
  obtain ⟨long, sum⟩ := sum_of_parse accepted
  have sumAgain := (sum_of_parse again).2
  have insideTake : place < (source.take entry.size).length := by
    rw [List.length_take_of_le long]
    exact inside
  have here : (source.take entry.size).getD place 0 = source.getD place 0 := by
    rw [List.getD_eq_getElem?_getD, List.getElem?_take_of_lt inside, ← List.getD_eq_getElem?_getD]
  rw [size, List.take_set] at sumAgain
  exact Checksum.sum_set_ne insideTake (here.symm ▸ other) (sumAgain.trans sum.symm)

/-- **Exactly which bytes are an entry point, and how all others are answered.** Fewer than five
bytes are too short for an anchor, and bytes with neither anchor are answered with what stands in
its place. Behind an anchor, bytes are an entry point of its variant exactly when they keep all the
rules of the variant, and any other answer says which of them is the first one broken. The part of a
32-bit entry point in front of the intermediate area then adds up to zero as well, and no single
byte can be changed without losing the variant. -/
theorem parse_decides (source : List UInt8) :
    (source.length < anchorSize → parse source = .error (.endOfData .anchor source.length)) ∧
      (anchorSize ≤ source.length → Variant.ofAnchor? source = none →
        parse source = .error (.unknownAnchor (source.take 5))) ∧
      (∀ variant, anchorSize ≤ source.length → Variant.ofAnchor? source = some variant →
        ((∃ entry, parse source = .ok entry) ↔ ∀ rule ∈ variant.rules source, rule.kept) ∧
          (∀ entry, parse source = .ok entry → entry.variant = variant) ∧
            ∀ error, parse source = .error error ↔ FirstBroken (variant.rules source) error) ∧
      (∀ entry, parse source = .ok entry → entry.variant = .bits32 →
        Checksum.sum (source.take Entry32.intermediateStart) = 0) ∧
      ∀ entry place byte, parse source = .ok entry → place < entry.size →
        byte ≠ source.getD place 0 →
        ∀ changed, parse (source.set place byte) = .ok changed →
          changed.variant ≠ entry.variant := by
  refine ⟨parse_of_short, parse_of_noAnchor, ?_, fun _ => sum_front_of_parse, ?_⟩
  · intro variant long chosen
    have decides := decides_parse long chosen
    refine ⟨⟨?_, fun kept => ⟨_, (decides.ok_iff _).mpr ⟨kept, rfl⟩⟩⟩, ?_, decides.error_iff⟩
    · rintro ⟨entry, accepted⟩
      exact ((decides.ok_iff entry).mp accepted).1
    · intro entry accepted
      obtain ⟨_, rfl⟩ := (decides.ok_iff entry).mp accepted
      exact variant_entry variant source
  · intro entry place byte accepted inside other changed
    exact variant_ne_of_set accepted inside other

/-- A captured 32-bit entry point, of version 2.8. -/
def captured : List UInt8 :=
  [0x5F, 0x53, 0x4D, 0x5F, 0x64, 0x1F, 0x02, 0x08, 0x14, 0x01, 0x00, 0x00, 0x00, 0x00, 0x00, 0x00,
    0x5F, 0x44, 0x4D, 0x49, 0x5F, 0x37, 0x6E, 0x08, 0x00, 0x50, 0x7C, 0xAC, 0x1B, 0x00, 0x28]

/-- The captured bytes keep all the rules. With a major version of 3 in them, they do not any
more. -/
theorem parse_decides_captured :
    (∀ rule ∈ Variant.bits32.rules captured, rule.kept) ∧
      ∀ changed, parse (captured.set 0x06 3) = .ok changed → changed.variant ≠ .bits32 := by
  obtain ⟨-, -, behind, -, unnoticed⟩ := parse_decides captured
  have accepted : parse captured = .ok (Variant.bits32.entry captured) := rfl
  have rules := behind .bits32 (by decide) (by decide)
  exact ⟨rules.1.mp ⟨_, accepted⟩, unnoticed _ 0x06 3 accepted (by decide) (by decide)⟩

end EntryPoint

end Dmi
