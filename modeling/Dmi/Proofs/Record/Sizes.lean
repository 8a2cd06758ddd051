/-
**Sizes in a report.**

A size is written in the greatest unit that divides it, and in bytes where none does, so that
nothing is rounded. The number and the unit can be read off the text, and both give the size. Main
statements:

* `Lines.states_iff` — a size has one exact text, in the greatest unit that allows it, and this is
  the text written;
* `Lines.eq_of_states` — a text states one size only;
* `Content.lt_of_mem_sizes`, `Content.shows_of_mem_sizes` — the sizes of a record have room in 64
  bits, and are shown in this way.
-/

import Dmi.Record.Basic
import Mathlib.Algebra.Group.Nat.Defs

namespace Dmi

/-! ### Exact texts of sizes -/

namespace Lines

/-- The units of a size and the byte, the largest first. -/
def scales : List (Nat × String) :=
  units ++ [(1, "bytes")]

/-- The text states the size: so many of a unit are the size, and no greater unit divides it. Every
unit divides zero, which is stated in bytes. -/
def States (text : String) (size : Nat) : Prop :=
  ∃ count scale unit, (scale, unit) ∈ scales ∧ text = count.repr ++ " " ++ unit ∧
    count * scale = size ∧
    (size = 0 → scale = 1) ∧ (size ≠ 0 → ∀ larger ∈ units, scale < larger.1 → ¬larger.1 ∣ size)

/-- The units get smaller along the list. -/
theorem pairwise_units : units.Pairwise fun one next => next.1 < one.1 := by decide

theorem pos_of_mem_scales : ∀ unit ∈ scales, 0 < unit.1 := by decide

/-- No two units share a name. -/
theorem scale_inj : ∀ one ∈ scales, ∀ other ∈ scales, one.2 = other.2 → one.1 = other.1 := by decide

/-- No two units have the same size. -/
theorem unit_inj : ∀ one ∈ scales, ∀ other ∈ scales, one.1 = other.1 → one.2 = other.2 := by decide

/-- A unit that is greater than another is no byte. -/
theorem mem_units_of_lt :
    ∀ one ∈ scales, ∀ larger ∈ scales, one.1 < larger.1 → larger ∈ units := by decide

/-- When a unit is chosen: where it divides a size other than zero. -/
theorem chosen_iff {unit : Nat × String} (listed : unit ∈ units) {size : Nat} :
    (unit.1 ≤ size && size % unit.1 == 0) = true ↔ size ≠ 0 ∧ unit.1 ∣ size := by
  have positive : 0 < unit.1 := pos_of_mem_scales unit (List.mem_append_left _ listed)
  rw [Bool.and_eq_true, decide_eq_true_eq, beq_iff_eq, ← Nat.dvd_iff_mod_eq_zero]
  constructor
  · rintro ⟨reach, divides⟩
    exact ⟨Nat.ne_of_gt (Nat.lt_of_lt_of_le positive reach), divides⟩
  · rintro ⟨nonzero, divides⟩
    exact ⟨Nat.le_of_dvd (Nat.pos_of_ne_zero nonzero) divides, divides⟩

/-- **A size is written exactly**, and in the greatest unit that allows it. The units in front of
the chosen one have been passed over, and those behind it are smaller. -/
theorem states_bytes (size : Nat) : States (bytes size) size := by
  cases found : units.find? fun unit => unit.1 ≤ size && size % unit.1 == 0 with
  | none =>
    have skipped := List.find?_eq_none.mp found
    refine ⟨size, 1, "bytes", by decide, ?_, Nat.mul_one size, fun _ => rfl, ?_⟩
    · rw [bytes, found, String.append_assoc]
      rfl
    · intro nonzero larger member _ divides
      exact skipped larger member ((chosen_iff member).mpr ⟨nonzero, divides⟩)
  | some unit =>
    obtain ⟨scale, name⟩ := unit
    obtain ⟨chosen, front, back, parts, skipped⟩ := List.find?_eq_some_iff_append.mp found
    have member : (scale, name) ∈ units := List.mem_of_find?_eq_some found
    obtain ⟨nonzero, divides⟩ := (chosen_iff member).mp chosen
    refine ⟨size / scale, scale, name, List.mem_append_left _ member, ?_,
      Nat.div_mul_cancel divides, fun zero => absurd zero nonzero, ?_⟩
    · rw [bytes, found]
    · intro _ larger listed less other
      have unchosen : larger ∉ front := by
        intro before
        have passed := skipped larger before
        rw [(chosen_iff listed).mpr ⟨nonzero, other⟩] at passed
        cases passed
      have sorted := pairwise_units
      rw [parts, List.pairwise_append] at sorted
      rw [parts, List.mem_append, List.mem_cons] at listed
      rcases listed with before | rfl | behind
      · exact unchosen before
      · exact Nat.lt_irrefl _ less
      · exact Nat.lt_asymm less ((List.pairwise_cons.mp sorted.2.1).1 larger behind)

theorem repr_inj {n m : Nat} (same : n.repr.toList = m.repr.toList) : n = m := by
  rw [Nat.toList_repr, Nat.toList_repr] at same
  have values := congrArg (Nat.ofDigitChars 10 · 0) same
  rwa [Nat.ofDigitChars_ten_toDigits, Nat.ofDigitChars_ten_toDigits] at values

/-- The number and the unit of a text are told apart by its first blank, which no digit is. -/
theorem count_unit_inj {count other : Nat} {unit name : String}
    (same : count.repr ++ " " ++ unit = other.repr ++ " " ++ name) :
    count = other ∧ unit = name := by
  have noBlank (n : Nat) : ' ' ∉ n.repr.toList := by
    rw [Nat.toList_repr]
    intro member
    exact absurd (Nat.isDigit_of_mem_toDigits (by decide) (by decide) member) (by decide)
  have blank : " ".toList = [' '] := rfl
  have characters := congrArg String.toList same
  simp only [String.toList_append, blank, List.append_assoc, List.singleton_append] at characters
  have words := congrArg (List.splitOn ' ') characters
  rw [List.splitOn_append_cons_self_of_not_mem (noBlank count),
    List.splitOn_append_cons_self_of_not_mem (noBlank other)] at words
  have digits := (List.cons.inj words).1
  rw [digits] at characters
  exact ⟨repr_inj digits,
    String.toList_inj.mp (List.cons.inj (List.append_cancel_left characters)).2⟩

/-- **A text states one size only.** -/
theorem eq_of_states {text : String} {size other : Nat} (states : States text size)
    (again : States text other) : size = other := by
  obtain ⟨count, scale, unit, listed, rfl, rfl, _⟩ := states
  obtain ⟨number, factor, name, member, same, rfl, _⟩ := again
  obtain ⟨rfl, rfl⟩ := count_unit_inj same
  have scales : scale = factor := scale_inj _ listed _ member rfl
  rw [scales]

/-- The greatest unit of a size is no smaller than any other that divides the size. -/
theorem le_of_greatest {size scale factor : Nat} {unit name : String}
    (listed : (scale, unit) ∈ scales) (member : (factor, name) ∈ scales) (divides : factor ∣ size)
    (greatest : ∀ larger ∈ units, scale < larger.1 → ¬larger.1 ∣ size) : factor ≤ scale := by
  refine Nat.le_of_not_lt fun less => ?_
  exact greatest _ (mem_units_of_lt _ listed _ member less) less divides

/-- **A size has one exact text**, which is the one that is written. -/
theorem states_iff {text : String} {size : Nat} : States text size ↔ text = bytes size := by
  constructor
  · rintro ⟨count, scale, unit, listed, rfl, whole, zero, greatest⟩
    obtain ⟨number, factor, name, member, written, same, none_, most⟩ := states_bytes size
    have one : scale ∣ size := whole ▸ Nat.dvd_mul_left scale count
    have other : factor ∣ size := same ▸ Nat.dvd_mul_left factor number
    have scales : scale = factor := by
      by_cases nothing : size = 0
      · rw [zero nothing, none_ nothing]
      · exact Nat.le_antisymm (le_of_greatest member listed one (most nothing))
          (le_of_greatest listed member other (greatest nothing))
    subst scales
    have positive : 0 < scale := pos_of_mem_scales _ listed
    have names : unit = name := unit_inj _ listed _ member rfl
    rw [written, names, Nat.eq_of_mul_eq_mul_right positive (whole.trans same.symm)]
  · rintro rfl
    exact states_bytes size

theorem bytes_injective : Function.Injective bytes := by
  intro size other same
  exact eq_of_states (states_bytes size) (same ▸ states_bytes other)

/-! ### Lines of a text -/

/-- The lines stand in the text as they are. -/
def Shows (text lines : String) : Prop :=
  ∃ front back, text = front ++ lines ++ back

theorem Shows.trans {text middle lines : String} (outer : Shows text middle)
    (inner : Shows middle lines) : Shows text lines := by
  obtain ⟨front, back, rfl⟩ := outer
  obtain ⟨before, behind, rfl⟩ := inner
  exact ⟨front ++ before, behind ++ back, by simp only [String.append_assoc]⟩

theorem shows_join {line : String} {lines : List String} (member : line ∈ lines) :
    Shows (String.join lines) line := by
  obtain ⟨before, behind, rfl⟩ := List.append_of_mem member
  exact ⟨String.join before,
    String.join behind, by rw [String.join_append, String.join_cons, String.append_assoc]⟩

theorem shows_append (front lines : String) : Shows (front ++ lines) lines :=
  ⟨front, "", String.append_empty.symm⟩

end Lines

/-! ### The sizes of records -/

/-- The sizes in a report on a structure of `length` bytes, each with its label. -/
def Content.sizes (content : Content) (length : Nat) : List (String × Nat) :=
  match content with
  | bios fields =>
    let segment := fields.startingSegment.toNat
    (if segment = 0 then [] else [("Runtime Size", (0x10000 - segment) * 16)]) ++
      [("ROM Size", fields.romBytes)]
  | cache fields => [("Installed Size", fields.installedBytes), ("Maximum Size", fields.maxBytes)]
  | memoryDevice memory => (memory.bytes? length).toList.map fun size => ("Size", size)
  | _ => []

section Computed

theorem Bios.romBytes_lt (bios : Bios) : bios.romBytes < 2 ^ 64 := by
  have small := bios.romSize.toNat_lt
  unfold romBytes
  split
  · omega
  · have part : bios.extendedRomSize.toNat % 0x4000 < 0x4000 := Nat.mod_lt _ (by decide)
    dsimp only
    split <;> omega

/-- As many bits as a size has say a size of no more than 16 bits more. -/
theorem Cache.sizeOf_lt {bits size : Nat} (wide : bits ≤ 32) : sizeOf bits size < 2 ^ 64 := by
  have part : size % (1 <<< (bits - 1)) < 2 ^ 32 := by
    rw [Nat.one_shiftLeft]
    refine Nat.lt_of_lt_of_le (Nat.mod_lt _ (Nat.two_pow_pos _)) ?_
    exact Nat.pow_le_pow_right (by decide) (by omega)
  unfold sizeOf
  split <;> omega

theorem Cache.sizeOfBoth_lt (size1 : UInt16) (size2 : UInt32) :
    sizeOfBoth size1 size2 < 2 ^ 64 := by
  unfold sizeOfBoth
  split
  · exact sizeOf_lt (by decide)
  · exact sizeOf_lt (by decide)

theorem MemoryDevice.bytes_lt {memory : MemoryDevice} {length size : Nat}
    (known : memory.bytes? length = some size) : size < 2 ^ 64 := by
  have small := memory.size.toNat_lt
  unfold bytes? at known
  dsimp only at known
  split at known
  · cases known
  split at known
  · cases known
    omega
  split at known <;> cases known <;> omega

/-- A size that is known is shown, since a place without a module has none. -/
theorem MemoryDevice.sizeText_of_bytes {memory : MemoryDevice} {length size : Nat}
    (known : memory.bytes? length = some size) : memory.sizeText length = Lines.bytes size := by
  have installed : memory.size ≠ 0 := by
    intro none_
    rw [bytes?, none_] at known
    cases known
  rw [sizeText, if_neg installed, known]

end Computed

namespace Content

variable {content : Content} {length size : Nat} {label : String}

/-- **Every size that a record computes has room in 64 bits.** -/
theorem lt_of_mem_sizes (member : (label, size) ∈ content.sizes length) : size < 2 ^ 64 := by
  cases content with
  | bios fields =>
    rcases List.mem_append.mp member with runtime | rom
    · split at runtime
      · cases runtime
      · cases List.mem_singleton.mp runtime
        omega
    · cases List.mem_singleton.mp rom
      exact fields.romBytes_lt
  | cache fields =>
    rcases List.mem_cons.mp member with installed | most
    · cases installed
      exact Cache.sizeOfBoth_lt _ _
    · cases List.mem_singleton.mp most
      exact Cache.sizeOfBoth_lt _ _
  | memoryDevice memory =>
    obtain ⟨_, known, same⟩ := List.mem_map.mp member
    cases same
    exact MemoryDevice.bytes_lt (Option.mem_toList.mp known)
  | _ => cases member

/-- **A record shows its sizes** as `Lines.bytes` writes them. -/
theorem shows_of_mem_sizes (member : (label, size) ∈ content.sizes length) :
    Lines.Shows (content.lines length) (Lines.field label (Lines.bytes size)) := by
  cases content with
  | bios fields =>
    rcases List.mem_append.mp member with runtime | rom
    · split at runtime
      · cases runtime
      · rename_i begins
        cases List.mem_singleton.mp runtime
        refine Lines.Shows.trans (Lines.shows_join (List.mem_of_getElem? (i := 3) rfl)) ?_
        rw [Lines.onlyIf, if_pos (decide_eq_true begins)]
        exact Lines.shows_append _ _
    · cases List.mem_singleton.mp rom
      exact Lines.shows_join (by simp)
  | cache fields =>
    rcases List.mem_cons.mp member with installed | most
    · cases installed
      exact Lines.shows_join (by simp)
    · cases List.mem_singleton.mp most
      exact Lines.shows_join (by simp)
  | memoryDevice memory =>
    obtain ⟨_, known, same⟩ := List.mem_map.mp member
    cases same
    rw [← MemoryDevice.sizeText_of_bytes (Option.mem_toList.mp known)]
    exact Lines.shows_join (by simp)
  | _ => cases member

end Content

/-- **Printed sizes are exact.** Every size, of 64 bits or more, has one text that states it as a
number of the greatest unit that divides it, and this text is written. Different sizes have
different texts. The sizes of a record have room in 64 bits, and its report shows them with these
texts. -/
theorem Lines.bytes_exact :
    (∀ text size, States text size ↔ text = bytes size) ∧ Function.Injective bytes ∧
      ∀ (content : Content) (length : Nat), ∀ shown ∈ content.sizes length,
        shown.2 < 2 ^ 64 ∧ Shows (content.lines length) (field shown.1 (bytes shown.2)) := by
  refine ⟨fun _ _ => states_iff, bytes_injective, fun content length shown member => ?_⟩
  exact ⟨Content.lt_of_mem_sizes member, Content.shows_of_mem_sizes member⟩

/-- A firmware of 16 GB, which leaves its first 64 kB to its code. -/
def Bios.large : Bios where
  vendor := .notSpecified
  version := .notSpecified
  startingSegment := 0xF000
  releaseDate := .notSpecified
  romSize := 0xFF
  characteristics := 0
  characteristics1 := 0
  characteristics2 := 0
  major := 1
  minor := 2
  controllerMajor := 0xFF
  controllerMinor := 0xFF
  extendedRomSize := 0x4010

/-- Both sizes of the firmware, in the report on a structure of 26 bytes. -/
theorem Lines.bytes_exact_large :
    (Content.bios .large).sizes 26 = [("Runtime Size", 0x10000), ("ROM Size", 0x400000000)] ∧
      Shows ((Content.bios .large).lines 26) "\n\tRuntime Size: 64 kB" ∧
      Shows ((Content.bios .large).lines 26) "\n\tROM Size: 16 GB" := by
  obtain ⟨_, _, shows⟩ := bytes_exact
  exact ⟨rfl, (shows (.bios .large) 26 ("Runtime Size", 0x10000) (by decide)).2,
    (shows (.bios .large) 26 ("ROM Size", 0x400000000) (by decide)).2⟩

end Dmi
