/-
**A written entry point is valid, whatever was done to it.**

An entry point in memory may hold any checksums and any length byte. Writing looks at neither
checksum and computes both anew, so its bytes always add up to zero, and reading them back fails for
a wrong length byte only. Main statements:

* `EntryPoint.sum_bytes`, `EntryPoint.sum_area_bytes` — what is written adds up to zero;
* `EntryPoint.bytes_eq_of_withoutChecksums` — writing does not look at the stored checksums;
* `EntryPoint.parse_bytes_append` — what reading makes of the bytes of any entry point;
* `EntryPoint.bytes_of_parse` — the bytes of an entry point that was read are those it was read
  from;
* `EntryPoint.bytes_of_edited` — all of this for an entry point that was read and then edited.
-/

import Dmi.Proofs.EntryPoint.Acceptance

namespace Dmi

open EntryPoint

/-- The rules of the 32-bit variant on the bytes of an entry point. -/
theorem Entry32.rules_bytes (entry : Entry32) (suffix : List UInt8) :
    rules (entry.bytes ++ suffix) =
      [.require (size ≤ (entry.bytes ++ suffix).length)
        (.endOfData .entry32 (entry.bytes ++ suffix).length),
        .require (entry.length.toNat = size) (.wrongLength (UInt8.ofNat size) entry.length),
        .addUp entry.bytes 0x04 .wrongChecksum,
        .require ((entry.bytes.drop intermediateStart).take 5 = intermediateAnchor)
          (.unknownIntermediateAnchor ((entry.bytes.drop intermediateStart).take 5)),
        .addUp (entry.bytes.drop intermediateStart) 0x05 .wrongIntermediateChecksum] := by
  rw [rules, List.take_left' entry.length_bytes]
  rfl

/-- The rules of the 64-bit variant on the bytes of an entry point. -/
theorem Entry64.rules_bytes (entry : Entry64) (suffix : List UInt8) :
    rules (entry.bytes ++ suffix) =
      [.require (size ≤ (entry.bytes ++ suffix).length)
        (.endOfData .entry64 (entry.bytes ++ suffix).length),
        .require (entry.length.toNat = size) (.wrongLength (UInt8.ofNat size) entry.length),
        .addUp entry.bytes 0x05 .wrongChecksum] := by
  rw [rules, List.take_left' entry.length_bytes]
  rfl

namespace EntryPoint

/-! ### Checksums and the other fields -/

/-- Where the checksums of a variant stand. -/
def Variant.checksumPlaces : Variant → List Nat
  | bits32 => [0x04, 0x15]
  | bits64 => [0x05]

theorem variant_refreshed (entry : EntryPoint) : entry.refreshed.variant = entry.variant := by
  cases entry <;> simp only [refreshed, variant]

theorem withoutChecksums_refreshed (entry : EntryPoint) :
    entry.refreshed.withoutChecksums = entry.withoutChecksums := by
  cases entry <;> simp only [refreshed, withoutChecksums]

theorem bytes_withoutChecksums (entry : EntryPoint) :
    entry.withoutChecksums.bytes = entry.bytes := by
  cases entry <;> rfl

/-- **Writing does not look at the checksums that are held.** -/
theorem bytes_eq_of_withoutChecksums {entry other : EntryPoint}
    (same : other.withoutChecksums = entry.withoutChecksums) : other.bytes = entry.bytes := by
  rw [← bytes_withoutChecksums other, same, bytes_withoutChecksums]

/-! ### Writing -/

theorem anchorSize_le (entry : EntryPoint) : anchorSize ≤ entry.size := by
  have sizes : anchorSize ≤ Entry32.size ∧ anchorSize ≤ Entry64.size := by decide
  cases entry with
  | bits32 entry => exact sizes.1
  | bits64 entry => exact sizes.2

theorem length_bytes (entry : EntryPoint) : entry.bytes.length = entry.size := by
  cases entry with
  | bits32 entry => exact entry.length_bytes
  | bits64 entry => exact entry.length_bytes

/-- **What is written adds up to zero.** -/
theorem sum_bytes (entry : EntryPoint) : Checksum.sum entry.bytes = 0 := by
  cases entry with
  | bits32 entry => exact ((entry.sums_eq_zero_iff _ _).mpr ⟨rfl, rfl⟩).2
  | bits64 entry => exact (entry.sum_eq_zero_iff _).mpr rfl

/-- The intermediate area that is written adds up to zero as well. -/
theorem sum_area_bytes (entry : EntryPoint) (narrow : entry.variant = .bits32) :
    Checksum.sum (entry.bytes.drop Entry32.intermediateStart) = 0 := by
  cases entry with
  | bits32 entry =>
    show Checksum.sum ((entry.image entry.freshChecksum entry.freshAreaChecksum).drop _) = 0
    rw [Entry32.drop_image]
    exact ((entry.sums_eq_zero_iff _ _).mpr ⟨rfl, rfl⟩).1
  | bits64 entry => cases narrow

/-- The bytes at the places of the checksums are the ones that writing computes. -/
theorem checksums_refreshed (entry : EntryPoint) :
    entry.refreshed.checksums = entry.variant.checksumPlaces.map
      fun place => entry.bytes.getD place 0 := by
  cases entry with
  | bits32 entry =>
    have fields := congrArg (fun again => [again.checksum, again.intermediateChecksum])
      (entry.ofImage_image entry.freshChecksum entry.freshAreaChecksum)
    exact fields.symm
  | bits64 entry =>
    have fields :=
      congrArg (fun again => [again.checksum]) (entry.ofImage_image entry.freshChecksum)
    exact fields.symm

/-! ### Reading what was written -/

theorem Variant.ofAnchor?_bytes (entry : EntryPoint) (suffix : List UInt8) :
    ofAnchor? (entry.bytes ++ suffix) = some entry.variant := by
  cases entry <;> rfl

/-- The fields of the bytes of an entry point. -/
theorem Variant.entry_bytes (entry : EntryPoint) (suffix : List UInt8) :
    entry.variant.entry (entry.bytes ++ suffix) = entry.refreshed := by
  cases entry with
  | bits32 entry =>
    show EntryPoint.bits32 (Entry32.ofImage ((entry.bytes ++ suffix).take Entry32.size)) = _
    rw [List.take_left' entry.length_bytes, Entry32.bytes_eq_image, Entry32.ofImage_image,
      refreshed]
  | bits64 entry =>
    show EntryPoint.bits64 (Entry64.ofImage ((entry.bytes ++ suffix).take Entry64.size)) = _
    rw [List.take_left' entry.length_bytes, Entry64.bytes_eq_image, Entry64.ofImage_image,
      refreshed]

/-- Of the rules of a variant, the bytes of an entry point can break the one on the length byte
only. -/
theorem exists_rules_bytes (entry : EntryPoint) (suffix : List UInt8) :
    ∃ first later, entry.variant.rules (entry.bytes ++ suffix) = first ::
        .require (entry.length.toNat = entry.size)
          (.wrongLength (UInt8.ofNat entry.size) entry.length) :: later ∧
      first.kept ∧ ∀ rule ∈ later, rule.kept := by
  have long : entry.size ≤ (entry.bytes ++ suffix).length := by
    rw [List.length_append, length_bytes]
    exact Nat.le_add_right entry.size suffix.length
  have whole : Checksum.sum entry.bytes = 0 := entry.sum_bytes
  cases entry with
  | bits32 entry =>
    have area : Checksum.sum (entry.bytes.drop Entry32.intermediateStart) = 0 :=
      sum_area_bytes (.bits32 entry) rfl
    have opening : (entry.bytes.drop Entry32.intermediateStart).take 5 =
      Entry32.intermediateAnchor := by
      rw [Entry32.bytes_eq_image, Entry32.drop_image]
      rfl
    refine ⟨_, _, entry.rules_bytes suffix, long, ?_⟩
    rw [List.forall_mem_cons, List.forall_mem_cons, List.forall_mem_singleton]
    exact ⟨whole, opening, area⟩
  | bits64 entry =>
    refine ⟨_, _, entry.rules_bytes suffix, long, ?_⟩
    rw [List.forall_mem_singleton]
    exact whole

/-- **What reading makes of the bytes of any entry point**, whatever stands behind them: the entry
point with its fresh checksums, unless the length byte is wrong. -/
theorem parse_bytes_append (entry : EntryPoint) (suffix : List UInt8) :
    parse (entry.bytes ++ suffix) = if entry.length.toNat = entry.size then .ok entry.refreshed
      else .error (.wrongLength (UInt8.ofNat entry.size) entry.length) := by
  have long : anchorSize ≤ (entry.bytes ++ suffix).length := by
    rw [List.length_append, length_bytes]
    exact Nat.le_add_right_of_le entry.anchorSize_le
  obtain ⟨first, later, rules, opening, rest⟩ := entry.exists_rules_bytes suffix
  have decides := decides_parse long (Variant.ofAnchor?_bytes entry suffix)
  rw [rules, Variant.entry_bytes] at decides
  exact decides.eq_ite opening rest

/-- **An entry point that was read is written as it stood there.** -/
theorem bytes_of_parse {source : List UInt8} {entry : EntryPoint}
    (accepted : parse source = .ok entry) : entry.bytes = source.take entry.size := by
  obtain ⟨chosen, kept, same⟩ := kept_of_parse accepted
  obtain ⟨long, whole⟩ := sum_of_parse accepted
  have length : (source.take entry.size).length = entry.size := List.length_take_of_le long
  cases entry with
  | bits32 entry =>
    obtain rfl : entry = Entry32.ofImage (source.take Entry32.size) := EntryPoint.bits32.inj same
    have opening : (source.take Entry32.size).take 4 = Entry32.anchor := by
      rw [List.take_take]
      exact Variant.take_of_ofAnchor? chosen
    have inner : ((source.take Entry32.size).drop Entry32.intermediateStart).take 5 =
      Entry32.intermediateAnchor :=
      kept _ (.tail _ (.tail _ (.tail _ (.head _))))
    have area : Checksum.sum ((source.take Entry32.size).drop Entry32.intermediateStart) = 0 :=
      kept _ (.tail _ (.tail _ (.tail _ (.tail _ (.head _)))))
    exact Entry32.bytes_ofImage length opening inner whole area
  | bits64 entry =>
    obtain rfl : entry = Entry64.ofImage (source.take Entry64.size) := EntryPoint.bits64.inj same
    have opening : (source.take Entry64.size).take 5 = Entry64.anchor := by
      rw [List.take_take]
      exact Variant.take_of_ofAnchor? chosen
    exact Entry64.bytes_ofImage length opening whole

/-! ### Editing -/

/-- An address fails to be set only where it has no room in a 32-bit entry point. -/
theorem setTableAddress_eq_error_iff (entry : EntryPoint) (address : UInt64) (error : Error) :
    entry.setTableAddress address = .error error ↔
      entry.variant = .bits32 ∧ 0x100000000 ≤ address.toNat ∧ error = .misuse .addressTooWide := by
  cases entry with
  | bits32 entry =>
    rw [setTableAddress]
    split
    · rename_i small
      refine iff_of_false (by rintro ⟨⟩) ?_
      rintro ⟨_, wide, _⟩
      exact Nat.not_le_of_lt small wide
    · rename_i wide
      constructor
      · rintro ⟨⟩
        exact ⟨rfl, Nat.le_of_not_lt wide, rfl⟩
      · rintro ⟨_, _, rfl⟩
        rfl
  | bits64 entry =>
    refine iff_of_false (by rintro ⟨⟩) ?_
    rintro ⟨narrow, _⟩
    cases narrow

/-- **An address that is set is the only change**: it is held in place of the old one, and setting
the old one again gives the old entry point. -/
theorem setTableAddress_eq_ok {entry moved : EntryPoint} {address : UInt64}
    (done : entry.setTableAddress address = .ok moved) :
    moved = entry.withTableAddress address ∧ moved.tableAddress = address ∧
      moved.setTableAddress entry.tableAddress = .ok entry := by
  cases entry with
  | bits64 entry =>
    cases done
    exact ⟨rfl, rfl, rfl⟩
  | bits32 entry =>
    unfold setTableAddress at done
    simp only at done
    split at done
    · rename_i small
      cases done
      have held : address.toUInt32.toUInt64 = address := by
        apply UInt64.toNat_inj.mp
        rw [UInt32.toNat_toUInt64, UInt64.toNat_toUInt32]
        exact Nat.mod_eq_of_lt small
      have room : entry.tableAddress.toUInt64.toNat < 0x100000000 := by
        rw [UInt32.toNat_toUInt64]
        exact entry.tableAddress.toNat_lt
      have back : entry.tableAddress.toUInt64.toUInt32 = entry.tableAddress :=
        UInt32.toUInt32_toUInt64 entry.tableAddress
      refine ⟨rfl, held, ?_⟩
      simp only [tableAddress, setTableAddress, if_pos room, back]
    · cases done

theorem variant_edit (entry : EntryPoint) (change : Edit) :
    (entry.edit change).variant = entry.variant := by
  cases change with
  | moveTable address =>
    rw [edit]
    split
    · rename_i moved done
      rw [(setTableAddress_eq_ok done).1]
      cases entry <;> rfl
    · rfl
  | assign32 change => cases entry <;> rfl
  | assign64 change => cases entry <;> rfl

/-- **No edit changes the variant.** -/
theorem variant_edited (entry : EntryPoint) (edits : List Edit) :
    (entry.edited edits).variant = entry.variant := by
  induction edits generalizing entry with
  | nil => rfl
  | cons change edits ih => exact (ih (entry.edit change)).trans (variant_edit entry change)

/-- **Every written entry point is valid, whatever was done to it.** An entry point that was read
and then edited is still of its variant. Its bytes are as many as the variant has, and they add up
to zero, in a 32-bit one the intermediate area by itself as well. They do not depend on the
checksums that are held. Read again with any bytes behind them, they give the entry point with fresh
checksums, namely those at the places of the checksums, unless the length byte is not the size of
the variant. An entry point that was read is written as it stood there. Setting the address of the
table fails for an address of more than 32 bits in a 32-bit entry point only, and then changes
nothing; otherwise the entry point holds the address in place of the old one, and all else as it
was. -/
theorem bytes_of_edited {source : List UInt8} {start : EntryPoint}
    (accepted : parse source = .ok start) (edits : List Edit) (suffix : List UInt8) :
    let entry := start.edited edits
    entry.variant = start.variant ∧
      entry.bytes.length = start.variant.size ∧
      Checksum.sum entry.bytes = 0 ∧
      (entry.variant = .bits32 → Checksum.sum (entry.bytes.drop Entry32.intermediateStart) = 0) ∧
      (∀ other : EntryPoint, other.withoutChecksums = entry.withoutChecksums →
        other.bytes = entry.bytes) ∧
      parse (entry.bytes ++ suffix) = (if entry.length.toNat = entry.size then .ok entry.refreshed
        else .error (.wrongLength (UInt8.ofNat entry.size) entry.length)) ∧
      entry.refreshed.variant = entry.variant ∧
      entry.refreshed.withoutChecksums = entry.withoutChecksums ∧
      entry.refreshed.checksums =
        entry.variant.checksumPlaces.map (fun place => entry.bytes.getD place 0) ∧
      start.bytes = source.take start.size ∧
      ∀ address,
        ((∃ error, entry.setTableAddress address = .error error) ↔
          entry.variant = .bits32 ∧ 0x100000000 ≤ address.toNat) ∧
        (∀ error, entry.setTableAddress address = .error error →
          entry.edit (.moveTable address) = entry) ∧
        ∀ moved, entry.setTableAddress address = .ok moved →
          entry.edit (.moveTable address) = moved ∧ moved = entry.withTableAddress address ∧
          moved.tableAddress = address ∧ moved.setTableAddress entry.tableAddress = .ok entry := by
  intro entry
  have variant : entry.variant = start.variant := variant_edited start edits
  refine ⟨variant, ?_, sum_bytes entry, sum_area_bytes entry, fun _ => bytes_eq_of_withoutChecksums,
    parse_bytes_append entry suffix, variant_refreshed entry, withoutChecksums_refreshed entry,
    checksums_refreshed entry, bytes_of_parse accepted, fun address => ⟨?_, ?_, ?_⟩⟩
  · rw [length_bytes, ← variant, size_variant]
  · simp only [setTableAddress_eq_error_iff]
    constructor
    · rintro ⟨_, narrow, wide, _⟩
      exact ⟨narrow, wide⟩
    · rintro ⟨narrow, wide⟩
      exact ⟨_, narrow, wide, rfl⟩
  · intro error refused
    rw [edit, refused]
  · intro moved done
    rw [edit, done]
    exact ⟨rfl, setTableAddress_eq_ok done⟩

/-- The captured entry point without its checksum, at an address that has room and then at one that
has none, is read again at the first of the two, behind it a byte that is no part of it. -/
theorem bytes_of_edited_captured :
    let entry := (Variant.bits32.entry captured).edited
      [.assign32 fun fields => { fields with checksum := 0 }, .moveTable 0x20,
        .moveTable 0x100000000]
    entry.tableAddress = 0x20 ∧ Checksum.sum entry.bytes = 0 ∧
      parse (entry.bytes ++ [0xFF]) = .ok entry.refreshed := by
  intro entry
  have accepted : parse captured = .ok (Variant.bits32.entry captured) := rfl
  obtain ⟨-, -, sum, -, -, again, -⟩ := bytes_of_edited accepted
    [.assign32 fun fields => { fields with checksum := 0 }, .moveTable 0x20, .moveTable 0x100000000]
      [0xFF]
  exact ⟨rfl, sum, again.trans (if_pos rfl)⟩

end EntryPoint

end Dmi
