/-
**A reader on any bytes.**

`Reader` reads a table one structure at a time: the offset says how far it has come, and after an
error it is done. Any bytes are some structures and behind them a rest that starts with none
(`Table.exists_split`), so that a reader gives these structures, then an error if the rest is not
empty, and then nothing any more. Main statements:

* `Structure.part_of_read`, `Structure.not_isPrefix_of_read` — what bytes that cannot be read are
  short of, and that no structure is a prefix of them;
* `Reader.getElem?_scan` — the steps of a scan are the calls of a reader;
* `Reader.next_step` — what one call does to a reader;
* `Reader.after_eq` — where a reader is after any number of calls;
* `Reader.runs_to_end` — all that a reader does.
-/

import Dmi.Proofs.Table.RoundTrip
import Mathlib.Data.List.Induction

namespace Dmi

theorem Header.ofBytes?_eq_none_iff {source : List UInt8} :
    ofBytes? source = none ↔ source.length < size := by
  obtain _ | ⟨type, _ | ⟨length, _ | ⟨low, _ | ⟨high, rest⟩⟩⟩⟩ := source <;> simp [ofBytes?, size]

/-! ### Bytes that are no structure -/

theorem Strings.unread_le_of_readFrom {run source : List UInt8} {unread : Nat}
    (failed : readFrom run source = .error unread) : unread ≤ run.length + source.length := by
  induction source generalizing run with
  | nil =>
    cases failed
    exact Nat.le_add_right _ _
  | cons byte rest ih =>
    by_cases zero : byte = 0
    · rw [readFrom.eq_def] at failed
      simp only [if_pos zero] at failed
      cases rest with
      | nil =>
        cases failed
        exact Nat.zero_le _
      | cons next behind =>
        simp only at failed
        split at failed
        · cases failed
        · split at failed
          · cases failed
          · rename_i inner
            cases failed
            have bound := ih inner
            simp only [List.length_cons, List.length_nil] at bound ⊢
            omega
    · rw [readFrom_cons zero] at failed
      have bound := ih failed
      simp only [List.length_cons] at bound ⊢
      omega

theorem Strings.unread_le_of_read {source : List UInt8} {unread : Nat}
    (failed : read source = .error unread) : unread ≤ source.length := by
  unfold read at failed
  split at failed
  · cases failed
  · cases failed
    exact Nat.le_refl _
  · have bound := unread_le_of_readFrom failed
    rwa [List.length_nil, Nat.zero_add] at bound

namespace Structure

variable {source : List UInt8} {short : Shortfall}

/-- The part that bytes end in if no structure can be read from them: the header if there are not
four bytes, the formatted section if fewer bytes follow the header than its length byte asks for,
and the strings otherwise. -/
def lackingPart (source : List UInt8) : Part :=
  if source.length < Header.size then .header
  else if (source.drop Header.size).length < (source.getD 1 0).toNat - Header.size then .formatted
  else .strings

theorem lackingPart_of_header {header : Header} (start : Header.ofBytes? source = some header) :
    lackingPart source =
      if (source.drop Header.size).length < header.formattedSize then .formatted else .strings := by
  have enough : ¬source.length < Header.size := by
    rw [← Header.ofBytes?_eq_none_iff, start]
    rintro ⟨⟩
  have declared : (source.getD 1 0).toNat - Header.size = header.formattedSize := by
    rw [Header.bytes_of_ofBytes? start]
    rfl
  rw [lackingPart, if_neg enough, declared]

theorem part_of_read (failed : read source = .error short) : short.part = lackingPart source := by
  unfold read at failed
  split at failed
  · rename_i noHeader
    cases failed
    exact (if_pos (Header.ofBytes?_eq_none_iff.mp noHeader)).symm
  · rename_i header start
    rw [lackingPart_of_header start]
    simp only at failed
    split at failed
    · rename_i few
      cases failed
      exact (if_pos few).symm
    · rename_i long
      split at failed <;> cases failed
      exact (if_neg long).symm

/-- What stays unread is a part of the bytes. -/
theorem unread_le_of_read (failed : read source = .error short) : short.unread ≤ source.length := by
  unfold read at failed
  split at failed
  · cases failed
    exact Nat.le_refl _
  · simp only at failed
    split at failed
    · cases failed
      rw [List.length_drop]
      exact Nat.sub_le ..
    · split at failed <;> cases failed
      rename_i inner
      have bound := Strings.unread_le_of_read inner
      simp only [List.length_drop] at bound ⊢
      omega

/-- **No prefix of bytes that cannot be read is a structure.** -/
theorem not_isPrefix_of_read (failed : read source = .error short) {s : Structure}
    (wellFormed : s.WellFormed) : ¬s.bytes <+: source := by
  rintro ⟨behind, rfl⟩
  rw [read_bytes wellFormed behind] at failed
  cases failed

end Structure

/-! ### Bytes in front of which structures stand -/

namespace Table

theorem bytes_append (first second : Table) :
    bytes (first ++ second) = bytes first ++ bytes second :=
  List.flatMap_append

/-- **Any bytes are structures and a rest that starts with none.** -/
theorem exists_split (source : List UInt8) :
    ∃ table left, WellFormed table ∧ source = bytes table ++ left ∧
      (left = [] ∨ left ≠ [] ∧ ∃ short, Structure.read left = .error short) := by
  induction source using scanFrom.induct with
  | case1 => exact ⟨[], [], fun s member => absurd member List.not_mem_nil, rfl, .inl rfl⟩
  | case2 source _ s behind head ih =>
    obtain ⟨table, left, wellFormed, same, stop⟩ := ih
    obtain ⟨headWellFormed, split⟩ := Structure.bytes_of_read head
    refine ⟨s :: table, left, ?_, by rw [bytes_cons, List.append_assoc, ← same, split], stop⟩
    exact List.forall_mem_cons.mpr ⟨headWellFormed, wellFormed⟩
  | case3 source nonempty short failed =>
    exact ⟨[], source,
      fun s member => absurd member List.not_mem_nil, rfl, .inr ⟨nonempty, short, failed⟩⟩

theorem scanFrom_of_failed {source : List UInt8} {short : Shortfall}
    (failed : Structure.read source = .error short) (nonempty : source ≠ []) (total : Nat) :
    scanFrom total source = [⟨total - short.unread, .error (.endOfData short.part total)⟩] := by
  rw [scanFrom, if_neg nonempty]
  split
  · rename_i inner
    rw [failed] at inner
    cases inner
  · rename_i inner
    rw [failed] at inner
    cases inner
    rfl

/-- The items of a scan: structures, and behind them an error if there is one. -/
def items (table : Table) (failure : Option Error) : List (Except Error Structure) :=
  table.map .ok ++ failure.toList.map .error

theorem mapM_items (table : Table) (failure : Option Error) : (items table failure).mapM id =
    match failure with
    | none => .ok table
    | some error => .error error := by
  induction table with
  | nil => cases failure <;> rfl
  | cons s table ih =>
    rw [items, List.map_cons, List.cons_append, List.mapM_cons, ← items, ih]
    cases failure <;> rfl

theorem getElem?_items_of_lt {table : Table} {place : Nat} (inside : place < table.length)
    (failure : Option Error) : (items table failure)[place]? = some (.ok table[place]) := by
  rw [items, List.getElem?_append_left (by rwa [List.length_map]), List.getElem?_map,
    List.getElem?_eq_getElem inside]
  rfl

/-- **A scan takes the structures off** and goes on behind them. -/
theorem items_scanFrom_append {table : Table} (wellFormed : WellFormed table) (total : Nat)
    (left : List UInt8) : (scanFrom total (bytes table ++ left)).map Step.item =
      table.map .ok ++ (scanFrom total left).map Step.item := by
  induction table with
  | nil => rfl
  | cons s table ih =>
    obtain ⟨head, tail⟩ := List.forall_mem_cons.mp wellFormed
    rw [bytes_cons, List.append_assoc, scanFrom_of_read (Structure.read_bytes head _),
      List.map_cons, ih tail]
    rfl

/-- **The items of any scan**: the structures that stand in front, and an error if anything is left
behind them. -/
theorem exists_items (source : List UInt8) :
    ∃ table left failure, WellFormed table ∧ source = bytes table ++ left ∧
      (scan source).map Step.item = items table failure ∧ (failure = none ↔ left = []) ∧
      ∀ error, failure = some error → (∀ s : Structure, s.WellFormed → ¬s.bytes <+: left) ∧
        error = .endOfData (Structure.lackingPart left) source.length := by
  obtain ⟨table, left, wellFormed, split, stop⟩ := exists_split source
  have taken : (scan source).map Step.item = _ :=
    split ▸ items_scanFrom_append wellFormed (bytes table ++ left).length left
  rcases stop with nothing | ⟨nonempty, short, failed⟩
  · refine ⟨table, left, none, wellFormed, split, ?_, iff_of_true rfl nothing,
      fun error wrong => by cases wrong⟩
    rw [taken, nothing, scanFrom, if_pos rfl]
    rfl
  · refine ⟨table, left, some (.endOfData short.part source.length), wellFormed, split, ?_,
      iff_of_false (by rintro ⟨⟩) nonempty, ?_⟩
    · rw [taken, scanFrom_of_failed failed nonempty]
      rfl
    · rintro error ⟨⟩
      exact ⟨fun s => Structure.not_isPrefix_of_read failed, by rw [Structure.part_of_read failed]⟩

end Table

/-! ### Readers -/

namespace Reader

theorem after_next (reader : Reader) (calls : Nat) :
    reader.next.2.after calls = reader.after (calls + 1) := by
  induction calls with
  | zero => rfl
  | succ calls ih => exact congrArg (fun reader => reader.next.2) ih

/-- A reader that gives nothing any more stays as it is. -/
theorem after_of_ended {reader : Reader} (ended : reader.next = (none, reader)) (calls : Nat) :
    reader.after calls = reader := by
  induction calls with
  | zero => rfl
  | succ calls ih => rw [after, ih, ended]

/-! ### One call -/

variable {reader : Reader} {s : Structure} {behind : List UInt8} {short : Shortfall}

theorem length_left (reader : Reader) : reader.left.length = reader.source.length - reader.offset :=
  List.length_drop

theorem left_eq_nil_iff : reader.left = [] ↔ reader.source.length ≤ reader.offset :=
  List.drop_eq_nil_iff

theorem next_of_left (nothing : reader.left = []) : reader.next = (none, reader) :=
  if_pos (.inr (left_eq_nil_iff.mp nothing))

theorem next_of_done (done : reader.done = true) : reader.next = (none, reader) :=
  if_pos (.inl done)

theorem next_of_read (fresh : reader.done = false)
    (found : Structure.read reader.left = .ok (s, behind)) :
    reader.next = (some (.ok s),
      { reader with offset := reader.source.length - behind.length }) := by
  have inside : ¬(reader.done = true ∨ reader.source.length ≤ reader.offset) := by
    rw [fresh, ← left_eq_nil_iff]
    rintro (wrong | nothing)
    · cases wrong
    · rw [nothing] at found
      cases found
  rw [next, if_neg inside, found]

theorem next_of_failed (fresh : reader.done = false) (nonempty : reader.left ≠ [])
    (failed : Structure.read reader.left = .error short) :
    reader.next = (some (.error (.endOfData short.part reader.source.length)),
      { reader with offset := reader.source.length - short.unread, done := true }) := by
  have inside : ¬(reader.done = true ∨ reader.source.length ≤ reader.offset) := by
    rw [fresh, ← left_eq_nil_iff]
    rintro (wrong | nothing)
    · cases wrong
    · exact nonempty nothing
  rw [next, if_neg inside, failed]

/-- Behind a structure the reader has the bytes left that are behind the structure. -/
theorem left_of_read (found : Structure.read reader.left = .ok (s, behind)) :
    ({ reader with offset := reader.source.length - behind.length } : Reader).left = behind := by
  have suffix : behind <:+ reader.source := by
    obtain ⟨_, split⟩ := Structure.bytes_of_read found
    exact (split ▸ List.suffix_append s.bytes behind).trans
      (List.drop_suffix reader.offset reader.source)
  exact (List.suffix_iff_eq_drop.mp suffix).symm

/-- **One call goes forward only**, on the same bytes and never past their end; a call that gives a
structure goes on by at least one byte. -/
theorem next_step (inside : reader.offset ≤ reader.source.length) :
    reader.next.2.source = reader.source ∧ reader.offset ≤ reader.next.2.offset ∧
      reader.next.2.offset ≤ reader.source.length ∧
      ∀ s, reader.next.1 = some (.ok s) → reader.offset < reader.next.2.offset := by
  have length := reader.length_left
  by_cases ended : reader.done = true ∨ reader.source.length ≤ reader.offset
  · rw [next, if_pos ended]
    exact ⟨rfl, Nat.le_refl _, inside, fun s given => by cases given⟩
  · rw [next, if_neg ended]
    split
    · rename_i s behind found
      have shorter := Structure.length_lt_of_read found
      exact ⟨rfl, by simp only; omega, Nat.sub_le .., fun _ _ => by simp only; omega⟩
    · rename_i short failed
      have unread := Structure.unread_le_of_read failed
      exact ⟨rfl, by simp only; omega, Nat.sub_le .., fun s given => by cases given⟩

/-- However many calls there were, the reader is inside its bytes. -/
theorem inside_after (source : List UInt8) (calls : Nat) :
    ((start source).after calls).source = source ∧
      ((start source).after calls).offset ≤ ((start source).after calls).source.length := by
  induction calls with
  | zero => exact ⟨rfl, Nat.zero_le _⟩
  | succ calls ih =>
    obtain ⟨same, inside⟩ := ih
    obtain ⟨stays, _, bound, _⟩ := next_step inside
    exact ⟨stays.trans same, Nat.le_trans bound (Nat.le_of_eq (congrArg List.length stays.symm))⟩

/-- What a call gives, as a step of a scan: with the offset behind it. -/
def step? (reader : Reader) : Option Table.Step :=
  reader.next.1.map fun item => ⟨reader.next.2.offset, item⟩

/-- **The steps of a scan are the calls of a reader.** -/
theorem getElem?_scanFrom (fresh : reader.done = false) (calls : Nat) :
    (Table.scanFrom reader.source.length reader.left)[calls]? = (reader.after calls).step? := by
  induction calls generalizing reader with
  | zero =>
    rw [after, step?]
    by_cases nothing : reader.left = []
    · rw [nothing, Table.scanFrom, if_pos rfl, next_of_left nothing]
      rfl
    · cases found : Structure.read reader.left with
      | ok result =>
        rw [Table.scanFrom_of_read found, next_of_read fresh found]
        rfl
      | error short =>
        rw [Table.scanFrom_of_failed found nothing, next_of_failed fresh nothing found]
        rfl
  | succ calls ih =>
    rw [← after_next]
    by_cases nothing : reader.left = []
    · have ended := next_of_left nothing
      rw [ended, after_of_ended ended, step?, ended, nothing, Table.scanFrom, if_pos rfl]
      rfl
    · cases found : Structure.read reader.left with
      | ok result =>
        obtain ⟨s, behind⟩ := result
        have tail := @ih { reader with offset := reader.source.length - behind.length } fresh
        rw [left_of_read found] at tail
        rw [Table.scanFrom_of_read found, List.getElem?_cons_succ, next_of_read fresh found]
        exact tail
      | error short =>
        have ended : reader.next.2.next = (none, reader.next.2) := by
          rw [next_of_failed fresh nothing found]
          exact next_of_done rfl
        rw [Table.scanFrom_of_failed found nothing, after_of_ended ended, step?, ended]
        rfl

theorem getElem?_scan (source : List UInt8) (calls : Nat) :
    (Table.scan source)[calls]? = ((start source).after calls).step? :=
  @getElem?_scanFrom (start source) rfl calls

/-- Every call gives the next item of the scan. -/
theorem next_after (source : List UInt8) (calls : Nat) :
    ((start source).after calls).next.1 = ((Table.scan source).map Table.Step.item)[calls]? := by
  rw [List.getElem?_map, getElem?_scan, step?, Option.map_map]
  exact Option.map_id'.symm

/-! ### A whole run -/

/-- **Where a reader is while it gives structures**: behind those that it has given. -/
theorem after_eq {front : Table} (wellFormed : Table.WellFormed front) (rest : List UInt8) :
    (start (Table.bytes front ++ rest)).after front.length =
      ⟨Table.bytes front ++ rest, (Table.bytes front).length, false⟩ := by
  induction front using List.reverseRecOn generalizing rest with
  | nil => rfl
  | append_singleton front s ih =>
    obtain ⟨before, last⟩ := List.forall_mem_append.mp wellFormed
    have split : Table.bytes (front ++ [s]) ++ rest = Table.bytes front ++ (s.bytes ++ rest) := by
      rw [Table.bytes_append, List.append_assoc]
      exact congrArg (Table.bytes front ++ ·) (congrArg (· ++ rest) (List.append_nil s.bytes))
    have here := ih before (s.bytes ++ rest)
    rw [← split] at here
    have found : Structure.read
      ((start (Table.bytes (front ++ [s]) ++ rest)).after front.length).left =
        .ok (s, rest) := by
      rw [here, left, split, List.drop_left]
      exact Structure.read_bytes (last s List.mem_cons_self) rest
    have fresh : ((start (Table.bytes (front ++ [s]) ++ rest)).after front.length).done =
      false := by rw [here]
    rw [List.length_append, List.length_singleton, after, next_of_read fresh found, here]
    simp only [List.length_append, Nat.add_sub_cancel]

/-- **All that a reader does**, on any bytes. It gives some structures, then at most one error, and
then nothing any more. Its offset never goes back nor past the end, and goes on with every
structure; the bytes in front of it are those of the structures so far. An error comes exactly if
bytes are left behind the structures. No prefix of these is a structure, and the error says at the
end of all bytes which part they end in. A table is parsed as these structures unless there is an
error, and fails with that. -/
theorem runs_to_end (source : List UInt8) : ∃ (table : Table) (failure : Option Error),
    (∀ calls, ((start source).after calls).next.1 = (Table.items table failure)[calls]?) ∧
    (∀ calls, ((start source).after calls).offset ≤ ((start source).after (calls + 1)).offset ∧
      ((start source).after calls).offset ≤ source.length) ∧
    (∀ calls < table.length,
      ((start source).after calls).offset < ((start source).after (calls + 1)).offset) ∧
    (∀ calls ≤ table.length,
      Table.bytes (table.take calls) = source.take ((start source).after calls).offset) ∧
    Table.WellFormed table ∧
    (failure = none ↔ ((start source).after table.length).left = []) ∧
    (∀ error, failure = some error →
      (∀ s : Structure, s.WellFormed → ¬s.bytes <+: ((start source).after table.length).left) ∧
      error = .endOfData (Structure.lackingPart ((start source).after table.length).left)
        source.length) ∧
    (Table.parse source = match failure with
      | none => .ok table
      | some error => .error error) ∧
    ∀ calls, (Table.scan source)[calls]? = ((start source).after calls).step? := by
  obtain ⟨table, left, failure, wellFormed, split, items, none_iff, cause⟩ :=
    Table.exists_items source
  have given (calls : Nat) :
    ((start source).after calls).next.1 = (Table.items table failure)[calls]? := by
    rw [next_after, items]
  have parts (calls : Nat) :
    source = Table.bytes (table.take calls) ++ (Table.bytes (table.drop calls) ++ left) := by
    rw [← List.append_assoc, ← Table.bytes_append, List.take_append_drop, split]
  have place {calls : Nat} (inside : calls ≤ table.length) :
      (start source).after calls = ⟨source, (Table.bytes (table.take calls)).length, false⟩ := by
    have front : Table.WellFormed (table.take calls) :=
      fun s member => wellFormed s (List.mem_of_mem_take member)
    have here := after_eq front (Table.bytes (table.drop calls) ++ left)
    rwa [List.length_take_of_le inside, ← parts] at here
  have step (calls : Nat) := next_step (inside_after source calls).2
  have behind : ((start source).after table.length).left = left := by
    rw [place (Nat.le_refl _), List.take_length, Reader.left, split, List.drop_left]
  refine ⟨table, failure, given, ?_, ?_, ?_, wellFormed, behind.symm ▸ none_iff,
    behind.symm ▸ cause, ?_, getElem?_scan source⟩
  · intro calls
    obtain ⟨same, inside⟩ := inside_after source calls
    exact ⟨(step calls).2.1, Nat.le_trans inside (Nat.le_of_eq (congrArg List.length same))⟩
  · intro calls inside
    exact (step calls).2.2.2 _ ((given calls).trans (Table.getElem?_items_of_lt inside failure))
  · intro calls inside
    rw [place inside]
    exact List.prefix_iff_eq_take.mp ⟨_, (parts calls).symm⟩
  · rw [Table.parse, ← Table.mapM_items, ← items, List.mapM_map]
    rfl

/-- A byte behind the only structure is short of a header. -/
example :
    let reader := start [0x7F, 4, 3, 0, 0, 0, 1]
    (reader.after 1).offset = 6 ∧ (reader.after 1).next.1 = some (.error (.endOfData .header 7)) ∧
      (reader.after 2).next.1 = none :=
  ⟨rfl, rfl, rfl⟩

end Reader

end Dmi
