/-
**The bytes that a reader needs.**

`Body.Spans start stop` says of a reader that it needs the bytes from `start` to `stop`. On every
body that keeps them and the strings, it finds the same. In a section that is cut among them, it
reaches past the end. A reader that consists of others, one behind the other, needs the bytes of all
of them. Main statements:

* `Body.spans_bytes` — the reads of single runs;
* `Body.Spans.bind` — readers that follow one another.
-/

import Dmi.Body.Read

namespace Dmi.Body

variable {α β : Type} {body other : Body} {start middle stop size offset width : Nat}

/-! ### Bodies that keep some bytes -/

/-- The other body has the same strings, and the same bytes from `start` to `stop`, whatever its
size is. -/
structure Keeps (start stop : Nat) (body other : Body) : Prop where
  strings : other.strings = body.strings
  inside : stop ≤ other.size
  bytes : ∀ index, start ≤ index → index < stop → other.formatted[index]? = body.formatted[index]?

namespace Keeps

theorem refl (inside : stop ≤ body.size) (start : Nat) : Keeps start stop body body where
  strings := rfl
  inside := inside
  bytes _ _ _ := rfl

theorem mono (keeps : Keeps start stop body other) {low high : Nat} (above : start ≤ low)
    (below : high ≤ stop) : Keeps low high body other where
  strings := keeps.strings
  inside := Nat.le_trans below keeps.inside
  bytes index lower upper :=
    keeps.bytes index (Nat.le_trans above lower) (Nat.lt_of_lt_of_le upper below)

theorem string (keeps : Keeps start stop body other) : other.string = body.string := by
  funext index
  unfold Body.string
  rw [keeps.strings]

theorem run (keeps : Keeps offset (offset + width) body other) :
    (other.formatted.drop offset).take width = (body.formatted.drop offset).take width := by
  ext1 index
  rw [List.getElem?_take, List.getElem?_take]
  by_cases inside : index < width
  · rw [if_pos inside, if_pos inside, List.getElem?_drop, List.getElem?_drop]
    exact keeps.bytes (offset + index) (Nat.le_add_right _ _) (Nat.add_lt_add_left inside _)
  · rw [if_neg inside, if_neg inside]

end Keeps

theorem size_cut (inside : size ≤ body.size) : (body.cut size).size = size := by
  rw [Body.size, cut, List.length_take]
  exact Nat.min_eq_left inside

theorem keeps_cut (kept : stop ≤ size) (inside : size ≤ body.size) (start : Nat) :
    Keeps start stop body (body.cut size) where
  strings := rfl
  inside := Nat.le_trans kept (Nat.le_of_eq (size_cut inside).symm)
  bytes _ _ upper := List.getElem?_take_of_lt (Nat.lt_of_lt_of_le upper kept)

/-! ### Readers -/

/-- A reader that finds `found` needs the bytes from `start` to `stop`. -/
structure Spans (body : Body) (start stop : Nat) (read : Body → Except Error α) (found : α) :
    Prop where
  forward : start ≤ stop
  inside : stop ≤ body.size
  /-- A body that keeps the bytes is read as this one. -/
  whole : ∀ other, body.Keeps start stop other → read other = .ok found
  /-- In a section that is cut among the bytes, the reader reaches past the end. -/
  short : ∀ size, start ≤ size → size < stop →
    ∃ offset width, read (body.cut size) = .error (.outOfRange offset width size)

namespace Spans

variable {first : Body → Except Error α} {found : α} {last : β}

theorem read (head : body.Spans start stop first found) : first body = .ok found :=
  head.whole body (.refl head.inside start)

theorem read_cut (head : body.Spans start stop first found) (kept : stop ≤ size)
    (inside : size ≤ body.size) : first (body.cut size) = .ok found :=
  head.whole (body.cut size) (keeps_cut kept inside start)

/-- Two readers that follow one another need the bytes of both. -/
theorem bind {second : α → Body → Except Error β} (head : body.Spans start middle first found)
    (tail : body.Spans middle stop (second found) last) :
    body.Spans start stop (fun other => first other >>= fun one => second one other) last where
  forward := Nat.le_trans head.forward tail.forward
  inside := tail.inside
  whole other keeps := by
    simp only [head.whole other (keeps.mono (Nat.le_refl start) tail.forward)]
    exact tail.whole other (keeps.mono head.forward (Nat.le_refl stop))
  short size behind lost := by
    by_cases among : size < middle
    · obtain ⟨offset, width, failed⟩ := head.short size behind among
      simp only [failed]
      exact ⟨offset, width, rfl⟩
    · have kept := Nat.le_of_not_lt among
      simp only [head.read_cut kept (Nat.le_trans (Nat.le_of_lt lost) tail.inside)]
      exact tail.short size kept lost

/-- What needs no bytes. -/
theorem pure (inside : stop ≤ body.size) (found : α) :
    body.Spans stop stop (fun _ => Pure.pure found) found where
  forward := Nat.le_refl stop
  inside := inside
  whole _ _ := rfl
  short _ behind lost := absurd lost (Nat.not_lt_of_le behind)

/-- A function of what is read needs the same bytes. -/
theorem map (change : α → β) (head : body.Spans start stop first found) :
    body.Spans start stop (fun other => first other >>= fun one => Pure.pure (change one))
      (change found) :=
  head.bind (.pure head.inside (change found))

/-- The same reader, written in another way. -/
theorem congr {read : Body → Except Error α} (head : body.Spans start stop first found)
    (same : ∀ other, read other = first other) : body.Spans start stop read found := by
  obtain rfl : read = first := funext same
  exact head

end Spans

/-! ### The readers of single runs -/

/-- **A run of bytes needs its own bytes.** -/
theorem spans_bytes {found : List UInt8} (read : body.bytes offset width = .ok found) :
    body.Spans offset (offset + width) (·.bytes offset width) found := by
  have inside : offset + width ≤ body.size := (bytes_eq_ok_iff body offset width).mp ⟨found, read⟩
  refine {
    forward := Nat.le_add_right offset width
    inside := inside
    whole := ?whole
    short := ?short }
  case whole =>
    intro other keeps
    rw [← read, bytes, bytes, if_pos keeps.inside, if_pos inside, keeps.run]
  case short =>
    intro size behind lost
    refine ⟨offset, width, ?_⟩
    rw [bytes, size_cut (Nat.le_of_lt (Nat.lt_of_lt_of_le lost inside)),
      if_neg (Nat.not_le_of_lt lost)]

theorem spans_number {width : Width} {n : width.Number} (read : body.number width offset = .ok n) :
    body.Spans offset (offset + width.size) (·.number width offset) n := by
  rw [number] at read
  split at read
  · rename_i found here
    cases read
    refine ((spans_bytes here).map fun run => width.number (LittleEndian.value run)).congr
      fun other => ?_
    unfold number
    cases other.bytes offset width.size <;> rfl
  · cases read

theorem spans_byte {found : UInt8} (read : body.byte offset = .ok found) :
    body.Spans offset (offset + 1) (·.byte offset) found :=
  spans_number read

end Dmi.Body
