/-
**The grammar of a type filter.**

The arguments of a filter are cut at their commas, and the blanks around each piece are cut off.
What is left are the entries. The grammar of an entry is said here without its reader: a keyword, or
digits in base ten, or digits in base sixteen behind `0x`, and a plus sign may stand in front of the
digits. Main statements:

* `Blank.trims_iff`, `splits_iff` — the entries of an argument;
* `digit?_eq_some_iff`, `digits?_eq_some_iff`, `number?_eq_some_iff` — the digits and the numbers
  that can be read;
* `types?_eq_some_iff` — an entry is read as the types that it denotes.
-/

import Dmi.TypeFilter
import Mathlib.Data.List.Basic
import Mathlib.Data.List.Forall2
import Mathlib.Data.List.TakeWhile
import Mathlib.Data.Nat.Digits.Lemmas
import Mathlib.Tactic.IntervalCases

namespace Dmi

/-! ### Entries -/

namespace Blank

/-- A text without the blanks at its ends. -/
structure Trims (text inner : List Char) : Prop where
  parts : ∃ front back, text = front ++ inner ++ back ∧ (∀ c ∈ front, isBlank c) ∧
    ∀ c ∈ back, isBlank c
  first : ∀ c ∈ inner.head?, isBlank c = false
  last : ∀ c ∈ inner.getLast?, isBlank c = false

/-- What is left in front of the first character that is not blank begins with it. -/
theorem not_isBlank_of_head? {text : List Char} {c : Char}
    (first : c ∈ (text.dropWhile isBlank).head?) :
    isBlank c = false := by
  have law := List.head?_dropWhile_not isBlank text
  rw [Option.mem_def.mp first] at law
  exact law

/-- Trimming cuts off the blanks at both ends, and nothing else. -/
theorem trims_trim (text : List Char) : Trims text (trim text) := by
  have left := List.takeWhile_append_dropWhile (p := isBlank) (l := text)
  generalize rest : text.dropWhile isBlank = behind at left
  have right := List.takeWhile_append_dropWhile (p := isBlank) (l := behind.reverse)
  have parts : behind = trim text ++ (behind.reverse.takeWhile isBlank).reverse := by
    rw [trim, rest, ← List.reverse_append, right, List.reverse_reverse]
  refine ⟨⟨text.takeWhile isBlank, (behind.reverse.takeWhile isBlank).reverse, ?_, ?_, ?_⟩, ?_, ?_⟩
  · rw [List.append_assoc, ← parts, left]
  · intro c member
    exact List.mem_takeWhile_imp member
  · intro c member
    exact List.mem_takeWhile_imp (List.mem_reverse.mp member)
  · intro c first
    refine @not_isBlank_of_head? text c ?_
    rw [rest, parts, List.head?_append, Option.mem_def.mp first]
    rfl
  · intro c last
    rw [trim, List.getLast?_reverse] at last
    exact not_isBlank_of_head? last

theorem dropWhile_of_head? {text : List Char} (first : ∀ c ∈ text.head?, isBlank c = false) :
    text.dropWhile isBlank = text := by
  cases text with
  | nil => rfl
  | cons c rest => exact List.dropWhile_cons_of_neg (Bool.eq_false_iff.mp (first c rfl))

/-- **There is one way to trim a text.** -/
theorem trims_iff {text inner : List Char} : Trims text inner ↔ inner = trim text := by
  constructor
  · rintro ⟨⟨front, back, rfl, blankFront, blankBack⟩, first, last⟩
    have blankEnd :
      ∀ c ∈ back.reverse, isBlank c := fun c member => blankBack c (List.mem_reverse.mp member)
    rw [trim, List.append_assoc, List.dropWhile_append_of_pos blankFront]
    by_cases none_ : inner = []
    · rw [none_, List.nil_append, List.dropWhile_eq_nil_iff.mpr blankBack]
      rfl
    · have begins : ∀ c ∈ (inner ++ back).head?, isBlank c = false := by
        rw [List.head?_append_of_ne_nil _ none_]
        exact first
      rw [dropWhile_of_head? begins, List.reverse_append, List.dropWhile_append_of_pos blankEnd,
        dropWhile_of_head? (by rwa [List.head?_reverse]), List.reverse_reverse]
  · rintro rfl
    exact trims_trim text

end Blank

namespace TypeFilter

/-- The entries of an argument: its pieces between the commas, each without the blanks at its
ends. -/
def Splits (argument : String) (found : List (List Char)) : Prop :=
  ∃ pieces, pieces ≠ [] ∧ [','].intercalate pieces = argument.toList ∧
    (∀ piece ∈ pieces, ',' ∉ piece) ∧ List.Forall₂ Blank.Trims pieces found

theorem not_mem_of_mem_splitOn {mark : Char} {text : List Char} :
    ∀ piece ∈ text.splitOn mark, mark ∉ piece := by
  induction text with
  | nil => simp
  | cons c rest ih =>
    rw [List.splitOn_cons_eq_if_modifyHead]
    split
    · simpa using ih
    · rename_i other
      cases parts : rest.splitOn mark with
      | nil => simp
      | cons piece pieces =>
        rw [parts] at ih
        simp only [beq_iff_eq] at other
        simpa [Ne.symm other] using ih

/-- **There is one way to split an argument.** -/
theorem splits_iff {argument : String} {found : List (List Char)} :
    Splits argument found ↔ found = entries argument := by
  have trimmed (pieces : List (List Char)) : List.Forall₂ Blank.Trims pieces found ↔
    found = pieces.map Blank.trim := by
    have law : Blank.Trims = fun text inner => Blank.trim text = inner := by
      funext text inner
      exact propext (Blank.trims_iff.trans eq_comm)
    rw [law, ← List.forall₂_map_left_iff (R := Eq), List.forall₂_eq_eq_eq, eq_comm]
  constructor
  · rintro ⟨pieces, some_, joined, separate, trims⟩
    rw [entries, ← joined, List.splitOn_intercalate _ separate some_]
    exact (trimmed pieces).mp trims
  · rintro rfl
    exact ⟨argument.toList.splitOn ',', List.splitOn_ne_nil _ _, List.intercalate_splitOn _,
      not_mem_of_mem_splitOn, (trimmed _).mpr rfl⟩

/-- Every argument has an entry. -/
theorem entries_ne_nil (argument : String) : entries argument ≠ [] :=
  fun none_ => List.splitOn_ne_nil _ _ (List.map_eq_nil_iff.mp none_)

/-- **Arguments that are joined with a comma have the entries of both.** -/
theorem entries_intercalate (first : String) (rest : List String) :
    entries (",".intercalate (first :: rest)) = (first :: rest).flatMap entries := by
  have commas : ",".toList = [','] := rfl
  unfold entries
  rw [String.toList_intercalate, commas]
  induction rest generalizing first with
  | nil => simp
  | cons second rest ih =>
    have joined := ih second
    rw [List.map_cons] at joined
    rw [List.map_cons, List.map_cons, List.intercalate_cons_cons, List.append_assoc,
      List.singleton_append, List.splitOn_append_cons_self, List.map_append, joined]
    rfl

/-! ### Digits -/

/-- Digits in a base, most significant first, that stand for a number. -/
def Numeral (base : Nat) (digits : List Char) (n : Nat) : Prop :=
  ∃ values : List Nat, values ≠ [] ∧ (∀ value ∈ values, value < base) ∧
    digits = values.map Nat.digitChar ∧ n = Nat.ofDigits base values.reverse

/-- Digits, and maybe a plus sign in front of them. -/
def Signed (base : Nat) (text : List Char) (n : Nat) : Prop :=
  ∃ sign digits, (sign = [] ∨ sign = ['+']) ∧ text = sign ++ digits ∧ Numeral base digits n

theorem toNat_digitChar_of_ten_le {value : Nat} (letter : 10 ≤ value) (small : value < 16) :
    (Nat.digitChar value).toNat = 87 + value := by
  interval_cases value <;> rfl

theorem digit?_digitChar {base value : Nat} (small : base ≤ 16) (inside : value < base) :
    digit? base (Nat.digitChar value) = some value := by
  have bound : value < 16 := Nat.lt_of_lt_of_le inside small
  interval_cases value <;> exact if_pos inside

/-- **The digits of a base that can be read**: in small letters above nine. -/
theorem digit?_eq_some_iff {base value : Nat} (small : base ≤ 16) {c : Char} :
    digit? base c = some value ↔ value < base ∧ c = Nat.digitChar value := by
  constructor
  · intro found
    simp only [digit?, Option.ite_none_right_eq_some, Option.some.injEq] at found
    obtain ⟨inside, same⟩ := found
    rw [same] at inside
    refine ⟨inside, Char.toNat_inj.mp ?_⟩
    by_cases figure : '0' ≤ c ∧ c ≤ '9'
    · have lower : 48 ≤ c.toNat := figure.1
      have upper : c.toNat ≤ 57 := figure.2
      rw [if_pos figure] at same
      change c.toNat - 48 = value at same
      rw [Nat.toNat_digitChar_of_lt_ten (by omega)]
      omega
    · rw [if_neg figure] at same
      by_cases letter : 'a' ≤ c ∧ c ≤ 'z'
      · have lower : 97 ≤ c.toNat := letter.1
        rw [if_pos letter] at same
        change c.toNat - 97 + 10 = value at same
        rw [toNat_digitChar_of_ten_le (by omega) (by omega)]
        omega
      · rw [if_neg letter] at same
        omega
  · rintro ⟨inside, rfl⟩
    exact digit?_digitChar small inside

/-- **Digits are read to their value**, behind those that have been read already. -/
theorem digits?_eq_some_iff {base high n : Nat} (small : base ≤ 16) {text : List Char} :
    digits? base high text = some n ↔ ∃ values : List Nat, (∀ value ∈ values, value < base) ∧
      text = values.map Nat.digitChar ∧
        n = Nat.ofDigits base values.reverse + base ^ values.length * high := by
  induction text generalizing high with
  | nil =>
    constructor
    · rintro ⟨⟩
      exact ⟨[], by simp, rfl, by simp⟩
    · rintro ⟨values, _, none_, rfl⟩
      rw [List.map_eq_nil_iff.mp none_.symm]
      simp [digits?]
  | cons c rest ih =>
    constructor
    · intro found
      rw [digits?] at found
      split at found
      · rename_i low digit
        obtain ⟨inside, rfl⟩ := (digit?_eq_some_iff small).mp digit
        obtain ⟨values, below, rfl, rfl⟩ := ih.mp found
        refine ⟨low :: values, ?_, rfl, ?_⟩
        · simpa [inside] using below
        · rw [Nat.ofDigits_reverse_cons, List.length_cons, pow_succ]
          ring
      · cases found
    · rintro ⟨values, below, spelled, rfl⟩
      cases values with
      | nil => cases spelled
      | cons low values =>
        rw [List.map_cons] at spelled
        obtain ⟨rfl, rfl⟩ := List.cons.inj spelled
        rw [digits?, digit?_digitChar small (below low List.mem_cons_self)]
        refine ih.mpr ⟨values,
          fun value member => below value (List.mem_cons_of_mem _ member), rfl, ?_⟩
        rw [Nat.ofDigits_reverse_cons, List.length_cons, pow_succ]
        ring

theorem digits?_zero_iff {base n : Nat} (small : base ≤ 16) {digits : List Char}
    (some_ : digits ≠ []) : digits? base 0 digits = some n ↔ Numeral base digits n := by
  rw [digits?_eq_some_iff small]
  refine exists_congr fun values => ?_
  constructor
  · rintro ⟨below, rfl, value⟩
    exact ⟨fun none_ => some_ (by rw [none_]; rfl), below, rfl, by simpa using value⟩
  · rintro ⟨_, below, spelled, value⟩
    exact ⟨below, spelled, by simpa using value⟩

theorem Numeral.ne_nil {base n : Nat} {digits : List Char} (numeral : Numeral base digits n) :
    digits ≠ [] := by
  obtain ⟨values, some_, _, rfl, _⟩ := numeral
  exact fun none_ => some_ (List.map_eq_nil_iff.mp none_)

theorem Signed.ne_nil {base n : Nat} {text : List Char} (signed : Signed base text n) :
    text ≠ [] := by
  obtain ⟨sign, digits, _, rfl, numeral⟩ := signed
  exact fun none_ => numeral.ne_nil (List.append_eq_nil_iff.mp none_).2

/-- The characters of a number in base ten. -/
def figures : List Char := "+0123456789".toList

theorem Numeral.mem_figures {n : Nat} {digits : List Char} (numeral : Numeral 10 digits n) :
    ∀ c ∈ digits, c ∈ figures.tail := by
  obtain ⟨values, _, below, rfl, _⟩ := numeral
  intro c member
  obtain ⟨value, listed, rfl⟩ := List.mem_map.mp member
  have inside := below value listed
  clear below listed member
  interval_cases value <;> decide

theorem Signed.mem_figures {n : Nat} {text : List Char} (signed : Signed 10 text n) :
    ∀ c ∈ text, c ∈ figures := by
  obtain ⟨sign, digits, plus, rfl, numeral⟩ := signed
  intro c member
  rcases List.mem_append.mp member with member | member
  · rcases plus with rfl | rfl
    · cases member
    · rw [List.mem_singleton.mp member]
      decide
  · exact List.mem_of_mem_tail (numeral.mem_figures c member)

theorem number?_of_plus (base : Nat) (digits : List Char) :
    number? base ('+' :: digits) = if digits = [] then none else digits? base 0 digits := rfl

theorem number?_of_digits (base : Nat) {digits : List Char}
    (unsigned : ∀ rest, digits ≠ '+' :: rest) :
    number? base digits = if digits = [] then none else digits? base 0 digits := by
  simp only [number?]

/-- Digits do not begin with a plus sign. -/
theorem Numeral.ne_plus {base n : Nat} (small : base ≤ 16) {digits : List Char}
    (numeral : Numeral base digits n) (rest : List Char) : digits ≠ '+' :: rest := by
  obtain ⟨values, _, below, rfl, _⟩ := numeral
  cases values with
  | nil => exact (List.cons_ne_nil _ _).symm
  | cons first values =>
    intro same
    have plus : Nat.digitChar first = '+' := (List.cons.inj same).1
    have inside : first < 16 := Nat.lt_of_lt_of_le (below first List.mem_cons_self) small
    clear same below
    interval_cases first <;> cases plus

/-- **A number is read** exactly if it has a digit, and at most one plus sign in front. -/
theorem number?_eq_some_iff {base n : Nat} (small : base ≤ 16) {text : List Char} :
    number? base text = some n ↔ Signed base text n := by
  constructor
  · intro found
    by_cases plus : ∃ digits, text = '+' :: digits
    · obtain ⟨digits, rfl⟩ := plus
      rw [number?_of_plus, Option.ite_none_left_eq_some] at found
      exact ⟨['+'], digits, .inr rfl, rfl, (digits?_zero_iff small found.1).mp found.2⟩
    · rw [number?_of_digits base (not_exists.mp plus), Option.ite_none_left_eq_some] at found
      exact ⟨[], text, .inl rfl, rfl, (digits?_zero_iff small found.1).mp found.2⟩
  · rintro ⟨sign, digits, plus, rfl, numeral⟩
    rcases plus with rfl | rfl
    · rw [List.nil_append, number?_of_digits base (numeral.ne_plus small), if_neg numeral.ne_nil]
      exact (digits?_zero_iff small numeral.ne_nil).mpr numeral
    · rw [List.singleton_append, number?_of_plus, if_neg numeral.ne_nil]
      exact (digits?_zero_iff small numeral.ne_nil).mpr numeral

/-- The number of an entry that is no keyword. -/
def code? (small : List Char) : Option Nat :=
  match small with
  | '0' :: 'x' :: digits => number? 16 digits
  | digits => number? 10 digits

/-- A number in base ten is not taken for one in base sixteen, since it has no letter in it. -/
theorem code?_eq_some_iff {small : List Char} {n : Nat} :
    code? small = some n ↔
      Signed 10 small n ∨ ∃ digits, small = '0' :: 'x' :: digits ∧ Signed 16 digits n := by
  unfold code?
  split
  · rename_i digits
    rw [number?_eq_some_iff (Nat.le_refl 16)]
    constructor
    · exact fun number => .inr ⟨digits, rfl, number⟩
    · rintro (number | ⟨_, same, number⟩)
      · exact absurd (number.mem_figures 'x' (by simp)) (by decide)
      · cases same
        exact number
  · rename_i unmarked
    rw [number?_eq_some_iff (by decide)]
    constructor
    · exact .inl
    · rintro (number | ⟨digits, same, _⟩)
      · exact number
      · exact absurd same (unmarked digits)

/-! ### The grammar of an entry -/

/-- What an entry denotes. The case of ASCII letters does not matter. -/
inductive Denotes (entry : List Char) : List TypeCode → Prop
  /-- A keyword denotes the types of its group. -/
  | group {keyword : String} {codes : List Nat} (listed : (keyword, codes) ∈ groups)
      (spelled : entry.map Char.toLower = keyword.toList) :
    Denotes entry (codes.map fun code => ⟨UInt8.ofNat code⟩)
  /-- A number denotes the type that has it as its code. -/
  | decimal {text : List Char} {n : Nat} (number : Signed 10 text n) (small : n < 256)
      (spelled : entry.map Char.toLower = text) : Denotes entry [⟨UInt8.ofNat n⟩]
  | hexadecimal {text : List Char} {n : Nat} (number : Signed 16 text n) (small : n < 256)
      (spelled : entry.map Char.toLower = '0' :: 'x' :: text) : Denotes entry [⟨UInt8.ofNat n⟩]

/-- An entry denotes something. -/
def Valid (entry : List Char) : Prop :=
  ∃ types, Denotes entry types

/-- No keyword begins with a character of a number. -/
theorem lookup_groups_of_figure {text : List Char} (figure : ∃ c ∈ text.head?, c ∈ figures) :
    groups.lookup (String.ofList text) = none := by
  have keywords : ∀ group ∈ groups, group.1.toList.head?.any figures.contains = false := by decide
  rw [List.lookup_eq_none_iff]
  intro group member
  rw [bne_iff_ne]
  rintro same
  obtain ⟨c, first, figure⟩ := figure
  have other := keywords group member
  rw [← same, String.toList_ofList, Option.mem_def.mp first, Option.any_some, List.contains_eq_mem,
    decide_eq_false_iff_not] at other
  exact other figure

theorem lookup_groups_of_mem {keyword : String} {codes : List Nat}
    (listed : (keyword, codes) ∈ groups) : groups.lookup keyword = some codes := by
  have keys : ∀ group ∈ groups, groups.lookup group.1 = some group.2 := by decide
  exact keys _ listed

theorem types?_of_keyword {entry : List Char} {codes : List Nat}
    (listed : groups.lookup (String.ofList (entry.map Char.toLower)) = some codes) :
    types? entry = some (codes.map fun code => ⟨UInt8.ofNat code⟩) := by
  simp only [types?, listed]

theorem types?_of_noKeyword {entry : List Char} {types : List TypeCode}
    (none_ : groups.lookup (String.ofList (entry.map Char.toLower)) = none) :
    types? entry = some types ↔
      ∃ n, code? (entry.map Char.toLower) = some n ∧ n < 256 ∧ types = [⟨UInt8.ofNat n⟩] := by
  have number : types? entry = (code? (entry.map Char.toLower)).bind fun code =>
      if code < 256 then some [⟨UInt8.ofNat code⟩] else none := by
    unfold types?
    simp only [none_]
    split
    · rename_i n read
      rw [show code? (entry.map Char.toLower) = some n from read, Option.bind_some]
    · rename_i read
      rw [show code? (entry.map Char.toLower) = none from read, Option.bind_none]
  rw [number, Option.bind_eq_some_iff]
  refine exists_congr fun n => and_congr_right fun _ => ?_
  rw [Option.ite_none_right_eq_some, Option.some.injEq]
  exact and_congr_right fun _ => eq_comm

/-- **An entry is read as what it denotes.** -/
theorem types?_eq_some_iff {entry : List Char} {types : List TypeCode} :
    types? entry = some types ↔ Denotes entry types := by
  constructor
  · intro found
    cases listed : groups.lookup (String.ofList (entry.map Char.toLower)) with
    | some codes =>
      rw [types?_of_keyword listed] at found
      cases found
      obtain ⟨front, behind, parts, _⟩ := List.lookup_eq_some_iff.mp listed
      refine .group (parts ▸ List.mem_append_right front List.mem_cons_self) ?_
      rw [String.toList_ofList]
    | none =>
      obtain ⟨n, number, small, rfl⟩ := (types?_of_noKeyword listed).mp found
      rcases code?_eq_some_iff.mp number with number | ⟨digits, spelled, number⟩
      · exact .decimal number small rfl
      · exact .hexadecimal number small spelled
  · intro denotes
    cases denotes with
    | group listed spelled =>
      refine types?_of_keyword ?_
      rw [spelled, String.ofList_toList]
      exact lookup_groups_of_mem listed
    | @decimal text n number small spelled =>
      obtain ⟨c, rest, same⟩ := List.exists_cons_of_ne_nil number.ne_nil
      have figure : ∃ c ∈ text.head?, c ∈ figures :=
        ⟨c, by rw [same]; rfl, number.mem_figures c (same ▸ List.mem_cons_self)⟩
      subst spelled
      exact (types?_of_noKeyword (lookup_groups_of_figure figure)).mpr
        ⟨n, code?_eq_some_iff.mpr (.inl number), small, rfl⟩
    | @hexadecimal text n number small spelled =>
      have figure : ∃ c ∈ (entry.map Char.toLower).head?, c ∈ figures :=
        ⟨'0', by rw [spelled]; rfl, by decide⟩
      exact (types?_of_noKeyword (lookup_groups_of_figure figure)).mpr
        ⟨n, code?_eq_some_iff.mpr (.inr ⟨text, spelled, number⟩), small, rfl⟩

end TypeFilter

end Dmi
