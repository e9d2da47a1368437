import BrailleDisplay.Proofs.Cell.Dots
import Mathlib.Data.Char
import Mathlib.Data.List.Nodup
import Mathlib.Data.List.Pairwise

/-!
# How cells are spelled

A cell is spelled by the numbers of its dots, in any order and however often each; the blank cell is
spelled `0`.  A cell is written by the one spelling whose digits ascend.

* `Numbers`, `FirstStray` — the texts of dot numbers, and the first character of a text that is none;
* `cellOfDots_isOk_iff`, `FirstStray.refused` — which texts are read, and what is said of the others;
* `Numbers.read_iff`, `hasDot_of_cellOfDots` — what is read is the cell of the digits that occur;
* `cellOfDots_dotsOfCell`, `eq_dotsOfCell_iff` — a cell is written by its ascending spelling;
* `cellOfDots_spells` — what there is to know of how cells are read and written.
-/

namespace BrailleDisplay

variable {t s : String} {c : Char} {cell : UInt8} {d e : Nat}

/-- The digits that name the dots, dot 1 first. -/
def dotDigits : List Char :=
  ['1', '2', '3', '4', '5', '6', '7', '8']

/-- The text consists of dot numbers and is not empty. -/
def Numbers (t : String) : Prop :=
  t ≠ "" ∧ ∀ c ∈ t.toList, c ∈ dotDigits

/-- The character is the first in the text that is no dot number. -/
def FirstStray (t : String) (c : Char) : Prop :=
  ∃ before after, t.toList = before ++ c :: after ∧ (∀ b ∈ before, b ∈ dotDigits) ∧ c ∉ dotDigits

/-! ### Digits -/

theorem nodup_dotDigits : dotDigits.Nodup := by
  decide

/-- A digit names one dot. -/
theorem names_one (named : dotDigits[d]? = some c) : dotDigits[e]? = some c ↔ e = d := by
  constructor
  · intro also
    have within : e < dotDigits.length := (List.getElem?_eq_some_iff.mp also).1
    exact (List.getElem?_inj within nodup_dotDigits).mp (also.trans named.symm)
  · rintro rfl
    exact named

theorem lt_of_names (named : dotDigits[d]? = some c) : d < dotCount :=
  (List.getElem?_eq_some_iff.mp named).1

theorem exists_digit (set : hasDot cell d = true) : ∃ c, dotDigits[d]? = some c :=
  ⟨_, List.getElem?_eq_getElem (lt_of_hasDot set)⟩

theorem dotBit?_of_names (named : dotDigits[d]? = some c) : dotBit? c = some (dotCell d) := by
  have bits : ∀ d : Fin dotCount, dotBit? (dotDigits.get d) = some (dotCell d) := by decide
  obtain ⟨within, rfl⟩ := List.getElem?_eq_some_iff.mp named
  exact bits ⟨d, within⟩

theorem mem_dotDigits (first : '1' ≤ c) (last : c ≤ '8') : c ∈ dotDigits := by
  have digits : ∀ k : Fin 8, Char.ofNat (49 + k) ∈ dotDigits := by decide
  have low : 49 ≤ c.toNat := Char.le_def.mp first
  have high : c.toNat ≤ 56 := Char.le_def.mp last
  have digit := digits ⟨c.toNat - 49, by omega⟩
  rwa [Nat.add_sub_cancel' low, Char.ofNat_toNat] at digit

theorem dotBit?_of_stray (stray : c ∉ dotDigits) : dotBit? c = none :=
  if_neg fun digit => stray (mem_dotDigits digit.1 digit.2)

/-! ### Reading -/

/-- Dot numbers add their dots to those there are already. -/
theorem gatherDots_of_named {chars : List Char} (named : ∀ c ∈ chars, c ∈ dotDigits)
    (cell : UInt8) :
    ∃ all, gatherDots cell chars = .ok all
      ∧ ∀ e, hasDot all e = true ↔ hasDot cell e = true ∨ ∃ c ∈ chars, dotDigits[e]? = some c := by
  induction chars generalizing cell with
  | nil => exact ⟨cell, rfl, fun e => by simp⟩
  | cons c rest ih =>
    obtain ⟨d, digit⟩ := List.mem_iff_getElem?.mp (named c List.mem_cons_self)
    obtain ⟨all, read, dots⟩ := ih (fun c among => named c (List.mem_cons_of_mem _ among))
      (cell ||| dotCell d)
    refine ⟨all, ?_, fun e => ?_⟩
    · rw [gatherDots, dotBit?_of_names digit]
      exact read
    · rw [dots e, hasDot_or, hasDot_dotCell (lt_of_names digit), ← names_one digit,
        List.exists_mem_cons_iff, or_assoc]

/-- The first character that is no dot number is reported. -/
theorem gatherDots_of_stray {before after : List Char} (named : ∀ b ∈ before, b ∈ dotDigits)
    (stray : c ∉ dotDigits) (cell : UInt8) :
    gatherDots cell (before ++ c :: after) = .error c := by
  induction before generalizing cell with
  | nil => rw [List.nil_append, gatherDots, dotBit?_of_stray stray]
  | cons b rest ih =>
    obtain ⟨d, digit⟩ := List.mem_iff_getElem?.mp (named b List.mem_cons_self)
    rw [List.cons_append, gatherDots, dotBit?_of_names digit]
    exact ih (fun b among => named b (List.mem_cons_of_mem _ among)) (cell ||| dotCell d)

/-- A text that is not empty consists of dot numbers, or has a first character that is none. -/
theorem numbers_or_stray (given : t ≠ "") : Numbers t ∨ ∃ c, FirstStray t c := by
  cases found : t.toList.find? (· ∉ dotDigits) with
  | none =>
    refine .inl ⟨given, fun c among => ?_⟩
    simpa using List.find?_eq_none.mp found c among
  | some c =>
    obtain ⟨stray, before, after, split, named⟩ := List.find?_eq_some_iff_append.mp found
    exact .inr ⟨c, before, after, split, by simpa using named, by simpa using stray⟩

theorem Numbers.exists_mem (numbers : Numbers t) : ∃ c, c ∈ t.toList :=
  List.exists_mem_of_ne_nil _ (mt String.toList_eq_nil_iff.mp numbers.1)

theorem Numbers.ne_zero (numbers : Numbers t) : t ≠ "0" := by
  rintro rfl
  exact absurd (numbers.2 '0' (by decide)) (by decide)

/-- **A text of dot numbers is read**, as the cell with the dots whose digits occur. -/
theorem Numbers.read (numbers : Numbers t) :
    ∃ cell, cellOfDots t = .ok cell
      ∧ ∀ d, hasDot cell d = true ↔ ∃ c ∈ t.toList, dotDigits[d]? = some c := by
  obtain ⟨cell, read, dots⟩ := gatherDots_of_named numbers.2 0
  refine ⟨cell, ?_, fun d => ?_⟩
  · rw [cellOfDots, if_neg numbers.ne_zero, if_neg numbers.1, read]
    rfl
  · rw [dots d, or_iff_right not_hasDot_zero]

/-- A text of dot numbers is read as no other cell. -/
theorem Numbers.read_iff (numbers : Numbers t) :
    cellOfDots t = .ok cell ↔
      ∀ d, hasDot cell d = true ↔ ∃ c ∈ t.toList, dotDigits[d]? = some c := by
  obtain ⟨cell', read, dots⟩ := numbers.read
  rw [read, Except.ok.injEq]
  constructor
  · rintro rfl
    exact dots
  · intro dots'
    exact cell_ext fun d => (dots d).trans (dots' d).symm

/-- **A text with a stray character is refused**, with the text and the first such character. -/
theorem FirstStray.refused (stray : FirstStray t c) (other : t ≠ "0") :
    cellOfDots t = .error (.notADot t c) := by
  obtain ⟨before, after, split, named, strange⟩ := stray
  have given : t ≠ "" := by
    rintro rfl
    simp at split
  rw [cellOfDots, if_neg other, if_neg given, split, gatherDots_of_stray named strange]
  rfl

/-- Read are `0` and the texts of dot numbers, and no others. -/
theorem cellOfDots_isOk_iff : (∃ cell, cellOfDots t = .ok cell) ↔ t = "0" ∨ Numbers t := by
  constructor
  · rintro ⟨cell, read⟩
    by_cases blank : t = "0"
    · exact .inl blank
    have given : t ≠ "" := by
      rintro rfl
      cases read
    rcases numbers_or_stray given with numbers | ⟨c, stray⟩
    · exact .inr numbers
    · cases read.symm.trans (stray.refused blank)
  · rintro (rfl | numbers)
    · exact ⟨0, rfl⟩
    · exact numbers.read.imp fun cell read => read.1

/-- **What is said of a text that is refused**: which is the first stray character, if there is any
character. -/
theorem exists_stray_of_error {fault : CellFault} (refused : cellOfDots t = .error fault)
    (given : t ≠ "") : ∃ c, FirstStray t c ∧ fault = .notADot t c := by
  have other : t ≠ "0" := by
    rintro rfl
    cases refused
  rcases numbers_or_stray given with numbers | ⟨c, stray⟩
  · obtain ⟨cell, read, -⟩ := numbers.read
    cases refused.symm.trans read
  · cases refused.symm.trans (stray.refused other)
    exact ⟨c, stray, rfl⟩

/-- **The dots of a cell that was read are those whose digits occur in the text.** -/
theorem hasDot_of_cellOfDots (read : cellOfDots t = .ok cell) (d : Nat) :
    hasDot cell d = true ↔ ∃ c ∈ t.toList, dotDigits[d]? = some c := by
  rcases cellOfDots_isOk_iff.mp ⟨cell, read⟩ with rfl | numbers
  · cases read
    refine iff_of_false not_hasDot_zero ?_
    rintro ⟨c, among, digit⟩
    have zero : c = '0' := by simpa using among
    exact absurd (zero ▸ List.mem_of_getElem? digit) (by decide)
  · exact numbers.read_iff.mp read d

/-- A cell spelled by dot numbers is not blank. -/
theorem Numbers.marked (numbers : Numbers t) (read : cellOfDots t = .ok cell) : cell ≠ 0 := by
  obtain ⟨c, among⟩ := numbers.exists_mem
  obtain ⟨d, digit⟩ := List.mem_iff_getElem?.mp (numbers.2 c among)
  rintro rfl
  exact not_hasDot_zero ((hasDot_of_cellOfDots read d).mpr ⟨c, among, digit⟩)

/-- Texts of dot numbers with the same digits are read alike. -/
theorem Numbers.read_alike (numbers : Numbers t) (same : ∀ c, c ∈ s.toList ↔ c ∈ t.toList) :
    cellOfDots s = cellOfDots t := by
  have given : s ≠ "" := by
    rintro rfl
    obtain ⟨c, among⟩ := numbers.exists_mem
    cases (same c).mpr among
  have numbers' : Numbers s := ⟨given, fun c among => numbers.2 c ((same c).mp among)⟩
  obtain ⟨cell, read, dots⟩ := numbers.read
  rw [read, numbers'.read_iff]
  simp only [same, dots, implies_true]

/-! ### Writing -/

/-- The text of a cell with dots: their digits, in the order of the dots. -/
theorem toList_dotsOfCell (marked : cell ≠ 0) :
    (dotsOfCell cell).toList =
      ((List.range dotCount).filter (hasDot cell)).map fun d => Char.ofNat ('1'.toNat + d) := by
  rw [dotsOfCell, if_neg marked, String.toList_ofList]

theorem dotDigits_eq :
    dotDigits = (List.range dotCount).map fun d => Char.ofNat ('1'.toNat + d) := by
  decide

theorem names_iff_written :
    dotDigits[d]? = some c ↔ d < dotCount ∧ Char.ofNat ('1'.toNat + d) = c := by
  rw [dotDigits_eq, List.getElem?_map, Option.map_eq_some_iff]
  simp [List.getElem?_eq_some_iff]

theorem mem_dotsOfCell_iff (marked : cell ≠ 0) :
    c ∈ (dotsOfCell cell).toList ↔ ∃ d, dotDigits[d]? = some c ∧ hasDot cell d = true := by
  simp only [toList_dotsOfCell marked, List.mem_map, List.mem_filter, List.mem_range,
    names_iff_written, and_right_comm]

/-- Digits ascend in the text of a cell. -/
theorem dotsOfCell_ascends (cell : UInt8) : (dotsOfCell cell).toList.Pairwise (· < ·) := by
  by_cases marked : cell = 0
  · rw [marked]
    decide
  · have ordered : dotDigits.Pairwise (· < ·) := by decide
    rw [dotDigits_eq] at ordered
    rw [toList_dotsOfCell marked]
    exact ordered.sublist (List.filter_sublist.map _)

theorem numbers_dotsOfCell (marked : cell ≠ 0) : Numbers (dotsOfCell cell) := by
  obtain ⟨d, set⟩ := exists_hasDot marked
  obtain ⟨c, digit⟩ := exists_digit set
  constructor
  · intro empty
    have among := (mem_dotsOfCell_iff marked).mpr ⟨d, digit, set⟩
    rw [empty] at among
    cases among
  · intro c among
    obtain ⟨e, digit, -⟩ := (mem_dotsOfCell_iff marked).mp among
    exact List.mem_of_getElem? digit

/-- **What is written for a cell is read as that cell.** -/
theorem cellOfDots_dotsOfCell (cell : UInt8) : cellOfDots (dotsOfCell cell) = .ok cell := by
  by_cases marked : cell = 0
  · rw [marked]
    rfl
  rw [(numbers_dotsOfCell marked).read_iff]
  intro d
  constructor
  · intro set
    obtain ⟨c, digit⟩ := exists_digit set
    exact ⟨c, (mem_dotsOfCell_iff marked).mpr ⟨d, digit, set⟩, digit⟩
  · rintro ⟨c, among, digit⟩
    obtain ⟨e, digit', set⟩ := (mem_dotsOfCell_iff marked).mp among
    rwa [(names_one digit').mp digit]

/-- What is written for a cell that was read has the characters of the text that was read. -/
theorem mem_dotsOfCell_of_read (read : cellOfDots t = .ok cell) :
    c ∈ (dotsOfCell cell).toList ↔ c ∈ t.toList := by
  rcases cellOfDots_isOk_iff.mp ⟨cell, read⟩ with rfl | numbers
  · cases read
    rfl
  have marked : cell ≠ 0 := numbers.marked read
  rw [mem_dotsOfCell_iff marked]
  constructor
  · rintro ⟨d, digit, set⟩
    obtain ⟨c', among, digit'⟩ := (hasDot_of_cellOfDots read d).mp set
    cases digit.symm.trans digit'
    exact among
  · intro among
    obtain ⟨d, digit⟩ := List.mem_iff_getElem?.mp (numbers.2 c among)
    exact ⟨d, digit, (hasDot_of_cellOfDots read d).mpr ⟨c, among, digit⟩⟩

/-- Texts whose characters ascend are equal when they have the same characters. -/
theorem eq_of_ascends (left : s.toList.Pairwise (· < ·)) (right : t.toList.Pairwise (· < ·))
    (same : ∀ c, c ∈ s.toList ↔ c ∈ t.toList) : s = t := by
  have perm : s.toList.Perm t.toList :=
    (List.perm_ext_iff_of_nodup (left.imp ne_of_lt) (right.imp ne_of_lt)).mpr same
  apply String.toList_inj.mp
  exact perm.eq_of_pairwise (fun _ _ _ _ le ge => absurd le (lt_asymm ge)) left right

/-- **A cell is written by its spelling in ascending order**, and that is its only such spelling. -/
theorem eq_dotsOfCell_iff :
    t = dotsOfCell cell ↔ cellOfDots t = .ok cell ∧ t.toList.Pairwise (· < ·) := by
  constructor
  · rintro rfl
    exact ⟨cellOfDots_dotsOfCell cell, dotsOfCell_ascends cell⟩
  · rintro ⟨read, ascends⟩
    exact (eq_of_ascends (dotsOfCell_ascends cell) ascends fun c => mem_dotsOfCell_of_read read).symm

/-- What there is to know of a text as the spelling of a cell. -/
structure Spelling (t : String) : Prop where
  /-- It is read exactly if it is `0` or consists of dot numbers. -/
  understood : (∃ cell, cellOfDots t = .ok cell) ↔ t = "0" ∨ Numbers t
  /-- A dot is set exactly if its digit occurs. -/
  dots : ∀ cell, cellOfDots t = .ok cell →
    ∀ d, hasDot cell d = true ↔ ∃ c ∈ t.toList, dotDigits[d]? = some c
  /-- The order of the digits and how often they occur make no difference. -/
  respelt : Numbers t → ∀ s, (∀ c, c ∈ s.toList ↔ c ∈ t.toList) → cellOfDots s = cellOfDots t
  /-- What is written for the cell has the same characters, in ascending order and each once. -/
  tidied : ∀ cell, cellOfDots t = .ok cell →
    (dotsOfCell cell).toList.Pairwise (· < ·) ∧ ∀ c, c ∈ (dotsOfCell cell).toList ↔ c ∈ t.toList
  /-- It is what is written for a cell exactly if it is read as the cell and ascends. -/
  canonical : ∀ cell, t = dotsOfCell cell ↔ cellOfDots t = .ok cell ∧ t.toList.Pairwise (· < ·)
  /-- When it is refused but not empty, the text is named and its first character that is no dot
  number. -/
  refused : t ≠ "" → ∀ fault, cellOfDots t = .error fault →
    ∃ c, FirstStray t c ∧ fault = .notADot t c
      ∧ fault.message = "'" ++ t ++ "': '" ++ String.singleton c ++ "' is not a dot number (1-8)"

/-- **Cells are spelled by their dots**: exactly `0` and the texts of dot numbers are read, as the
cell with the dots that occur; every cell is written by the one spelling that ascends, and reading
gives it back. -/
theorem cellOfDots_spells :
    (∀ t, Spelling t) ∧ ∀ cell, cellOfDots (dotsOfCell cell) = .ok cell := by
  refine ⟨fun t => ?_, cellOfDots_dotsOfCell⟩
  constructor
  case understood => exact cellOfDots_isOk_iff
  case dots => exact fun _ => hasDot_of_cellOfDots
  case respelt => exact fun numbers _ => numbers.read_alike
  case tidied =>
    intro cell read
    exact ⟨dotsOfCell_ascends cell, fun _ => mem_dotsOfCell_of_read read⟩
  case canonical => exact fun _ => eq_dotsOfCell_iff
  case refused =>
    intro given fault refused
    obtain ⟨c, stray, rfl⟩ := exists_stray_of_error refused given
    exact ⟨c, stray, rfl, rfl⟩

example : cellOfDots "5412541" = .ok 0x1B ∧ dotsOfCell 0x1B = "1245" := by decide +kernel

end BrailleDisplay
