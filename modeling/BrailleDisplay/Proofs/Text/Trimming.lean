import BrailleDisplay.Proofs.Text.Beginnings
import BrailleDisplay.Text.Letter

/-!
# Blanks around a text

* `Blank`, `Bare` — a text of blanks alone, and one with a blank at neither end;
* `Trimmed` — a text is another with blanks around it;
* `trim_eq_iff` — trimming finds the bare text, and there is only one;
* `trim_surrounded` — more blanks around a text make no difference;
* `trim_at` — past a character that is no blank, trimming does not reach;
* `trim_asciiLower` — nor does the case of letters make a difference.
-/

namespace BrailleDisplay.Text

/-- Blanks and nothing else. -/
def Blank (s : String) : Prop :=
  ∀ c ∈ s.toList, isBlank c = true

/-- A text that neither begins nor ends with a blank. -/
structure Bare (s : String) : Prop where
  front : ∀ c ∈ s.toList.head?, isBlank c = false
  back : ∀ c ∈ s.toList.getLast?, isBlank c = false

/-- A bare text, and what it is within nothing but blanks. -/
def Trimmed (s body : String) : Prop :=
  ∃ before after, s = before ++ body ++ after ∧ Blank before ∧ Blank after ∧ Bare body

/-- The text without the blanks at its front. -/
def trimStart (s : String) : String :=
  String.ofList (s.toList.dropWhile isBlank)

/-- The text without the blanks at its end. -/
def trimEnd (s : String) : String :=
  String.ofList (s.toList.reverse.dropWhile isBlank).reverse

/-! ### Dropping blanks -/

variable {chars rest : List Char} {c : Char}

theorem dropBlanks_eq_self (front : ∀ c ∈ chars.head?, isBlank c = false) :
    chars.dropWhile isBlank = chars := by
  cases chars with
  | nil => rfl
  | cons c rest => rw [List.dropWhile_cons, front c rfl]; rfl

theorem head_dropBlanks (chars : List Char) :
    ∀ c ∈ (chars.dropWhile isBlank).head?, isBlank c = false := by
  intro c first
  have stopped := List.head?_dropWhile_not isBlank chars
  rw [Option.mem_def.mp first] at stopped
  exact stopped

/-- Dropping stops where there is no blank. -/
theorem dropBlanks_append_cons (stop : isBlank c = false) :
    (chars ++ c :: rest).dropWhile isBlank = chars.dropWhile isBlank ++ c :: rest := by
  induction chars with
  | nil => simp [stop]
  | cons d more ih =>
    rw [List.cons_append, List.dropWhile_cons, List.dropWhile_cons, ih]
    split <;> rfl

/-- Past a character that is no blank, trimming does not reach. -/
theorem trimBlanks_append_cons (stop : isBlank c = false) :
    trimBlanks (chars ++ c :: rest)
      = chars.dropWhile isBlank ++ c :: (rest.reverse.dropWhile isBlank).reverse := by
  rw [trimBlanks, dropBlanks_append_cons stop, List.reverse_append, List.reverse_cons,
    List.append_assoc, List.singleton_append, dropBlanks_append_cons stop]
  simp

/-- Blanks around characters that begin and end with none are all that is dropped. -/
theorem trimBlanks_surrounded {before body after : List Char}
    (leading : ∀ c ∈ before, isBlank c = true) (trailing : ∀ c ∈ after, isBlank c = true)
    (front : ∀ c ∈ body.head?, isBlank c = false) (back : ∀ c ∈ body.getLast?, isBlank c = false) :
    trimBlanks (before ++ body ++ after) = body := by
  rw [trimBlanks, List.append_assoc, List.dropWhile_append_of_pos leading]
  cases body with
  | nil =>
    rw [List.nil_append, ← List.append_nil after, List.dropWhile_append_of_pos trailing]
    rfl
  | cons c rest =>
    have kept : (c :: rest ++ after).dropWhile isBlank = c :: rest ++ after :=
      dropBlanks_eq_self front
    rw [kept, List.reverse_append, List.dropWhile_append_of_pos
      (fun d among => trailing d (List.mem_reverse.mp among)),
      dropBlanks_eq_self (by rwa [List.head?_reverse]), List.reverse_reverse]

/-! ### The text without its blanks -/

variable {s body : String}

theorem blank_takeWhile (chars : List Char) : ∀ c ∈ chars.takeWhile isBlank, isBlank c = true :=
  List.all_eq_true.mp List.all_takeWhile

theorem trimmed_trim (s : String) : Trimmed s (trim s) := by
  let front := s.toList.dropWhile isBlank
  have atFront : s.toList = s.toList.takeWhile isBlank ++ front :=
    List.takeWhile_append_dropWhile.symm
  have atBack : front = trimBlanks s.toList ++ (front.reverse.takeWhile isBlank).reverse := by
    rw [trimBlanks, ← List.reverse_append, List.takeWhile_append_dropWhile, List.reverse_reverse]
  refine ⟨String.ofList (s.toList.takeWhile isBlank),
    String.ofList (front.reverse.takeWhile isBlank).reverse, ?_, ?_, ?_, ?_, ?_⟩
  · rw [trim, ← String.ofList_append, ← String.ofList_append, List.append_assoc, ← atBack,
      ← atFront, String.ofList_toList]
  · rw [Blank, String.toList_ofList]
    exact blank_takeWhile _
  · rw [Blank, String.toList_ofList]
    exact fun c among => blank_takeWhile _ c (List.mem_reverse.mp among)
  · intro c first
    rw [trim, String.toList_ofList] at first
    refine head_dropBlanks s.toList c ?_
    show c ∈ front.head?
    rw [atBack, List.head?_append, Option.mem_def.mp first]
    rfl
  · intro c last
    rw [trim, String.toList_ofList, trimBlanks, List.getLast?_reverse] at last
    exact head_dropBlanks _ c last

/-- **Trimming finds the bare text within the blanks**, and there is only one. -/
theorem trim_eq_iff : trim s = body ↔ Trimmed s body := by
  constructor
  · rintro rfl
    exact trimmed_trim s
  · rintro ⟨before, after, rfl, leading, trailing, bare⟩
    rw [trim, String.toList_append, String.toList_append,
      trimBlanks_surrounded leading trailing bare.front bare.back, String.ofList_toList]

/-- What holds of the bare text within the blanks holds of the trimmed text. -/
theorem exists_trimmed_iff {P : String → Prop} :
    (∃ body, Trimmed s body ∧ P body) ↔ P (trim s) := by
  simp only [← trim_eq_iff, exists_eq_left']

theorem bare_trim (s : String) : Bare (trim s) := by
  obtain ⟨-, -, -, -, -, bare⟩ := trimmed_trim s
  exact bare

theorem Bare.trim_eq (bare : Bare s) : trim s = s :=
  trim_eq_iff.mpr ⟨"", "", by simp, by simp [Blank], by simp [Blank], bare⟩

theorem bare_of_ends {first last : Char} (begins : s.toList.head? = some first)
    (ends : s.toList.getLast? = some last) (front : isBlank first = false)
    (back : isBlank last = false) : Bare s where
  front c here := by
    rw [begins, Option.mem_some_iff] at here
    rwa [← here]
  back c here := by
    rw [ends, Option.mem_some_iff] at here
    rwa [← here]

/-- A bare beginning and a bare end, with something in each, make a bare text. -/
theorem Bare.join {front inner back : String} (begins : Bare front) (given : front ≠ "")
    (ends : Bare (inner ++ back)) (present : back ≠ "") : Bare (front ++ back) := by
  have atFront : front.toList ≠ [] := mt String.toList_eq_nil_iff.mp given
  have atBack : back.toList ≠ [] := mt String.toList_eq_nil_iff.mp present
  have first : (front ++ back).toList.head? = front.toList.head? := by
    rw [String.toList_append, List.head?_append, List.head?_eq_some_head atFront, Option.some_or]
  have last (s : String) : (s ++ back).toList.getLast? = back.toList.getLast? := by
    rw [String.toList_append, List.getLast?_append, List.getLast?_eq_some_getLast atBack,
      Option.some_or]
  refine ⟨?_, ?_⟩
  · rw [first]
    exact begins.front
  · rw [last front, ← last inner]
    exact ends.back

theorem Blank.append {a b : String} (first : Blank a) (second : Blank b) : Blank (a ++ b) := by
  intro c among
  rw [String.toList_append, List.mem_append] at among
  exact among.elim (first c) (second c)

/-- **More blanks around a text make no difference.** -/
theorem trim_surrounded {before after : String} (leading : Blank before)
    (trailing : Blank after) : trim (before ++ s ++ after) = trim s := by
  obtain ⟨inner, outer, split, inside, outside, bare⟩ := trimmed_trim s
  refine trim_eq_iff.mpr
    ⟨before ++ inner, outer ++ after, ?_, leading.append inside, outside.append trailing, bare⟩
  calc before ++ s ++ after
      = before ++ (inner ++ trim s ++ outer) ++ after := by rw [← split]
    _ = before ++ inner ++ trim s ++ (outer ++ after) := by simp only [String.append_assoc]

/-- Trimming does not reach past a character that is no blank. -/
theorem trim_at {before mark after : String} {c : Char} (single : mark.toList = [c])
    (stop : isBlank c = false) :
    trim (before ++ mark ++ after) = trimStart before ++ mark ++ trimEnd after := by
  rw [← String.toList_inj, trim, String.toList_ofList, String.toList_append, String.toList_append,
    String.toList_append, String.toList_append, single, List.append_assoc, List.singleton_append,
    trimBlanks_append_cons stop, trimStart, trimEnd, String.toList_ofList, String.toList_ofList,
    List.append_assoc, List.singleton_append]

theorem trim_eq (s : String) : trim s = trimEnd (trimStart s) := by
  rw [trim, trimBlanks, trimEnd, trimStart, String.toList_ofList]

/-! ### The case of letters -/

theorem isBlank_toLower (c : Char) : isBlank c.toLower = isBlank c := by
  refine forall_char (P := fun c => isBlank c.toLower = isBlank c) (by decide) ?_ c
  intro c high
  rw [toLower_of_high high]

theorem dropBlanks_toLower (chars : List Char) :
    (chars.map Char.toLower).dropWhile isBlank = (chars.dropWhile isBlank).map Char.toLower := by
  have same : isBlank ∘ Char.toLower = isBlank := funext isBlank_toLower
  rw [List.dropWhile_map, same]

theorem asciiLower_trimStart (s : String) :
    asciiLower (trimStart s) = trimStart (asciiLower s) := by
  rw [asciiLower, trimStart, trimStart, asciiLower, String.toList_ofList, String.toList_ofList,
    dropBlanks_toLower]

theorem asciiLower_trimEnd (s : String) : asciiLower (trimEnd s) = trimEnd (asciiLower s) := by
  rw [asciiLower, trimEnd, trimEnd, asciiLower, String.toList_ofList, String.toList_ofList,
    List.map_reverse, ← dropBlanks_toLower, List.map_reverse]

/-- Nor does it matter whether letters are folded before trimming or after. -/
theorem asciiLower_trim (s : String) : asciiLower (trim s) = trim (asciiLower s) := by
  rw [trim_eq, trim_eq, asciiLower_trimEnd, asciiLower_trimStart]

end BrailleDisplay.Text
