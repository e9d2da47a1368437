import BrailleDisplay.Text.Decimal
import BrailleDisplay.Text.Json
import Mathlib.Data.List.Basic

/-!
# Reading fields back

A line of several fields is read by cutting it at the marks between them, as long as no field holds
such a mark itself.  Numbers never do: they are made of digits, points, signs and exponents.

* `before`, `after` — a text cut at a mark;
* `Numeral` — texts made of what numbers are made of, with `Binary.numeral_fixed` and
  `Binary.numeral_plain`;
* `Json.fieldsOf`, `Json.fieldsOf_compact` — the fields of a record without inner structure.
-/

namespace BrailleDisplay.Text

/-! ## Cutting -/

/-- What stands before a mark. -/
def before (mark : Char) (text : List Char) : List Char :=
  text.takeWhile (· != mark)

/-- What stands behind a mark. -/
def after (mark : Char) (text : List Char) : List Char :=
  (text.dropWhile (· != mark)).drop 1

section

variable {mark : Char} {front : List Char}

theorem before_append (absent : mark ∉ front) (back : List Char) :
    before mark (front ++ mark :: back) = front := by
  have passed : ∀ c ∈ front, (c != mark) = true := fun c inside =>
    bne_iff_ne.mpr (ne_of_mem_of_not_mem inside absent)
  rw [before, List.takeWhile_append_of_pos passed,
    List.takeWhile_cons_of_neg (by rw [bne_self_eq_false]; exact Bool.false_ne_true),
    List.append_nil]

theorem after_append (absent : mark ∉ front) (back : List Char) :
    after mark (front ++ mark :: back) = back := by
  have passed : ∀ c ∈ front, (c != mark) = true := fun c inside =>
    bne_iff_ne.mpr (ne_of_mem_of_not_mem inside absent)
  rw [after, List.dropWhile_append_of_pos passed,
    List.dropWhile_cons_of_neg (by rw [bne_self_eq_false]; exact Bool.false_ne_true)]
  rfl

end

/-! ## Numbers -/

/-- What numbers are made of. -/
def numeral (c : Char) : Bool :=
  c.isDigit || c == '.' || c == '-' || c == 'e'

/-- A text made of what numbers are made of. -/
def Numeral (text : List Char) : Prop :=
  ∀ c ∈ text, numeral c = true

instance : DecidablePred Numeral :=
  fun text => decidable_of_iff (text.all numeral = true) List.all_eq_true

theorem Numeral.absent {text : List Char} (numeral : Numeral text) {mark : Char}
    (other : Text.numeral mark = false) : mark ∉ text := by
  intro inside
  have made := numeral mark inside
  rw [other] at made
  cases made

theorem Numeral.append {front back : List Char} (first : Numeral front) (second : Numeral back) :
    Numeral (front ++ back) := by
  intro c inside
  rcases List.mem_append.mp inside with inside | inside
  · exact first c inside
  · exact second c inside

theorem Numeral.of_subset {part text : List Char} (whole : Numeral text) (subset : part ⊆ text) :
    Numeral part :=
  fun c inside => whole c (subset inside)

theorem numeral_replicate (count : Nat) : Numeral (List.replicate count '0') := by
  intro c inside
  obtain rfl := List.eq_of_mem_replicate inside
  rfl

theorem isDigit_of_mem_toString {n : Nat} {c : Char} (inside : c ∈ (toString n).toList) :
    c.isDigit = true := by
  rw [Nat.toString_eq_repr, Nat.repr_eq_ofList_toDigits, String.toList_ofList] at inside
  exact Nat.isDigit_of_mem_toDigits (by decide) (by decide) inside

theorem numeral_nat (n : Nat) : Numeral (toString n).toList := by
  intro c inside
  rw [numeral, isDigit_of_mem_toString inside]
  rfl

theorem numeral_int (n : Int) : Numeral (toString n).toList := by
  have sign : Numeral "-".toList := by decide
  show Numeral n.repr.toList
  rw [Int.repr_eq_if]
  split
  · exact numeral_nat _
  · rw [String.toList_append]
    exact sign.append (numeral_nat _)

theorem mem_padLeft {width : Nat} {fill : Char} {text : String} {c : Char}
    (inside : c ∈ (padLeft width fill text).toList) : c = fill ∨ c ∈ text.toList := by
  rw [padLeft, String.toList_ofList, List.leftpad] at inside
  rcases List.mem_append.mp inside with filled | inside
  · exact .inl (List.eq_of_mem_replicate filled)
  · exact .inr inside

namespace Binary

theorem numeral_fixed (places : Nat) (x : Binary) : Numeral (x.fixed places).toList := by
  have point : Numeral ".".toList := by decide
  simp only [fixed]
  split
  · exact numeral_nat _
  · rw [String.toList_append, String.toList_append]
    refine ((numeral_nat _).append point).append ?_
    intro c inside
    rcases mem_padLeft inside with rfl | inside
    · rfl
    · exact numeral_nat _ c inside

/-- However a number is written out, only digits, points, signs and exponents are used. -/
theorem numeral_plain (x : Binary) : Numeral x.plain.toList := by
  have point : Numeral ['.'] := by decide
  rw [plain]
  split
  · decide
  have digits := numeral_nat x.shortest.digits
  simp only
  generalize (toString x.shortest.digits).toList = text at digits ⊢
  have start (n : Nat) : Numeral (text.take n) := digits.of_subset (List.take_subset ..)
  have rest (n : Nat) : Numeral (text.drop n) := digits.of_subset (List.drop_subset ..)
  split
  · rw [String.toList_ofList]
    exact (digits.append (numeral_replicate _)).append (by decide)
  split
  · rw [String.toList_ofList]
    exact ((start _).append point).append (rest _)
  split
  · rw [String.toList_ofList]
    exact (Numeral.append (by decide) (numeral_replicate _)).append digits
  · rw [String.toList_append, String.toList_ofList]
    refine .append (.append ((start 1).append ?_) (by decide)) (numeral_int _)
    split
    · decide
    · exact point.append (rest 1)

end Binary

/-! ## Records -/

namespace Json

/-- What needs no escape in a string. -/
theorem escape_eq {c : Char} (quote : c ≠ '"') (backslash : c ≠ '\\') (visible : 32 ≤ c.toNat) :
    escape c = [c] := by
  have other (control : Char) (low : control.toNat < 32) : c ≠ control := by
    rintro rfl
    omega
  rw [escape, if_neg quote, if_neg backslash, if_neg (other '\x08' (by decide)),
    if_neg (other '\t' (by decide)), if_neg (other '\n' (by decide)),
    if_neg (other '\x0c' (by decide)), if_neg (other '\r' (by decide)), if_neg (by omega)]

theorem flatMap_escape {text : List Char} (plain : ∀ c ∈ text, escape c = [c]) :
    text.flatMap escape = text := by
  induction text with
  | nil => rfl
  | cons c rest ih =>
    rw [List.flatMap_cons, plain c List.mem_cons_self,
      ih fun c inside => plain c (List.mem_cons_of_mem _ inside)]
    rfl

/-- A text in which nothing needs an escape stands in a string as it is. -/
theorem toList_quote {value : String} (plain : ∀ c ∈ value.toList, escape c = [c]) :
    (quote value).toList = '"' :: value.toList ++ ['"'] := by
  rw [quote, flatMap_escape plain, String.toList_ofList]
  rfl

/-- The fields of a record, keys and values as they stand there. -/
def fieldsOf (text : List Char) : List (List Char × List Char) :=
  ((text.drop 1).dropLast.splitOn ',').map fun field => (before ':' field, after ':' field)

/-- A field that shows no comma, and no colon in its key. -/
def Flat (field : String × Json) : Prop :=
  ',' ∉ (quote field.1).toList ∧ ':' ∉ (quote field.1).toList
    ∧ ',' ∉ (compact field.2).toList

theorem compactFields_eq (fields : List (String × Json)) :
    compactFields fields = fields.map fun field => quote field.1 ++ ":" ++ compact field.2 := by
  induction fields with
  | nil => rfl
  | cons field rest ih =>
    rw [compactFields, ih]
    rfl

/-- A field as it stands in a record. -/
def fieldText (field : String × Json) : List Char :=
  (quote field.1).toList ++ ':' :: (compact field.2).toList

theorem toList_compact_object (fields : List (String × Json)) :
    (compact (.object fields)).toList
      = '\x7b' :: [','].intercalate (fields.map fieldText) ++ ['\x7d'] := by
  have one : (fun field : String × Json => (quote field.1 ++ ":" ++ compact field.2).toList)
      = fieldText := by
    funext field
    rw [String.toList_append, String.toList_append, List.append_assoc]
    rfl
  rw [compact, compactFields_eq, String.toList_append, String.toList_append,
    String.toList_intercalate, List.map_map, ← one]
  rfl

/-- **A flat record is read as the fields it was made of.** -/
theorem fieldsOf_compact {fields : List (String × Json)} (some : fields ≠ [])
    (flat : ∀ field ∈ fields, Flat field) :
    fieldsOf (compact (.object fields)).toList
      = fields.map fun field => ((quote field.1).toList, (compact field.2).toList) := by
  have uncut : ∀ text ∈ fields.map fieldText, ',' ∉ text := by
    intro text inside
    obtain ⟨field, member, rfl⟩ := List.mem_map.mp inside
    obtain ⟨key, -, value⟩ := flat field member
    rw [fieldText, List.mem_append, List.mem_cons]
    rintro (inside | colon | inside)
    · exact key inside
    · exact absurd colon (by decide)
    · exact value inside
  have cut : ([','].intercalate (fields.map fieldText)).splitOn ',' = fields.map fieldText :=
    List.splitOn_intercalate ',' uncut (by simpa using some)
  rw [fieldsOf, toList_compact_object, List.cons_append, List.drop_succ_cons, List.drop_zero,
    List.dropLast_concat, cut, List.map_map]
  refine List.map_congr_left fun field member => ?_
  obtain ⟨-, colon, -⟩ := flat field member
  show (before ':' (fieldText field), after ':' (fieldText field)) = _
  rw [fieldText, before_append colon, after_append colon]

end Json

end BrailleDisplay.Text
