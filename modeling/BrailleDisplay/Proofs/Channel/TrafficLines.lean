import BrailleDisplay.Channel.Traffic
import BrailleDisplay.Proofs.Text.Fields
import BrailleDisplay.Proofs.Text.Hex
import Mathlib

/-!
# Reading printed traffic back

A printed line loses nothing but the exact time: whichever format it is in, the direction, the
number of bytes and the bytes can be read from it.

* `readTraffic` — reading a line by its marks, or by the keys of its fields;
* `readTraffic_render` — every line is read as what it was printed for.
-/

namespace BrailleDisplay

open Text

/-! ## Reading -/

/-- A field without blanks and without quotes. -/
def bare (field : List Char) : List Char :=
  field.filter fun c => c != ' ' && c != '"'

/-- The direction of an arrow. -/
def Direction.ofArrow? : List Char → Option Direction
  | ['>', '>'] => some .toDevice
  | ['<', '<'] => some .fromDevice
  | _ => none

/-- What the three fields of a line tell. -/
def readFields (arrow size dump : List Char) : Option (Direction × Nat × List UInt8) := do
  let direction ← Direction.ofArrow? (bare arrow)
  let count ← (String.ofList (bare size)).toNat?
  let bytes ← hexPairs? (bare dump)
  return (direction, count, bytes)

/-- What a line tells. -/
def readTraffic (format : TrafficFormat) (line : String) : Option (Direction × Nat × List UInt8) :=
  match format with
  | .text =>
    let behindTime := after ']' line.toList
    let behindArrow := after '(' behindTime
    readFields (before '(' behindTime) (before ')' behindArrow) (after ')' behindArrow)
  | .json => do
    let fields := Json.fieldsOf line.toList
    let arrow ← fields.lookup (Json.quote "dir").toList
    let size ← fields.lookup (Json.quote "len").toList
    let dump ← fields.lookup (Json.quote "hex").toList
    readFields arrow size dump

/-! ## Fields -/

theorem bare_append (front back : List Char) : bare (front ++ back) = bare front ++ bare back :=
  List.filter_append ..

theorem bare_cons_blank (field : List Char) : bare (' ' :: field) = bare field := rfl

theorem bare_quoted (field : List Char) : bare ('"' :: field ++ ['"']) = bare field := by
  rw [List.cons_append]
  show bare (field ++ ['"']) = _
  rw [bare_append]
  exact List.append_nil _

theorem bare_blanks (count : Nat) (field : List Char) :
    bare (List.replicate count ' ' ++ field) = bare field := by
  rw [bare_append, bare, List.filter_replicate]
  rfl

theorem bare_nat (n : Nat) : bare (toString n).toList = (toString n).toList := by
  refine List.filter_eq_self.mpr fun c inside => ?_
  have digit := isDigit_of_mem_toString inside
  rw [Bool.and_eq_true, bne_iff_ne, bne_iff_ne]
  constructor <;> rintro rfl <;> exact absurd digit (by decide)

theorem bare_hexDump (bytes : List UInt8) :
    bare (hexDump bytes).toList = bytes.flatMap hexDigits := by
  refine filter_hexDump rfl (fun c value reads => ?_) bytes
  rw [Bool.and_eq_true, bne_iff_ne, bne_iff_ne]
  exact ⟨ne_of_hexValue? reads (by decide), ne_of_hexValue? reads (by decide)⟩

/-- The fields of a line tell what it was printed for, whatever blanks and quotes are about them. -/
theorem readFields_eq {arrow size dump : List Char} {direction : Direction} {bytes : List UInt8}
    (arrows : bare arrow = direction.arrow.toList)
    (count : bare size = (toString bytes.length).toList)
    (digits : bare dump = bytes.flatMap hexDigits) :
    readFields arrow size dump = some (direction, bytes.length, bytes) := by
  have number : (String.ofList (toString bytes.length).toList).toNat? = some bytes.length := by
    rw [String.ofList_toList]
    exact Nat.toNat?_repr _
  rw [readFields, arrows, count, digits, number, hexPairs?_flatMap_hexDigits]
  cases direction <;> rfl

/-! ## Lines -/

theorem TrafficLine.toList_render_text (line : TrafficLine) :
    ∃ time : List Char, ']' ∉ time ∧ (line.render .text).toList
      = time ++ ']' :: ((' ' :: line.direction.arrow.toList ++ [' ']) ++ '('
        :: ((decimalWidth 3 line.bytes.length).toList ++ ')'
        :: ' ' :: (hexDump line.bytes).toList)) := by
  let shown := padLeft 9 ' ' ((Binary.ofFloat (seconds line.time)).fixed 3)
  refine ⟨'[' :: shown.toList, ?_, ?_⟩
  · rw [List.mem_cons]
    rintro (opening | inside)
    · exact absurd opening (by decide)
    · rcases mem_padLeft inside with blank | inside
      · exact absurd blank (by decide)
      · exact (Binary.numeral_fixed 3 _).absent (by decide) inside
  · show ("[" ++ shown ++ "] " ++ line.direction.arrow ++ " ("
        ++ decimalWidth 3 line.bytes.length ++ ") " ++ hexDump line.bytes).toList = _
    generalize shown = time
    generalize decimalWidth 3 line.bytes.length = size
    generalize hexDump line.bytes = dump
    simp

theorem readTraffic_render_text (line : TrafficLine) :
    readTraffic .text (line.render .text)
      = some (line.direction, line.bytes.length, line.bytes) := by
  obtain ⟨time, closed, shown⟩ := line.toList_render_text
  have arrow : '(' ∉ ' ' :: line.direction.arrow.toList ++ [' '] := by
    cases line.direction <;> decide
  have size : ')' ∉ (decimalWidth 3 line.bytes.length).toList := by
    intro inside
    rcases mem_padLeft inside with blank | inside
    · exact absurd blank (by decide)
    · exact (numeral_nat _).absent (by decide) inside
  rw [readTraffic, shown, after_append closed, before_append arrow, after_append arrow,
    before_append size, after_append size]
  refine readFields_eq ?_ ?_ ?_
  · cases line.direction <;> rfl
  · rw [decimalWidth, padLeft, String.toList_ofList, List.leftpad, bare_blanks, bare_nat]
  · rw [bare_cons_blank, bare_hexDump]

/-- The fields of a line that is a record. -/
def TrafficLine.fields (line : TrafficLine) : List (String × Json) :=
  [("t", .number (Binary.ofFloat (seconds line.time)).plain),
    ("dir", .text line.direction.arrow), ("len", .nat line.bytes.length),
    ("hex", .text (hexDump line.bytes))]

theorem TrafficLine.render_json (line : TrafficLine) :
    line.render .json = Json.compact (.object line.fields) := rfl

theorem escape_hexDump (bytes : List UInt8) :
    ∀ c ∈ (hexDump bytes).toList, Json.escape c = [c] := by
  intro c inside
  rcases mem_hexDump inside with rfl | ⟨value, reads⟩
  · rfl
  · exact Json.escape_eq (ne_of_hexValue? reads (by decide)) (ne_of_hexValue? reads (by decide))
      (visible_of_hexValue? reads)

theorem TrafficLine.flat_fields (line : TrafficLine) : ∀ field ∈ line.fields, Json.Flat field := by
  have time : ',' ∉ (Binary.ofFloat (seconds line.time)).plain.toList :=
    (Binary.numeral_plain _).absent rfl
  have arrow : ',' ∉ (Json.quote line.direction.arrow).toList := by
    cases line.direction <;> decide
  have size : ',' ∉ (toString line.bytes.length).toList := (numeral_nat _).absent rfl
  have dump : ',' ∉ (Json.quote (hexDump line.bytes)).toList := by
    rw [Json.toList_quote (escape_hexDump line.bytes), List.cons_append, List.mem_cons,
      List.mem_append, List.mem_singleton]
    rintro (opening | inside | closing)
    · exact absurd opening (by decide)
    · rcases mem_hexDump inside with blank | ⟨value, reads⟩
      · exact absurd blank (by decide)
      · exact ne_of_hexValue? reads (by decide) rfl
    · exact absurd closing (by decide)
  have key : ∀ key ∈ ["t", "dir", "len", "hex"],
      ',' ∉ (Json.quote key).toList ∧ ':' ∉ (Json.quote key).toList := by
    decide
  intro field inside
  rw [fields, List.mem_cons, List.mem_cons, List.mem_cons, List.mem_singleton] at inside
  rcases inside with rfl | rfl | rfl | rfl
  · obtain ⟨comma, colon⟩ := key "t" (by decide)
    exact ⟨comma, colon, time⟩
  · obtain ⟨comma, colon⟩ := key "dir" (by decide)
    exact ⟨comma, colon, arrow⟩
  · obtain ⟨comma, colon⟩ := key "len" (by decide)
    exact ⟨comma, colon, size⟩
  · obtain ⟨comma, colon⟩ := key "hex" (by decide)
    exact ⟨comma, colon, dump⟩

theorem TrafficLine.fieldsOf_render (line : TrafficLine) :
    Json.fieldsOf (line.render .json).toList
      = [((Json.quote "t").toList, (Binary.ofFloat (seconds line.time)).plain.toList),
        ((Json.quote "dir").toList, (Json.quote line.direction.arrow).toList),
        ((Json.quote "len").toList, (toString line.bytes.length).toList),
        ((Json.quote "hex").toList, (Json.quote (hexDump line.bytes)).toList)] := by
  have some : line.fields ≠ [] := List.cons_ne_nil _ _
  rw [render_json, Json.fieldsOf_compact some line.flat_fields, fields]
  simp only [List.map, Json.compact, Json.nat]

/-- What stands under the keys of a record. -/
theorem lookup_keys (time arrow size dump : List Char) :
    let fields := [((Json.quote "t").toList, time), ((Json.quote "dir").toList, arrow),
      ((Json.quote "len").toList, size), ((Json.quote "hex").toList, dump)]
    fields.lookup (Json.quote "dir").toList = some arrow
      ∧ fields.lookup (Json.quote "len").toList = some size
      ∧ fields.lookup (Json.quote "hex").toList = some dump :=
  ⟨rfl, rfl, rfl⟩

theorem readTraffic_render_json (line : TrafficLine) :
    readTraffic .json (line.render .json)
      = some (line.direction, line.bytes.length, line.bytes) := by
  obtain ⟨arrow, size, dump⟩ := lookup_keys
    (Binary.ofFloat (seconds line.time)).plain.toList (Json.quote line.direction.arrow).toList
    (toString line.bytes.length).toList (Json.quote (hexDump line.bytes)).toList
  simp only [readTraffic, line.fieldsOf_render, arrow, size, dump, Option.bind_eq_bind,
    Option.bind_some]
  refine readFields_eq ?_ (bare_nat _) ?_
  · cases line.direction <;> rfl
  · rw [Json.toList_quote (escape_hexDump line.bytes), bare_quoted, bare_hexDump]

/-- **Every printed line is read as what it was printed for**: the direction, the number of bytes
and the bytes. -/
theorem readTraffic_render (format : TrafficFormat) (line : TrafficLine) :
    readTraffic format (line.render format)
      = some (line.direction, line.bytes.length, line.bytes) := by
  cases format with
  | text => exact readTraffic_render_text line
  | json => exact readTraffic_render_json line

end BrailleDisplay
