import BrailleDisplay.Text.Hex
import Mathlib.Data.List.Basic

/-!
# Reading hexadecimal text back

The digits of any number of bytes are read as these bytes, and they are what a dump has but for its
blanks.

* `hexValue?_hexDigit` — single digits;
* `hexPairs?_flatMap_hexDigits` — the digits of any number of bytes;
* `filter_hexDump` — a dump without what stands between its digits;
* `mem_hexDump` — the characters of a dump.
-/

namespace BrailleDisplay.Text

theorem hexValue?_hexDigit (n : Fin 16) : hexValue? (hexDigit n) = some n.val := by
  revert n
  decide

theorem hexValue?_of_mem_hexDigits {b : UInt8} {c : Char} (digit : c ∈ hexDigits b) :
    ∃ value, hexValue? c = some value := by
  have := b.toNat_lt
  rcases List.mem_cons.mp digit with rfl | low
  · exact ⟨_, hexValue?_hexDigit ⟨b.toNat / 16, by omega⟩⟩
  · obtain rfl := List.mem_singleton.mp low
    exact ⟨_, hexValue?_hexDigit ⟨b.toNat % 16, by omega⟩⟩

/-- A digit is none of the characters that are no digits. -/
theorem ne_of_hexValue? {c mark : Char} {value : Nat} (reads : hexValue? c = some value)
    (unread : hexValue? mark = none) : c ≠ mark := by
  rintro rfl
  rw [unread] at reads
  cases reads

theorem visible_of_hexValue? {c : Char} {value : Nat} (reads : hexValue? c = some value) :
    32 ≤ c.toNat := by
  have least (low : Char) (reach : low ≤ c) : low.toNat ≤ c.toNat := reach
  rw [hexValue?] at reads
  split at reads
  · next range => exact Nat.le_trans (by decide) (least '0' range.1)
  split at reads
  · next range => exact Nat.le_trans (by decide) (least 'A' range.1)
  split at reads
  · next range => exact Nat.le_trans (by decide) (least 'a' range.1)
  · cases reads

theorem hexPairs?_hexDigits_append (b : UInt8) (rest : List Char) :
    hexPairs? (hexDigits b ++ rest) = (hexPairs? rest).map (b :: ·) := by
  have := b.toNat_lt
  have high := hexValue?_hexDigit ⟨b.toNat / 16, by omega⟩
  have low := hexValue?_hexDigit ⟨b.toNat % 16, by omega⟩
  have whole : UInt8.ofNat (16 * (b.toNat / 16) + b.toNat % 16) = b := by
    rw [Nat.div_add_mod, UInt8.ofNat_toNat]
  simp only [hexDigits, List.cons_append, List.nil_append, hexPairs?, high, low]
  cases hexPairs? rest with
  | none => rfl
  | some bytes => exact congrArg (fun b => some (b :: bytes)) whole

theorem hexPairs?_flatMap_hexDigits (bytes : List UInt8) :
    hexPairs? (bytes.flatMap hexDigits) = some bytes := by
  induction bytes with
  | nil => rfl
  | cons b rest ih => rw [List.flatMap_cons, hexPairs?_hexDigits_append, ih, Option.map_some]

/-! ## Dumps -/

/-- What a separator is filtered out of is the parts, one after the other. -/
theorem filter_intercalate {keep : Char → Bool} {mark : Char} (unkept : keep mark = false)
    (parts : List (List Char)) :
    ([mark].intercalate parts).filter keep = parts.flatMap (List.filter keep) := by
  have without (rest : List Char) : (mark :: rest).filter keep = rest.filter keep :=
    List.filter_cons_of_neg (by rw [unkept]; exact Bool.false_ne_true)
  induction parts with
  | nil => rfl
  | cons part rest ih =>
    cases rest with
    | nil => simp
    | cons next rest =>
      rw [List.intercalate_cons_cons, List.append_assoc, List.filter_append, List.singleton_append,
        without, ih]
      exact List.flatMap_cons.symm

theorem toList_hexDump (bytes : List UInt8) :
    (hexDump bytes).toList = [' '].intercalate (bytes.map hexDigits) := by
  have digits : String.toList ∘ hexByte = hexDigits := funext fun b => String.toList_ofList
  rw [hexDump, String.toList_intercalate, List.map_map, digits]
  rfl

/-- A dump without its blanks, and without anything else that is no digit, is all the digits. -/
theorem filter_hexDump {keep : Char → Bool} (blank : keep ' ' = false)
    (digits : ∀ c value, hexValue? c = some value → keep c = true) (bytes : List UInt8) :
    (hexDump bytes).toList.filter keep = bytes.flatMap hexDigits := by
  have kept (b : UInt8) : (hexDigits b).filter keep = hexDigits b := by
    rw [List.filter_eq_self]
    intro c digit
    obtain ⟨value, reads⟩ := hexValue?_of_mem_hexDigits digit
    exact digits c value reads
  rw [toList_hexDump, filter_intercalate blank, List.flatMap_map]
  exact congrArg (bytes.flatMap ·) (funext kept)

/-- Between its blanks a dump has only digits. -/
theorem mem_hexDump {bytes : List UInt8} {c : Char} (inside : c ∈ (hexDump bytes).toList) :
    c = ' ' ∨ ∃ value, hexValue? c = some value := by
  by_cases blank : c = ' '
  · exact .inl blank
  · have kept : c ∈ (hexDump bytes).toList.filter (· != ' ') :=
      List.mem_filter.mpr ⟨inside, bne_iff_ne.mpr blank⟩
    rw [filter_hexDump rfl fun c value reads => ?_] at kept
    · obtain ⟨b, -, digit⟩ := List.mem_flatMap.mp kept
      exact .inr (hexValue?_of_mem_hexDigits digit)
    · exact bne_iff_ne.mpr (ne_of_hexValue? reads (by decide))

end BrailleDisplay.Text
