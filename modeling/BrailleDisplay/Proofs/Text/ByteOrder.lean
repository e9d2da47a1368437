import BrailleDisplay.Proofs.Text.Utf8
import BrailleDisplay.Text.Bytes
import Mathlib.Data.String.Basic

/-!
# Texts in the order of their bytes

Texts compare by their characters.  In UTF-8 this is the order of the bytes: of two characters the
smaller one has the smaller bytes, at the first place where they differ.

* `encodeChar_before` — one character against another, whatever follows them;
* `utf8_lt_iff`, `utf8_le_iff` — whole texts.
-/

namespace BrailleDisplay.Text

theorem bytes_before {k k' : Nat} {rest rest' : List UInt8} (small : k < 256) (small' : k' < 256)
    (before : k < k' ∨ k = k' ∧ rest < rest') :
    UInt8.ofNat k :: rest < UInt8.ofNat k' :: rest' := by
  rw [List.cons_lt_cons_iff, UInt8.lt_iff_toNat_lt, ← UInt8.toNat_inj,
    UInt8.toNat_ofNat_of_lt' small, UInt8.toNat_ofNat_of_lt' small']
  exact before

/-- The smaller of two characters has the smaller bytes. -/
theorem encodeChar_before {c d : Char} (before : c < d) (rest rest' : List UInt8) :
    String.utf8EncodeChar c ++ rest < String.utf8EncodeChar d ++ rest' := by
  have below : c.toNat < d.toNat := before
  have top : d.toNat < 0x110000 := by
    have valid : d.toNat < 0xD800 ∨ 0xDFFF < d.toNat ∧ d.toNat < 0x110000 := d.valid
    omega
  unfold String.utf8EncodeChar
  rw [show c.val.toNat = c.toNat from rfl, show d.val.toNat = d.toNat from rfl]
  generalize c.toNat = n at below ⊢
  generalize d.toNat = m at below top ⊢
  dsimp only
  -- Numbers compare by their digits to base 64, and each byte after the first is such a digit.
  have lasts : n / 64 = m / 64 → n % 64 < m % 64 := by omega
  have thirds : n / 4096 = m / 4096 →
      n / 64 % 64 < m / 64 % 64 ∨ n / 64 % 64 = m / 64 % 64 ∧ n / 64 = m / 64 := by omega
  have seconds : n / 262144 = m / 262144 →
      n / 4096 % 64 < m / 4096 % 64 ∨ n / 4096 % 64 = m / 4096 % 64 ∧ n / 4096 = m / 4096 := by
    omega
  have last (same : n / 64 = m / 64) :
      UInt8.ofNat (n % 64 + 128) :: rest < UInt8.ofNat (m % 64 + 128) :: rest' := by
    have less := lasts same
    exact bytes_before (by omega) (by omega) (.inl (by omega))
  have third (same : n / 4096 = m / 4096) :
      UInt8.ofNat (n / 64 % 64 + 128) :: UInt8.ofNat (n % 64 + 128) :: rest
        < UInt8.ofNat (m / 64 % 64 + 128) :: UInt8.ofNat (m % 64 + 128) :: rest' := by
    rcases thirds same with less | ⟨equal, same⟩
    · exact bytes_before (by omega) (by omega) (.inl (by omega))
    · exact bytes_before (by omega) (by omega) (.inr ⟨by omega, last same⟩)
  split_ifs
  -- Where the numbers of bytes differ, the first byte decides.
  all_goals try exact bytes_before (by omega) (by omega) (.inl (by omega))
  · by_cases same : n / 64 = m / 64
    · exact bytes_before (by omega) (by omega) (.inr ⟨by omega, last same⟩)
    · exact bytes_before (by omega) (by omega) (.inl (by omega))
  · by_cases same : n / 4096 = m / 4096
    · exact bytes_before (by omega) (by omega) (.inr ⟨by omega, third same⟩)
    · exact bytes_before (by omega) (by omega) (.inl (by omega))
  · by_cases same : n / 262144 = m / 262144
    · refine bytes_before (by omega) (by omega) (.inr ⟨by omega, ?_⟩)
      rcases seconds same with less | ⟨equal, same⟩
      · exact bytes_before (by omega) (by omega) (.inl (by omega))
      · exact bytes_before (by omega) (by omega) (.inr ⟨by omega, third same⟩)
    · exact bytes_before (by omega) (by omega) (.inl (by omega))

theorem flatMap_encodeChar_lt {l l' : List Char} (before : l < l') :
    l.flatMap String.utf8EncodeChar < l'.flatMap String.utf8EncodeChar := by
  induction l generalizing l' with
  | nil =>
    cases l' with
    | nil => exact absurd before (List.not_lt_nil _)
    | cons d l' =>
      have positive := d.utf8Size_pos
      rw [← String.length_utf8EncodeChar] at positive
      rw [List.flatMap_nil, List.flatMap_cons]
      cases bytes : String.utf8EncodeChar d with
      | nil =>
        rw [bytes] at positive
        exact absurd positive (lt_irrefl 0)
      | cons b more => exact List.nil_lt_cons _ _
  | cons c l ih =>
    cases l' with
    | nil => exact absurd before (List.not_lt_nil _)
    | cons d l' =>
      rw [List.flatMap_cons, List.flatMap_cons]
      rcases List.cons_lt_cons_iff.mp before with less | ⟨rfl, less⟩
      · exact encodeChar_before less _ _
      · exact List.append_left_lt (ih less)

/-- **A text is before another exactly when its bytes are.** -/
theorem utf8_lt_iff {s t : String} : utf8 s < utf8 t ↔ s < t := by
  have forward {s t : String} (before : s < t) : utf8 s < utf8 t :=
    flatMap_encodeChar_lt (String.lt_iff_toList_lt.mp before)
  refine ⟨fun before => ?_, forward⟩
  rcases lt_trichotomy s t with less | rfl | greater
  · exact less
  · exact absurd before (List.lt_irrefl _)
  · exact absurd before (List.lt_asymm (forward greater))

theorem utf8_le_iff {s t : String} : utf8 s ≤ utf8 t ↔ s ≤ t := by
  rw [← List.not_lt, utf8_lt_iff, not_lt]

end BrailleDisplay.Text
