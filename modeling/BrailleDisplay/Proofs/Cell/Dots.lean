import BrailleDisplay.Cell
import Mathlib.Data.Nat.Bitwise

/-!
# A cell is the set of its dots

* `cell_ext` — cells with the same dots are one;
* `hasDot_or`, `not_hasDot_zero` — the dots of two cells together, and those of the blank cell;
* `dotCell`, `hasDot_dotCell` — the cell of a single dot;
* `exists_hasDot` — a cell that is not blank has a dot.
-/

namespace BrailleDisplay

variable {a b cell : UInt8} {d e : Nat}

/-- A cell has eight dots at most. -/
theorem lt_of_hasDot (set : hasDot cell d = true) : d < dotCount :=
  (Nat.pow_lt_pow_iff_right (by decide)).mp
    (lt_of_le_of_lt (Nat.ge_two_pow_of_testBit set) cell.toNat_lt)

/-- **Cells with the same dots are one.** -/
theorem cell_ext (same : ∀ d, hasDot a d = true ↔ hasDot b d = true) : a = b := by
  apply UInt8.toNat_inj.mp
  apply Nat.eq_of_testBit_eq
  intro d
  exact Bool.eq_iff_iff.mpr (same d)

theorem hasDot_or : hasDot (a ||| b) d = true ↔ hasDot a d = true ∨ hasDot b d = true := by
  simp only [hasDot, UInt8.toNat_or, Nat.testBit_or, Bool.or_eq_true]

theorem not_hasDot_zero : ¬hasDot 0 d = true := by
  simp [hasDot]

/-- A cell that is not blank has a dot. -/
theorem exists_hasDot (marked : cell ≠ 0) : ∃ d, hasDot cell d = true := by
  by_contra none
  refine marked (cell_ext fun d => ?_)
  exact iff_of_false (fun set => none ⟨d, set⟩) not_hasDot_zero

/-- The cell of one dot. -/
def dotCell (d : Nat) : UInt8 :=
  1 <<< UInt8.ofNat d

theorem toNat_dotCell (within : d < dotCount) : (dotCell d).toNat = 2 ^ d := by
  have powers : ∀ d : Fin dotCount, (dotCell d).toNat = 2 ^ d.val := by decide
  exact powers ⟨d, within⟩

theorem hasDot_dotCell (within : d < dotCount) : hasDot (dotCell d) e = true ↔ e = d := by
  rw [hasDot, toNat_dotCell within, Nat.testBit_two_pow, decide_eq_true_iff]
  exact eq_comm

end BrailleDisplay
