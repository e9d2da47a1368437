import BrailleDisplay.Cell
import Mathlib.Data.List.Perm.Subperm

/-!
# Wirings that keep the dots apart

Whether each dot has a bit of its own is found by going through the bits once, with those seen so
far in one byte.

* `DotWiring.areDistinctBits_iff` — what one pass finds: single bits, all different, and none of
  those seen before;
* `DotWiring.IsPermutation`, `DotWiring.isOneToOne_iff` — so the wirings that pass are the orders of
  the eight bits.
-/

namespace BrailleDisplay

namespace DotWiring

/-- The bits are those of the standard order, each once, in some order. -/
def IsPermutation (wiring : DotWiring) : Prop :=
  wiring.bits.toList.Perm iso.bits.toList

/-- A byte has a single bit when it is one of those that the standard order lists. -/
theorem isSingleBit_iff (b : UInt8) : isSingleBit b = true ↔ b ∈ iso.bits.toList := by
  have bytes : ∀ n : Fin 256,
      isSingleBit (UInt8.ofNat n) = true ↔ UInt8.ofNat n ∈ iso.bits.toList := by
    decide +kernel
  have found := bytes ⟨b.toNat, b.toNat_lt⟩
  rwa [UInt8.ofNat_toNat] at found

/-- Two single bits have nothing in common unless they are one. -/
theorem and_eq_zero_iff_ne {b c : UInt8} (single : isSingleBit b = true)
    (single' : isSingleBit c = true) : b &&& c = 0 ↔ b ≠ c := by
  have bits : ∀ b ∈ iso.bits.toList, ∀ c ∈ iso.bits.toList, b &&& c = 0 ↔ b ≠ c := by
    decide +kernel
  exact bits b ((isSingleBit_iff b).mp single) c ((isSingleBit_iff c).mp single')

theorem or_and_eq_zero_iff {a b c : UInt8} :
    (a ||| b) &&& c = 0 ↔ a &&& c = 0 ∧ b &&& c = 0 := by
  rw [← UInt8.or_eq_zero_iff]
  have distributes : (a ||| b) &&& c = a &&& c ||| b &&& c := by
    apply UInt8.toNat_inj.mp
    rw [UInt8.toNat_and, UInt8.toNat_or, UInt8.toNat_or, UInt8.toNat_and, UInt8.toNat_and,
      Nat.and_or_distrib_right]
  rw [distributes]

/-- One pass finds single bits, all different, and none of those seen before. -/
theorem areDistinctBits_iff {seen : UInt8} {bits : List UInt8} :
    areDistinctBits seen bits = true ↔
      (∀ b ∈ bits, isSingleBit b = true ∧ seen &&& b = 0) ∧ bits.Nodup := by
  induction bits generalizing seen with
  | nil => simp [areDistinctBits]
  | cons b rest ih =>
    rw [areDistinctBits, Bool.and_eq_true, Bool.and_eq_true, beq_iff_eq, ih, List.forall_mem_cons,
      List.nodup_cons]
    constructor
    · rintro ⟨⟨single, apart⟩, later, different⟩
      refine ⟨⟨⟨single, apart⟩, fun c among => ?_⟩, fun again => ?_, different⟩
      · obtain ⟨single', apart'⟩ := later c among
        exact ⟨single', (or_and_eq_zero_iff.mp apart').1⟩
      · -- the bit itself has been seen when the rest is looked at
        have apart' := (or_and_eq_zero_iff.mp (later b again).2).2
        exact (and_eq_zero_iff_ne single single).mp apart' rfl
    · rintro ⟨⟨⟨single, apart⟩, later⟩, fresh, different⟩
      refine ⟨⟨single, apart⟩, fun c among => ?_, different⟩
      obtain ⟨single', apart'⟩ := later c among
      have other : b ≠ c := fun same => fresh (same ▸ among)
      have apart := (and_eq_zero_iff_ne single single').mpr other
      exact ⟨single', or_and_eq_zero_iff.mpr ⟨apart', apart⟩⟩

/-- **The wirings that keep the dots apart are the orders of the eight bits.** -/
theorem isOneToOne_iff (wiring : DotWiring) :
    wiring.isOneToOne = true ↔ wiring.IsPermutation := by
  unfold isOneToOne IsPermutation
  rw [areDistinctBits_iff]
  have blank (b : UInt8) : (0 : UInt8) &&& b = 0 := UInt8.zero_and
  constructor
  · rintro ⟨single, different⟩
    have listed : wiring.bits.toList ⊆ iso.bits.toList :=
      fun b among => (isSingleBit_iff b).mp (single b among).1
    exact (different.subperm listed).perm_of_length_le (by simp)
  · intro perm
    refine ⟨fun b among => ⟨(isSingleBit_iff b).mpr (perm.subset among), blank b⟩, ?_⟩
    exact perm.nodup_iff.mpr (by decide)

end DotWiring

end BrailleDisplay
