import BrailleDisplay.Proofs.Cell.Dots
import BrailleDisplay.Proofs.Cell.Wiring
import BrailleDisplay.Proofs.Profile.Accepted
import Mathlib.Data.FinEnum

/-!
# What a wiring shows

A wiring drives a cell by the bits of the dots that are set, so it takes unions to unions, whatever
the bits are.  Cells look different on the device exactly if each dot has one bit of its own:

* `DotWiring.hasDot_drive` — the device's cell has what the bits of some dot that is set have;
  `DotWiring.Translates` says this of any two cells, and `DotWiring.forall₂_translates_iff` that a
  window is driven so, cell by cell;
* `DotWiring.drive_injective` — with a bit for each dot, the dots can be read off the device;
* `DotWiring.bits_of_injective` — when no two cells look the same, all device cells are in use, and
  those of a single bit can only come from a dot that drives just that bit;
* `DotWiring.isOneToOne_iff_injective` — so the wirings that pass are those that tell cells apart;
* `DotWiring.drive_shows` — what there is to know of how a wiring shows cells.
-/

namespace BrailleDisplay

namespace DotWiring

variable {wiring : DotWiring} {cell : UInt8} {d : Fin dotCount} {k : Nat}

/-! ### The dots of a driven cell -/

/-- What is driven by some dots one after the other is what was there and what each of them adds. -/
theorem hasDot_foldl_or (cell sum : UInt8) (bit : Fin dotCount → UInt8) (dots : List (Fin dotCount))
    (k : Nat) :
    hasDot (dots.foldl (fun sum (d : Fin dotCount) => if hasDot cell d then sum ||| bit d else sum)
        sum) k = true ↔
      hasDot sum k = true ∨ ∃ d ∈ dots, hasDot cell d = true ∧ hasDot (bit d) k = true := by
  induction dots generalizing sum with
  | nil => simp
  | cons d rest ih =>
    rw [List.foldl_cons, ih, List.exists_mem_cons_iff]
    by_cases set : hasDot cell d = true
    · rw [if_pos set, hasDot_or, or_assoc, and_iff_right set]
    · rw [if_neg set, ← or_assoc, or_iff_left (fun both => set both.1 : ¬(_ ∧ _))]

/-- **The device's cell has what the bits of the dots that are set have**, and nothing else. -/
theorem hasDot_drive :
    hasDot (wiring.drive cell) k = true ↔
      ∃ d : Fin dotCount, hasDot cell d = true ∧ hasDot (wiring.bits.get d) k = true := by
  have driven := hasDot_foldl_or cell 0 wiring.bits.get (List.finRange dotCount) k
  rw [or_iff_right not_hasDot_zero] at driven
  simp only [List.mem_finRange, true_and] at driven
  exact driven

/-- A cell of the device is what a wiring makes of a cell: each of its bits is set exactly if some
dot of the cell is wired to it. -/
def Translates (wiring : DotWiring) (cell device : UInt8) : Prop :=
  ∀ k, device.toNat.testBit k = true ↔
    ∃ d : Fin dotCount, cell.toNat.testBit d = true ∧ (wiring.bits.get d).toNat.testBit k = true

/-- Driving a cell is what a wiring makes of it, and there is nothing else it could be. -/
theorem translates_iff {device : UInt8} :
    wiring.Translates cell device ↔ device = wiring.drive cell := by
  constructor
  · intro translates
    exact cell_ext fun k => (translates k).trans hasDot_drive.symm
  · rintro rfl k
    exact hasDot_drive

/-- **A window is driven cell by cell.** -/
theorem forall₂_translates_iff {cells device : List UInt8} :
    List.Forall₂ wiring.Translates cells device ↔ device = wiring.driveAll cells := by
  constructor
  · intro translates
    induction translates with
    | nil => rfl
    | cons first _ ih => exact congrArg₂ List.cons (translates_iff.mp first) ih
  · rintro rfl
    induction cells with
    | nil => exact .nil
    | cons cell rest ih => exact .cons (translates_iff.mpr rfl) ih

theorem drive_or (wiring : DotWiring) (a b : UInt8) :
    wiring.drive (a ||| b) = wiring.drive a ||| wiring.drive b := by
  apply cell_ext
  intro k
  simp only [hasDot_or, hasDot_drive, or_and_right, exists_or]

theorem drive_zero (wiring : DotWiring) : wiring.drive 0 = 0 := by
  apply cell_ext
  intro k
  rw [hasDot_drive]
  refine iff_of_false ?_ not_hasDot_zero
  rintro ⟨d, set, -⟩
  exact not_hasDot_zero set

/-- A cell of one dot is shown by the bits of that dot. -/
theorem drive_dotCell (wiring : DotWiring) (d : Fin dotCount) :
    wiring.drive (dotCell d) = wiring.bits.get d := by
  apply cell_ext
  intro k
  rw [hasDot_drive]
  constructor
  · rintro ⟨e, set, driven⟩
    have same : e = d := Fin.ext ((hasDot_dotCell d.isLt).mp set)
    rwa [← same]
  · intro driven
    exact ⟨d, (hasDot_dotCell d.isLt).mpr rfl, driven⟩

/-! ### Telling cells apart -/

theorem mem_iso_iff {b : UInt8} : b ∈ iso.bits.toList ↔ ∃ d < dotCount, b = dotCell d := by
  have listed : iso.bits.toList = (List.range dotCount).map dotCell := by decide
  rw [listed, List.mem_map]
  simp only [List.mem_range, eq_comm]

theorem bits_mem (wiring : DotWiring) (d : Fin dotCount) : wiring.bits.get d ∈ wiring.bits.toList := by
  rw [Vector.mem_toList_iff]
  exact Vector.getElem_mem d.isLt

/-- The bits of different dots are different when none is listed twice. -/
theorem bits_injective (distinct : wiring.bits.toList.Nodup) {d e : Fin dotCount}
    (same : wiring.bits.get d = wiring.bits.get e) : d = e := by
  have within (d : Fin dotCount) : d.val < wiring.bits.toList.length := by simp
  have listed (d : Fin dotCount) : wiring.bits.toList.get ⟨d, within d⟩ = wiring.bits.get d :=
    Vector.getElem_toList _
  have place := List.nodup_iff_injective_get.mp distinct
    ((listed d).trans (same.trans (listed e).symm))
  exact Fin.ext (Fin.mk.inj place)

/-- A dot that has a bit of its own is set when the device's cell has that bit. -/
theorem hasDot_iff_of_own
    (single : ∀ d : Fin dotCount, ∃ k < dotCount, wiring.bits.get d = dotCell k)
    (distinct : wiring.bits.toList.Nodup) (within : k < dotCount)
    (own : wiring.bits.get d = dotCell k) :
    hasDot cell d = true ↔ hasDot (wiring.drive cell) k = true := by
  rw [hasDot_drive]
  constructor
  · intro set
    exact ⟨d, set, own ▸ (hasDot_dotCell within).mpr rfl⟩
  · rintro ⟨e, set, driven⟩
    obtain ⟨j, within', other⟩ := single e
    rw [other, hasDot_dotCell within'] at driven
    have same : e = d := bits_injective distinct (by rw [other, own, driven])
    rwa [← same]

/-- **With a bit for each dot, the dots can be read off the device.** -/
theorem drive_injective (perm : wiring.IsPermutation) : Function.Injective wiring.drive := by
  have distinct : wiring.bits.toList.Nodup := perm.nodup_iff.mpr (by decide)
  have single (d : Fin dotCount) : ∃ k < dotCount, wiring.bits.get d = dotCell k :=
    mem_iso_iff.mp (perm.subset (wiring.bits_mem d))
  intro a b alike
  apply cell_ext
  intro d
  by_cases within : d < dotCount
  · obtain ⟨k, within', own⟩ := single ⟨d, within⟩
    have read (cell : UInt8) : hasDot cell d = true ↔ hasDot (wiring.drive cell) k = true :=
      hasDot_iff_of_own single distinct within' own
    rw [read a, read b, alike]
  · exact iff_of_false (fun set => within (lt_of_hasDot set)) (fun set => within (lt_of_hasDot set))

/-- **When no two cells look the same, each single bit is that of a dot.**  All cells of the device
are in use then; the cell that is shown by the bit alone has a dot which drives that bit, and the dot
can drive no other. -/
theorem bits_of_injective (apart : Function.Injective wiring.drive) {b : UInt8}
    (single : b ∈ iso.bits.toList) : b ∈ wiring.bits.toList := by
  obtain ⟨k, within, rfl⟩ := mem_iso_iff.mp single
  obtain ⟨cell, shown⟩ := Finite.injective_iff_surjective.mp apart (dotCell k)
  have driven : hasDot (wiring.drive cell) k = true := shown ▸ (hasDot_dotCell within).mpr rfl
  obtain ⟨d, set, drives⟩ := hasDot_drive.mp driven
  have own : wiring.bits.get d = dotCell k := by
    apply cell_ext
    intro j
    rw [hasDot_dotCell within]
    constructor
    · intro also
      have driven : hasDot (wiring.drive cell) j = true := hasDot_drive.mpr ⟨d, set, also⟩
      rwa [shown, hasDot_dotCell within] at driven
    · rintro rfl
      exact drives
  exact own ▸ wiring.bits_mem d

/-- **A wiring passes exactly if no two cells look the same on the device.** -/
theorem isOneToOne_iff_injective : wiring.isOneToOne = true ↔ Function.Injective wiring.drive := by
  rw [isOneToOne_iff]
  constructor
  · exact drive_injective
  · intro apart
    have used : iso.bits.toList ⊆ wiring.bits.toList := fun _ => bits_of_injective apart
    have distinct : iso.bits.toList.Nodup := by decide
    exact ((distinct.subperm used).perm_of_length_le (by simp)).symm

/-! ### Windows -/

/-- In a set that a host accepts, no two windows look the same under a profile. -/
theorem driveAll_injective_of_accepted {set : ProfileSet} (accepted : set.Accepted) {p : Profile}
    (among : p ∈ set.profiles) : Function.Injective p.dots.driveAll := by
  have faultless := accepted.faultless p among
  have passes : p.dots.isOneToOne = true := (Profile.fault?_eq_none_iff.mp faultless).2.2.2.1
  exact List.map_injective_iff.mpr (isOneToOne_iff_injective.mp passes)

/-- What there is to know of how a wiring shows cells. -/
structure Appearance (wiring : DotWiring) : Prop where
  /-- It passes exactly if no two cells look the same on the device. -/
  tellsApart : wiring.isOneToOne = true ↔ ∀ a b, a ≠ b → wiring.drive a ≠ wiring.drive b
  /-- A cell of one dot looks as the bits of that dot. -/
  dot : ∀ d : Fin dotCount, wiring.drive (dotCell d) = wiring.bits.get d
  /-- Dots look the same alone and together. -/
  union : ∀ a b, wiring.drive (a ||| b) = wiring.drive a ||| wiring.drive b
  /-- A blank cell looks blank. -/
  blank : wiring.drive 0 = 0
  /-- A window is shown by as many cells. -/
  length : ∀ cells, (wiring.driveAll cells).length = cells.length
  /-- No two windows look the same when a profile that a host accepts has the wiring. -/
  windows : ∀ set : ProfileSet, set.Accepted → ∀ p ∈ set.profiles, p.dots = wiring →
    ∀ cells cells', cells ≠ cells' → wiring.driveAll cells ≠ wiring.driveAll cells'

/-- **Wirings that pass tell all cells apart, and no others do**; under any wiring the dots of a cell
are shown one by one. -/
theorem drive_shows (wiring : DotWiring) : Appearance wiring where
  tellsApart := by
    rw [isOneToOne_iff_injective]
    exact forall₂_congr fun _ _ => not_imp_not.symm
  dot := drive_dotCell wiring
  union := drive_or wiring
  blank := drive_zero wiring
  length _ := List.length_map _
  windows set accepted p among same cells cells' different alike := by
    subst same
    exact different (driveAll_injective_of_accepted accepted among alike)

end DotWiring

end BrailleDisplay
