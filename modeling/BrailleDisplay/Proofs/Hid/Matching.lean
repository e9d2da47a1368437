import BrailleDisplay.Hid.Search
import Mathlib.Data.List.Nodup

/-!
# Which entries of the bus are listed

A definition is meant for the entries with its vendor, product and interface.  A catalog may hold
several definitions for one vendor and product, for devices with several braille channels.  Of these
only the first is looked at: an entry that a later one is meant for is not listed.

* `UsbDefinition.Fits` — the definition is meant for the entry;
* `Catalog.foundAs?` — the display that an entry is, by the first definition that fits it;
* `Catalog.Shadows` — the first definition that fits an entry is not the first for its vendor and
  product;
* `Catalog.admits_iff`, `Catalog.shadows_iff` — how listing an entry is decided, in these terms;
* `listDisplays_lists` — the displays listed are those of the entries that are not shadowed, so all
  of them if every definition has a vendor and product of its own;
* `listDisplays_omits` — otherwise a display may be missing.
-/

namespace BrailleDisplay

variable {η σ : Type}

/-! ## Definitions that fit -/

/-- A definition fits the entries with its vendor, product and interface.  Bluetooth devices report
no interface, so there the vendor and the product are enough. -/
def UsbDefinition.Fits (definition : UsbDefinition) (e : HidEntry) : Prop :=
  (definition.vendor = e.vendor ∧ definition.product = e.product)
    ∧ (e.bus = .bluetooth ∨ e.interfaceNumber = definition.interfaceNumber.toNat)

instance (definition : UsbDefinition) (e : HidEntry) : Decidable (definition.Fits e) :=
  inferInstanceAs (Decidable (_ ∧ _))

/-- What is known of an entry by a definition that fits it. -/
def HidEntry.foundBy (e : HidEntry) (definition : UsbDefinition) : FoundDevice where
  info :=
    { vendor := e.vendor
      product := e.product
      transport := if e.bus = .bluetooth then .bluetooth else .usb
      path := e.pathText
      serial := e.serial
      resourceName := e.productName
      profileHint := definition.profileHint }
  interfaceNumber := e.interfaceNumber

theorem UsbDefinition.matchesIds_iff {definition : UsbDefinition} {vendor product : UInt16} :
    definition.matchesIds vendor product = true
      ↔ definition.vendor = vendor ∧ definition.product = product := by
  simp [matchesIds]

theorem UsbDefinition.Fits.matchesIds {definition : UsbDefinition} {e : HidEntry}
    (fits : definition.Fits e) : definition.matchesIds e.vendor e.product = true :=
  matchesIds_iff.mpr fits.1

namespace Catalog

/-- The first definition that fits an entry. -/
def fitting? (d : Catalog) (e : HidEntry) : Option UsbDefinition :=
  d.usb.find? fun definition => decide (definition.Fits e)

/-- The display that an entry is, by the first definition that fits it. -/
def foundAs? (d : Catalog) (e : HidEntry) : Option FoundDevice :=
  (d.fitting? e).map e.foundBy

/-- Before the first definition that fits an entry there is another for its vendor and product. -/
def Shadows (d : Catalog) (e : HidEntry) : Prop :=
  ∃ front definition back, d.usb = front ++ definition :: back ∧ definition.Fits e
    ∧ (∀ other ∈ front, ¬other.Fits e)
    ∧ ∃ other ∈ front, other.vendor = e.vendor ∧ other.product = e.product

/-- Every definition has a vendor and product of its own. -/
def KeepsApart (d : Catalog) : Prop :=
  (d.usb.map fun definition => (definition.vendor, definition.product)).Nodup

theorem fitting?_eq_none_iff {d : Catalog} {e : HidEntry} :
    d.fitting? e = none ↔ ∀ definition ∈ d.usb, ¬definition.Fits e := by
  simp [fitting?]

theorem ids_of_find? {definitions : List UsbDefinition} {vendor product : UInt16}
    {first : UsbDefinition}
    (found : definitions.find? (·.matchesIds vendor product) = some first) :
    first.vendor = vendor ∧ first.product = product :=
  UsbDefinition.matchesIds_iff.mp (by simpa using List.find?_some found)

/-! ## How listing is decided -/

/-- An entry is listed if the first definition for its vendor and product fits it. -/
theorem admits_iff {d : Catalog} {e : HidEntry} :
    d.admits e = true ↔ ∃ first, d.find? e.vendor e.product = some first ∧ first.Fits e := by
  unfold admits
  cases found : d.find? e.vendor e.product with
  | none => simp
  | some first =>
    have ids := ids_of_find? found
    simp [UsbDefinition.Fits, ids, HidEntry.isBluetooth]

/-- Definitions before the first one for a vendor and product fit none of its entries. -/
theorem fitting?_of_find? {d : Catalog} {e : HidEntry} {first : UsbDefinition}
    (found : d.find? e.vendor e.product = some first) (fits : first.Fits e) :
    d.fitting? e = some first := by
  obtain ⟨-, front, back, split, others⟩ := List.find?_eq_some_iff_append.mp found
  refine List.find?_eq_some_iff_append.mpr ⟨by simpa using fits, front, back, split, ?_⟩
  intro other among
  have foreign := others other among
  suffices ¬other.Fits e by simpa using this
  intro fits'
  rw [fits'.matchesIds] at foreign
  cases foreign

/-- A listed entry is described by the first definition that fits it. -/
theorem foundAs?_of_admits {d : Catalog} {e : HidEntry} (listed : d.admits e = true) :
    d.foundAs? e = some (d.describe e) := by
  obtain ⟨first, found, fits⟩ := admits_iff.mp listed
  rw [foundAs?, fitting?_of_find? found fits, describe, found]
  simp [HidEntry.foundBy, HidEntry.isBluetooth]

/-- The shadowed entries are those that some definition fits and that are not listed. -/
theorem shadows_iff {d : Catalog} {e : HidEntry} :
    d.Shadows e ↔ (d.fitting? e).isSome = true ∧ d.admits e = false := by
  constructor
  · rintro ⟨front, definition, back, split, fits, none, other, among, ids⟩
    have some_fits : (d.fitting? e).isSome = true := by
      rw [Option.isSome_iff_ne_none, Ne, fitting?_eq_none_iff]
      intro nowhere
      exact nowhere definition (by simp [split]) fits
    refine ⟨some_fits, Bool.eq_false_iff.mpr fun listed => ?_⟩
    -- the definition that decides stands in front of the first one that fits
    obtain ⟨first, found, firstFits⟩ := admits_iff.mp listed
    rw [find?, split, List.find?_append] at found
    cases early : front.find? (·.matchesIds e.vendor e.product) with
    | none =>
      have absent := List.find?_eq_none.mp early other among
      exact absent (UsbDefinition.matchesIds_iff.mpr ids)
    | some deciding =>
      rw [early] at found
      obtain rfl : deciding = first := Option.some.inj found
      exact none deciding (List.mem_of_find?_eq_some early) firstFits
  · rintro ⟨some_fits, unlisted⟩
    obtain ⟨definition, found⟩ := Option.isSome_iff_exists.mp some_fits
    obtain ⟨fits, front, back, split, others⟩ := List.find?_eq_some_iff_append.mp found
    replace fits : definition.Fits e := by simpa using fits
    refine ⟨front, definition, back, split, fits, fun other among => ?_, ?_⟩
    · simpa using others other among
    · -- if none of those in front had the ids, this definition would decide, and it fits
      cases early : front.find? (·.matchesIds e.vendor e.product) with
      | none =>
        have decides : d.find? e.vendor e.product = some definition := by
          rw [find?, split, List.find?_append, early]
          simp [fits.matchesIds]
        rw [admits_iff.mpr ⟨definition, decides, fits⟩] at unlisted
        cases unlisted
      | some other =>
        exact ⟨other, List.mem_of_find?_eq_some early, ids_of_find? early⟩

instance (d : Catalog) (e : HidEntry) : Decidable (d.Shadows e) :=
  decidable_of_iff' _ shadows_iff

/-- An entry that is neither shadowed nor listed is no display. -/
theorem foundAs?_of_not_admits {d : Catalog} {e : HidEntry} (unlisted : d.admits e = false)
    (clear : ¬d.Shadows e) : d.foundAs? e = none := by
  have nothing : d.fitting? e = none := by
    by_contra fitting
    exact clear (shadows_iff.mpr ⟨Option.isSome_iff_ne_none.mpr fitting, unlisted⟩)
  simp [foundAs?, nothing]

/-- A shadowed entry is a display, and not listed. -/
theorem Shadows.omitted {d : Catalog} {e : HidEntry} (shadowed : d.Shadows e) :
    d.admits e = false ∧ ∃ device, d.foundAs? e = some device := by
  obtain ⟨some_fits, unlisted⟩ := shadows_iff.mp shadowed
  obtain ⟨definition, found⟩ := Option.isSome_iff_exists.mp some_fits
  exact ⟨unlisted, e.foundBy definition, by simp [foundAs?, found]⟩

/-- Where every definition has a vendor and product of its own, no entry is shadowed. -/
theorem KeepsApart.not_shadows {d : Catalog} (apart : d.KeepsApart) (e : HidEntry) :
    ¬d.Shadows e := by
  rintro ⟨front, definition, back, split, fits, -, other, among, ids⟩
  rw [KeepsApart, split, List.map_append, List.map_cons] at apart
  have different := (List.nodup_append.mp apart).2.2 (other.vendor, other.product)
    (List.mem_map_of_mem among) _ List.mem_cons_self
  exact different (by rw [ids.1, ids.2, fits.1.1, fits.1.2])

/-! ## What is listed -/

theorem listed_cons (d : Catalog) (e : HidEntry) (rest : List HidEntry) :
    d.listed (e :: rest)
      = if d.admits e = true then d.describe e :: d.listed rest else d.listed rest := by
  cases listed : d.admits e <;> simp [Catalog.listed, listed]

/-- The displays listed are those of the entries that are not shadowed. -/
theorem listed_eq (d : Catalog) (entries : List HidEntry) :
    d.listed entries = (entries.filter fun e => ¬d.Shadows e).filterMap d.foundAs? := by
  induction entries with
  | nil => rfl
  | cons e rest ih =>
    rw [listed_cons, ih]
    by_cases shadowed : d.Shadows e
    · simp [shadowed, shadowed.omitted.1]
    · cases listed : d.admits e with
      | true => simp [shadowed, foundAs?_of_admits listed]
      | false => simp [shadowed, foundAs?_of_not_admits listed shadowed]

/-- Whatever is listed is listed rightly, and in its place. -/
theorem listed_sublist (d : Catalog) (entries : List HidEntry) :
    (d.listed entries).Sublist (entries.filterMap d.foundAs?) := by
  rw [listed_eq]
  exact List.filter_sublist.filterMap _

/-- No display is missing just when no entry is shadowed. -/
theorem listed_eq_all_iff (d : Catalog) (entries : List HidEntry) :
    d.listed entries = entries.filterMap d.foundAs? ↔ ∀ e ∈ entries, ¬d.Shadows e := by
  induction entries with
  | nil => simp [listed]
  | cons e rest ih =>
    rw [List.forall_mem_cons, ← ih, listed_cons]
    by_cases shadowed : d.Shadows e
    · -- the list without the display is at most as long as that of the others
      obtain ⟨unlisted, device, found⟩ := shadowed.omitted
      have fewer := (d.listed_sublist rest).length_le
      simp only [unlisted, shadowed, found, List.filterMap_cons, not_true_eq_false, false_and,
        iff_false, Bool.false_eq_true, if_false]
      intro complete
      have sizes := congrArg List.length complete
      simp only [List.length_cons] at sizes
      omega
    · cases listed : d.admits e with
      | true => simp [shadowed, foundAs?_of_admits listed]
      | false => simp [shadowed, foundAs?_of_not_admits listed shadowed]

/-- The displays listed for the entries of a bus: those of the entries that are not shadowed, in the
order of the bus, each by the first definition that fits it.  These are all displays exactly if no
entry is shadowed, and so if every definition has a vendor and product of its own. -/
structure Lists (d : Catalog) (entries : List HidEntry) (devices : List FoundDevice) : Prop where
  unshadowed : devices = (entries.filter fun e => ¬d.Shadows e).filterMap d.foundAs?
  complete_iff : devices = entries.filterMap d.foundAs? ↔ ∀ e ∈ entries, ¬d.Shadows e
  complete : d.KeepsApart → devices = entries.filterMap d.foundAs?

theorem lists_listed (d : Catalog) (entries : List HidEntry) :
    d.Lists entries (d.listed entries) where
  unshadowed := d.listed_eq entries
  complete_iff := d.listed_eq_all_iff entries
  complete apart := (d.listed_eq_all_iff entries).mpr fun e _ => apart.not_shadows e

end Catalog

/-- **Listing the displays.**  Whatever the bus tells: a failure is answered as it is, and entries
are answered by the displays among them, except those that are shadowed by a definition for another
interface. -/
theorem listDisplays_lists (B : HidBus η σ) (d : Catalog) (plant : Plant σ) :
    match B.enumerate plant with
    | (.error text, plant₁) =>
      (listDisplays B d plant).value = .error (.ofHid text)
        ∧ (listDisplays B d plant).plant = plant₁
    | (.ok entries, plant₁) =>
      (∃ devices, (listDisplays B d plant).value = .ok devices ∧ d.Lists entries devices)
        ∧ (listDisplays B d plant).plant = plant₁ := by
  unfold listDisplays
  generalize B.enumerate plant = answer
  obtain ⟨found, plant₁⟩ := answer
  cases found with
  | error text => exact ⟨rfl, rfl⟩
  | ok entries => exact ⟨⟨_, rfl, d.lists_listed entries⟩, rfl⟩

/-! ## Displays that are missing -/

/-- The displays listed are those of all entries that some definition fits. -/
def ListsEveryDisplay : Prop :=
  ∀ {η σ : Type} (B : HidBus η σ) (d : Catalog) (plant plant₁ : Plant σ)
    (entries : List HidEntry), B.enumerate plant = (.ok entries, plant₁) →
      (listDisplays B d plant).value = .ok (entries.filterMap d.foundAs?)

/-- Displays with a braille channel on interface 0, and others of the same vendor and product with
theirs on interface 1. -/
def twoChannels : Catalog where
  usb := [{}, { interfaceNumber := 1, profileHint := some "mokey" }]

/-- A display of the second kind. -/
def secondChannel : HidEntry where
  path := "/dev/hidraw0".toUTF8.toList
  interfaceNumber := 1

/-- A bus with this display alone. -/
def secondChannelBus : HidBus Unit Unit where
  enumerate plant := (.ok [secondChannel], plant)
  openEntry _ plant := (.ok (), plant)
  writeReport report _ plant := (.ok report.length, plant)
  readReport _ _ _ plant := (.ok [], plant)

/-- **A display may be missing** though a definition fits it: the first definition for its vendor and
product is for another interface. -/
theorem listDisplays_omits : ¬ListsEveryDisplay := by
  intro claimed
  let plant : Plant Unit := { now := 0, running := true, state := () }
  have every : twoChannels.listed [secondChannel] = [secondChannel].filterMap twoChannels.foundAs? :=
    Except.ok.inj (claimed secondChannelBus twoChannels plant plant [secondChannel] rfl)
  have shadowed : twoChannels.Shadows secondChannel := by decide
  have clear := (twoChannels.listed_eq_all_iff [secondChannel]).mp every
  exact clear secondChannel List.mem_cons_self shadowed

end BrailleDisplay
