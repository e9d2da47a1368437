import BrailleDisplay.Hid.Search
import BrailleDisplay.Proofs.Text.Utf8
import Mathlib.Data.List.Nodup

/-!
# Which device is opened

A display is chosen among the descriptions of the entries that are listed, but its device is looked
for among all entries of the bus, by the text of its path.  Different paths that are UTF-8 are
spelled differently, and then the device opened is the one chosen.  Others may be spelled alike, and
then it need not be.

* `FirstWith` — the first entry of the bus with a property;
* `Catalog.Offers` — the entry is listed, and the locator accepts it;
* `HidBus.OpensAs` — a reply that comes of opening an entry, with a certain description;
* `openDisplay_opens` — what opening a display does;
* `openDisplay_strays` — it may open another device than the one chosen.
-/

namespace BrailleDisplay

variable {η σ : Type}

/-! ## First entries -/

/-- The entry has the property, and no entry before it has. -/
def FirstWith (P : HidEntry → Prop) (entries : List HidEntry) (e : HidEntry) : Prop :=
  ∃ before after, entries = before ++ e :: after ∧ P e ∧ ∀ other ∈ before, ¬P other

theorem FirstWith.mem {P : HidEntry → Prop} {entries : List HidEntry} {e : HidEntry}
    (first : FirstWith P entries e) : e ∈ entries := by
  obtain ⟨before, after, rfl, -⟩ := first
  exact List.mem_append_right _ List.mem_cons_self

theorem FirstWith.holds {P : HidEntry → Prop} {entries : List HidEntry} {e : HidEntry}
    (first : FirstWith P entries e) : P e := by
  obtain ⟨before, after, -, holds, -⟩ := first
  exact holds

/-- Searching from the front finds the first entry. -/
theorem firstWith_of_find? {p : HidEntry → Bool} {P : HidEntry → Prop}
    (agree : ∀ e, p e = true ↔ P e) {entries : List HidEntry} {e : HidEntry}
    (found : entries.find? p = some e) : FirstWith P entries e := by
  obtain ⟨holds, before, after, split, none⟩ := List.find?_eq_some_iff_append.mp found
  refine ⟨before, after, split, (agree e).mp holds, fun other among property => ?_⟩
  have fails := none other among
  rw [(agree other).mpr property] at fails
  cases fails

/-! ## Entries that are offered -/

/-- The entry is listed as a display, and the locator accepts it. -/
def Catalog.Offers (d : Catalog) (locator : Locator) (e : HidEntry) : Prop :=
  d.admits e = true ∧ locator.accepts (d.describe e) = true

instance (d : Catalog) (locator : Locator) (e : HidEntry) : Decidable (d.Offers locator e) :=
  inferInstanceAs (Decidable (_ ∧ _))

/-- The display that is chosen describes the first entry that is offered. -/
theorem Catalog.find?_listed (d : Catalog) (locator : Locator) (entries : List HidEntry) :
    (d.listed entries).find? locator.accepts
      = (entries.find? fun e => decide (d.Offers locator e)).map d.describe := by
  rw [listed, List.find?_map, List.find?_filter]
  rfl

/-! ## Opening -/

/-- The reply is what comes of opening the device of an entry, with a certain description. -/
structure HidBus.OpensAs (B : HidBus η σ) (entry : HidEntry) (info : DeviceInfo) (plant : Plant σ)
    (reply : Reply σ (Except ChannelFault (ReportChannel η))) : Prop where
  plant_eq : reply.plant = (B.openEntry entry plant).2
  value_eq : reply.value =
    match (B.openEntry entry plant).1 with
    | .ok handle => .ok ⟨some handle, info⟩
    | .error text => .error (.ofHid text)

/-- A description of an entry opens the first entry that has its path, as it is spelled. -/
theorem openListed_opens (B : HidBus η σ) (d : Catalog) {entries : List HidEntry} {e : HidEntry}
    (among : e ∈ entries) (plant : Plant σ) :
    ∃ opened, FirstWith (·.pathText = e.pathText) entries opened
      ∧ B.OpensAs opened (d.describe e).info plant
          (openListed B entries (d.describe e) plant) := by
  have agree (other : HidEntry) :
      (other.pathText == e.pathText) = true ↔ other.pathText = e.pathText := beq_iff_eq
  unfold openListed
  dsimp only
  rw [show (d.describe e).info.path = e.pathText from rfl]
  cases found : entries.find? (·.pathText == e.pathText) with
  | none =>
    have absent := List.find?_eq_none.mp found e among
    exact absurd ((agree e).mpr rfl) absent
  | some opened =>
    refine ⟨opened, firstWith_of_find? agree found, ?_⟩
    dsimp only
    generalize answer : B.openEntry opened plant = result
    obtain ⟨outcome, plant'⟩ := result
    cases outcome with
    | error text => exact ⟨by rw [answer], by rw [answer]⟩
    | ok handle => exact ⟨by rw [answer], by rw [answer]⟩

/-- No other entry of the bus has a path that is spelled like that of this one. -/
def SpelledAlone (entries : List HidEntry) (e : HidEntry) : Prop :=
  ∀ other ∈ entries, other.pathText = e.pathText → other = e

/-- Different paths are spelled differently if they are UTF-8. -/
theorem spelledAlone_of_encoded {entries : List HidEntry}
    (apart : (entries.map HidEntry.path).Nodup)
    (encoded : ∀ other ∈ entries, Text.Encoded other.path) {e : HidEntry} (among : e ∈ entries) :
    SpelledAlone entries e := by
  intro other present alike
  have same : other.path = e.path :=
    (encoded other present).eq_of_decodeLossy_eq (encoded e among) alike
  exact List.inj_on_of_nodup_map apart present among same

/-- What opening a display comes to when the bus has told its entries.  Either no entry is offered,
and then nothing is opened; or it is opened as the first entry that is offered, and the device is
that of the first entry whose path is spelled like its path.  That is the entry itself if no other
is spelled so, and so if the paths are different and UTF-8. -/
def Found (B : HidBus η σ) (d : Catalog) (locator : Locator) (entries : List HidEntry)
    (plant : Plant σ) (reply : Reply σ (Except ChannelFault (ReportChannel η))) : Prop :=
  ((∀ e ∈ entries, ¬d.Offers locator e)
      ∧ reply.value = .error (.deviceNotFound ("no display for " ++ locator.text))
      ∧ reply.plant = plant)
    ∨ ∃ e opened, FirstWith (d.Offers locator) entries e
        ∧ FirstWith (·.pathText = e.pathText) entries opened
        ∧ B.OpensAs opened (d.describe e).info plant reply
        ∧ (SpelledAlone entries e → opened = e)
        ∧ ((entries.map HidEntry.path).Nodup → (∀ other ∈ entries, Text.Encoded other.path) →
            opened = e)

theorem found_of_enumerate {B : HidBus η σ} {plant plant₁ : Plant σ} {entries : List HidEntry}
    (answer : B.enumerate plant = (.ok entries, plant₁)) (d : Catalog) {locator : Locator}
    (named : ∀ path, locator ≠ .serial path) :
    Found B d locator entries plant₁ (openDisplay B d locator plant) := by
  have agree (e : HidEntry) : decide (d.Offers locator e) = true ↔ d.Offers locator e :=
    decide_eq_true_iff
  have chosen := d.find?_listed locator entries
  unfold openDisplay
  split
  · exact absurd rfl (named _)
  rw [answer]
  dsimp only
  rw [chosen]
  cases first : entries.find? fun e => decide (d.Offers locator e) with
  | none =>
    refine .inl ⟨fun e among offered => ?_, rfl, rfl⟩
    exact List.find?_eq_none.mp first e among ((agree e).mpr offered)
  | some e =>
    have offered := firstWith_of_find? agree first
    obtain ⟨opened, spelled, opens⟩ := openListed_opens B d offered.mem plant₁
    have itself (alone : SpelledAlone entries e) : opened = e :=
      alone opened spelled.mem spelled.holds
    exact .inr ⟨e, opened, offered, spelled, ⟨opens.plant_eq, opens.value_eq⟩, itself,
      fun apart encoded => itself (spelledAlone_of_encoded apart encoded offered.mem)⟩

/-- **Opening a display.**  A serial line is refused before the bus is asked.  Otherwise, whatever
the bus tells: a failure is answered as it is; if no entry is offered, no device is opened; and if
one is, the answer describes the first of them, and what was opened is the first entry whose path is
spelled like its path, which is itself unless another is spelled so, as paths that are not UTF-8 may
be. -/
theorem openDisplay_opens (B : HidBus η σ) (d : Catalog) (locator : Locator) (plant : Plant σ) :
    let reply := openDisplay B d locator plant
    match locator with
    | .serial path =>
      reply.value = .error
          (.unsupported ("serial line " ++ path ++ ": only HID connections are supported"))
        ∧ reply.plant = plant
    | _ =>
      match B.enumerate plant with
      | (.error text, plant₁) => reply.value = .error (.ofHid text) ∧ reply.plant = plant₁
      | (.ok entries, plant₁) => Found B d locator entries plant₁ reply := by
  intro reply
  split
  · exact ⟨rfl, rfl⟩
  · rename_i named
    cases answer : B.enumerate plant with
    | mk found plant₁ =>
      cases found with
      | error text =>
        show (openDisplay B d locator plant).value = _ ∧ (openDisplay B d locator plant).plant = _
        unfold openDisplay
        split
        · exact absurd rfl (named _)
        · rw [answer]
          exact ⟨rfl, rfl⟩
      | ok entries => exact found_of_enumerate answer d named

/-! ## Paths that are spelled alike -/

/-- The device opened is that of the first entry offered, if no two entries have the same path. -/
def OpensFirstOffered : Prop :=
  ∀ {η σ : Type} (B : HidBus η σ) (d : Catalog) (locator : Locator) (plant plant₁ : Plant σ)
    (entries : List HidEntry), B.enumerate plant = (.ok entries, plant₁) →
      (entries.map HidEntry.path).Nodup →
        ∀ channel, (openDisplay B d locator plant).value = .ok channel →
          ∃ e handle, FirstWith (d.Offers locator) entries e
            ∧ (B.openEntry e plant₁).1 = .ok handle
            ∧ channel = ⟨some handle, (d.describe e).info⟩

/-- A device that is no display; its path is no text. -/
def strayEntry : HidEntry :=
  { product := 1, path := [0x2F, 0xFE] }

/-- A display; its path is another, but spelled like that of `strayEntry`. -/
def displayEntry : HidEntry :=
  { path := [0x2F, 0xFF] }

/-- A bus with both; its handles are the entries they were opened by. -/
def namesakeBus : HidBus HidEntry Unit where
  enumerate plant := (.ok [strayEntry, displayEntry], plant)
  openEntry e plant := (.ok e, plant)
  writeReport report _ plant := (.ok report.length, plant)
  readReport _ _ _ plant := (.ok [], plant)

theorem openDisplay_namesakeBus (plant : Plant Unit) :
    (openDisplay namesakeBus {} .any plant).value
      = .ok ⟨some strayEntry, (Catalog.describe {} displayEntry).info⟩ := by
  rfl

/-- **A device may be opened that is not the one chosen**: here one that is no display at all. -/
theorem openDisplay_strays : ¬OpensFirstOffered := by
  intro claimed
  let plant : Plant Unit := { now := 0, running := true, state := () }
  have apart : ([strayEntry, displayEntry].map HidEntry.path).Nodup := by decide
  obtain ⟨e, handle, first, opened, same⟩ := claimed namesakeBus {} .any plant plant _ rfl apart _
    (openDisplay_namesakeBus plant)
  have stray : handle = strayEntry := (Option.some.inj (congrArg ReportChannel.handle same)).symm
  have taken : e = handle := Except.ok.inj opened
  have offered := first.holds
  rw [taken, stray] at offered
  exact absurd offered.1 (by decide)

end BrailleDisplay
