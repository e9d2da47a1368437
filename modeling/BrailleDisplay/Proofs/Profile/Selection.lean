import BrailleDisplay.Proofs.Text.Beginnings
import BrailleDisplay.Profile.Set

/-!
# Which profile a channel gets

A hint is asked first, then the resource name, then the default; a hint that names no profile is as
good as none.  Names and resource names are compared by their bytes, up to the case of ASCII
letters.

* `Profile.GoesBy`, `Profile.Begins` — a profile of a name, and one with which a resource name
  begins;
* `ProfileSet.First` — the first profile of a set with a property;
* `ProfileSet.Selected` — the profile for a channel, with one constructor for each way to come by
  it;
* `ProfileSet.profileFor_selects` — it is the one that is selected.
-/

namespace BrailleDisplay

open Text (utf8 foldByte BeginsAlike)

namespace Profile

/-- The profile has this name, up to the case of ASCII letters. -/
def GoesBy (name : String) (p : Profile) : Prop :=
  (utf8 p.name).map foldByte = (utf8 name).map foldByte

/-- The profile has a prefix, and the resource name begins with it, up to the case of ASCII
letters. -/
def Begins (resource : String) (p : Profile) : Prop :=
  ∃ start, p.resourcePrefix = some start ∧ BeginsAlike resource start

theorem isNamed_iff_goesBy {p : Profile} {name : String} :
    p.isNamed name = true ↔ p.GoesBy name :=
  Text.sameIgnoringCase_iff_bytes

theorem claims_iff_begins {p : Profile} {resource : String} :
    p.claims resource = true ↔ p.Begins resource := by
  simp only [claims, Option.any_eq_true, Text.beginsIgnoringCase_iff, Begins]

end Profile

namespace ProfileSet

variable {set : ProfileSet} {info : DeviceInfo} {p : Profile}

/-- The profile has the property, and no profile of the set before it has. -/
def First (set : ProfileSet) (P : Profile → Prop) (p : Profile) : Prop :=
  ∃ before after, set.profiles = before ++ p :: after ∧ P p ∧ ∀ other ∈ before, ¬P other

/-- No profile of the set has the property. -/
def Without (set : ProfileSet) (P : Profile → Prop) : Prop :=
  ∀ p ∈ set.profiles, ¬P p

/-- Searching from the front finds the first profile. -/
theorem find?_eq_some_iff_first {test : Profile → Bool} {P : Profile → Prop}
    (agree : ∀ {q}, test q = true ↔ P q) :
    set.profiles.find? test = some p ↔ set.First P p := by
  rw [List.find?_eq_some_iff_append]
  constructor
  · rintro ⟨holds, before, after, split, none⟩
    refine ⟨before, after, split, agree.mp holds, fun other early property => ?_⟩
    have fails := none other early
    rw [agree.mpr property] at fails
    cases fails
  · rintro ⟨before, after, split, holds, none⟩
    refine ⟨agree.mpr holds, before, after, split, fun other early => ?_⟩
    rw [Bool.not_eq_true', Bool.eq_false_iff]
    exact fun found => none other early (agree.mp found)

theorem find?_eq_none_iff_without {test : Profile → Bool} {P : Profile → Prop}
    (agree : ∀ {q}, test q = true ↔ P q) :
    set.profiles.find? test = none ↔ set.Without P := by
  simp only [List.find?_eq_none, Without, agree]

/-- The hint names no profile, or there is none. -/
def Unhinted (set : ProfileSet) (info : DeviceInfo) : Prop :=
  ∀ hint, info.profileHint = some hint → set.Without (Profile.GoesBy hint)

/-- The resource name begins with the prefix of no profile, or there is none. -/
def Unclaimed (set : ProfileSet) (info : DeviceInfo) : Prop :=
  ∀ resource, info.resourceName = some resource → set.Without (Profile.Begins resource)

/-- The profile to fall back to: that of the default name, or the first of all if no profile has
it. -/
inductive Default (set : ProfileSet) : Profile → Prop where
  | named {p : Profile} (first : set.First (Profile.GoesBy set.defaultName) p) : Default set p
  | foremost {p : Profile} (unnamed : set.Without (Profile.GoesBy set.defaultName))
      (first : set.profiles.head? = some p) : Default set p

/-- The profile a channel is to get. -/
inductive Selected (set : ProfileSet) (info : DeviceInfo) : Profile → Prop where
  /-- The first that goes by the hint. -/
  | hinted {hint : String} {p : Profile} (given : info.profileHint = some hint)
      (first : set.First (Profile.GoesBy hint) p) : Selected set info p
  /-- The first with which the resource name begins. -/
  | claimed {resource : String} {p : Profile} (unhinted : set.Unhinted info)
      (given : info.resourceName = some resource)
      (first : set.First (Profile.Begins resource) p) : Selected set info p
  /-- The default. -/
  | fallback {p : Profile} (unhinted : set.Unhinted info) (unclaimed : set.Unclaimed info)
      (default : set.Default p) : Selected set info p

/-! ### Looking up -/

theorem hinted?_eq_some_iff :
    set.hinted? info = some p
      ↔ ∃ hint, info.profileHint = some hint ∧ set.First (Profile.GoesBy hint) p := by
  simp only [hinted?, find?, Option.bind_eq_some_iff,
    find?_eq_some_iff_first Profile.isNamed_iff_goesBy]

theorem hinted?_eq_none_iff : set.hinted? info = none ↔ set.Unhinted info := by
  simp only [hinted?, find?, Option.bind_eq_none_iff,
    find?_eq_none_iff_without Profile.isNamed_iff_goesBy, Unhinted]

theorem claimed?_eq_some_iff :
    set.claimed? info = some p
      ↔ ∃ resource, info.resourceName = some resource
        ∧ set.First (Profile.Begins resource) p := by
  simp only [claimed?, Option.bind_eq_some_iff, find?_eq_some_iff_first Profile.claims_iff_begins]

theorem claimed?_eq_none_iff : set.claimed? info = none ↔ set.Unclaimed info := by
  simp only [claimed?, Option.bind_eq_none_iff,
    find?_eq_none_iff_without Profile.claims_iff_begins, Unclaimed]

theorem default_iff : set.Default p ↔ p = set.fallback := by
  have first := List.head?_eq_some_head set.profiles_ne_nil
  unfold fallback
  constructor
  · intro default
    cases default with
    | named first =>
      rw [find?, (find?_eq_some_iff_first Profile.isNamed_iff_goesBy).mpr first]
      rfl
    | foremost unnamed head =>
      rw [find?, (find?_eq_none_iff_without Profile.isNamed_iff_goesBy).mpr unnamed]
      exact Option.some.inj (head.symm.trans first)
  · rintro rfl
    cases named : set.find? set.defaultName with
    | some p => exact .named ((find?_eq_some_iff_first Profile.isNamed_iff_goesBy).mp named)
    | none =>
      exact .foremost ((find?_eq_none_iff_without Profile.isNamed_iff_goesBy).mp named) first

/-- **The selection.** -/
theorem selected_iff : set.Selected info p ↔ p = set.profileFor info := by
  unfold profileFor
  constructor
  · intro selected
    cases selected with
    | hinted given first => rw [hinted?_eq_some_iff.mpr ⟨_, given, first⟩]
    | claimed unhinted given first =>
      rw [hinted?_eq_none_iff.mpr unhinted, claimed?_eq_some_iff.mpr ⟨_, given, first⟩]
      rfl
    | fallback unhinted unclaimed default =>
      rw [hinted?_eq_none_iff.mpr unhinted, claimed?_eq_none_iff.mpr unclaimed]
      exact default_iff.mp default
  · rintro rfl
    cases hinted : set.hinted? info with
    | some q =>
      obtain ⟨hint, given, first⟩ := hinted?_eq_some_iff.mp hinted
      exact .hinted given first
    | none =>
      have unhinted := hinted?_eq_none_iff.mp hinted
      cases claimed : set.claimed? info with
      | some q =>
        obtain ⟨resource, given, first⟩ := claimed?_eq_some_iff.mp claimed
        exact .claimed unhinted given first
      | none =>
        exact .fallback unhinted (claimed?_eq_none_iff.mp claimed) (default_iff.mpr rfl)

/-- **Which profile a channel gets**: the first that goes by its hint; if there is none, the first
with which its resource name begins; if there is none either, the default.  A resource name begins
with a prefix when as many of its first bytes as the prefix has are the same up to the case of ASCII
letters. -/
theorem profileFor_selects (set : ProfileSet) (info : DeviceInfo) :
    (∀ p, set.Selected info p ↔ p = set.profileFor info)
      ∧ ∀ resource start : String, Text.Compared resource start :=
  ⟨fun _ => selected_iff, Text.compared⟩

end ProfileSet

end BrailleDisplay
