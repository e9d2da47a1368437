import BrailleDisplay.Profile.Set

/-!
# Sets of profiles that a host accepts

A host uses the standard profiles, or those of a configuration in which nothing is wrong.

* `Identity.IsZero` — the identity that is accepted without asking, told by its bytes;
* `Profile.fault?_eq_none_iff` — when nothing is wrong with a profile;
* `ProfileSet.Accepted` — the standard set, and what `ProfileSet.ofProfiles` lets through;
  `Accepted.faultless` says that nothing is wrong with any of its profiles;
* `ProfileSet.profileFor_mem` — the profile that is selected for a channel is one of the set.
-/

namespace BrailleDisplay

/-- Both bytes of the identity are zero. -/
def Identity.IsZero (i : Identity) : Prop :=
  i.id1 = 0 ∧ i.id2 = 0

instance (i : Identity) : Decidable i.IsZero :=
  inferInstanceAs (Decidable (_ ∧ _))

/-- The identity of zeros, and no other, is accepted without asking. -/
theorem Identity.isWildcard_iff {i : Identity} : i.isWildcard = true ↔ i.IsZero := by
  simp [isWildcard, IsZero]

/-- A check that comes first has found nothing, and neither have those after it. -/
theorem check_eq_none_iff {α : Type} {wrong : Prop} [Decidable wrong] {fault : α}
    {later : Option α} : (if wrong then some fault else later) = none ↔ ¬wrong ∧ later = none := by
  by_cases found : wrong
  · rw [if_pos found]
    exact iff_of_false (Option.some_ne_none fault) (fun both => both.1 found)
  · rw [if_neg found]
    exact (and_iff_right found).symm

/-- Nothing is wrong with a profile that has a name, a width in range, wildcards only in the last
place, dots that are all told apart, and no empty prefix. -/
theorem Profile.fault?_eq_none_iff {p : Profile} :
    p.fault? = none ↔
      p.name ≠ "" ∧ (1 ≤ p.usualCells ∧ p.usualCells ≤ maxCells)
        ∧ (∀ identities, p.identities = some identities → wildcardsLast identities = true)
        ∧ p.dots.isOneToOne = true ∧ p.resourcePrefix ≠ some "" := by
  simp only [fault?, check_eq_none_iff, Decidable.not_not, and_true]
  cases p.identities with
  | none => simp
  | some identities => simp

namespace ProfileSet

/-- Nothing is wrong with profiles in which nothing wrong is found. -/
theorem firstFault?_eq_none {earlier profiles : List Profile}
    (none : firstFault? earlier profiles = none) : ∀ p ∈ profiles, p.fault? = .none := by
  induction profiles generalizing earlier with
  | nil => exact fun _ absent => (nomatch absent)
  | cons p rest ih =>
    unfold firstFault? at none
    cases own : p.fault? with
    | some fault =>
      rw [own] at none
      cases none
    | none =>
      rw [own] at none
      by_cases taken : earlier.any (·.isNamed p.name) = true
      · rw [if_pos taken] at none
        cases none
      · rw [if_neg taken] at none
        intro q among
        rcases List.mem_cons.mp among with rfl | later
        · exact own
        · exact ih none q later

/-- The sets a host may use. -/
def Accepted (set : ProfileSet) : Prop :=
  set = standard ∨ ∃ profiles defaultName, ofProfiles profiles defaultName = .ok set

theorem ofProfiles_faultless {profiles : List Profile} {defaultName : String} {set : ProfileSet}
    (accepted : ofProfiles profiles defaultName = .ok set) :
    ∀ p ∈ set.profiles, p.fault? = none := by
  unfold ofProfiles at accepted
  by_cases empty : profiles = []
  · rw [dif_pos empty] at accepted
    cases accepted
  · rw [dif_neg empty] at accepted
    cases found : firstFault? [] profiles with
    | some fault =>
      rw [found] at accepted
      cases accepted
    | none =>
      rw [found] at accepted
      dsimp only at accepted
      split at accepted
      · cases accepted
        exact firstFault?_eq_none found
      · cases accepted

/-- **Nothing is wrong with the profiles of an accepted set.** -/
theorem Accepted.faultless {set : ProfileSet} (accepted : set.Accepted) :
    ∀ p ∈ set.profiles, p.fault? = none := by
  rcases accepted with rfl | ⟨profiles, defaultName, accepted⟩
  · decide
  · exact ofProfiles_faultless accepted

/-- The profile of a name is one of the set. -/
theorem mem_of_find? {set : ProfileSet} {name : String} {p : Profile}
    (found : set.find? name = some p) : p ∈ set.profiles :=
  List.mem_of_find?_eq_some found

theorem fallback_mem (set : ProfileSet) : set.fallback ∈ set.profiles := by
  unfold fallback
  cases found : set.find? set.defaultName with
  | some p => exact mem_of_find? found
  | none => exact List.head_mem set.profiles_ne_nil

/-- **The profile selected for a channel is one of the set**, whatever is known of the device. -/
theorem profileFor_mem (set : ProfileSet) (info : DeviceInfo) :
    set.profileFor info ∈ set.profiles := by
  unfold profileFor
  cases hinted : set.hinted? info with
  | some p =>
    obtain ⟨hint, -, found⟩ := Option.bind_eq_some_iff.mp hinted
    exact mem_of_find? found
  | none =>
    cases claimed : set.claimed? info with
    | some p =>
      obtain ⟨resource, -, found⟩ := Option.bind_eq_some_iff.mp claimed
      exact List.mem_of_find?_eq_some found
    | none => exact set.fallback_mem

end ProfileSet

end BrailleDisplay
