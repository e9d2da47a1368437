import BrailleDisplay.Config.Applied
import BrailleDisplay.Proofs.Profile.Validity
import BrailleDisplay.Proofs.Text.ByteOrder

/-!
# What a configuration makes of the standard profiles

A configuration names profiles in any case, so that several of its names may be names of one.  They
are gone through in the order of their bytes.

* `ProfileChanges.lastSet`, `Profile.overlaid` — what many changes make of one profile: of each
  property the value set last, and all width rules;
* `Configuration.changesFor`, `Configuration.strayName?` — the changes meant for a profile, and the
  first name that none of the profiles has;
* `Configuration.overlay_spec` — going through the changes one by one comes to the same;
* `Configuration.profileSet_overlays` — the profiles in use under a configuration.
-/

namespace BrailleDisplay

open ProfileSet (ofProfiles standard)

namespace ProfileChanges

/-- The value to which a property is set last. -/
def lastSet {α : Type} (property : ProfileChanges → Option α) (changes : List ProfileChanges) :
    Option α :=
  (changes.filterMap property).getLast?

theorem lastSet_cons {α : Type} (property : ProfileChanges → Option α) (first : ProfileChanges)
    (later : List ProfileChanges) :
    lastSet property (first :: later) = (lastSet property later).or (property first) := by
  unfold lastSet
  cases own : property first with
  | none => rw [List.filterMap_cons_none own, Option.or_none]
  | some value => rw [List.filterMap_cons_some own, List.getLast?_cons, Option.or_some]

end ProfileChanges

open ProfileChanges (lastSet lastSet_cons)

namespace Profile

/-- A profile with many changes made at once. -/
def overlaid (p : Profile) (changes : List ProfileChanges) : Profile where
  name := p.name
  modelName := (lastSet (·.modelName) changes).getD p.modelName
  resourcePrefix := (lastSet (·.resourcePrefix) changes).or p.resourcePrefix
  keyTable := p.keyTable
  identities :=
    match lastSet (·.identities) changes with
    | none => p.identities
    | some [] => none
    | some (first :: more) => some (first :: more)
  usualCells := (lastSet (·.cellCount) changes).getD p.usualCells
  widthRules := p.widthRules ++ changes.flatMap (·.widthRules)
  dots := (lastSet (·.dots) changes).getD p.dots

theorem overlaid_nil (p : Profile) : p.overlaid [] = p := by
  simp [overlaid, lastSet]

/-- The first change of many can be made before the others. -/
theorem overlaid_cons (p : Profile) (first : ProfileChanges) (later : List ProfileChanges) :
    p.overlaid (first :: later) = (first.applyTo p).overlaid later := by
  unfold overlaid ProfileChanges.applyTo
  simp only [lastSet_cons, Option.getD_or, Option.or_assoc, List.flatMap_cons, List.append_assoc,
    mk.injEq, true_and, and_true]
  cases lastSet (·.identities) later with
  | none => rfl
  | some identities =>
    cases identities with
    | nil => rfl
    | cons i more => rfl

end Profile

/-! ## One name -/

/-- A profile with the changes made, if they are meant for it. -/
def ProfileChanges.applyIf (c : ProfileChanges) (name : String) (p : Profile) : Profile :=
  if p.isNamed name then c.applyTo p else p

@[simp]
theorem ProfileChanges.name_applyIf (c : ProfileChanges) (name : String) (p : Profile) :
    (c.applyIf name p).name = p.name := by
  unfold applyIf
  split
  · rfl
  · rfl

@[simp]
theorem ProfileChanges.isNamed_applyIf (c : ProfileChanges) (name key : String) (p : Profile) :
    (c.applyIf name p).isNamed key = p.isNamed key := by
  simp [Profile.isNamed]

/-- If no two profiles have the same name, a name is that of one profile or a stray. -/
theorem changeNamed?_eq {profiles : List Profile}
    (distinct : (profiles.map Profile.foldedName).Nodup) (name : String) (c : ProfileChanges) :
    changeNamed? name c.applyTo profiles =
      if profiles.any (·.isNamed name) then some (profiles.map (c.applyIf name)) else none := by
  induction profiles with
  | nil => rfl
  | cons p rest ih =>
    rw [List.map_cons, List.nodup_cons] at distinct
    obtain ⟨alone, distinct⟩ := distinct
    rw [changeNamed?, List.any_cons, List.map_cons, ProfileChanges.applyIf]
    by_cases named : p.isNamed name = true
    · have others : ∀ q ∈ rest, c.applyIf name q = q := by
        intro q among
        refine if_neg fun same => alone ?_
        rw [Profile.isNamed_iff.mp named, ← Profile.isNamed_iff.mp same]
        exact List.mem_map_of_mem among
      have kept : rest.map (c.applyIf name) = rest := by
        rw [List.map_congr_left others, List.map_id']
      simp [named, kept]
    · rw [ih distinct]
      simp only [named, Bool.false_or, Bool.false_eq_true, if_false]
      split
      · rfl
      · rfl

namespace Configuration

/-! ## Many names -/

/-- The changes meant for a profile, in order. -/
def changesFor (entries : List (String × ProfileChanges)) (p : Profile) : List ProfileChanges :=
  (entries.filter fun entry => p.isNamed entry.1).map (·.2)

/-- The first name that none of the profiles has. -/
def strayName? (profiles : List Profile) (entries : List (String × ProfileChanges)) :
    Option String :=
  (entries.map (·.1)).find? fun name => !profiles.any (·.isNamed name)

/-- The changes behind the first are made to a profile that the first is made to. -/
theorem overlaid_applyIf (name : String) (c : ProfileChanges)
    (entries : List (String × ProfileChanges)) (p : Profile) :
    (c.applyIf name p).overlaid (changesFor entries (c.applyIf name p))
      = p.overlaid (changesFor ((name, c) :: entries) p) := by
  unfold changesFor
  simp only [ProfileChanges.isNamed_applyIf, List.filter_cons]
  unfold ProfileChanges.applyIf
  split
  · rw [List.map_cons, Profile.overlaid_cons]
  · rfl

/-- Changes keep the names, so the strays stay the same. -/
theorem any_isNamed_applyIf (profiles : List Profile) (name key : String) (c : ProfileChanges) :
    (profiles.map (c.applyIf name)).any (·.isNamed key) = profiles.any (·.isNamed key) := by
  simp only [List.any_map, Function.comp_def, ProfileChanges.isNamed_applyIf]

/-- One name after the other, as `changedProfiles` goes through them. -/
def overlay (entries : List (String × ProfileChanges)) (profiles : List Profile) :
    Except ConfigFault (List Profile) :=
  entries.foldlM (fun profiles (name, changes) =>
    match changeNamed? name changes.applyTo profiles with
    | some changed => .ok changed
    | none => .error (.unknownProfile name)) profiles

theorem overlay_cons (name : String) (c : ProfileChanges)
    (entries : List (String × ProfileChanges)) {profiles : List Profile}
    (distinct : (profiles.map Profile.foldedName).Nodup) :
    overlay ((name, c) :: entries) profiles =
      if profiles.any (·.isNamed name) then overlay entries (profiles.map (c.applyIf name))
      else .error (.unknownProfile name) := by
  rw [overlay, List.foldlM_cons]
  dsimp only
  rw [changeNamed?_eq distinct]
  by_cases known : profiles.any (·.isNamed name) = true
  · rw [if_pos known, if_pos known]
    rfl
  · rw [if_neg known, if_neg known]
    rfl

/-- **Changes made one after the other are made to each profile at once**, if no name is a stray. -/
theorem overlay_spec (entries : List (String × ProfileChanges)) {profiles : List Profile}
    (distinct : (profiles.map Profile.foldedName).Nodup) :
    overlay entries profiles =
      match strayName? profiles entries with
      | some name => .error (.unknownProfile name)
      | none => .ok (profiles.map fun p => p.overlaid (changesFor entries p)) := by
  induction entries generalizing profiles with
  | nil =>
    have unchanged (p : Profile) : p.overlaid (changesFor [] p) = p := p.overlaid_nil
    simp only [unchanged, List.map_id']
    rfl
  | cons entry entries ih =>
    obtain ⟨name, c⟩ := entry
    rw [overlay_cons name c entries distinct, strayName?, List.map_cons, List.find?_cons]
    by_cases known : profiles.any (·.isNamed name) = true
    · have folded : (profiles.map (c.applyIf name)).map Profile.foldedName
          = profiles.map Profile.foldedName := by
        simp [Profile.foldedName, Function.comp_def]
      rw [if_pos known, ih (folded ▸ distinct), strayName?]
      simp only [any_isNamed_applyIf, known, Bool.not_true, List.map_map, Function.comp_def,
        overlaid_applyIf]
    · rw [if_neg known]
      simp only [known, Bool.not_false]

/-! ## The standard profiles -/

/-- Entries are in the order of their names' bytes. -/
def InKeyOrder (entries : List (String × ProfileChanges)) : Prop :=
  entries.Pairwise fun entry later => Text.utf8 entry.1 ≤ Text.utf8 later.1

theorem inOrder_inKeyOrder (c : Configuration) : InKeyOrder c.inOrder := by
  have sorted : c.inOrder.Pairwise fun entry later => decide (entry.1 ≤ later.1) = true :=
    List.pairwise_mergeSort (fun a b c => by simpa using le_trans)
      (fun a b => by simpa using le_total a.1 b.1) c.profiles
  refine sorted.imp fun before => ?_
  exact Text.utf8_le_iff.mpr (of_decide_eq_true before)

theorem inOrder_perm (c : Configuration) : c.inOrder.Perm c.profiles :=
  List.mergeSort_perm _ _

theorem changesFor_eq_nil {c : Configuration} {p : Profile}
    (unnamed : ∀ entry ∈ c.profiles, ¬p.isNamed entry.1 = true) :
    changesFor c.inOrder p = [] := by
  have none : c.inOrder.filter (fun entry => p.isNamed entry.1) = [] :=
    List.filter_eq_nil_iff.mpr fun entry among => unnamed entry (c.inOrder_perm.mem_iff.mp among)
  rw [changesFor, none, List.map_nil]

/-- **The profiles in use under a configuration.**  Its entries are gone through in the order of the
bytes of their names.  The first name that is none of a standard profile, in whatever case, is
refused before anything else.  Otherwise the standard profiles, each with the changes meant for it,
are made a set, with the profile named to fall back to or else the standard one; what is wrong with
them is wrong with the configuration.  A profile that no entry names stays as it is. -/
theorem profileSet_overlays (c : Configuration) :
    c.inOrder.Perm c.profiles
    ∧ InKeyOrder c.inOrder
    ∧ c.profileSet =
        (match strayName? standard.profiles c.inOrder with
        | some name => .error (.unknownProfile name)
        | none =>
          (ofProfiles (standard.profiles.map fun p => p.overlaid (changesFor c.inOrder p))
            (c.fallback.getD standard.fallback.name)).mapError (.protocol ∘ .invalidConfig))
    ∧ ∀ p ∈ standard.profiles, (∀ entry ∈ c.profiles, ¬p.isNamed entry.1 = true) →
        p.overlaid (changesFor c.inOrder p) = p := by
  refine ⟨c.inOrder_perm, c.inOrder_inKeyOrder, ?_, fun p _ unnamed => ?_⟩
  · have distinct : (standard.profiles.map Profile.foldedName).Nodup := by decide
    have changed : c.changedProfiles = overlay c.inOrder standard.profiles := rfl
    rw [profileSet, changed, overlay_spec c.inOrder distinct]
    cases strayName? standard.profiles c.inOrder with
    | some name => rfl
    | none =>
      simp only [bind, Except.bind]
      cases ofProfiles (standard.profiles.map fun p => p.overlaid (changesFor c.inOrder p))
          (c.fallback.getD standard.fallback.name) with
      | ok set => rfl
      | error fault => rfl
  · rw [changesFor_eq_nil unnamed, Profile.overlaid_nil]

end Configuration

end BrailleDisplay
