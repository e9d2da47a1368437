import BrailleDisplay.Proofs.Cell.Wiring
import BrailleDisplay.Proofs.Profile.Accepted

/-!
# Which profiles make a set

Profiles are looked at one after the other, and the first that is unsound or repeats a name decides;
the name of the default is looked up last.

* `Profile.Sound`, `Profile.FirstFault` — a profile in which nothing is wrong, and the first thing
  wrong with one;
* `Profile.RefusedAfter`, `ProfileSet.Admissible` — profiles that cannot follow others, and lists
  without any;
* `ProfileSet.firstFault?_finds` — going through a list finds the first profile refused, if there is
  one;
* `ProfileSet.Usable`, `ProfileSet.Refused`, `ProfileSet.Serves` — the lists accepted, those that
  are not and why, and what a set made of a list is good for;
* `ProfileSet.ofProfiles_decides` — the three together.
-/

namespace BrailleDisplay

/-- A check that comes first decides, or leaves it to those after it. -/
theorem check_eq_some_iff {α : Type} {wrong : Prop} [Decidable wrong] {fault found : α}
    {later : Option α} : (if wrong then some fault else later) = some found ↔
      wrong ∧ fault = found ∨ ¬wrong ∧ later = some found := by
  by_cases decides : wrong
  · simp [decides]
  · simp [decides]

/-! ## Single profiles -/

namespace Profile

/-- The name, with the letters `A` to `Z` in lower case. -/
def foldedName (p : Profile) : String :=
  Text.asciiLower p.name

theorem isNamed_iff {p : Profile} {name : String} :
    p.isNamed name = true ↔ p.foldedName = Text.asciiLower name :=
  Text.sameIgnoringCase_iff

/-- A wildcard stands in front of another identity. -/
def MisplacesWildcard (p : Profile) : Prop :=
  ∃ identities, p.identities = some identities ∧ ∃ i ∈ identities.dropLast, i.IsZero

/-- Nothing is wrong with a profile. -/
structure Sound (p : Profile) : Prop where
  named : p.name ≠ ""
  cells : 1 ≤ p.usualCells ∧ p.usualCells ≤ 40
  wildcards : ¬p.MisplacesWildcard
  dots : p.dots.IsPermutation
  resource : p.resourcePrefix ≠ some ""

/-- The first thing wrong with a profile. -/
inductive FirstFault (p : Profile) : ProfileFault → Prop
  | name (unnamed : p.name = "") : FirstFault p .emptyName
  | cells (named : p.name ≠ "") (outside : ¬(1 ≤ p.usualCells ∧ p.usualCells ≤ 40)) :
      FirstFault p (.cellCountOutOfRange p.name p.usualCells)
  | wildcard (named : p.name ≠ "") (cells : 1 ≤ p.usualCells ∧ p.usualCells ≤ 40)
      (misplaced : p.MisplacesWildcard) : FirstFault p (.wildcardNotLast p.name)
  | dots (named : p.name ≠ "") (cells : 1 ≤ p.usualCells ∧ p.usualCells ≤ 40)
      (wildcards : ¬p.MisplacesWildcard) (shared : ¬p.dots.IsPermutation) :
      FirstFault p (.dotsNotAPermutation p.name)
  | resource (named : p.name ≠ "") (cells : 1 ≤ p.usualCells ∧ p.usualCells ≤ 40)
      (wildcards : ¬p.MisplacesWildcard) (dots : p.dots.IsPermutation)
      (empty : p.resourcePrefix = some "") : FirstFault p (.emptyResourcePrefix p.name)

theorem misplacesWildcard_iff {p : Profile} :
    p.identities.any (!wildcardsLast ·) = true ↔ p.MisplacesWildcard := by
  simp only [MisplacesWildcard, wildcardsLast, ← Identity.isWildcard_iff]
  cases p.identities with
  | none => simp
  | some identities => simp

theorem sharesDots_iff {p : Profile} :
    (!p.dots.isOneToOne) = true ↔ ¬p.dots.IsPermutation := by
  simp [← p.dots.isOneToOne_iff]

theorem cellsInRange_iff {p : Profile} :
    (1 ≤ p.usualCells ∧ p.usualCells ≤ maxCells) ↔ 1 ≤ p.usualCells ∧ p.usualCells ≤ 40 :=
  Iff.rfl

/-- Nothing is found wrong with a profile exactly when it is sound. -/
theorem fault?_eq_none_iff_sound {p : Profile} : p.fault? = none ↔ p.Sound := by
  have wildcards : (∀ identities, p.identities = some identities → wildcardsLast identities = true)
      ↔ ¬p.MisplacesWildcard := by
    simp [MisplacesWildcard, wildcardsLast, ← Identity.isWildcard_iff]
  rw [fault?_eq_none_iff, wildcards, p.dots.isOneToOne_iff]
  constructor
  · rintro ⟨named, cells, wildcards, dots, resource⟩
    exact ⟨named, cells, wildcards, dots, resource⟩
  · rintro ⟨named, cells, wildcards, dots, resource⟩
    exact ⟨named, cells, wildcards, dots, resource⟩

/-- Only the last identity of a sound profile may be a wildcard. -/
theorem Sound.oneWildcard {p : Profile} (sound : p.Sound) {identities : List Identity}
    (listed : p.identities = some identities) :
    identities.countP (fun i => i.IsZero) ≤ 1 := by
  rcases List.eq_nil_or_concat' identities with rfl | ⟨front, last, rfl⟩
  · exact Nat.zero_le 1
  · have concrete : ∀ i ∈ front, ¬decide i.IsZero = true := by
      intro i among wildcard
      exact sound.wildcards
        ⟨_, listed, i, by rwa [List.dropLast_concat], of_decide_eq_true wildcard⟩
    rw [List.countP_append, List.countP_eq_zero.mpr concrete, Nat.zero_add]
    exact List.countP_le_length

/-- The checks of a profile find the first thing wrong with it. -/
theorem fault?_eq_some_iff {p : Profile} {fault : ProfileFault} :
    p.fault? = some fault ↔ p.FirstFault fault := by
  unfold fault?
  simp only [check_eq_some_iff, misplacesWildcard_iff, sharesDots_iff, cellsInRange_iff, not_not,
    reduceCtorEq, and_false, or_false]
  constructor
  · rintro (⟨unnamed, rfl⟩ | ⟨named, ⟨outside, rfl⟩ | ⟨cells, ⟨misplaced, rfl⟩ |
      ⟨wildcards, ⟨shared, rfl⟩ | ⟨dots, empty, rfl⟩⟩⟩⟩)
    · exact .name unnamed
    · exact .cells named outside
    · exact .wildcard named cells misplaced
    · exact .dots named cells wildcards shared
    · exact .resource named cells wildcards dots empty
  · intro first
    cases first with
    | name unnamed => simp [unnamed]
    | cells named outside => simp [named, outside]
    | wildcard named cells misplaced => simp [named, cells, misplaced]
    | dots named cells wildcards shared => simp [named, cells, wildcards, shared]
    | resource named cells wildcards dots empty => simp [named, cells, wildcards, dots, empty]

end Profile

namespace ProfileSet

/-! ## Lists of profiles -/

/-- Every profile is sound, and no two have the same name, in whatever case. -/
structure Admissible (profiles : List Profile) : Prop where
  sound : ∀ p ∈ profiles, p.Sound
  distinct : (profiles.map Profile.foldedName).Nodup

end ProfileSet

/-- Why a profile cannot follow others: something is wrong with it, or else its name is taken. -/
inductive Profile.RefusedAfter (earlier : List Profile) (p : Profile) : ProfileFault → Prop
  | unsound {fault : ProfileFault} (first : p.FirstFault fault) : RefusedAfter earlier p fault
  | taken (sound : p.Sound) (other : Profile) (among : other ∈ earlier)
      (same : other.foldedName = p.foldedName) : RefusedAfter earlier p (.duplicate p.name)

namespace ProfileSet

theorem admissible_nil : Admissible [] where
  sound _ none := nomatch none
  distinct := .nil

theorem admissible_concat_iff {earlier : List Profile} {p : Profile} :
    Admissible (earlier ++ [p]) ↔
      Admissible earlier ∧ p.Sound ∧ ∀ other ∈ earlier, other.foldedName ≠ p.foldedName := by
  constructor
  · rintro ⟨sound, distinct⟩
    rw [List.map_append, List.nodup_append] at distinct
    obtain ⟨distinct, -, apart⟩ := distinct
    refine ⟨⟨fun q among => sound q (List.mem_append_left _ among), distinct⟩,
      sound p (by simp), fun other among => ?_⟩
    exact apart _ (List.mem_map_of_mem among) _ (by simp)
  · rintro ⟨⟨sound, distinct⟩, own, apart⟩
    refine ⟨fun q among => ?_, ?_⟩
    · rcases List.mem_append.mp among with early | last
      · exact sound q early
      · rw [List.mem_singleton.mp last]
        exact own
    · rw [List.map_append, List.nodup_append]
      refine ⟨distinct, by simp, fun name among name' last => ?_⟩
      obtain ⟨other, early, rfl⟩ := List.mem_map.mp among
      rw [List.map_singleton, List.mem_singleton] at last
      exact last ▸ apart other early

theorem Admissible.of_append {before after : List Profile}
    (admissible : Admissible (before ++ after)) : Admissible before where
  sound p among := admissible.sound p (List.mem_append_left _ among)
  distinct := by
    have distinct := admissible.distinct
    rw [List.map_append] at distinct
    exact (List.nodup_append.mp distinct).1

theorem taken_iff {earlier : List Profile} {p : Profile} :
    earlier.any (·.isNamed p.name) = true ↔
      ∃ other ∈ earlier, other.foldedName = p.foldedName := by
  simp only [List.any_eq_true, Profile.isNamed_iff, Profile.foldedName]

/-- A profile that cannot follow those before it ends the search. -/
theorem firstFault?_refused {earlier : List Profile} {p : Profile} {fault : ProfileFault}
    (refused : p.RefusedAfter earlier fault) (rest : List Profile) :
    firstFault? earlier (p :: rest) = some fault := by
  unfold firstFault?
  cases refused with
  | unsound first => rw [Profile.fault?_eq_some_iff.mpr first]
  | taken sound other among same =>
    rw [Profile.fault?_eq_none_iff_sound.mpr sound]
    exact if_pos (taken_iff.mpr ⟨other, among, same⟩)

/-- A profile that can follow those before it is passed over. -/
theorem firstFault?_passed {earlier : List Profile} {p : Profile}
    (admissible : Admissible (earlier ++ [p])) (rest : List Profile) :
    firstFault? earlier (p :: rest) = firstFault? (earlier ++ [p]) rest := by
  obtain ⟨-, sound, fresh⟩ := admissible_concat_iff.mp admissible
  have free : ¬earlier.any (·.isNamed p.name) = true := by
    intro taken
    obtain ⟨other, among, same⟩ := taken_iff.mp taken
    exact fresh other among same
  rw [firstFault?, Profile.fault?_eq_none_iff_sound.mpr sound]
  exact if_neg free

theorem firstFault?_append {earlier before : List Profile}
    (admissible : Admissible (earlier ++ before)) (rest : List Profile) :
    firstFault? earlier (before ++ rest) = firstFault? (earlier ++ before) rest := by
  induction before generalizing earlier with
  | nil => rw [List.nil_append, List.append_nil]
  | cons p before ih =>
    rw [List.append_cons] at admissible ⊢
    rw [List.cons_append, firstFault?_passed admissible.of_append, ih admissible]

/-- **Going through a list finds the first profile refused**, or that there is none. -/
theorem firstFault?_finds {earlier : List Profile} (admissible : Admissible earlier)
    (profiles : List Profile) :
    match firstFault? earlier profiles with
    | none => Admissible (earlier ++ profiles)
    | some fault => ∃ before p after, profiles = before ++ p :: after
        ∧ Admissible (earlier ++ before) ∧ p.RefusedAfter (earlier ++ before) fault := by
  induction profiles generalizing earlier with
  | nil =>
    rw [List.append_nil]
    exact admissible
  | cons p rest ih =>
    have here : Admissible (earlier ++ []) := by rwa [List.append_nil]
    cases own : p.fault? with
    | some fault =>
      have refused : p.RefusedAfter earlier fault := .unsound (Profile.fault?_eq_some_iff.mp own)
      rw [firstFault?_refused refused rest]
      exact ⟨[], p, rest, rfl, here, by rwa [List.append_nil]⟩
    | none =>
      have sound := Profile.fault?_eq_none_iff_sound.mp own
      by_cases taken : ∃ other ∈ earlier, other.foldedName = p.foldedName
      · obtain ⟨other, among, same⟩ := taken
        have refused : p.RefusedAfter earlier (.duplicate p.name) := .taken sound other among same
        rw [firstFault?_refused refused rest]
        exact ⟨[], p, rest, rfl, here, by rwa [List.append_nil]⟩
      · have further : Admissible (earlier ++ [p]) :=
          admissible_concat_iff.mpr ⟨admissible, sound, fun other among same =>
            taken ⟨other, among, same⟩⟩
        have onward := ih further
        rw [firstFault?_passed further]
        cases found : firstFault? (earlier ++ [p]) rest with
        | none =>
          rw [found] at onward
          rwa [List.append_cons]
        | some fault =>
          rw [found] at onward
          obtain ⟨before, q, after, rfl, fine, refused⟩ := onward
          rw [← List.append_cons] at fine refused
          exact ⟨p :: before, q, after, rfl, fine, refused⟩

/-! ## Sets -/

/-- Profiles with a default that make a set. -/
structure Usable (profiles : List Profile) (defaultName : String) : Prop where
  nonempty : profiles ≠ []
  admissible : Admissible profiles
  default : Text.asciiLower defaultName ∈ profiles.map Profile.foldedName

/-- Why profiles with a default make no set. -/
inductive Refused (defaultName : String) : List Profile → ProfileFault → Prop
  | nothing : Refused defaultName [] .noProfiles
  | profile {before : List Profile} {p : Profile} {fault : ProfileFault} (after : List Profile)
      (admissible : Admissible before) (refused : p.RefusedAfter before fault) :
      Refused defaultName (before ++ p :: after) fault
  | default {profiles : List Profile} (nonempty : profiles ≠ []) (admissible : Admissible profiles)
      (unknown : Text.asciiLower defaultName ∉ profiles.map Profile.foldedName) :
      Refused defaultName profiles (.unknownDefault defaultName)

/-- What a set of profiles is good for.  A name, in whatever case, finds the one profile that has
it; the default is the profile named, and every channel gets a profile of the set. -/
structure Serves (set : ProfileSet) : Prop where
  oneWildcard : ∀ p ∈ set.profiles, ∀ identities, p.identities = some identities →
    identities.countP (fun i => i.IsZero) ≤ 1
  found : ∀ p ∈ set.profiles, ∀ name, Text.asciiLower name = p.foldedName →
    set.find? name = some p ∧ set.profiles.filter (·.isNamed name) = [p]
  default : set.find? set.defaultName = some set.fallback
    ∧ set.fallback.foldedName = Text.asciiLower set.defaultName
  selected : ∀ info, set.profileFor info ∈ set.profiles

theorem find?_isSome_iff {set : ProfileSet} {name : String} :
    (set.find? name).isSome = true
      ↔ Text.asciiLower name ∈ set.profiles.map Profile.foldedName := by
  simp only [find?, List.find?_isSome, Profile.isNamed_iff, List.mem_map]

theorem Admissible.firstFault?_eq_none {profiles : List Profile}
    (admissible : Admissible profiles) :
    firstFault? [] profiles = none := by
  have passed := @firstFault?_append [] profiles admissible []
  rwa [List.append_nil] at passed

theorem Usable.ofProfiles_eq {profiles : List Profile} {defaultName : String}
    (usable : Usable profiles defaultName) :
    ofProfiles profiles defaultName = .ok ⟨profiles, defaultName, usable.nonempty⟩ := by
  have named : (find? ⟨profiles, defaultName, usable.nonempty⟩ defaultName).isSome = true :=
    find?_isSome_iff.mpr usable.default
  rw [ofProfiles, dif_neg usable.nonempty, usable.admissible.firstFault?_eq_none]
  exact if_pos named

theorem Refused.ofProfiles_eq {profiles : List Profile} {defaultName : String}
    {fault : ProfileFault} (refused : Refused defaultName profiles fault) :
    ofProfiles profiles defaultName = .error fault := by
  cases refused with
  | nothing => rfl
  | @profile before p _ after admissible refused =>
    have stops : firstFault? [] (before ++ p :: after) = some fault := by
      rw [@firstFault?_append [] before admissible, List.nil_append]
      exact firstFault?_refused refused after
    rw [ofProfiles, dif_neg (by simp), stops]
  | default nonempty admissible unknown =>
    have unnamed : ¬(find? ⟨profiles, defaultName, nonempty⟩ defaultName).isSome = true :=
      fun named => unknown (find?_isSome_iff.mp named)
    rw [ofProfiles, dif_neg nonempty, admissible.firstFault?_eq_none]
    exact if_neg unnamed

/-- Every list of profiles makes a set, or there is a reason why not. -/
theorem usable_or_refused (profiles : List Profile) (defaultName : String) :
    Usable profiles defaultName ∨ ∃ fault, Refused defaultName profiles fault := by
  rcases eq_or_ne profiles [] with rfl | nonempty
  · exact .inr ⟨_, .nothing⟩
  have finds := firstFault?_finds admissible_nil profiles
  cases found : firstFault? [] profiles with
  | some fault =>
    rw [found] at finds
    obtain ⟨before, p, after, rfl, admissible, refused⟩ := finds
    exact .inr ⟨fault, .profile after admissible refused⟩
  | none =>
    rw [found] at finds
    by_cases named : Text.asciiLower defaultName ∈ profiles.map Profile.foldedName
    · exact .inl ⟨nonempty, finds, named⟩
    · exact .inr ⟨_, .default nonempty finds named⟩

theorem isOk_ofProfiles_iff {profiles : List Profile} {defaultName : String} :
    (ofProfiles profiles defaultName).isOk = true ↔ Usable profiles defaultName := by
  constructor
  · intro accepted
    rcases usable_or_refused profiles defaultName with usable | ⟨fault, refused⟩
    · exact usable
    · rw [refused.ofProfiles_eq] at accepted
      cases accepted
  · intro usable
    rw [usable.ofProfiles_eq]
    rfl

theorem ofProfiles_eq_error_iff {profiles : List Profile} {defaultName : String}
    {fault : ProfileFault} :
    ofProfiles profiles defaultName = .error fault ↔ Refused defaultName profiles fault := by
  refine ⟨fun failed => ?_, Refused.ofProfiles_eq⟩
  rcases usable_or_refused profiles defaultName with usable | ⟨fault', refused⟩
  · rw [usable.ofProfiles_eq] at failed
    cases failed
  · rw [refused.ofProfiles_eq] at failed
    cases failed
    exact refused

/-! ## Looking up -/

/-- No two profiles of an admissible list go by one name. -/
theorem Admissible.filter_isNamed {profiles : List Profile} (admissible : Admissible profiles)
    {p : Profile} (among : p ∈ profiles) {name : String}
    (same : Text.asciiLower name = p.foldedName) : profiles.filter (·.isNamed name) = [p] := by
  obtain ⟨before, after, rfl⟩ := List.append_of_mem among
  have distinct := admissible.distinct
  rw [List.map_append, List.map_cons, List.nodup_append, List.nodup_cons] at distinct
  obtain ⟨-, ⟨last, -⟩, apart⟩ := distinct
  have others : ∀ q, q ∈ before ∨ q ∈ after → ¬q.isNamed name = true := by
    intro q among named
    rw [Profile.isNamed_iff, same] at named
    rcases among with early | late
    · exact apart _ (List.mem_map_of_mem early) _ (List.mem_cons_self) named
    · exact last (named ▸ List.mem_map_of_mem late)
  have own : p.isNamed name = true := Profile.isNamed_iff.mpr same.symm
  have front : before.filter (·.isNamed name) = [] :=
    List.filter_eq_nil_iff.mpr fun q early => others q (.inl early)
  have back : after.filter (·.isNamed name) = [] :=
    List.filter_eq_nil_iff.mpr fun q late => others q (.inr late)
  rw [List.filter_append, List.filter_cons, if_pos own, front, back]
  rfl

theorem Usable.serves {set : ProfileSet} (usable : Usable set.profiles set.defaultName) :
    set.Serves := by
  have found : ∀ p ∈ set.profiles, ∀ name, Text.asciiLower name = p.foldedName →
      set.find? name = some p ∧ set.profiles.filter (·.isNamed name) = [p] := by
    intro p among name same
    have alone := usable.admissible.filter_isNamed among same
    refine ⟨?_, alone⟩
    rw [find?, ← List.head?_filter, alone]
    rfl
  refine ⟨?_, found, ?_, set.profileFor_mem⟩
  · intro p among identities listed
    exact (usable.admissible.sound p among).oneWildcard listed
  · obtain ⟨p, among, same⟩ := List.mem_map.mp usable.default
    have named := (found p among set.defaultName same.symm).1
    have chosen : set.fallback = p := by
      rw [fallback, named]
      rfl
    rw [chosen]
    exact ⟨named, same⟩

/-- **Profiles make a set exactly if each is sound, their names are distinct, and the default is the
name of one of them.**  If they do not, the fault is that of the first profile in order that is
unsound, or sound but of a name already taken; the default is looked up last.  If they do, they are
kept as they are, every spelling of a name finds the one profile that has it, the default is the
profile named, and every channel gets one of them. -/
theorem ofProfiles_decides (profiles : List Profile) (defaultName : String) :
    ((ofProfiles profiles defaultName).isOk = true ↔ Usable profiles defaultName)
    ∧ (∀ fault, ofProfiles profiles defaultName = .error fault ↔
        Refused defaultName profiles fault)
    ∧ match ofProfiles profiles defaultName with
      | .ok set => set.profiles = profiles ∧ set.defaultName = defaultName ∧ set.Serves
      | .error _ => True := by
  refine ⟨isOk_ofProfiles_iff, fun fault => ofProfiles_eq_error_iff, ?_⟩
  rcases usable_or_refused profiles defaultName with usable | ⟨fault, refused⟩
  · rw [usable.ofProfiles_eq]
    exact ⟨rfl, rfl, Usable.serves usable⟩
  · rw [refused.ofProfiles_eq]
    exact trivial

end ProfileSet

end BrailleDisplay
