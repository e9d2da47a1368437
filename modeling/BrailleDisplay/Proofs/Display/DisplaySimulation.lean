import BrailleDisplay.Proofs.Display.Lifetime
import BrailleDisplay.Proofs.Frame.LinkSimulation

/-!
# Displays on channels that do as others do

All that a display does goes through its link.  So on channels that do as others do, displays do as
others do, from bringing them up to being done with them.

* `Link.probe_alike`, `Link.askWidth_alike`, `Link.poll_alike` — the loops over frames, each by
  induction on its bound;
* `Display.map`, `Display.bringUp_alike`, `Display.answer_alike` — bringing up and using displays;
* `Display.live_alike` — whole lifetimes.
-/

namespace BrailleDisplay

variable {χ χ' σ α : Type} {T' : Transport χ' σ} {T : Transport χ σ} {π : χ' → χ}
  {W : World σ → World σ → Prop}

/-! ## Asking over a link -/

namespace Link

section

variable (sim : T'.Simulates T π W) (kinship : Kinship W) (fuel : Nat)
include sim kinship

theorem awaitEcho_alike (expected : ShortFrame) (more : Nat) (link : Link χ') {w' w : World σ}
    (kin : W w' w) :
    Bounded.Alike (Alike π W) W (link.awaitEcho T' fuel expected more w')
      ((link.map π).awaitEcho T fuel expected more w) := by
  induction more generalizing link w' w with
  | zero => exact kin
  | succ more ih =>
    unfold awaitEcho
    refine (nextFrame_alike sim kinship fuel echoTimeout link kin).bind ?_
    rintro ⟨outcome, link₁, w₁'⟩ ⟨_, _, w₁⟩ ⟨rfl, rfl, kin₁⟩
    cases outcome with
    | error e => exact ⟨rfl, rfl, kin₁⟩
    | ok found =>
      cases found with
      | none => exact ⟨rfl, rfl, kin₁⟩
      | some frame =>
        cases frame with
        | short echo => exact ⟨rfl, rfl, kin₁⟩
        | long frame => exact ih link₁ (kinship.log _ _ kin₁)

theorem confirms_alike (candidate : Identity) (link : Link χ') {w' w : World σ} (kin : W w' w) :
    Bounded.Alike (Alike π W) W (link.confirms T' fuel candidate w')
      ((link.map π).confirms T fuel candidate w) := by
  have written := write_alike sim kinship
    (ShortFrame.bytes ⟨candidate.id1, candidate.id2⟩) link kin
  unfold confirms
  dsimp only
  generalize link.write T' _ w' = result' at written ⊢
  generalize (link.map π).write T _ w = result at written ⊢
  obtain ⟨outcome', link₁, w₁'⟩ := result'
  obtain ⟨outcome, _, w₁⟩ := result
  obtain ⟨rfl, rfl, kin₁⟩ := written
  cases outcome' with
  | error e => exact ⟨rfl, rfl, kin₁⟩
  | ok _ => exact awaitEcho_alike sim kinship fuel _ fuel link₁ kin₁

/-- Probing, by induction on the candidates. -/
theorem probe_alike (candidates : List Identity) (link : Link χ') {w' w : World σ}
    (kin : W w' w) :
    Bounded.Alike (Alike π W) W (link.probe T' fuel candidates w')
      ((link.map π).probe T fuel candidates w) := by
  induction candidates generalizing link w' w with
  | nil => exact ⟨rfl, rfl, kin⟩
  | cons candidate rest ih =>
    unfold probe
    dsimp only
    by_cases wildcard : candidate.isWildcard = true
    · rw [if_pos wildcard, if_pos wildcard]
      exact ⟨rfl, rfl, kinship.log _ _ kin⟩
    · rw [if_neg wildcard, if_neg wildcard]
      refine (confirms_alike sim kinship fuel candidate link (kinship.log _ _ kin)).bind ?_
      rintro ⟨outcome, link₁, w₁'⟩ ⟨_, _, w₁⟩ ⟨rfl, rfl, kin₁⟩
      cases outcome with
      | error e => exact ih link₁ (kinship.log _ _ kin₁)
      | ok confirmed =>
        cases confirmed with
        | true => exact ⟨rfl, rfl, kinship.log _ _ kin₁⟩
        | false => exact ih link₁ kin₁

theorem send_alike (frame : HostFrame) (link : Link χ') {w' w : World σ} (kin : W w' w) :
    Alike π W (link.send T' frame w') ((link.map π).send T frame w) := by
  unfold send
  cases frame.encode with
  | error e => exact ⟨rfl, rfl, kin⟩
  | ok bytes =>
    have written := write_alike sim kinship bytes link kin
    dsimp only
    generalize link.write T' bytes w' = result' at written ⊢
    generalize (link.map π).write T bytes w = result at written ⊢
    obtain ⟨outcome', link₁, w₁'⟩ := result'
    obtain ⟨outcome, _, w₁⟩ := result
    obtain ⟨rfl, rfl, kin₁⟩ := written
    exact ⟨rfl, rfl, kin₁⟩

theorem awaitWidth_alike (deadline more : Nat) (link : Link χ') {w' w : World σ} (kin : W w' w) :
    Bounded.Alike (Alike π W) W (link.awaitWidth T' fuel deadline more w')
      ((link.map π).awaitWidth T fuel deadline more w) := by
  induction more generalizing link w' w with
  | zero => exact kin
  | succ more ih =>
    unfold awaitWidth
    rw [kinship.now kin]
    by_cases late : deadline ≤ w.now
    · rw [if_pos late, if_pos late]
      exact ⟨rfl, rfl, kin⟩
    rw [if_neg late, if_neg late]
    refine (nextFrame_alike sim kinship fuel (deadline - w.now) link kin).bind ?_
    rintro ⟨outcome, link₁, w₁'⟩ ⟨_, _, w₁⟩ ⟨rfl, rfl, kin₁⟩
    cases outcome with
    | error e => exact ⟨rfl, rfl, kin₁⟩
    | ok found =>
      cases found with
      | none => exact ⟨rfl, rfl, kin₁⟩
      | some frame =>
        dsimp only
        cases frame.widthReport? with
        | none => exact ih link₁ (kinship.log _ _ kin₁)
        | some count =>
          dsimp only
          by_cases zero : count = 0
          · rw [if_pos zero, if_pos zero]
            exact ih link₁ (kinship.log _ _ kin₁)
          rw [if_neg zero, if_neg zero]
          by_cases wide : maxCells < count
          · rw [if_pos wide, if_pos wide]
            exact ⟨rfl, rfl, kinship.log _ _ kin₁⟩
          · rw [if_neg wide, if_neg wide]
            exact ⟨rfl, rfl, kin₁⟩

theorem askOnce_alike (link : Link χ') {w' w : World σ} (kin : W w' w) :
    Bounded.Alike (Alike π W) W (link.askOnce T' fuel w') ((link.map π).askOnce T fuel w) := by
  have sent := send_alike sim kinship widthRequest link kin
  unfold askOnce
  generalize link.send T' widthRequest w' = result' at sent ⊢
  generalize (link.map π).send T widthRequest w = result at sent ⊢
  obtain ⟨outcome', link₁, w₁'⟩ := result'
  obtain ⟨outcome, _, w₁⟩ := result
  obtain ⟨rfl, rfl, kin₁⟩ := sent
  cases outcome' with
  | error e => exact ⟨rfl, rfl, kin₁⟩
  | ok _ =>
    dsimp only
    rw [kinship.now kin₁]
    exact awaitWidth_alike sim kinship fuel _ fuel link₁ kin₁

/-- Asking for the width, by induction on the attempts left. -/
theorem askAgain_alike (fallback : UInt8) (remaining : Nat) (link : Link χ') {w' w : World σ}
    (kin : W w' w) :
    Bounded.Alike (Alike π W) W (link.askAgain T' fuel fallback remaining w')
      ((link.map π).askAgain T fuel fallback remaining w) := by
  induction remaining generalizing link w' w with
  | zero => exact ⟨rfl, rfl, kinship.log _ _ kin⟩
  | succ remaining ih =>
    unfold askAgain
    refine (askOnce_alike sim kinship fuel link kin).bind ?_
    rintro ⟨outcome, link₁, w₁'⟩ ⟨_, _, w₁⟩ ⟨rfl, rfl, kin₁⟩
    cases outcome with
    | error e => exact ih link₁ (kinship.log _ _ kin₁)
    | ok told =>
      cases told with
      | none => exact ih link₁ (kinship.log _ _ kin₁)
      | some cells => exact ⟨rfl, rfl, kinship.log _ _ kin₁⟩

theorem askWidth_alike (fallback : UInt8) (link : Link χ') {w' w : World σ} (kin : W w' w) :
    Bounded.Alike (Alike π W) W (link.askWidth T' fuel fallback w')
      ((link.map π).askWidth T fuel fallback w) :=
  askAgain_alike sim kinship fuel fallback widthAttempts link kin

theorem pollFrames_alike (more : Nat) (link : Link χ') {w' w : World σ} (kin : W w' w) :
    Bounded.Alike (Alike π W) W (link.pollFrames T' fuel more w')
      ((link.map π).pollFrames T fuel more w) := by
  induction more generalizing link w' w with
  | zero => exact kin
  | succ more ih =>
    unfold pollFrames
    refine (nextFrame_alike sim kinship fuel 0 link kin).bind ?_
    rintro ⟨outcome, link₁, w₁'⟩ ⟨_, _, w₁⟩ ⟨rfl, rfl, kin₁⟩
    cases outcome with
    | error e => exact ⟨rfl, rfl, kinship.log _ _ kin₁⟩
    | ok found =>
      cases found with
      | none => exact ⟨rfl, rfl, kin₁⟩
      | some frame =>
        dsimp only
        cases KeyEvent.ofFrame? frame with
        | some event => exact ⟨rfl, rfl, kin₁⟩
        | none => exact ih link₁ (kinship.log _ _ kin₁)

theorem poll_alike (link : Link χ') {w' w : World σ} (kin : W w' w) :
    Bounded.Alike (Alike π W) W (link.poll T' fuel w') ((link.map π).poll T fuel w) :=
  pollFrames_alike sim kinship fuel fuel link kin

end

end Link

/-! ## Windows -/

namespace Window

/-- Results of an operation on windows and links that agree. -/
def Alike (π : χ' → χ) (W : World σ → World σ → Prop) :
    α × Window × Link χ' × World σ → α × Window × Link χ × World σ → Prop :=
  Pairs Eq (Pairs Eq (Pairs (Link.map π · = ·) W))

section

variable (sim : T'.Simulates T π W) (kinship : Kinship W)
include sim kinship

theorem submit_alike (cells : List UInt8) (window : Window) (link : Link χ') {w' w : World σ}
    (kin : W w' w) :
    Alike π W (window.submit T' cells link w') (window.submit T cells (link.map π) w) := by
  have sent := Link.send_alike sim kinship (window.frame cells) link kin
  unfold submit
  generalize link.send T' (window.frame cells) w' = result' at sent ⊢
  generalize (link.map π).send T (window.frame cells) w = result at sent ⊢
  obtain ⟨outcome', link₁, w₁'⟩ := result'
  obtain ⟨outcome, _, w₁⟩ := result
  obtain ⟨rfl, rfl, kin₁⟩ := sent
  cases outcome' with
  | error e => exact ⟨rfl, rfl, rfl, kin₁⟩
  | ok _ => exact ⟨rfl, rfl, rfl, kinship.log _ _ kin₁⟩

theorem update_alike (cells : List UInt8) (window : Window) (link : Link χ') {w' w : World σ}
    (kin : W w' w) :
    Alike π W (window.update T' cells link w') (window.update T cells (link.map π) w) := by
  unfold update
  by_cases misfits : cells.length ≠ window.width
  · rw [if_pos misfits, if_pos misfits]
    exact ⟨rfl, rfl, rfl, kin⟩
  rw [if_neg misfits, if_neg misfits]
  by_cases same : cells = window.shown
  · rw [if_pos same, if_pos same]
    exact ⟨rfl, rfl, rfl, kin⟩
  rw [if_neg same, if_neg same]
  have sent := submit_alike sim kinship cells window link kin
  generalize window.submit T' cells link w' = result' at sent ⊢
  generalize window.submit T cells (link.map π) w = result at sent ⊢
  obtain ⟨outcome', window', link₁, w₁'⟩ := result'
  obtain ⟨outcome, _, _, w₁⟩ := result
  obtain ⟨rfl, rfl, rfl, kin₁⟩ := sent
  exact ⟨rfl, rfl, rfl, kin₁⟩

theorem erase_alike (window : Window) (link : Link χ') {w' w : World σ} (kin : W w' w) :
    Alike π W (window.erase T' link w') (window.erase T (link.map π) w) :=
  submit_alike sim kinship (List.replicate window.width 0) window link kin

end

end Window

/-! ## Displays -/

theorem ProfileSet.isEntry_of_mem_profileNotes (profiles : ProfileSet) (info : DeviceInfo) :
    ∀ n ∈ profiles.profileNotes info, n.IsEntry := by
  intro n among
  rcases List.mem_append.mp among with hint | resource
  · unfold hintNotes at hint
    split at hint
    · cases hint
    · split at hint
      · exact ⟨_, _, List.mem_singleton.mp hint⟩
      · exact ⟨_, _, List.mem_singleton.mp hint⟩
  · split at resource
    · cases resource
    · unfold resourceNotes at resource
      split at resource
      · exact ⟨_, _, List.mem_singleton.mp resource⟩
      · cases resource

theorem Profile.isEntry_of_mem_keyTableNotes (profile : Profile) (probed : Option KeyTable)
    (columns : UInt8) : ∀ n ∈ profile.keyTableNotes probed columns, n.IsEntry := by
  intro n among
  unfold keyTableNotes at among
  split at among
  · cases among
  · exact ⟨_, _, List.mem_singleton.mp among⟩

namespace Display

/-- The display on the channel that the channel stands for. -/
def map (π : χ' → χ) (display : Display χ') : Display χ where
  link := display.link.map π
  profile := display.profile
  identity := display.identity
  width := display.width
  keyTable := display.keyTable
  window := display.window

/-- Results of an operation on displays that agree. -/
def Alike (π : χ' → χ) (W : World σ → World σ → Prop) :
    α × Display χ' × World σ → α × Display χ × World σ → Prop :=
  Pairs Eq (Pairs (map π · = ·) W)

section

variable (sim : T'.Simulates T π W) (kinship : Kinship W) (fuel : Nat)
include sim kinship

theorem identify_alike (profile : Profile) (link : Link χ') {w' w : World σ} (kin : W w' w) :
    Bounded.Alike (Link.Alike π W) W (identify T' fuel profile link w')
      (identify T fuel profile (link.map π) w) := by
  unfold identify
  cases profile.identities with
  | none => exact ⟨rfl, rfl, kin⟩
  | some candidates => exact Link.probe_alike sim kinship fuel candidates link kin

/-- **Displays come up alike, or fail to.** -/
theorem bringUp_alike (profiles : ProfileSet) (channel : χ') {w' w : World σ} (kin : W w' w) :
    Bounded.Alike (Pairs (Answers (map π · = ·)) W) W (bringUp T' fuel profiles channel w')
      (bringUp T fuel profiles (π channel) w) := by
  unfold bringUp
  dsimp only
  rw [sim.info]
  have told := kinship.notes (profiles.isEntry_of_mem_profileNotes (T.info (π channel))) kin
  refine (identify_alike sim kinship fuel _ { channel } (kinship.log _ _ told)).bind ?_
  rintro ⟨identity, link₁, w₁'⟩ ⟨_, _, w₁⟩ ⟨rfl, rfl, kin₁⟩
  refine (Link.askWidth_alike sim kinship fuel _ link₁ kin₁).bind ?_
  rintro ⟨width, link₂, w₂'⟩ ⟨_, _, w₂⟩ ⟨rfl, rfl, kin₂⟩
  dsimp only
  have told' := kinship.notes (Profile.isEntry_of_mem_keyTableNotes
    (profiles.profileFor (T.info (π channel))) (identity.map Identity.keyTable) width.cells) kin₂
  generalize Window.blank _ _ = window
  have erased := Window.erase_alike sim kinship window link₂ told'
  generalize window.erase T' link₂ _ = result' at erased ⊢
  generalize window.erase T (link₂.map π) _ = result at erased ⊢
  obtain ⟨outcome', window₁, link₃, w₃'⟩ := result'
  obtain ⟨outcome, _, _, w₃⟩ := result
  obtain ⟨rfl, rfl, rfl, kin₃⟩ := erased
  cases outcome' with
  | ok _ => exact ⟨.ok rfl, kinship.log _ _ kin₃⟩
  | error e =>
    have shut := Link.shut_alike sim kinship link₃
      (kinship.log .warn ("initial clear failed: " ++ e.message) kin₃)
    dsimp only
    generalize link₃.shut T' _ = result' at shut ⊢
    generalize (link₃.map π).shut T _ = result at shut ⊢
    obtain ⟨link₄, w₄'⟩ := result'
    obtain ⟨_, w₄⟩ := result
    obtain ⟨rfl, kin₄⟩ := shut
    exact ⟨.error e, Link.drop_alike sim kinship link₄ kin₄⟩

theorem present_alike (cells : List UInt8) (display : Display χ') {w' w : World σ}
    (kin : W w' w) :
    Alike π W (display.present T' cells w') ((display.map π).present T cells w) := by
  have updated := Window.update_alike sim kinship cells display.window display.link kin
  unfold present
  dsimp only [map]
  generalize display.window.update T' cells display.link w' = result' at updated ⊢
  generalize display.window.update T cells (display.link.map π) w = result at updated ⊢
  obtain ⟨outcome', window', link₁, w₁'⟩ := result'
  obtain ⟨outcome, _, _, w₁⟩ := result
  obtain ⟨rfl, rfl, rfl, kin₁⟩ := updated
  exact ⟨rfl, rfl, kin₁⟩

theorem clear_alike (display : Display χ') {w' w : World σ} (kin : W w' w) :
    Alike π W (display.clear T' w') ((display.map π).clear T w) := by
  have erased := Window.erase_alike sim kinship display.window display.link kin
  unfold clear
  dsimp only [map]
  generalize display.window.erase T' display.link w' = result' at erased ⊢
  generalize display.window.erase T (display.link.map π) w = result at erased ⊢
  obtain ⟨outcome', window', link₁, w₁'⟩ := result'
  obtain ⟨outcome, _, _, w₁⟩ := result
  obtain ⟨rfl, rfl, rfl, kin₁⟩ := erased
  exact ⟨rfl, rfl, kin₁⟩

theorem nextEvent_alike (display : Display χ') {w' w : World σ} (kin : W w' w) :
    Bounded.Alike (Alike π W) W (display.nextEvent T' fuel w')
      ((display.map π).nextEvent T fuel w) := by
  unfold nextEvent
  refine (Link.poll_alike sim kinship fuel display.link kin).bind ?_
  rintro ⟨found, link₁, w₁'⟩ ⟨_, _, w₁⟩ ⟨rfl, rfl, kin₁⟩
  exact ⟨rfl, rfl, kin₁⟩

theorem release_alike (display : Display χ') {w' w : World σ} (kin : W w' w) :
    Pairs Eq W (display.release T' w') ((display.map π).release T w) := by
  have closing := Link.close_alike sim display.link kin
  unfold release
  dsimp only [map]
  generalize display.link.close T' w' = result' at closing ⊢
  generalize (display.link.map π).close T w = result at closing ⊢
  obtain ⟨outcome', link₁, w₁'⟩ := result'
  obtain ⟨outcome, _, w₁⟩ := result
  obtain ⟨rfl, rfl, kin₁⟩ := closing
  exact ⟨rfl, Link.drop_alike sim kinship link₁ kin₁⟩

/-! ## Lifetimes -/

theorem answer_alike (call : DisplayCall) (display : Display χ') {w' w : World σ}
    (kin : W w' w) :
    Bounded.Alike (Alike π W) W (display.answer T' fuel call w')
      ((display.map π).answer T fuel call w) := by
  cases call with
  | present cells =>
    have presented := present_alike sim kinship cells display kin
    unfold answer
    dsimp only
    generalize display.present T' cells w' = result' at presented ⊢
    generalize (display.map π).present T cells w = result at presented ⊢
    obtain ⟨outcome', display', w₁'⟩ := result'
    obtain ⟨outcome, _, w₁⟩ := result
    obtain ⟨rfl, rfl, kin₁⟩ := presented
    exact ⟨rfl, rfl, kin₁⟩
  | clear =>
    have cleared := clear_alike sim kinship display kin
    unfold answer
    dsimp only
    generalize display.clear T' w' = result' at cleared ⊢
    generalize (display.map π).clear T w = result at cleared ⊢
    obtain ⟨outcome', display', w₁'⟩ := result'
    obtain ⟨outcome, _, w₁⟩ := result
    obtain ⟨rfl, rfl, kin₁⟩ := cleared
    exact ⟨rfl, rfl, kin₁⟩
  | poll =>
    refine (nextEvent_alike sim kinship fuel display kin).bind ?_
    rintro ⟨found, display', w₁'⟩ ⟨_, _, w₁⟩ ⟨rfl, rfl, kin₁⟩
    exact ⟨rfl, rfl, kin₁⟩

/-- Runs of calls, by induction on the calls. -/
theorem carryOut_alike (calls : List DisplayCall) (display : Display χ') {w' w : World σ}
    (kin : W w' w) :
    Bounded.Alike (Alike π W) W (carryOut T' fuel calls display w')
      (carryOut T fuel calls (display.map π) w) := by
  induction calls generalizing display w' w with
  | nil => exact ⟨rfl, rfl, kin⟩
  | cons call rest ih =>
    refine (answer_alike sim kinship fuel call display kin).bind ?_
    rintro ⟨answer, display₁, w₁'⟩ ⟨_, _, w₁⟩ ⟨rfl, rfl, kin₁⟩
    refine (ih display₁ kin₁).bind ?_
    rintro ⟨answers, display₂, w₂'⟩ ⟨_, _, w₂⟩ ⟨rfl, rfl, kin₂⟩
    exact ⟨rfl, rfl, kin₂⟩

theorem operate_alike (profiles : ProfileSet) (channel : χ') (calls : List DisplayCall)
    {w' w : World σ} (kin : W w' w) :
    Bounded.Alike (Pairs (Answers (Pairs Eq (map π · = ·))) W) W
      (operate T' fuel profiles channel calls w')
      (operate T fuel profiles (π channel) calls w) := by
  refine (bringUp_alike sim kinship fuel profiles channel kin).bind ?_
  intro (result', w₁') (result, w₁) ⟨agree, kin₁⟩
  cases agree with
  | error e => exact ⟨.error e, kin₁⟩
  | @ok display' _ same =>
    obtain rfl := same
    refine (carryOut_alike sim kinship fuel calls display' kin₁).bind ?_
    rintro ⟨answers, display₁, w₂'⟩ ⟨_, _, w₂⟩ ⟨rfl, rfl, kin₂⟩
    exact ⟨.ok ⟨rfl, rfl⟩, kin₂⟩

theorem endWith_alike (ending : Ending) (display : Display χ') {w' w : World σ} (kin : W w' w) :
    Pairs Eq W (display.endWith T' ending w') ((display.map π).endWith T ending w) := by
  cases ending with
  | release =>
    have released := release_alike sim kinship display kin
    exact ⟨congrArg some released.1, released.2⟩
  | drop => exact ⟨rfl, Link.drop_alike sim kinship display.link kin⟩

end

/-- What displays leave behind that agree. -/
def LegaciesAlike (π : χ' → χ) (legacy' : Legacy χ') (legacy : Legacy χ) : Prop :=
  legacy'.answers = legacy.answers ∧ legacy'.display.map π = legacy.display
    ∧ legacy'.closing = legacy.closing

/-- **Lifetimes are alike**: the displays answer the same from first to last. -/
theorem live_alike (sim : T'.Simulates T π W) (kinship : Kinship W) (fuel : Nat)
    (profiles : ProfileSet) (channel : χ') (calls : List DisplayCall) (ending : Ending)
    {w' w : World σ} (kin : W w' w) :
    Bounded.Alike (Pairs (Answers (LegaciesAlike π)) W) W
      (live T' fuel profiles channel calls ending w')
      (live T fuel profiles (π channel) calls ending w) := by
  refine (operate_alike sim kinship fuel profiles channel calls kin).bind ?_
  intro (result', w₁') (result, w₁) ⟨agree, kin₁⟩
  cases agree with
  | error e => exact ⟨.error e, kin₁⟩
  | @ok operated' operated same =>
    obtain ⟨answers, display'⟩ := operated'
    obtain ⟨_, display⟩ := operated
    obtain ⟨rfl, rfl⟩ := same
    have ended := endWith_alike sim kinship ending display' kin₁
    dsimp only
    generalize display'.endWith T' ending w₁' = result' at ended ⊢
    generalize (display'.map π).endWith T ending w₁ = result at ended ⊢
    obtain ⟨closing', w₂'⟩ := result'
    obtain ⟨closing, w₂⟩ := result
    obtain ⟨rfl, kin₂⟩ := ended
    exact ⟨.ok ⟨rfl, rfl, rfl⟩, kin₂⟩

end Display

end BrailleDisplay
