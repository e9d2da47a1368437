import BrailleDisplay.Display.Connection
import BrailleDisplay.Proofs.Frame.LinkInvariant

/-!
# What talking to a display keeps true

Probing identities, asking for the width, sending cells and polling for events use a link and never
close it.  So they keep true what writing and reading keep true, one lemma for each of them; loops
by induction on how often they may repeat.
-/

namespace BrailleDisplay

namespace Link

variable {χ σ : Type} {T : Transport χ σ} {I : χ → Plant σ → Prop}

/-! ## Identities -/

theorem awaitEcho_keeps (keeps : T.Keeps I) (fuel : Nat) (expected : ShortFrame) (more : Nat)
    {link : Link χ} {w : World σ} (kept : link.Keeping I w.plant) :
    (link.awaitEcho T fuel expected more w).Keeps I := by
  induction more generalizing link w with
  | zero => exact ⟨link.channel, kept.holds⟩
  | succ more ih =>
    unfold awaitEcho
    refine (nextFrame_keeps keeps fuel echoTimeout kept).bind ?_
    intro outcome link w kept
    match outcome with
    | .error _ => exact kept
    | .ok none => exact kept
    | .ok (some (.short _)) => exact kept
    | .ok (some (.long _)) => exact ih kept

theorem confirms_keeps (keeps : T.Keeps I) (fuel : Nat) (candidate : Identity) {link : Link χ}
    {w : World σ} (kept : link.Keeping I w.plant) :
    (link.confirms T fuel candidate w).Keeps I := by
  have sent := write_keeps keeps (ShortFrame.bytes ⟨candidate.id1, candidate.id2⟩) kept
  unfold confirms
  dsimp only
  generalize link.write T _ w = written at sent ⊢
  match written with
  | (.error _, link, w) => exact sent
  | (.ok (), link, w) => exact awaitEcho_keeps keeps fuel _ fuel sent

theorem probe_keeps (keeps : T.Keeps I) (fuel : Nat) (candidates : List Identity) {link : Link χ}
    {w : World σ} (kept : link.Keeping I w.plant) :
    (link.probe T fuel candidates w).Keeps I := by
  induction candidates generalizing link w with
  | nil => exact kept
  | cons candidate rest ih =>
    unfold probe
    dsimp only
    by_cases wildcard : candidate.isWildcard = true
    · rw [if_pos wildcard]
      exact kept
    · rw [if_neg wildcard]
      refine (confirms_keeps keeps fuel candidate (w := w.log _ _) kept).bind ?_
      intro outcome link w kept
      match outcome with
      | .ok true => exact kept
      | .ok false => exact ih kept
      | .error _ => exact ih kept

/-! ## Width -/

theorem send_keeps (keeps : T.Keeps I) (frame : HostFrame) {link : Link χ} {w : World σ}
    (kept : link.Keeping I w.plant) :
    let (_, link', w') := link.send T frame w
    link'.Keeping I w'.plant := by
  unfold send
  cases frame.encode with
  | error _ => exact kept
  | ok bytes => exact write_keeps keeps bytes kept

theorem awaitWidth_keeps (keeps : T.Keeps I) (fuel deadline more : Nat) {link : Link χ}
    {w : World σ} (kept : link.Keeping I w.plant) :
    (link.awaitWidth T fuel deadline more w).Keeps I := by
  induction more generalizing link w with
  | zero => exact ⟨link.channel, kept.holds⟩
  | succ more ih =>
    unfold awaitWidth
    by_cases late : deadline ≤ w.now
    · rw [if_pos late]
      exact kept
    · rw [if_neg late]
      refine (nextFrame_keeps keeps fuel (deadline - w.now) kept).bind ?_
      intro outcome link w kept
      match outcome with
      | .error _ => exact kept
      | .ok none => exact kept
      | .ok (some frame) =>
        dsimp only
        cases frame.widthReport? with
        | none => exact ih kept
        | some count =>
          dsimp only
          by_cases zero : count = 0
          · rw [if_pos zero]
            exact ih kept
          · rw [if_neg zero]
            by_cases wide : maxCells < count
            · rw [if_pos wide]
              exact kept
            · rw [if_neg wide]
              exact kept

theorem askOnce_keeps (keeps : T.Keeps I) (fuel : Nat) {link : Link χ} {w : World σ}
    (kept : link.Keeping I w.plant) : (link.askOnce T fuel w).Keeps I := by
  have sent := send_keeps keeps widthRequest kept
  unfold askOnce
  generalize link.send T widthRequest w = result at sent ⊢
  match result with
  | (.error _, link, w) => exact sent
  | (.ok (), link, w) => exact awaitWidth_keeps keeps fuel _ fuel sent

theorem askAgain_keeps (keeps : T.Keeps I) (fuel : Nat) (fallback : UInt8) (remaining : Nat)
    {link : Link χ} {w : World σ} (kept : link.Keeping I w.plant) :
    (link.askAgain T fuel fallback remaining w).Keeps I := by
  induction remaining generalizing link w with
  | zero => exact kept
  | succ remaining ih =>
    unfold askAgain
    refine (askOnce_keeps keeps fuel kept).bind ?_
    intro outcome link w kept
    match outcome with
    | .ok (some _) => exact kept
    | .ok none => exact ih kept
    | .error _ => exact ih kept

theorem askWidth_keeps (keeps : T.Keeps I) (fuel : Nat) (fallback : UInt8) {link : Link χ}
    {w : World σ} (kept : link.Keeping I w.plant) : (link.askWidth T fuel fallback w).Keeps I :=
  askAgain_keeps keeps fuel fallback widthAttempts kept

/-! ## Events -/

theorem pollFrames_keeps (keeps : T.Keeps I) (fuel more : Nat) {link : Link χ} {w : World σ}
    (kept : link.Keeping I w.plant) : (link.pollFrames T fuel more w).Keeps I := by
  induction more generalizing link w with
  | zero => exact ⟨link.channel, kept.holds⟩
  | succ more ih =>
    unfold pollFrames
    refine (nextFrame_keeps keeps fuel 0 kept).bind ?_
    intro outcome link w kept
    match outcome with
    | .error _ => exact kept
    | .ok none => exact kept
    | .ok (some frame) =>
      dsimp only
      cases KeyEvent.ofFrame? frame with
      | some _ => exact kept
      | none => exact ih kept

theorem poll_keeps (keeps : T.Keeps I) (fuel : Nat) {link : Link χ} {w : World σ}
    (kept : link.Keeping I w.plant) : (link.poll T fuel w).Keeps I :=
  pollFrames_keeps keeps fuel fuel kept

end Link

variable {χ σ : Type} {T : Transport χ σ} {I : χ → Plant σ → Prop}

/-! ## Cells -/

theorem Window.submit_keeps (keeps : T.Keeps I) (cells : List UInt8) (window : Window)
    {link : Link χ} {w : World σ} (kept : link.Keeping I w.plant) :
    let (_, _, link', w') := window.submit T cells link w
    link'.Keeping I w'.plant := by
  have sent := Link.send_keeps keeps (window.frame cells) kept
  unfold submit
  generalize link.send T (window.frame cells) w = result at sent ⊢
  match result with
  | (.error _, link, w) => exact sent
  | (.ok (), link, w) => exact sent

theorem Window.erase_keeps (keeps : T.Keeps I) (window : Window) {link : Link χ} {w : World σ}
    (kept : link.Keeping I w.plant) :
    let (_, _, link', w') := window.erase T link w
    link'.Keeping I w'.plant :=
  submit_keeps keeps _ window kept

theorem Window.update_keeps (keeps : T.Keeps I) (cells : List UInt8) (window : Window)
    {link : Link χ} {w : World σ} (kept : link.Keeping I w.plant) :
    let (_, _, link', w') := window.update T cells link w
    link'.Keeping I w'.plant := by
  have sent := submit_keeps keeps cells window kept
  unfold update
  by_cases misfits : cells.length ≠ window.width
  · rw [if_pos misfits]
    exact kept
  · rw [if_neg misfits]
    by_cases same : cells = window.shown
    · rw [if_pos same]
      exact kept
    · rw [if_neg same]
      exact sent

theorem Display.identify_keeps (keeps : T.Keeps I) (fuel : Nat) (profile : Profile) {link : Link χ}
    {w : World σ} (kept : link.Keeping I w.plant) :
    (identify T fuel profile link w).Keeps I := by
  unfold identify
  cases profile.identities with
  | none => exact kept
  | some candidates => exact Link.probe_keeps keeps fuel candidates kept

theorem Display.nextEvent_keeps (keeps : T.Keeps I) (fuel : Nat) {display : Display χ}
    {w : World σ} (kept : display.link.Keeping I w.plant) :
    (display.nextEvent T fuel w).Ends
      (fun (_, display', w') => display'.link.Keeping I w'.plant)
      (fun w' => ∃ c, I c w'.plant) :=
  Bounded.Ends.bind (Link.poll_keeps keeps fuel kept) fun _ kept => kept

end BrailleDisplay
