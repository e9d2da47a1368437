import BrailleDisplay.Display.Connection
import BrailleDisplay.Proofs.Channel.Supply
import BrailleDisplay.Proofs.Display.Asking
import BrailleDisplay.Proofs.Display.Custodian
import BrailleDisplay.Proofs.Display.Patience
import BrailleDisplay.Proofs.Display.Probing
import BrailleDisplay.Proofs.Display.Rendering
import BrailleDisplay.Proofs.Profile.Accepted

/-!
# What bringing up a display says

On an open channel the candidates of the profile are probed, the width is asked for, and the display
is blanked.  Nothing that goes wrong before the last step ends it; the last step decides.

* `Profile.Binds` — the key table that a display gets by its width;
* `BringUp` — a course that this takes, with the attempts it makes; `BringUp.Follows` says that it
  is one for a profile, and `BringUp.Talk` that this is what was said and heard on a link;
* `Display.bringUp_course` — bringing up a display takes such a course;
* `Display.bringUp_ends` — and that it comes to an end on a channel that brings only so many bytes;
* `Display.bringUp_attempts` — which attempts to write it makes, what it answers, and when it closes
  the channel.
-/

namespace BrailleDisplay

/-! ## Key tables -/

/-- The rule is for displays of this width that would use this table. -/
def WidthRule.Applies (rule : WidthRule) (table : KeyTable) (columns : UInt8) : Prop :=
  rule.columns = columns ∧ rule.replaced = table

/-- What a profile makes of a key table on displays of a width: the first rule that applies replaces
it, and without one it is kept. -/
inductive Profile.Binds (profile : Profile) (table : KeyTable) (columns : UInt8) : KeyTable → Prop
  | replaced {before after : List WidthRule} {rule : WidthRule}
      (rules : profile.widthRules = before ++ rule :: after)
      (earlier : ∀ other ∈ before, ¬other.Applies table columns)
      (applies : rule.Applies table columns) : Binds profile table columns rule.replacement
  | kept (none : ∀ rule ∈ profile.widthRules, ¬rule.Applies table columns) :
      Binds profile table columns table

theorem Profile.binds_keyTableFor (profile : Profile) (probed : Option KeyTable)
    (columns : UInt8) :
    profile.Binds (probed.getD profile.keyTable) columns (profile.keyTableFor probed columns) := by
  have agree (rule : WidthRule) (table : KeyTable) :
      (rule.columns == columns && rule.replaced == table) = true ↔ rule.Applies table columns := by
    simp [WidthRule.Applies]
  unfold keyTableFor widthRule?
  dsimp only
  cases found : profile.widthRules.find? _ with
  | none => exact .kept fun rule among applies =>
      List.find?_eq_none.mp found rule among ((agree rule _).mpr applies)
  | some rule =>
    obtain ⟨matching, before, after, rules, earlier⟩ := List.find?_eq_some_iff_append.mp found
    refine .replaced rules (fun other among applies => ?_) ((agree rule _).mp matching)
    have misses := earlier other among
    rw [(agree other _).mpr applies] at misses
    cases misses

/-! ## Courses -/

/-- A course that bringing up a display may take. -/
structure BringUp where
  /-- The rounds in which candidates were probed. -/
  probes : List Round
  /-- The identity this came to. -/
  identity : Option Identity
  /-- The rounds in which the width was asked for. -/
  requests : List Round
  /-- The width this came to. -/
  width : Width
  /-- The attempt to blank the display. -/
  last : Attempt

namespace BringUp

/-- The attempts of a course, in their order. -/
def sent (course : BringUp) : List Attempt :=
  course.probes.map Round.attempt ++ course.requests.map Round.attempt ++ [course.last]

def window (course : BringUp) (profile : Profile) : Window :=
  .blank course.width.cells profile.dots

/-- The course is one for displays of a profile. -/
structure Follows (course : BringUp) (profile : Profile) : Prop where
  probed : Probed (profile.identities.getD []) course.probes course.identity
  asked : Asked profile.usualCells 2 course.requests course.width
  blanks : course.last.Sends
    { command := 0xFC, mode := 1, data1 := List.replicate course.width.cells.toNat 0, data2 := [] }

variable {χ σ : Type} {journal : σ → List Entry} {number : χ → Nat}

variable (journal number) in
/-- The course is what was said and heard on a link, up to the attempt to blank the display. -/
def Talk (course : BringUp) (link : Link χ) (w : World σ) (link' : Link χ) (w' : World σ) : Prop :=
  ∃ link₁ w₁ link₂ w₂, Link.Rounds journal number link w course.probes link₁ w₁
    ∧ Link.Rounds journal number link₁ w₁ course.requests link₂ w₂
    ∧ Link.Exchange journal number link₂ w₂ [] [course.last] link' w'

theorem Talk.exchange {course : BringUp} {link link' : Link χ} {w w' : World σ}
    (talk : course.Talk journal number link w link' w') :
    ∃ found, Link.Exchange journal number link w found course.sent link' w' := by
  obtain ⟨link₁, w₁, link₂, w₂, probes, requests, last⟩ := talk
  exact ⟨_, (probes.exchange.trans requests.exchange).trans last⟩

/-- The attempts made so far when a course is under way: probes of some of the candidates, and once
these have been gone through, at most two requests. -/
def OnTheWay (profile : Profile) (sent : List Attempt) : Prop :=
  ProbesOf (profile.identities.getD []) sent
    ∨ ∃ probes identity requests, Probed (profile.identities.getD []) probes identity
        ∧ requests.length ≤ 2 ∧ (∀ attempt ∈ requests, attempt.AsksWidth)
        ∧ sent = probes.map Round.attempt ++ requests

theorem OnTheWay.length_le {profile : Profile} {sent : List Attempt}
    (onTheWay : OnTheWay profile sent) :
    sent.length ≤ (profile.identities.getD []).length + 2 := by
  have probes_le {probes : List Attempt} (probing : ProbesOf (profile.identities.getD []) probes) :
      probes.length ≤ (profile.identities.getD []).length := by
    obtain ⟨tested, front, -, bytes⟩ := probing
    have same := congrArg List.length bytes
    rw [List.length_map, List.length_map] at same
    exact same.trans_le front.length_le
  rcases onTheWay with probing | ⟨probes, identity, requests, probed, few, -, rfl⟩
  · exact (probes_le probing).trans (Nat.le_add_right _ 2)
  · rw [List.length_append]
    exact Nat.add_le_add (probes_le probed.probesOf) few

/-- What a course settles about a display, for as long as it is in use. -/
structure Yields (course : BringUp) (profile : Profile) (display : Display χ) : Prop where
  model : display.profile = profile
  identity : display.identity = course.identity
  width : display.width = course.width
  keyTable : profile.Binds ((course.identity.map Identity.keyTable).getD profile.keyTable)
    course.width.cells display.keyTable

/-- The width of a display of an accepted set is in range. -/
theorem Follows.cells_bounds {course : BringUp} {profiles : ProfileSet} {info : DeviceInfo}
    (accepted : profiles.Accepted) (follows : course.Follows (profiles.profileFor info)) :
    1 ≤ course.width.cells ∧ course.width.cells ≤ 40 := by
  have faultless := accepted.faultless _ (profiles.profileFor_mem info)
  obtain ⟨-, fits, -⟩ := Profile.fault?_eq_none_iff.mp faultless
  exact follows.asked.cells_bounds fits

end BringUp

/-! ## Bringing up -/

namespace Display

variable {χ σ : Type} {journal : σ → List Entry} {number : χ → Nat} {T : Transport χ σ}

theorem identify_rounds (enters : T.Enters journal number) (fuel : Nat) (profile : Profile)
    {link : Link χ} (w : World σ) (isOpen : link.closed = false) :
    (identify T fuel profile link w).Ends
      (fun (identity, link', w') => ∃ rounds, Link.Rounds journal number link w rounds link' w'
        ∧ Probed (profile.identities.getD []) rounds identity)
      (fun w' => ∃ sent, ProbesOf (profile.identities.getD []) sent
        ∧ UsedFor (number link.channel) sent (journal w.plant.state) (journal w'.plant.state)) := by
  unfold identify
  cases profile.identities with
  | none => exact ⟨[], .done isOpen rfl, .exhausted⟩
  | some candidates => exact Link.probe_rounds enters fuel candidates w isOpen

/-- Closing a link without asking what came of it, and letting go of it, closes its channel once. -/
theorem drop_shut_entered (enters : T.Enters journal number) {link : Link χ} (w : World σ)
    (isOpen : link.closed = false) :
    ∃ outcome, journal ((link.shut T w).1.drop T (link.shut T w).2).plant.state
      = journal w.plant.state ++ [.closed (number link.channel) outcome] := by
  have frees : T.Frees
      (fun c plant => number c = number link.channel
        ∧ journal plant.state = journal w.plant.state)
      (fun plant => ∃ outcome, journal plant.state
        = journal w.plant.state ++ [.closed (number link.channel) outcome]) := by
    intro c plant ⟨same, before⟩
    exact ⟨_, by rw [enters.close c plant, same, before]⟩
  exact Link.drop_shut_frees frees ⟨isOpen, rfl, rfl⟩

/-- **Bringing up a display takes a course for its profile**, and gives the display up, and its
channel back, exactly if blanking it fails. -/
theorem bringUp_course (enters : T.Enters journal number) (fuel : Nat) (profiles : ProfileSet)
    (channel : χ) (w : World σ) :
    let profile := profiles.profileFor (T.info channel)
    (bringUp T fuel profiles channel w).Ends
      (fun (result, w') => ∃ course link₃ w₃, BringUp.Follows course profile
        ∧ course.Talk journal number { channel } w link₃ w₃
        ∧ match course.last.result with
          | .ok () => ∃ display, result = .ok display ∧ course.Yields profile display
              ∧ display.window = course.window profile ∧ display.link = link₃
              ∧ journal w'.plant.state = journal w₃.plant.state
          | .error fault => result = .error (.transport fault)
              ∧ ∃ outcome, journal w'.plant.state
                = journal w₃.plant.state ++ [.closed (number channel) outcome])
      (fun w' => ∃ sent, BringUp.OnTheWay profile sent
        ∧ UsedFor (number channel) sent (journal w.plant.state) (journal w'.plant.state)) := by
  intro profile
  unfold bringUp
  dsimp only
  -- logging enters nothing into the journal, so the course may be said to start before it
  generalize told : World.log _ _ _ = w₀
  have same : journal w₀.plant.state = journal w.plant.state := by
    rw [← told, World.log, World.note, World.plant_foldl_note]
  have isOpen : Link.closed { channel := channel } = false := rfl
  refine ((identify_rounds enters fuel profile w₀ isOpen).imp (fun _ => id) ?_).bind ?_
  · rintro w' ⟨sent, probes, used⟩
    exact ⟨sent, .inl probes, same ▸ used⟩
  rintro ⟨identity, link₁, w₁⟩ ⟨probes, probing, probed⟩
  replace probing := probing.afterIdle same
  have talk := probing.exchange
  have asking := Link.askWidth_rounds enters fuel profile.usualCells w₁ talk.staysOpen
  refine (asking.imp (fun _ => id) ?_).bind ?_
  · rintro w' ⟨sent, few, requests, used⟩
    refine ⟨_, .inr ⟨probes, identity, sent, probed, few, requests, rfl⟩, ?_⟩
    exact talk.used.trans (talk.same ▸ used)
  rintro ⟨width, link₂, w₂⟩ ⟨requests, asking, asked⟩
  dsimp only
  generalize told' : List.foldl _ w₂ _ = w₂'
  have same' : journal w₂'.plant.state = journal w₂.plant.state := by
    rw [← told', World.plant_foldl_note]
  have narrow := Window.width_blank_lt width.cells profile.dots
  have erased := Window.erase_exchange enters narrow w₂' asking.exchange.staysOpen
  generalize Window.erase T _ link₂ w₂' = result at erased ⊢
  obtain ⟨result, window, link₃, w₃⟩ := result
  obtain ⟨⟨bytes, outcome⟩, blanking, submitted⟩ := erased
  rw [Window.width_blank] at submitted
  let course : BringUp := ⟨probes, identity, requests, width, ⟨bytes, outcome⟩⟩
  have follows : course.Follows profile :=
    ⟨probed, asked, Attempt.shows_blank_iff.mp submitted.shows⟩
  have said : course.Talk journal number { channel } w link₃ w₃ :=
    ⟨_, _, _, _, probing, asking, blanking.afterIdle same'⟩
  obtain ⟨_, rfl, rfl⟩ := submitted
  cases outcome with
  | ok _ =>
    have bound := profile.binds_keyTableFor (identity.map Identity.keyTable) width.cells
    exact ⟨course, link₃, w₃, follows, said, _, rfl, ⟨rfl, rfl, rfl, bound⟩, rfl, rfl, rfl⟩
  | error e =>
    -- no display takes over the link, so it is closed here
    obtain ⟨found, exchanged⟩ := said.exchange
    obtain ⟨closed, entered⟩ := drop_shut_entered enters
      (w₃.log .warn ("initial clear failed: " ++ (DisplayFault.transport e).message))
      exchanged.staysOpen
    rw [exchanged.same] at entered
    exact ⟨course, link₃, w₃, follows, said, rfl, closed, entered⟩

end Display

/-! ## On a fresh channel -/

section

variable {χ σ : Type}

/-- What bringing up a display on a fresh channel has done and answered: it has taken a course for
the profile, and the channel was used for the attempts of this course and for reads.  If the last
attempt was acknowledged, the answer is a blank display that holds the channel, still open; if not,
the answer is what the channel reported, and the channel has been closed, once. -/
structure BringUp.Concludes (course : BringUp) (profile : Profile) (channel : Numbered χ)
    (w : World σ) (result : Except DisplayFault (Display (Numbered χ)))
    (w' : World (Journaled σ)) : Prop where
  follows : course.Follows profile
  twice : ∃ first, course.requests.head? = some first
    ∧ course.requests.length = if countIn first.found = none then 2 else 1
  cells : 1 ≤ course.width.cells ∧ course.width.cells ≤ 40
  settles : ∃ link w₃ uses,
    course.Talk Journaled.journal Numbered.number { channel } w.journaled link w₃
      ∧ attempts uses = course.sent
      ∧ match course.last.result with
        | .ok () =>
          w'.plant.state.journal = uses.map (.used channel.number)
            ∧ ∃ display, result = .ok display ∧ course.Yields profile display
              ∧ display.link = link ∧ link.closed = false
              ∧ display.columns = course.width.cells.toNat
              ∧ display.shown = List.replicate course.width.cells.toNat 0
        | .error fault =>
          result = .error (.transport fault)
            ∧ ∃ outcome, w'.plant.state.journal
              = uses.map (.used channel.number) ++ [.closed channel.number outcome]

/-- Bringing up a display on a fresh channel concludes with a course for the profile selected.  If
it is cut short, it has only used the channel so far, and made the first attempts of one, and at
least `fuel` bytes have come. -/
def Display.BringsUp (T : Transport χ σ) (profiles : ProfileSet) (fuel : Nat)
    (channel : Numbered χ) (w : World σ) : Prop :=
  let profile := profiles.profileFor (T.info channel.inner)
  (bringUp T.journaled fuel profiles channel w.journaled).Ends
    (fun (result, w') => ∃ course, BringUp.Concludes course profile channel w result w')
    (fun w' => fuel ≤ (received channel.number w'.plant.state.journal).length
      ∧ ∃ uses, BringUp.OnTheWay profile (attempts uses)
        ∧ w'.plant.state.journal = uses.map (.used channel.number))

theorem Display.bringUp_brings (T : Transport χ σ) {profiles : ProfileSet}
    (accepted : profiles.Accepted) (fuel : Nat) (channel : Numbered χ) (w : World σ) :
    BringsUp T profiles fuel channel w := by
  have enters := T.enters_journaled
  refine ((bringUp_course enters fuel profiles channel w.journaled).and
    (bringUp_lasts enters fuel profiles channel w.journaled)).imp ?_ ?_
  · intro (result, w') ⟨⟨course, link, w₃, follows, talk, answer⟩, _⟩
    have cells := follows.cells_bounds accepted
    obtain ⟨found, exchange⟩ := talk.exchange
    obtain ⟨uses, used, sent⟩ := exchange.used.fromStart
    refine ⟨course, follows, follows.asked.length_eq, cells, link, w₃, uses, talk, sent, ?_⟩
    generalize course.last.result = outcome at answer ⊢
    cases outcome with
    | ok _ =>
      obtain ⟨display, rfl, yields, window, rfl, same⟩ := answer
      refine ⟨same.trans used, display, rfl, yields, rfl, exchange.staysOpen, ?_, ?_⟩
      · rw [columns, window]
        exact Window.width_blank _ _
      · rw [shown, window]
        rfl
    | error fault =>
      obtain ⟨rfl, outcome, entered⟩ := answer
      exact ⟨rfl, outcome, used ▸ entered⟩
  · intro w' ⟨⟨sent, onTheWay, used⟩, came⟩
    obtain ⟨uses, journal, rfl⟩ := used.fromStart
    exact ⟨(Nat.le_add_left _ _).trans came, uses, onTheWay, journal⟩

/-- The channel has been closed. -/
def Journaled.Closed (plant : Plant (Journaled σ)) : Prop :=
  ∃ number outcome, Entry.closed number outcome ∈ plant.state.journal

theorem Transport.custodian_recounted (T : Transport χ σ) (channel : Numbered χ) (start : Plant σ) :
    T.journaled.Custodian (T.Recounted channel start) Journaled.Closed where
  keeps := T.keeps_recounted channel start
  closed _ _ _ := ⟨_, _, List.mem_append_right _ (List.mem_singleton_self _)⟩

/-- **On a channel that brings only so many bytes, bringing up a display is not cut short** by a
larger bound. -/
theorem Display.bringUp_ends (T : Transport χ σ) {profiles : ProfileSet} {fuel total : Nat}
    {channel : Numbered χ} {w : World σ} (brings : BringsUp T profiles fuel channel w)
    (few : T.BringsAtMost
      (((profiles.profileFor (T.info channel.inner)).identities.getD []).length + 2) total
      channel.inner w.plant)
    (enough : total < fuel) :
    ∃ result w' course,
      bringUp T.journaled fuel profiles channel w.journaled = .ended (result, w')
        ∧ BringUp.Concludes course (profiles.profileFor (T.info channel.inner)) channel w result
            w' := by
  have custody := bringUp_custody (T.custodian_recounted channel w.plant) fuel profiles channel
    w.journaled (T.recounted_start channel w)
  obtain ⟨⟨result, w'⟩, ended, ⟨course, concludes⟩, -⟩ := (brings.and custody).ended (by
    rintro w' ⟨⟨came, uses, onTheWay, journal⟩, recounted | ⟨number, outcome, closed⟩⟩
    · obtain ⟨c, -, uses', reaches, journal'⟩ := recounted
      obtain rfl : uses = uses' := by
        refine List.map_injective_iff.mpr ?_ (journal.symm.trans journal')
        intro use use' same
        exact (Entry.used.inj same).2
      have bound := few uses _ _ reaches onTheWay.length_le
      rw [journal, received_used] at came
      omega
    · rw [journal] at closed
      obtain ⟨use, -, same⟩ := List.mem_map.mp closed
      cases same)
  exact ⟨result, w', course, ended, concludes⟩

/-- **Bringing up a display attempts what its profile asks for, in order, and stands or falls with
the last attempt.**  With the standard profiles or those of any configuration that is accepted, on
every channel, whatever comes in and whichever writes and reads fail: the candidates are probed,
each once, up to the one that is confirmed, or to the wildcard, or to the last; the width is asked
for once, or twice if no usable count was heard the first time; and blank cells are sent once.
There is a display exactly if these are acknowledged, of 1 to 40 cells, all blank.

It comes to this end unless bytes keep coming: it is cut short only after at least as many have come
as its loops may go round, and on a channel that brings fewer it is not. -/
theorem Display.bringUp_attempts (T : Transport χ σ) {profiles : ProfileSet}
    (accepted : profiles.Accepted) (fuel : Nat) (channel : Numbered χ) (w : World σ) :
    let profile := profiles.profileFor (T.info channel.inner)
    BringsUp T profiles fuel channel w
    ∧ ∀ total, T.BringsAtMost ((profile.identities.getD []).length + 2) total channel.inner
          w.plant → total < fuel →
        ∃ result w' course,
          bringUp T.journaled fuel profiles channel w.journaled = .ended (result, w')
            ∧ BringUp.Concludes course profile channel w result w' := by
  have brings := bringUp_brings T accepted fuel channel w
  exact ⟨brings, fun total few enough => bringUp_ends T brings few enough⟩

/-- A channel to a device that answers every write with its identity and a count of 20 cells. -/
def Display.answeringChannel : Numbered ScriptedChannel :=
  let identity : ShortFrame := ⟨0x4E, 0x54⟩
  let width : LongFrame := ⟨0x02, 0, 20, Vector.replicate 4 0⟩
  let plain : ScriptedChannel := { info := ScriptedChannel.defaultInfo }
  ⟨plain.attach (.constant (identity.bytes ++ width.bytes)), 0⟩

def Display.atStart : World Unit :=
  { plant := { now := 0, running := true, state := () } }

theorem Display.answeringChannel_brief : answeringChannel.inner.AnswersBriefly 14 := by
  intro partner installed _
  cases installed
  rfl

/-- The identity and the width of the display that comes up. -/
def Display.answered : Option (Option Identity × Nat) :=
  match bringUp ScriptedChannel.transport.journaled 71 .standard answeringChannel
      atStart.journaled with
  | .ended (.ok display, _) => some (display.identity, display.columns)
  | _ => none

set_option maxRecDepth 10000 in
theorem Display.answered_eq : answered = some (some .note, 20) := by
  rfl

/-- A display that answers each of at most five writes with 14 bytes comes up, if the loops may go
round more than 70 times. -/
theorem Display.bringUp_attempts_answered :
    ProfileSet.standard.Accepted
      ∧ ScriptedChannel.transport.BringsAtMost 5 70 answeringChannel.inner atStart.plant
      ∧ 70 < 71
      ∧ ∃ display w' course,
          bringUp ScriptedChannel.transport.journaled 71 .standard answeringChannel
              atStart.journaled = .ended (.ok display, w')
            ∧ display.identity = some .note ∧ display.columns = 20
            ∧ BringUp.Concludes course .note answeringChannel atStart (.ok display) w' := by
  have few : ScriptedChannel.transport.BringsAtMost 5 70 answeringChannel.inner atStart.plant :=
    ScriptedChannel.bringsAtMost answeringChannel_brief 5 atStart.plant
  obtain ⟨-, ends⟩ :=
    bringUp_attempts ScriptedChannel.transport (.inl rfl) 71 answeringChannel atStart
  obtain ⟨result, w', course, ended, concludes⟩ := ends 70 few (by decide)
  have came := answered_eq
  rw [answered, ended] at came
  match result, came with
  | .ok display, came =>
    obtain ⟨identity, columns⟩ := Prod.mk.inj (Option.some.inj came)
    exact ⟨.inl rfl, few, by decide, display, w', course, ended, identity, columns, concludes⟩

end

end BrailleDisplay
