import BrailleDisplay.Proofs.Display.Custodian
import BrailleDisplay.Proofs.Display.Polling

/-!
# Which events monitoring delivers

A session delivers events to a handler over one connection after the other.  To speak of its calls
of the handler they are written down beside the state of the devices, where no channel can see them;
the journal tells which bytes came over which channel.

* `Call`, `Source.overheard`, `EventHandler.overheard` — devices and handlers with the calls written
  down;
* `Connection` — a display from the moment it came up, and the calls made of what it sent;
  `Connection.Faithful` says that these carry the events of its bytes, each once and in order, and
  `Connection.Lost`, `Connection.Stopped`, `Connection.Interrupted` why it was left;
* `Session.Course` — connections that were made and lost before the present one;
* `Session.Underway` — the invariant of the loop, kept by every poll that brings no event
  (`Underway.polled`) and by every event delivered (`Underway.told`);
* `Session.monitor_delivers` — what the handler has been told when monitoring ends, or at any moment
  on the way.
-/

namespace BrailleDisplay

/-! ## Overhearing the handler -/

/-- A call of the handler. -/
structure Call where
  /-- The number of the channel of the display that sent the event. -/
  number : Nat
  event : KeyEvent
  /-- What the handler answered. -/
  onward : Onward
  deriving DecidableEq, Repr

/-- The state of the devices, with the calls of the handler beside it. -/
structure Overheard (σ : Type) where
  inner : σ
  /-- The calls, the oldest first. -/
  calls : List Call := []

section

variable {χ σ κ α : Type}

def Plant.withCalls (plant : Plant σ) (calls : List Call) : Plant (Overheard σ) :=
  { plant with state := ⟨plant.state, calls⟩ }

def Plant.unheard (plant : Plant (Overheard σ)) : Plant σ :=
  { plant with state := plant.state.inner }

/-- A world in which no call has been made yet. -/
def World.overheard (w : World σ) : World (Overheard σ) :=
  { w with plant := w.plant.withCalls [] }

/-- An operation of the devices, which leaves the calls as they are. -/
def Plant.overheard (plant : Plant (Overheard σ)) (operation : Plant σ → Reply σ α) :
    Reply (Overheard σ) α :=
  let reply := operation plant.unheard
  { value := reply.value
    plant := reply.plant.withCalls plant.state.calls
    notes := reply.notes }

def Transport.overheard (T : Transport χ σ) : Transport χ (Overheard σ) where
  info := T.info
  write bytes c plant := plant.overheard (T.write bytes c)
  read limit timeout c plant := plant.overheard (T.read limit timeout c)
  close c plant := plant.overheard (T.close c)

def Source.overheard (S : Source χ σ) : Source χ (Overheard σ) where
  transport := S.transport.overheard
  acquire plant := plant.overheard S.acquire

/-- A world whose channels have a journal, and whose handler is overheard. -/
abbrev TracedWorld (σ : Type) : Type :=
  World (Journaled (Overheard σ))

def World.calls (w : TracedWorld σ) : List Call :=
  w.plant.state.inner.calls

/-- A handler of devices, with its calls written down and the journal kept from it. -/
def EventHandler.overheard (number : χ → Nat) (handle : EventHandler χ σ κ) :
    EventHandler χ (Journaled (Overheard σ)) κ := fun display event k w =>
  let (onward, k, w') := handle display event k { w with plant := w.plant.bare.unheard }
  let calls := w.calls ++ [⟨number display.link.channel, event, onward⟩]
  (onward, k, { w' with plant := (w'.plant.withCalls calls).withJournal w.plant.state.journal })

/-- What a call leaves behind: itself, and the journal as it was. -/
theorem EventHandler.overheard_spec (number : χ → Nat) (handle : EventHandler χ σ κ)
    (display : Display χ) (event : KeyEvent) (k : κ) (w : TracedWorld σ) :
    let (onward, _, w') := handle.overheard number display event k w
    w'.plant.state.journal = w.plant.state.journal
      ∧ w'.calls = w.calls ++ [⟨number display.link.channel, event, onward⟩] :=
  ⟨rfl, rfl⟩

/-- No channel of the source, nor opening one, changes the calls. -/
def Source.Silent (S : Source χ (Journaled (Overheard σ))) : Prop :=
  ∀ calls, S.Custodian (fun _ plant => plant.state.inner.calls = calls)
    (fun plant => plant.state.inner.calls = calls)

theorem Source.silent_overheard (S : Source χ σ) : S.overheard.journaled.Silent := fun _ =>
  { transport :=
      { keeps :=
          { write := fun _ _ _ same => same
            read := fun _ _ _ _ same => same }
        closed := fun _ _ same => same }
    acquired := fun _ _ same _ => same
    refused := fun _ _ same _ => same
    waited := fun _ _ _ same => same
    rested := fun _ _ same => same }

theorem Source.Silent.printed {S : Source χ (Journaled (Overheard σ))} (silent : S.Silent)
    (config : PrintOptions) : (S.printed config).Silent := fun calls =>
  (silent calls).printed config

end

/-! ## Connections -/

/-- A display, from the moment it came up to a later one. -/
structure Connection (χ σ : Type) where
  /-- The display as it came up. -/
  display : Display χ
  /-- The world in which it came up. -/
  began : TracedWorld σ
  /-- Its link at the later moment. -/
  link : Link χ
  now : TracedWorld σ
  /-- The calls made in between. -/
  calls : List Call

namespace Connection

variable {χ σ : Type}

def start (display : Display χ) (began : TracedWorld σ) : Connection χ σ where
  display := display
  began := began
  link := display.link
  now := began
  calls := []

/-- The display at the later moment. -/
def current (c : Connection χ σ) : Display χ :=
  { c.display with link := c.link }

variable (number : χ → Nat)

/-- The calls were made for the events of the frames that were recognised since the display came up,
in their order; the recogniser and the pending bytes were then what bringing it up had left. -/
structure Faithful (c : Connection χ σ) : Prop where
  heard : ∃ found,
    Link.Exchange Journaled.journal number c.display.link c.began found [] c.link c.now
      ∧ c.calls.map Call.event = keyEvents found
  own : ∀ call ∈ c.calls, call.number = number c.display.link.channel

/-- The channel failed to be read, but first the handler was told of every event whose frame had
come, and it never asked to stop. -/
structure Lost (c : Connection χ σ) : Prop where
  failed : ∃ fault, Link.FailedRead (number c.display.link.channel) fault c.now.plant.state.journal
  complete : ∃ came,
    c.link.arrived Journaled.journal number c.now
        = c.display.link.arrived Journaled.journal number c.began ++ came
      ∧ c.calls.map Call.event
        = keyEvents (c.display.link.decoder.frames (c.display.link.pending ++ came))
  willing : ∀ call ∈ c.calls, call.onward = .goOn

/-- The handler asked to stop, and nothing came after that. -/
def Stopped (c : Connection χ σ) : Prop :=
  ∃ calls call, c.calls = calls ++ [call] ∧ call.onward = .stop

def Interrupted (c : Connection χ σ) : Prop :=
  c.now.running = false

variable {number}

theorem faithful_start {display : Display χ} {began : TracedWorld σ}
    (isOpen : display.link.closed = false) : (start display began).Faithful number where
  heard := ⟨[], .idle isOpen rfl, rfl⟩
  own _ none := nomatch none

theorem Faithful.isOpen {c : Connection χ σ} (faithful : c.Faithful number) :
    c.link.closed = false := by
  obtain ⟨_, talk, _⟩ := faithful.heard
  exact talk.staysOpen

/-- What a poll answers comes behind the events before it. -/
theorem Faithful.polled {c : Connection χ σ} (faithful : c.Faithful number) {answer : Polled}
    {link' : Link χ} {w' : TracedWorld σ}
    (polled : Link.PolledOff Journaled.journal number c.link c.now answer link' w') :
    ∃ found, Link.Exchange Journaled.journal number c.display.link c.began found [] link' w'
      ∧ c.calls.map Call.event ++ answer.events = keyEvents found := by
  obtain ⟨found, talk, events⟩ := faithful.heard
  obtain ⟨more, talk', events'⟩ := polled.exchange
  refine ⟨found ++ more, talk.trans talk', ?_⟩
  rw [keyEvents_append, events, events']

/-- A connection with nothing pending has delivered the events of all bytes that came. -/
theorem Faithful.complete {c : Connection χ σ} (faithful : c.Faithful number)
    (empty : c.link.pending = []) :
    ∃ came,
      c.link.arrived Journaled.journal number c.now
          = c.display.link.arrived Journaled.journal number c.began ++ came
        ∧ c.calls.map Call.event
          = keyEvents (c.display.link.decoder.frames (c.display.link.pending ++ came)) := by
  obtain ⟨found, talk, events⟩ := faithful.heard
  obtain ⟨came, arrived, fed, split, -, frames⟩ := talk.fed
  refine ⟨came, arrived, ?_⟩
  -- nothing pending: what was fed to the recogniser is all that came
  rw [empty, List.append_nil] at split
  rw [events, frames, split]

end Connection

/-! ## Watching -/

namespace Session

variable {χ σ κ : Type} {number : χ → Nat} {s : Session χ (Journaled (Overheard σ))} {fuel : Nat}
  {w₀ : TracedWorld σ}

variable (number s fuel w₀) in
/-- The connections that were made and lost, one after the other, before `display` came up in the
world `began`. -/
inductive Course : List (Connection χ σ) → Display χ → TracedWorld σ → Prop
  | first {display : Display χ} {began : TracedWorld σ}
      (connected : s.connect fuel w₀ = .ended (.ok display, began)) : Course [] display began
  | again {past : List (Connection χ σ)} {c : Connection χ σ} {display : Display χ}
      {began : TracedWorld σ} (before : Course past c.display c.began)
      (faithful : c.Faithful number) (lost : c.Lost number)
      (connected : s.retry fuel fuel (s.release c.current c.now) = .ended (some display, began)) :
      Course (past ++ [c]) display began

theorem Course.willing {past : List (Connection χ σ)} {display : Display χ}
    {began : TracedWorld σ} (course : Course number s fuel w₀ past display began) :
    ∀ call ∈ past.flatMap Connection.calls, call.onward = .goOn := by
  induction course with
  | first _ =>
    intro call none
    cases none
  | again _ _ lost _ ih =>
    intro call made
    rw [List.flatMap_append, List.flatMap_singleton] at made
    rcases List.mem_append.mp made with early | late
    · exact ih call early
    · exact lost.willing call late

variable (number s fuel w₀) in
/-- The calls made by a moment are those over the connections that were lost, and behind them those
over the present one. -/
structure Told (past : List (Connection χ σ)) (c : Connection χ σ) (w : TracedWorld σ) :
    Prop where
  course : Course number s fuel w₀ past c.display c.began
  faithful : c.Faithful number
  heard : w.calls = past.flatMap Connection.calls ++ c.calls

variable (number s fuel w₀) in
/-- The loop goes on: no call has answered that it should stop. -/
structure Underway (past : List (Connection χ σ)) (c : Connection χ σ) : Prop
    extends Told number s fuel w₀ past c c.now where
  willing : ∀ call ∈ c.calls, call.onward = .goOn

theorem Underway.allWilling {past : List (Connection χ σ)} {c : Connection χ σ}
    (underway : Underway number s fuel w₀ past c) : ∀ call ∈ c.now.calls, call.onward = .goOn := by
  intro call made
  rw [underway.heard] at made
  rcases List.mem_append.mp made with early | late
  · exact underway.course.willing call early
  · exact underway.willing call late

/-- A poll and what is made of its answer: a call if it is an event, and else none. -/
theorem Told.after {past : List (Connection χ σ)} {c : Connection χ σ}
    (told : Told number s fuel w₀ past c c.now) {answer : Polled} {link' : Link χ}
    {w₁ w₂ : TracedWorld σ}
    (polled : Link.PolledOff Journaled.journal number c.link c.now answer link' w₁)
    (same : w₂.plant.state.journal = w₁.plant.state.journal) (calls : List Call)
    (events : calls.map Call.event = answer.events)
    (own : ∀ call ∈ calls, call.number = number link'.channel)
    (heard : w₂.calls = c.now.calls ++ calls) :
    Told number s fuel w₀ past { c with link := link', now := w₂, calls := c.calls ++ calls }
      w₂ := by
  obtain ⟨found, talk, carried⟩ := told.faithful.polled polled
  refine ⟨told.course, ⟨⟨found, talk.thenIdle same, ?_⟩, ?_⟩, ?_⟩
  · rw [List.map_append, events]
    exact carried
  · intro call made
    rcases List.mem_append.mp made with early | late
    · exact told.faithful.own call early
    · exact (own call late).trans talk.same
  · rw [heard, told.heard, List.append_assoc]

variable (number s fuel) in
/-- Why no connection came after this one: the handler asked to stop, an interrupt had come, or it
came before the display that was lost could be connected anew. -/
def Last (c : Connection χ σ) (w : TracedWorld σ) : Prop :=
  c.Stopped ∨ c.Interrupted
    ∨ c.Lost number ∧ s.retry fuel fuel (s.release c.current c.now) = .ended (none, w)

variable (number s fuel w₀) in
/-- What monitoring comes to: the number it answers is that of the calls, none but the last of them
answered that it should stop, and they are those over the connections it made. -/
structure Delivered (result : Except DisplayFault Nat) (w : TracedWorld σ) : Prop where
  count : ∀ n, result = .ok n → n = w.calls.length
  willing : ∀ call ∈ w.calls.dropLast, call.onward = .goOn
  connections :
    (w.calls = [] ∧ ∃ fault, s.connect fuel w₀ = .ended (.error fault, w))
      ∨ ∃ past c, Told number s fuel w₀ past c w ∧ Last number s fuel c w

variable (number s fuel w₀) in
/-- What is true on the way: no call has answered that monitoring should stop, and they are those
over the connections that were made. -/
structure OnTheWay (w : TracedWorld σ) : Prop where
  willing : ∀ call ∈ w.calls, call.onward = .goOn
  connections : w.calls = [] ∨ ∃ past c, Told number s fuel w₀ past c w

/-- As long as no more calls are made, the same has been told. -/
theorem Underway.onTheWay {past : List (Connection χ σ)} {c : Connection χ σ}
    (underway : Underway number s fuel w₀ past c) {w : TracedWorld σ}
    (same : w.calls = c.now.calls) : OnTheWay number s fuel w₀ w where
  willing := same ▸ underway.allWilling
  connections := .inr ⟨past, c, underway.course, underway.faithful, same.trans underway.heard⟩

/-- Monitoring that ends without having been asked to. -/
theorem Underway.ends {past : List (Connection χ σ)} {c : Connection χ σ}
    (underway : Underway number s fuel w₀ past c) {result : Except DisplayFault Nat}
    {w : TracedWorld σ} (last : Last number s fuel c w)
    (same : w.calls = c.now.calls) (count : ∀ n, result = .ok n → n = c.now.calls.length) :
    Delivered number s fuel w₀ result w where
  count n answered := same ▸ count n answered
  willing call made :=
    underway.allWilling call (same ▸ List.mem_of_mem_dropLast made)
  connections :=
    .inr ⟨past, c, ⟨underway.course, underway.faithful, same.trans underway.heard⟩, last⟩

/-- Monitoring that ends because the last call asked for it. -/
theorem Told.ends {past : List (Connection χ σ)} {c : Connection χ σ}
    {before w : TracedWorld σ} {calls : List Call} {call : Call}
    (told : Told number s fuel w₀ past c before) (split : c.calls = calls ++ [call])
    (willing : ∀ call ∈ calls, call.onward = .goOn) (stop : call.onward = .stop)
    {result : Except DisplayFault Nat} (same : w.calls = before.calls)
    (count : ∀ n, result = .ok n → n = before.calls.length) :
    Delivered number s fuel w₀ result w where
  count n answered := same ▸ count n answered
  willing earlier made := by
    rw [same, told.heard, split, ← List.append_assoc, List.dropLast_concat] at made
    rcases List.mem_append.mp made with early | late
    · exact told.course.willing earlier early
    · exact willing earlier late
  connections :=
    .inr ⟨past, c, ⟨told.course, told.faithful, same.trans told.heard⟩,
      .inl ⟨calls, call, split, stop⟩⟩

/-- Releasing the display makes no call, and does not change the number answered. -/
theorem finish_calls (silent : s.source.Silent) {display : Display χ} (delivered : Nat)
    {w : TracedWorld σ} (isOpen : display.link.closed = false) :
    let (result, w') := s.finish display delivered w
    w'.calls = w.calls ∧ ∀ n, result = .ok n → n = delivered := by
  refine ⟨finish_frees (silent w.calls) delivered ⟨isOpen, rfl⟩, fun n answered => ?_⟩
  generalize display.release s.source.transport w = released at answered
  match released with
  | (.ok (), _) => exact (Except.ok.inj answered).symm
  | (.error _, _) => cases answered

/-- While polls bring no event, nothing is told. -/
theorem Underway.polled {past : List (Connection χ σ)} {c : Connection χ σ}
    (underway : Underway number s fuel w₀ past c) {answer : Polled} {link' : Link χ}
    {w₁ w₂ : TracedWorld σ}
    (polled : Link.PolledOff Journaled.journal number c.link c.now answer link' w₁)
    (none : answer.events = []) (journal : w₂.plant.state.journal = w₁.plant.state.journal)
    (calls : w₂.calls = c.now.calls) :
    Underway number s fuel w₀ past { c with link := link', now := w₂ } := by
  have told := underway.after polled journal [] none.symm (fun _ none => nomatch none)
    (calls.trans (List.append_nil _).symm)
  rw [List.append_nil] at told
  exact ⟨told, underway.willing⟩

/-- The handler is told of an event as soon as a poll brings it. -/
theorem Underway.told {past : List (Connection χ σ)} {c : Connection χ σ}
    (underway : Underway number s fuel w₀ past c) {event : KeyEvent} {link' : Link χ}
    {w₁ w₂ : TracedWorld σ}
    (polled : Link.PolledOff Journaled.journal number c.link c.now (.event event) link' w₁)
    (journal : w₂.plant.state.journal = w₁.plant.state.journal) {onward : Onward}
    (noted : w₂.calls = c.now.calls ++ [⟨number link'.channel, event, onward⟩]) :
    Told number s fuel w₀ past
      { c with
        link := link'
        now := w₂
        calls := c.calls ++ [⟨number link'.channel, event, onward⟩] } w₂ :=
  underway.after polled journal _ rfl (by simp) noted

/-- A poll that finds its channel failed has delivered all that came before. -/
theorem Underway.lost {past : List (Connection χ σ)} {c : Connection χ σ}
    (underway : Underway number s fuel w₀ past c) {link' : Link χ}
    {w₁ : TracedWorld σ}
    (polled : Link.PolledOff Journaled.journal number c.link c.now .lost link' w₁)
    (same : w₁.calls = c.now.calls) :
    Connection.Lost number { c with link := link', now := w₁ } where
  failed := by
    obtain ⟨fault, failed⟩ := polled.failed rfl
    obtain ⟨_, talk, _⟩ := underway.faithful.heard
    exact ⟨fault, talk.same ▸ failed⟩
  complete := (underway.polled polled rfl rfl same).faithful.complete (polled.empty rfl)
  willing := underway.willing

/-- A display that comes up after the present one was lost takes its place. -/
theorem Underway.again {past : List (Connection χ σ)} {c : Connection χ σ}
    (underway : Underway number s fuel w₀ past c) (lost : c.Lost number) {display : Display χ}
    {w : TracedWorld σ}
    (connected : s.retry fuel fuel (s.release c.current c.now) = .ended (some display, w))
    (isOpen : display.link.closed = false) (same : w.calls = c.now.calls) :
    Underway number s fuel w₀ (past ++ [c]) (.start display w) where
  course := underway.course.again underway.faithful lost connected
  faithful := Connection.faithful_start isOpen
  heard := by
    show w.calls = (past ++ [c]).flatMap Connection.calls ++ []
    rw [List.append_nil, List.flatMap_append, List.flatMap_singleton, same, underway.heard]
  willing _ none := nomatch none

/-- Connecting anew tells nothing. -/
theorem retry_underway (silent : s.source.Silent) {past : List (Connection χ σ)}
    {c : Connection χ σ} (underway : Underway number s fuel w₀ past c) (lost : c.Lost number) :
    (s.retry fuel fuel (s.release c.current c.now)).Ends
      (fun (found, w) => w.calls = c.now.calls
        ∧ match found with
          | some next => Underway number s fuel w₀ (past ++ [c]) (.start next w)
          | none => Last number s fuel c w)
      (fun w => OnTheWay number s fuel w₀ w) := by
  have isOpen : c.current.link.closed = false := underway.faithful.isOpen
  have custody := retry_custody (silent c.now.calls) fuel fuel
    (release_frees (silent c.now.calls) ⟨isOpen, rfl⟩)
  cases connected : s.retry fuel fuel (s.release c.current c.now) with
  | cutShort w =>
    rw [connected] at custody
    rcases custody with ⟨_, same⟩ | same
    · exact underway.onTheWay same
    · exact underway.onTheWay same
  | ended answer =>
    rw [connected] at custody
    obtain ⟨found, w⟩ := answer
    cases found with
    | none => exact ⟨custody, .inr (.inr ⟨lost, connected⟩)⟩
    | some display =>
      exact ⟨custody.holds, underway.again lost connected custody.isOpen custody.holds⟩

/-- **The loop delivers every event once**, however often the display is lost: from any moment at
which that is true so far, it is true at the end and whenever the loop is cut short. -/
theorem watch_delivers (enters : s.source.Enters Journaled.journal number)
    (silent : s.source.Silent) (handle : EventHandler χ σ κ) (more : Nat)
    {past : List (Connection χ σ)} {c : Connection χ σ}
    (underway : Underway number s fuel w₀ past c) {display : Display χ}
    (current : display = c.current) {delivered : Nat} (counted : delivered = c.now.calls.length)
    (k : κ) :
    (s.watch fuel (handle.overheard number) more display delivered k c.now).Ends
      (fun (result, _, w') => Delivered number s fuel w₀ result w')
      (fun w' => OnTheWay number s fuel w₀ w') := by
  -- each turn of the loop hands the invariant on, with a new connection if the present one is lost
  induction more generalizing past c display delivered k with
  | zero => exact underway.onTheWay rfl
  | succ more ih =>
    subst current
    have isOpen : c.current.link.closed = false := underway.faithful.isOpen
    unfold watch
    cases running : c.now.running with
    | false =>
      obtain ⟨same, count⟩ := finish_calls silent delivered (w := c.now) isOpen
      exact underway.ends (.inr (.inl running)) same fun n answered => counted ▸ count n answered
    | true =>
      -- the poll seen twice: from the channel's journal, and from the calls it leaves alone
      have polled := Display.nextEvent_exchange enters.transport fuel c.now isOpen
      have quiet := Display.nextEvent_keeps (silent c.now.calls).transport.keeps fuel
        (w := c.now) ⟨isOpen, rfl⟩
      refine ((polled.and quiet).imp (fun _ => id) ?_).bind ?_
      · rintro w ⟨_, _, same⟩
        exact underway.onTheWay same
      rintro ⟨answer, display', w₁⟩ ⟨⟨polled, moved⟩, isOpen', same⟩
      have counted' : delivered = w₁.calls.length := counted.trans (congrArg List.length same.symm)
      cases answer with
      | event event =>
        have spec := handle.overheard_spec number display' event k w₁
        dsimp only
        generalize handle.overheard number display' event k w₁ = result at spec ⊢
        obtain ⟨onward, k, w₂⟩ := result
        obtain ⟨journal, noted⟩ := spec
        have length : delivered + 1 = w₂.calls.length := by
          rw [noted, List.length_append, counted']
          rfl
        have told := underway.told polled journal (noted.trans (congrArg (· ++ _) same))
        cases onward with
        | stop =>
          obtain ⟨unchanged, count⟩ := finish_calls silent (delivered + 1) (w := w₂) isOpen'
          exact told.ends rfl underway.willing rfl unchanged fun n answered =>
            length ▸ count n answered
        | goOn =>
          refine ih ⟨told, fun call made => ?_⟩ moved length k
          rcases List.mem_append.mp made with early | late
          · exact underway.willing call early
          · rw [List.mem_singleton.mp late]
      | nothing =>
        have journal : (w₁.sleep pollPause).plant.state.journal = w₁.plant.state.journal := rfl
        exact ih (underway.polled polled rfl journal same) moved counted' k
      | lost =>
        -- the number of calls is settled before the display is released: connecting makes none
        have lost := underway.lost polled same
        have ending := underway.polled polled rfl rfl same
        have current' : display' = Connection.current { c with link := display'.link, now := w₁ } :=
          moved
        rw [current']
        refine (retry_underway silent ending lost).bind ?_
        rintro ⟨found, w⟩ ⟨unchanged, onward⟩
        have counted' : delivered = w.calls.length :=
          counted'.trans (congrArg List.length unchanged.symm)
        cases found with
        | none =>
          refine ending.ends onward unchanged fun n answered => ?_
          rw [← Except.ok.inj answered]
          exact counted'.trans (congrArg List.length unchanged)
        | some next => exact ih onward rfl counted' k

/-! ## Monitoring -/

/-- What monitoring has delivered when it ends, and at every moment on the way. -/
def Delivers (s : Session χ (Journaled (Overheard σ))) (number : χ → Nat) (fuel : Nat)
    (handle : EventHandler χ σ κ) (k : κ) (w₀ : TracedWorld σ) : Prop :=
  (s.monitor fuel (handle.overheard number) k w₀).Ends
    (fun (result, _, w) => Delivered number s fuel w₀ result w)
    (fun w => OnTheWay number s fuel w₀ w)

theorem delivers_of_enters (enters : s.source.Enters Journaled.journal number)
    (silent : s.source.Silent) (fuel : Nat) (handle : EventHandler χ σ κ) (k : κ)
    (fresh : w₀.calls = []) : s.Delivers number fuel handle k w₀ := by
  have custody := connect_custody (silent []) fuel fresh
  unfold Delivers monitor
  cases connected : s.connect fuel w₀ with
  | cutShort w =>
    rw [connected] at custody
    have none : w.calls = [] := by
      rcases custody with ⟨_, none⟩ | none
      · exact none
      · exact none
    exact ⟨fun call made => (nomatch none ▸ made), .inl none⟩
  | ended answer =>
    rw [connected] at custody
    obtain ⟨result, w⟩ := answer
    cases result with
    | error fault =>
      have none : w.calls = [] := custody
      exact ⟨fun n answered => (nomatch answered), fun call made => (nomatch none ▸ made),
        .inl ⟨none, fault, connected⟩⟩
    | ok display =>
      have none : w.calls = [] := custody.holds
      have isOpen : display.link.closed = false := custody.isOpen
      have underway : Underway number s fuel w₀ [] (.start display w) :=
        { course := .first connected
          faithful := Connection.faithful_start isOpen
          heard := none
          willing := fun _ none => nomatch none }
      have counted : 0 = w.calls.length := by
        rw [none]
        rfl
      exact watch_delivers enters silent handle fuel underway rfl counted k

/-- **Monitoring delivers the key events of each of its connections, and no others.**  Wherever the
channels come from, whatever the devices and the handler do, and whether or not the traffic is
printed: the calls of the handler are, in order, those over the displays that came up one after the
other.  Over each of them they carry the events of the frames that its recogniser completed since it
came up, each once; a display is given up for a failed read only after all that came was delivered;
nothing is delivered after the handler asked to stop, and the number answered is that of the calls.
A run that goes on for ever has done the same at every moment. -/
theorem monitor_delivers (S : Source χ σ) (profiles : ProfileSet) (fuel : Nat) (w : World σ) :
    let session : Session (Numbered χ) (Journaled (Overheard σ)) :=
      ⟨S.overheard.journaled, profiles⟩
    (∀ (handle : EventHandler _ σ κ) (k : κ),
      session.Delivers Numbered.number fuel handle k w.overheard.journaled)
    ∧ ∀ (config : PrintOptions) (handle : EventHandler _ σ κ) (k : κ),
      (session.printed config).Delivers (fun c => c.inner.number) fuel handle k
        w.overheard.journaled := by
  have enters := S.overheard.enters_journaled
  have silent := S.silent_overheard
  refine ⟨fun handle k => delivers_of_enters enters silent fuel handle k rfl, ?_⟩
  intro config handle k
  exact delivers_of_enters (enters.printed config) (silent.printed config) fuel handle k rfl

end Session

end BrailleDisplay
