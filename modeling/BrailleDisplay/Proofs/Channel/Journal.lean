import BrailleDisplay.Channel.Traffic

/-!
# Journals of what is done to channels

To speak of all that a program did to its channels, a journal is kept beside the state of the
devices.  `Source.journaled` puts it in front of any source, as a printer would be: every operation
is handed on as it is, and what came of it is entered.

* `Entry` — a channel opened or refused, used, or closed, under the number it was opened with;
* `Source.journaled`, `Transport.journaled` — sources and channels with a journal;
* `Transport.Enters`, `Source.Enters` — what matters of them, also behind a printer
  (`Source.Enters.printed`): each operation adds exactly its own entry;
* `Orderly` — journals in which every channel is closed, once, before the next one is opened, and
  used only in between; `Orderly.lifetimes_idle` and `Orderly.lifetimes_held` say what that leaves
  of openings and closings;
* `received` — the bytes that were read from a channel.
-/

namespace BrailleDisplay

/-! ## Entries -/

/-- A use of an open channel, and what came of it. -/
inductive Use where
  | wrote (bytes : List UInt8) (result : Except ChannelFault Unit)
  | read (result : Except ChannelFault (List UInt8))
  deriving Repr

/-- What was done to the channel of a number. -/
inductive Entry where
  | refused (fault : ChannelFault)
  | opened (number : Nat)
  | used (number : Nat) (use : Use)
  | closed (number : Nat) (result : Except ChannelFault Unit)
  deriving Repr

/-- How many channels were opened. -/
def openings (journal : List Entry) : Nat :=
  journal.countP fun
    | .opened _ => true
    | _ => false

/-- The bytes that were read from a channel. -/
def received (number : Nat) (journal : List Entry) : List UInt8 :=
  journal.flatMap fun
    | .used n (.read (.ok bytes)) => if n = number then bytes else []
    | _ => []

theorem received_append (number : Nat) (front back : List Entry) :
    received number (front ++ back) = received number front ++ received number back :=
  List.flatMap_append

/-! ## Keeping a journal -/

/-- The state of the devices, with a journal beside it. -/
structure Journaled (σ : Type) where
  /-- The state of the devices. -/
  inner : σ
  /-- What was done to channels, the oldest entry first. -/
  journal : List Entry := []

/-- A channel with the number it was opened with. -/
structure Numbered (χ : Type) where
  /-- The channel. -/
  inner : χ
  /-- How many channels were opened before it. -/
  number : Nat

/-- A plant with a journal beside the state of its devices. -/
def Plant.withJournal {σ : Type} (plant : Plant σ) (journal : List Entry) : Plant (Journaled σ) :=
  { plant with state := ⟨plant.state, journal⟩ }

/-- A plant without its journal. -/
def Plant.bare {σ : Type} (plant : Plant (Journaled σ)) : Plant σ :=
  { plant with state := plant.state.inner }

/-- A world with a journal in which nothing is entered yet. -/
def World.journaled {σ : Type} (w : World σ) : World (Journaled σ) :=
  { w with plant := w.plant.withJournal [] }

section

variable {χ σ : Type}

/-- Enter what is done to a channel. -/
def Transport.journaled (T : Transport χ σ) : Transport (Numbered χ) (Journaled σ) where
  info c := T.info c.inner
  write bytes c plant :=
    let reply := T.write bytes c.inner plant.bare
    let entry := .used c.number (.wrote bytes reply.value.1)
    { value := (reply.value.1, { c with inner := reply.value.2 })
      plant := reply.plant.withJournal (plant.state.journal ++ [entry])
      notes := reply.notes }
  read limit timeout c plant :=
    let reply := T.read limit timeout c.inner plant.bare
    let entry := .used c.number (.read reply.value.1)
    { value := (reply.value.1, { c with inner := reply.value.2 })
      plant := reply.plant.withJournal (plant.state.journal ++ [entry])
      notes := reply.notes }
  close c plant :=
    let reply := T.close c.inner plant.bare
    let entry := .closed c.number reply.value.1
    { value := (reply.value.1, { c with inner := reply.value.2 })
      plant := reply.plant.withJournal (plant.state.journal ++ [entry])
      notes := reply.notes }

/-- Enter what is done to every channel a source opens, and what it refuses. -/
def Source.journaled (S : Source χ σ) : Source (Numbered χ) (Journaled σ) where
  transport := S.transport.journaled
  acquire plant :=
    let reply := S.acquire plant.bare
    let number := openings plant.state.journal
    let entry :=
      match reply.value with
      | .ok _ => .opened number
      | .error fault => .refused fault
    { value := reply.value.map fun c => ⟨c, number⟩
      plant := reply.plant.withJournal (plant.state.journal ++ [entry])
      notes := reply.notes }

/-! ## What an operation enters -/

/-- Channels that enter each operation into a journal found in the state of the devices. -/
structure Transport.Enters (T : Transport χ σ) (journal : σ → List Entry) (number : χ → Nat) :
    Prop where
  write : ∀ bytes c plant,
    journal (T.write bytes c plant).plant.state
        = journal plant.state
          ++ [.used (number c) (.wrote bytes (T.write bytes c plant).value.1)]
      ∧ number (T.write bytes c plant).value.2 = number c
  read : ∀ limit timeout c plant,
    journal (T.read limit timeout c plant).plant.state
        = journal plant.state
          ++ [.used (number c) (.read (T.read limit timeout c plant).value.1)]
      ∧ number (T.read limit timeout c plant).value.2 = number c
  close : ∀ c plant,
    journal (T.close c plant).plant.state
        = journal plant.state ++ [.closed (number c) (T.close c plant).value.1]

/-- A source that enters each opening and refusal, and whose channels enter what is done to them. -/
structure Source.Enters (S : Source χ σ) (journal : σ → List Entry) (number : χ → Nat) :
    Prop where
  transport : S.transport.Enters journal number
  acquired : ∀ plant c, (S.acquire plant).value = .ok c →
    number c = openings (journal plant.state)
      ∧ journal (S.acquire plant).plant.state = journal plant.state ++ [.opened (number c)]
  refused : ∀ plant fault, (S.acquire plant).value = .error fault →
    journal (S.acquire plant).plant.state = journal plant.state ++ [.refused fault]

/-- The bytes a read brought. -/
def readBytes : Except ChannelFault (List UInt8) → List UInt8
  | .ok bytes => bytes
  | .error _ => []

/-- Nothing is received by writing. -/
theorem Transport.Enters.received_write {T : Transport χ σ} {journal : σ → List Entry}
    {number : χ → Nat} (enters : T.Enters journal number) (bytes : List UInt8) (c : χ)
    (plant : Plant σ) :
    let reply := T.write bytes c plant
    number reply.value.2 = number c
      ∧ received (number reply.value.2) (journal reply.plant.state)
        = received (number c) (journal plant.state) := by
  obtain ⟨entered, same⟩ := enters.write bytes c plant
  refine ⟨same, ?_⟩
  rw [same, entered, received_append]
  exact List.append_nil _

/-- What a read brings is received. -/
theorem Transport.Enters.received_read {T : Transport χ σ} {journal : σ → List Entry}
    {number : χ → Nat} (enters : T.Enters journal number) (limit timeout : Nat) (c : χ)
    (plant : Plant σ) :
    let reply := T.read limit timeout c plant
    number reply.value.2 = number c
      ∧ received (number reply.value.2) (journal reply.plant.state)
        = received (number c) (journal plant.state) ++ readBytes reply.value.1 := by
  obtain ⟨entered, same⟩ := enters.read limit timeout c plant
  refine ⟨same, ?_⟩
  rw [same, entered, received_append]
  congr 1
  cases (T.read limit timeout c plant).value.1 with
  | ok bytes =>
    show received (number c) [.used (number c) (.read (.ok bytes))] = bytes
    rw [received, List.flatMap_singleton]
    exact if_pos rfl
  | error fault => rfl

theorem Transport.enters_journaled (T : Transport χ σ) :
    T.journaled.Enters Journaled.journal Numbered.number where
  write _ _ _ := ⟨rfl, rfl⟩
  read _ _ _ _ := ⟨rfl, rfl⟩
  close _ _ := rfl

theorem Source.enters_journaled (S : Source χ σ) :
    S.journaled.Enters Journaled.journal Numbered.number where
  transport := S.transport.enters_journaled
  acquired plant c found := by
    simp only [journaled] at found ⊢
    cases answer : (S.acquire plant.bare).value with
    | ok channel =>
      rw [answer] at found
      cases found
      exact ⟨rfl, rfl⟩
    | error fault =>
      rw [answer] at found
      cases found
  refused plant fault found := by
    simp only [journaled] at found ⊢
    cases answer : (S.acquire plant.bare).value with
    | ok channel =>
      rw [answer] at found
      cases found
    | error fault' =>
      rw [answer] at found
      cases found
      rfl

/-- A printer in front of a channel enters nothing of its own and hides nothing. -/
theorem Transport.Enters.printed {T : Transport χ σ} {journal : σ → List Entry}
    {number : χ → Nat} (enters : T.Enters journal number) (config : PrintOptions) :
    (T.printed config).Enters journal (fun c => number c.inner) where
  write bytes c plant := enters.write bytes c.inner plant
  read limit timeout c plant := enters.read limit timeout c.inner plant
  close c plant := enters.close c.inner plant

/-- A printer in front of every channel of a source enters nothing of its own and hides nothing. -/
theorem Source.Enters.printed {S : Source χ σ} {journal : σ → List Entry} {number : χ → Nat}
    (enters : S.Enters journal number) (config : PrintOptions) :
    (S.printed config).Enters journal (fun c => number c.inner) where
  transport := enters.transport.printed config
  acquired plant c found := enters.acquired plant c.inner (acquired_printed found)
  refused plant fault found := enters.refused plant fault (refused_printed found)

end

/-! ## Journals in order -/

/-- A journal in order: the channel that is open at its end, if one is, how many channels were
opened, and the entries.  A channel is opened only while none is open, and used and closed only
while it is open itself. -/
inductive Orderly : Option Nat → Nat → List Entry → Prop where
  | start : Orderly none 0 []
  | refused {count : Nat} {journal : List Entry} (before : Orderly none count journal)
      (fault : ChannelFault) : Orderly none count (journal ++ [.refused fault])
  | opened {count : Nat} {journal : List Entry} (before : Orderly none count journal) :
      Orderly (some count) (count + 1) (journal ++ [.opened count])
  | used {number count : Nat} {journal : List Entry} (before : Orderly (some number) count journal)
      (use : Use) : Orderly (some number) count (journal ++ [.used number use])
  | closed {number count : Nat} {journal : List Entry}
      (before : Orderly (some number) count journal) (result : Except ChannelFault Unit) :
      Orderly none count (journal ++ [.closed number result])

/-- A journal in order was so all the time. -/
theorem Orderly.of_isPrefix {holder : Option Nat} {count : Nat} {journal moment : List Entry}
    (orderly : Orderly holder count journal) (before : moment <+: journal) :
    ∃ holder count, Orderly holder count moment := by
  induction orderly with
  | start =>
    obtain rfl := List.prefix_nil.mp before
    exact ⟨none, 0, .start⟩
  | refused earlier fault ih =>
    rcases List.prefix_concat_iff.mp before with rfl | before
    · exact ⟨_, _, earlier.refused fault⟩
    · exact ih before
  | opened earlier ih =>
    rcases List.prefix_concat_iff.mp before with rfl | before
    · exact ⟨_, _, earlier.opened⟩
    · exact ih before
  | used earlier use ih =>
    rcases List.prefix_concat_iff.mp before with rfl | before
    · exact ⟨_, _, earlier.used use⟩
    · exact ih before
  | closed earlier result ih =>
    rcases List.prefix_concat_iff.mp before with rfl | before
    · exact ⟨_, _, earlier.closed result⟩
    · exact ih before

/-- The two ends of a channel's life. -/
inductive LifeEvent where
  | opening (number : Nat)
  | closing (number : Nat)
  deriving DecidableEq, Repr

/-- What a journal says about the ends of channels' lives. -/
def lifetimes (journal : List Entry) : List LifeEvent :=
  journal.filterMap fun
    | .opened number => some (.opening number)
    | .closed number _ => some (.closing number)
    | _ => none

/-- So many channels, one after the other, each opened and closed before the next. -/
def lives (count : Nat) : List LifeEvent :=
  (List.range count).flatMap fun number => [.opening number, .closing number]

theorem lives_succ (count : Nat) :
    lives (count + 1) = lives count ++ [.opening count, .closing count] := by
  rw [lives, List.range_succ, List.flatMap_append]
  rfl

theorem lifetimes_append (front back : List Entry) :
    lifetimes (front ++ back) = lifetimes front ++ lifetimes back :=
  List.filterMap_append

theorem Orderly.openings_eq {holder : Option Nat} {count : Nat} {journal : List Entry}
    (orderly : Orderly holder count journal) : openings journal = count := by
  induction orderly with
  | start => rfl
  | refused _ _ ih => simpa [openings] using ih
  | opened _ ih => simpa [openings] using ih
  | used _ _ ih => simpa [openings] using ih
  | closed _ _ ih => simpa [openings] using ih

/-- What is left of a journal in order when only openings and closings are looked at. -/
theorem Orderly.lifetimes_eq {holder : Option Nat} {count : Nat} {journal : List Entry}
    (orderly : Orderly holder count journal) :
    (holder = none → lifetimes journal = lives count)
      ∧ ∀ number, holder = some number →
          count = number + 1 ∧ lifetimes journal = lives number ++ [.opening number] := by
  induction orderly with
  | start => exact ⟨fun _ => rfl, fun _ held => (nomatch held)⟩
  | refused _ _ ih =>
    refine ⟨fun _ => ?_, fun _ held => (nomatch held)⟩
    rw [lifetimes_append, ih.1 rfl]
    exact List.append_nil _
  | @opened count _ _ ih =>
    refine ⟨fun idle => (nomatch idle), fun number held => ?_⟩
    obtain rfl : count = number := Option.some.inj held
    rw [lifetimes_append, ih.1 rfl]
    exact ⟨rfl, rfl⟩
  | used _ _ ih =>
    refine ⟨fun idle => (nomatch idle), fun number held => ?_⟩
    obtain ⟨count, same⟩ := ih.2 number held
    rw [lifetimes_append, same]
    exact ⟨count, List.append_nil _⟩
  | @closed number _ _ _ _ ih =>
    refine ⟨fun _ => ?_, fun _ held => (nomatch held)⟩
    obtain ⟨rfl, same⟩ := ih.2 number rfl
    rw [lifetimes_append, same, lives_succ, List.append_assoc]
    rfl

/-- While no channel is open, all that were opened have lived one after the other. -/
theorem Orderly.lifetimes_idle {count : Nat} {journal : List Entry}
    (orderly : Orderly none count journal) : lifetimes journal = lives count :=
  orderly.lifetimes_eq.1 rfl

/-- While a channel is open, all before it have lived one after the other. -/
theorem Orderly.lifetimes_held {number count : Nat} {journal : List Entry}
    (orderly : Orderly (some number) count journal) :
    lifetimes journal = lives number ++ [.opening number] :=
  (orderly.lifetimes_eq.2 number rfl).2

end BrailleDisplay
