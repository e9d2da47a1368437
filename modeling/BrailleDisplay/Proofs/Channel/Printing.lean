import BrailleDisplay.Proofs.Channel.Journal
import BrailleDisplay.Proofs.Channel.Simulation

/-!
# What a printer prints

A printer in front of a channel changes nothing about it.  What it prints is told by how the channel
was used: a line for each attempt to write, and a line for each read that brought bytes, as far as
they are to be shown.

* `Use.traffic?`, `traffic` — what of the uses of a channel is to be shown;
* `Woven` — two lists kept in order in a third;
* `Printout` — worlds that differ only in that traffic has been printed among the notes of one;
* `Transport.printed_answer`, `Transport.printed_carryOut` — calls on a printed channel, one and any
  number of them;
* `PrintedJournal`, `Source.Enters.printed_simulates` — printed channels do as the channels behind
  them, and what is printed is told by the journal.
-/

namespace BrailleDisplay

/-! ## Traffic -/

/-- What of a use is to be shown: which way bytes went, and which they were. -/
def Use.traffic? (config : PrintOptions) : Use → Option (Direction × List UInt8)
  | wrote bytes _ => if config.showWrites then some (.toDevice, bytes) else none
  | read (.ok (b :: rest)) => if config.showReads then some (.fromDevice, b :: rest) else none
  | read _ => none

/-- What of the uses of a channel is to be shown. -/
def traffic (config : PrintOptions) (uses : List Use) : List (Direction × List UInt8) :=
  uses.filterMap (Use.traffic? config)

/-- What a line tells, its time aside. -/
def TrafficLine.content (line : TrafficLine) : Direction × List UInt8 :=
  (line.direction, line.bytes)

/-- The line that a use is shown as at a time. -/
def Use.line? (config : PrintOptions) (time : Nat) (use : Use) : Option TrafficLine :=
  (use.traffic? config).map fun (direction, bytes) => ⟨time, direction, bytes⟩

theorem Use.content_line? (config : PrintOptions) (time : Nat) (use : Use) :
    (use.line? config time).toList.map TrafficLine.content = traffic config [use] := by
  cases shown : use.traffic? config with
  | none => simp [line?, traffic, shown]
  | some content => simp [line?, traffic, shown, TrafficLine.content]

/-- The use that a call makes of a channel, by what came of it. -/
def ChannelCall.use? : ChannelCall → ChannelAnswer → Option Use
  | .write bytes, .wrote result => some (.wrote bytes result)
  | .read _ _, .read result => some (.read result)
  | _, _ => none

/-- The uses that calls make of a channel, one after the other. -/
def usesOf (calls : List ChannelCall) (answers : List ChannelAnswer) : List Use :=
  (calls.zip answers).filterMap fun (call, answer) => call.use? answer

theorem usesOf_cons (call : ChannelCall) (calls : List ChannelCall) (answer : ChannelAnswer)
    (answers : List ChannelAnswer) :
    usesOf (call :: calls) (answer :: answers)
      = (call.use? answer).toList ++ usesOf calls answers := by
  rw [usesOf, List.zip_cons_cons]
  cases made : call.use? answer with
  | none => exact List.filterMap_cons_none made
  | some use => exact List.filterMap_cons_some made

/-- The use that an entry tells of. -/
def Entry.use? : Entry → Option Use
  | used _ use => some use
  | _ => none

/-- All uses that a journal tells of. -/
def usesIn (journal : List Entry) : List Use :=
  journal.filterMap Entry.use?

/-! ## Weaving -/

section

variable {α : Type}

/-- The third list consists of the elements of the first two, each of these in its order. -/
inductive Woven : List α → List α → List α → Prop where
  | nil : Woven [] [] []
  | first {xs ys zs : List α} (a : α) (rest : Woven xs ys zs) : Woven (a :: xs) ys (a :: zs)
  | second {xs ys zs : List α} (a : α) (rest : Woven xs ys zs) : Woven xs (a :: ys) (a :: zs)

theorem Woven.onlyFirst : (xs : List α) → Woven xs [] xs
  | [] => .nil
  | x :: xs => .first x (onlyFirst xs)

theorem Woven.onlySecond : (ys : List α) → Woven [] ys ys
  | [] => .nil
  | y :: ys => .second y (onlySecond ys)

theorem Woven.append {xs ys zs xs' ys' zs' : List α} (front : Woven xs ys zs)
    (back : Woven xs' ys' zs') : Woven (xs ++ xs') (ys ++ ys') (zs ++ zs') := by
  induction front with
  | nil => exact back
  | first a _ ih => exact .first a ih
  | second a _ ih => exact .second a ih

theorem Woven.firstBefore (xs ys : List α) : Woven xs ys (xs ++ ys) := by
  have woven := (onlyFirst xs).append (onlySecond ys)
  rwa [List.append_nil, List.nil_append] at woven

theorem Woven.firstAfter (xs ys : List α) : Woven xs ys (ys ++ xs) := by
  have woven := (onlySecond ys).append (onlyFirst xs)
  rwa [List.append_nil, List.nil_append] at woven

end

/-! ## Printouts -/

/-- The note that a printer takes of a line. -/
def PrintOptions.noteOf (config : PrintOptions) (line : TrafficLine) : Note :=
  .printed (line.render config.format)

/-- The worlds are the same, but that in one of them the traffic of some uses has been printed: a
line for each piece of it, in order, among the notes of the other. -/
structure Printout {σ : Type} (config : PrintOptions) (uses : List Use) (w' w : World σ) :
    Prop where
  plant : w'.plant = w.plant
  lines : ∃ lines : List TrafficLine,
    lines.map TrafficLine.content = traffic config uses
      ∧ Woven (lines.map config.noteOf) w.notes.toList w'.notes.toList

section

variable {χ σ : Type} {config : PrintOptions} {uses : List Use}

/-- Of no uses, nothing is printed. -/
theorem Printout.start (config : PrintOptions) (w : World σ) : Printout config [] w w :=
  ⟨rfl, [], rfl, .onlySecond _⟩

/-- What is printed and noted later goes on from a printout. -/
theorem Printout.later {w' w w₁' w₁ : World σ} (kin : Printout config uses w' w)
    (plant : w₁'.plant = w₁.plant) {more : List Use} {lines : List TrafficLine}
    {notes' notes : List Note} (content : lines.map TrafficLine.content = traffic config more)
    (noted' : w₁'.notes.toList = w'.notes.toList ++ notes')
    (noted : w₁.notes.toList = w.notes.toList ++ notes)
    (woven : Woven (lines.map config.noteOf) notes notes') :
    Printout config (uses ++ more) w₁' w₁ where
  plant := plant
  lines := by
    obtain ⟨before, told, among⟩ := kin.lines
    refine ⟨before ++ lines, ?_, ?_⟩
    · rw [List.map_append, told, content]
      exact List.filterMap_append.symm
    · rw [List.map_append, noted', noted]
      exact among.append woven

/-- An operation on the plant is followed by one that prints the lines for some uses. -/
theorem Printout.perform {α' α : Type} {w' w : World σ} (kin : Printout config uses w' w)
    {operation' : Plant σ → Reply σ α'} {operation : Plant σ → Reply σ α} {more : List Use}
    (lines : List TrafficLine)
    (plant : (operation' w.plant).plant = (operation w.plant).plant)
    (content : lines.map TrafficLine.content = traffic config more)
    (woven : Woven (lines.map config.noteOf) (operation w.plant).notes
      (operation' w.plant).notes) :
    Printout config (uses ++ more) (w'.perform operation').2 (w.perform operation).2 := by
  have noted' : (w'.perform operation').2.notes.toList
      = w'.notes.toList ++ (operation' w.plant).notes := by
    rw [World.perform, Array.toList_append, kin.plant]
  have noted : (w.perform operation).2.notes.toList
      = w.notes.toList ++ (operation w.plant).notes := by
    rw [World.perform, Array.toList_append]
  have same : (w'.perform operation').2.plant = (w.perform operation).2.plant := by
    rw [World.perform, kin.plant]
    exact plant
  exact kin.later same content noted' noted woven

/-- Operations that note the same add nothing to a printout. -/
theorem Printout.silently {α' α : Type} {w' w : World σ} (kin : Printout config uses w' w)
    {operation' : Plant σ → Reply σ α'} {operation : Plant σ → Reply σ α}
    (plant : (operation' w.plant).plant = (operation w.plant).plant)
    (notes : (operation' w.plant).notes = (operation w.plant).notes) :
    Printout config uses (w'.perform operation').2 (w.perform operation).2 := by
  have woven : Woven [] (operation w.plant).notes (operation' w.plant).notes := by
    rw [notes]
    exact .onlySecond _
  have later : Printout config (uses ++ []) (w'.perform operation').2 (w.perform operation).2 :=
    kin.perform [] plant rfl woven
  rwa [List.append_nil] at later

theorem Printout.note {w' w : World σ} (kin : Printout config uses w' w) (n : Note) :
    Printout config uses (w'.note n) (w.note n) := by
  have silent : ([] : List TrafficLine).map TrafficLine.content = traffic config [] := rfl
  have same : (w'.note n).plant = (w.note n).plant := kin.plant
  have later : Printout config (uses ++ []) (w'.note n) (w.note n) :=
    kin.later same silent Array.toList_push Array.toList_push (.onlySecond [n])
  rwa [List.append_nil] at later

theorem Printout.sleep {w' w : World σ} (kin : Printout config uses w' w) (duration : Nat) :
    Printout config uses (w'.sleep duration) (w.sleep duration) :=
  ⟨by rw [World.sleep, kin.plant]; rfl, kin.lines⟩

/-! ## Printed channels -/

/-- The line for a write is printed before the channel notes anything. -/
theorem Transport.notes_printed_write (T : Transport χ σ) (config : PrintOptions)
    (bytes : List UInt8) (c : Printed χ) (plant : Plant σ) :
    let reply := T.write bytes c.inner plant
    let line? := (Use.wrote bytes reply.value.1).line? config (plant.now - c.start)
    ((T.printed config).write bytes c plant).notes
      = line?.toList.map config.noteOf ++ reply.notes := by
  by_cases shown : config.showWrites = true
  · simp [printed, Use.line?, Use.traffic?, PrintOptions.noteOf, shown]
  · simp [printed, Use.line?, Use.traffic?, shown]

/-- The line for a read is printed after all that the channel notes. -/
theorem Transport.notes_printed_read (T : Transport χ σ) (config : PrintOptions)
    (limit timeout : Nat) (c : Printed χ) (plant : Plant σ) :
    let reply := T.read limit timeout c.inner plant
    let line? := (Use.read reply.value.1).line? config (reply.plant.now - c.start)
    ((T.printed config).read limit timeout c plant).notes
      = reply.notes ++ line?.toList.map config.noteOf := by
  intro reply line?
  simp only [printed]
  congr 1
  -- a read that brought nothing is shown by no line, as one that failed
  cases answer : (T.read limit timeout c.inner plant).value.1 with
  | error fault => simp [line?, reply, answer, Use.line?, Use.traffic?]
  | ok bytes =>
    cases bytes with
    | nil => simp [line?, reply, answer, Use.line?, Use.traffic?]
    | cons b rest =>
      by_cases shown : config.showReads = true
      · simp only [line?, reply, answer, Use.line?, Use.traffic?, shown]
        rfl
      · simp [line?, reply, answer, Use.line?, Use.traffic?, shown]

section

variable (T : Transport χ σ) (c : Printed χ) {w' w : World σ} (kin : Printout config uses w' w)
include kin

theorem Transport.printed_write (bytes : List UInt8) :
    let after := w.perform (T.write bytes c.inner)
    Pairs (Pairs Eq (Printed.inner · = ·)) (Printout config (uses ++ [.wrote bytes after.1.1]))
      (w'.perform ((T.printed config).write bytes c)) after := by
  intro after
  have noted := T.notes_printed_write config bytes c w.plant
  have told := Use.content_line? config (w.plant.now - c.start) (.wrote bytes after.1.1)
  refine ⟨?_, kin.perform _ rfl told ?_⟩
  · rw [World.perform, kin.plant]
    exact ⟨rfl, rfl⟩
  · rw [noted]
    exact .firstBefore _ _

theorem Transport.printed_read (limit timeout : Nat) :
    let after := w.perform (T.read limit timeout c.inner)
    Pairs (Pairs Eq (Printed.inner · = ·)) (Printout config (uses ++ [.read after.1.1]))
      (w'.perform ((T.printed config).read limit timeout c)) after := by
  intro after
  have noted := T.notes_printed_read config limit timeout c w.plant
  have told := Use.content_line? config (after.2.plant.now - c.start) (.read after.1.1)
  refine ⟨?_, kin.perform _ rfl told ?_⟩
  · rw [World.perform, kin.plant]
    exact ⟨rfl, rfl⟩
  · rw [noted]
    exact .firstAfter _ _

theorem Transport.printed_close :
    Pairs (Pairs Eq (Printed.inner · = ·)) (Printout config uses)
      (w'.perform ((T.printed config).close c)) (w.perform (T.close c.inner)) := by
  constructor
  · rw [World.perform, kin.plant]
    exact ⟨rfl, rfl⟩
  · exact kin.silently rfl rfl

/-- Whatever is asked of a printed channel, it answers as the channel itself and prints the use that
was made of it. -/
theorem Transport.printed_answer (call : ChannelCall) :
    let after := T.answer call c.inner w
    Pairs Eq (Pairs (Printed.inner · = ·) (Printout config (uses ++ (call.use? after.1).toList)))
      ((T.printed config).answer call c w') after := by
  cases call with
  | write bytes =>
    obtain ⟨⟨result, channel⟩, kin₁⟩ := T.printed_write c kin bytes
    exact ⟨congrArg ChannelAnswer.wrote result, channel, kin₁⟩
  | read limit timeout =>
    obtain ⟨⟨result, channel⟩, kin₁⟩ := T.printed_read c kin limit timeout
    exact ⟨congrArg ChannelAnswer.read result, channel, kin₁⟩
  | info =>
    refine ⟨rfl, rfl, ?_⟩
    rw [← List.append_nil uses] at kin
    exact kin
  | close =>
    obtain ⟨⟨result, channel⟩, kin₁⟩ := T.printed_close c kin
    rw [← List.append_nil uses] at kin₁
    exact ⟨congrArg ChannelAnswer.closed result, channel, kin₁⟩

end

/-- **Any number of calls on a printed channel is answered as the channel itself does**, and exactly
the uses that are made of it are printed. -/
theorem Transport.printed_carryOut (T : Transport χ σ) (calls : List ChannelCall) (c : Printed χ)
    {w' w : World σ} (kin : Printout config uses w' w) :
    let after := T.carryOut calls c.inner w
    Pairs Eq (Pairs (Printed.inner · = ·) (Printout config (uses ++ usesOf calls after.1)))
      ((T.printed config).carryOut calls c w') after := by
  -- the uses printed before are any, since the first call adds to them
  induction calls generalizing c w' w uses with
  | nil =>
    refine ⟨rfl, rfl, ?_⟩
    rw [← List.append_nil uses] at kin
    exact kin
  | cons call rest ih =>
    have first := T.printed_answer c kin call
    unfold carryOut
    generalize (T.printed config).answer call c w' = result' at first ⊢
    generalize T.answer call c.inner w = result at first ⊢
    obtain ⟨answer, c₁, w₁'⟩ := result'
    obtain ⟨_, _, w₁⟩ := result
    obtain ⟨rfl, rfl, kin₁⟩ := first
    obtain ⟨answers, channel, kin₂⟩ := ih c₁ kin₁
    refine ⟨congrArg (answer :: ·) answers, channel, ?_⟩
    rw [List.append_assoc, ← usesOf_cons] at kin₂
    exact kin₂

/-! ## Printed sources -/

variable {journal : σ → List Entry} {number : χ → Nat}

variable (config journal) in
/-- The uses that the journal tells of have been printed. -/
def PrintedJournal (w' w : World σ) : Prop :=
  Printout config (usesIn (journal w.plant.state)) w' w

variable (config journal) in
theorem PrintedJournal.kinship : Kinship (PrintedJournal config journal) where
  now kin := congrArg Plant.now kin.plant
  running kin := congrArg Plant.running kin.plant
  log level message kin := kin.note (.log level message)
  sleep duration kin := kin.sleep duration

theorem usesIn_append_entry (before : List Entry) (entry : Entry) :
    usesIn (before ++ [entry]) = usesIn before ++ entry.use?.toList := by
  rw [usesIn, usesIn, List.filterMap_append]
  cases told : entry.use? with
  | none => rw [List.filterMap_cons_none told]; rfl
  | some use => rw [List.filterMap_cons_some told]; rfl

/-- What is printed goes with what is entered. -/
theorem PrintedJournal.of_printout {w w₁' w₁ : World σ} {entry : Entry}
    (entered : journal w₁.plant.state = journal w.plant.state ++ [entry])
    (kin : Printout config (usesIn (journal w.plant.state) ++ entry.use?.toList) w₁' w₁) :
    PrintedJournal config journal w₁' w₁ := by
  rw [PrintedJournal, entered, usesIn_append_entry]
  exact kin

/-- What is no use is entered without being printed. -/
theorem PrintedJournal.of_silent {w w₁' w₁ : World σ} {entry : Entry}
    (entered : journal w₁.plant.state = journal w.plant.state ++ [entry])
    (other : entry.use? = none)
    (kin : Printout config (usesIn (journal w.plant.state)) w₁' w₁) :
    PrintedJournal config journal w₁' w₁ := by
  refine .of_printout entered ?_
  rw [other]
  rwa [← List.append_nil (usesIn _)] at kin

/-- A printer changes nothing about a channel, and prints what is entered into its journal. -/
theorem Transport.Enters.printed_simulates {T : Transport χ σ} (enters : T.Enters journal number)
    (config : PrintOptions) :
    (T.printed config).Simulates T Printed.inner (PrintedJournal config journal) where
  info _ := rfl
  write bytes c {w' w} kin := by
    obtain ⟨entered, -⟩ := enters.write bytes c.inner w.plant
    obtain ⟨same, kin₁⟩ := T.printed_write c kin bytes
    exact ⟨same, .of_printout entered kin₁⟩
  read limit timeout c {w' w} kin := by
    obtain ⟨entered, -⟩ := enters.read limit timeout c.inner w.plant
    obtain ⟨same, kin₁⟩ := T.printed_read c kin limit timeout
    exact ⟨same, .of_printout entered kin₁⟩
  close c {w' w} kin := by
    have entered := enters.close c.inner w.plant
    obtain ⟨same, kin₁⟩ := T.printed_close c kin
    exact ⟨same, .of_silent entered rfl kin₁⟩

/-- **A printer changes nothing about the channels a source opens**, and prints what is entered into
their journal. -/
theorem Source.Enters.printed_simulates {S : Source χ σ} (enters : S.Enters journal number)
    (config : PrintOptions) :
    (S.printed config).Simulates S Printed.inner (PrintedJournal config journal) where
  transport := enters.transport.printed_simulates config
  acquire {w' w} kin := by
    have value : (w'.perform (S.printed config).acquire).1
        = (S.acquire w.plant).value.map fun c => ⟨c, (S.acquire w.plant).plant.now⟩ := by
      rw [World.perform, kin.plant]
      rfl
    have kin₁ : Printout config (usesIn (journal w.plant.state))
        (w'.perform (S.printed config).acquire).2 (w.perform S.acquire).2 :=
      Printout.silently kin rfl rfl
    rw [Pairs, value, World.perform]
    cases answer : (S.acquire w.plant).value with
    | ok c =>
      have entered := (enters.acquired w.plant c answer).2
      exact ⟨.ok rfl, .of_silent entered rfl kin₁⟩
    | error fault =>
      have entered := enters.refused w.plant fault answer
      exact ⟨.error fault, .of_silent entered rfl kin₁⟩

end

end BrailleDisplay
