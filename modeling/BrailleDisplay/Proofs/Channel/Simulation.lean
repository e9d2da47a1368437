import BrailleDisplay.Channel.Transport
import BrailleDisplay.Proofs.Bounded

/-!
# Channels that do as other channels do

One transport does as another when each of its operations answers the same and leaves the same
channel behind, seen through a projection, and keeps the two worlds alike.  What is alike about the
worlds is left open but for this: the clocks and whether an interrupt has come are the same, and
logging or letting time pass in both keeps them alike.

* `Pairs` — two results of a kind that agree in their parts;
* `Bounded.Alike`, `Bounded.Alike.bind` — two runs that end alike or are cut short alike, and their
  composition;
* `Kinship` — what likeness of worlds must bear;
* `Transport.Simulates`, `Source.Simulates` — operations and openings that agree;
* `ChannelCall`, `ChannelAnswer`, `Transport.carryOut` — any number of calls on a channel.
-/

namespace BrailleDisplay

section

variable {α α' β β' σ : Type}

/-! ## Results -/

/-- Two pairs of which both parts agree. -/
def Pairs (R : α' → α → Prop) (S : β' → β → Prop) (pair' : α' × β') (pair : α × β) : Prop :=
  R pair'.1 pair.1 ∧ S pair'.2 pair.2

/-- Two answers or failures that agree: the failures are the same. -/
inductive Answers {ε : Type} (R : α' → α → Prop) : Except ε α' → Except ε α → Prop where
  | ok {a' : α'} {a : α} (agree : R a' a) : Answers R (.ok a') (.ok a)
  | error (fault : ε) : Answers R (.error fault) (.error fault)

/-! ## Runs -/

namespace Bounded

/-- Both runs end, with answers that agree, or both are cut short, in worlds that do. -/
def Alike (R : α' → α → Prop) (W : World σ → World σ → Prop) (run' : Bounded σ α')
    (run : Bounded σ α) : Prop :=
  match run', run with
  | ended a', ended a => R a' a
  | cutShort w', cutShort w => W w' w
  | _, _ => False

/-- Runs that end alike can be followed by runs that do. -/
theorem Alike.bind {R : α' → α → Prop} {S : β' → β → Prop} {W : World σ → World σ → Prop}
    {run' : Bounded σ α'} {run : Bounded σ α} {next' : α' → Bounded σ β'} {next : α → Bounded σ β}
    (first : Alike R W run' run) (onward : ∀ a' a, R a' a → Alike S W (next' a') (next a)) :
    Alike S W (run' >>= next') (run >>= next) := by
  match run', run, first with
  | ended a', ended a, agree => exact onward a' a agree
  | cutShort w', cutShort w, alike => exact alike

end Bounded

end

/-! ## Worlds and channels -/

variable {χ χ' σ : Type}

/-- A note that is an entry of the log. -/
def Note.IsEntry (n : Note) : Prop :=
  ∃ level message, n = .log level message

/-- Likeness of worlds that the same entries of the log and the same waiting keep up, and that
leaves nothing to tell the clocks or an interrupt apart by. -/
structure Kinship (W : World σ → World σ → Prop) : Prop where
  now : ∀ {w' w}, W w' w → w'.now = w.now
  running : ∀ {w' w}, W w' w → w'.running = w.running
  log : ∀ {w' w} (level : Level) (message : String), W w' w →
    W (w'.log level message) (w.log level message)
  sleep : ∀ {w' w} (duration : Nat), W w' w → W (w'.sleep duration) (w.sleep duration)

namespace Kinship

variable {W : World σ → World σ → Prop} {w' w : World σ}

theorem note (kinship : Kinship W) {n : Note} (entry : n.IsEntry) (alike : W w' w) :
    W (w'.note n) (w.note n) := by
  obtain ⟨level, message, rfl⟩ := entry
  exact kinship.log level message alike

theorem notes (kinship : Kinship W) {notes : List Note} (entries : ∀ n ∈ notes, n.IsEntry)
    (alike : W w' w) : W (notes.foldl World.note w') (notes.foldl World.note w) := by
  induction notes generalizing w' w with
  | nil => exact alike
  | cons n rest ih =>
    have first := kinship.note (entries n List.mem_cons_self) alike
    exact ih (fun n among => entries n (List.mem_cons_of_mem _ among)) first

end Kinship

/-- The operations of `T'` do as those of `T` do, where `π` tells which channel of `T` a channel of
`T'` stands for. -/
structure Transport.Simulates (T' : Transport χ' σ) (T : Transport χ σ) (π : χ' → χ)
    (W : World σ → World σ → Prop) : Prop where
  info : ∀ c, T'.info c = T.info (π c)
  write : ∀ bytes c {w' w}, W w' w →
    Pairs (Pairs Eq (π · = ·)) W
      (w'.perform (T'.write bytes c)) (w.perform (T.write bytes (π c)))
  read : ∀ limit timeout c {w' w}, W w' w →
    Pairs (Pairs Eq (π · = ·)) W
      (w'.perform (T'.read limit timeout c)) (w.perform (T.read limit timeout (π c)))
  close : ∀ c {w' w}, W w' w →
    Pairs (Pairs Eq (π · = ·)) W (w'.perform (T'.close c)) (w.perform (T.close (π c)))

/-- So do its openings. -/
structure Source.Simulates (S' : Source χ' σ) (S : Source χ σ) (π : χ' → χ)
    (W : World σ → World σ → Prop) : Prop where
  transport : S'.transport.Simulates S.transport π W
  acquire : ∀ {w' w}, W w' w →
    Pairs (Answers (π · = ·)) W (w'.perform S'.acquire) (w.perform S.acquire)

/-! ## Calls on a channel -/

/-- What may be asked of a channel. -/
inductive ChannelCall where
  | write (bytes : List UInt8)
  | read (limit timeout : Nat)
  | info
  | close
  deriving DecidableEq, Repr

/-- What comes of it. -/
inductive ChannelAnswer where
  | wrote (result : Except ChannelFault Unit)
  | read (result : Except ChannelFault (List UInt8))
  | info (info : DeviceInfo)
  | closed (result : Except ChannelFault Unit)
  deriving Repr

namespace Transport

def answer (T : Transport χ σ) (call : ChannelCall) (c : χ) (w : World σ) :
    ChannelAnswer × χ × World σ :=
  match call with
  | .write bytes =>
    let ((result, c), w) := w.perform (T.write bytes c)
    (.wrote result, c, w)
  | .read limit timeout =>
    let ((result, c), w) := w.perform (T.read limit timeout c)
    (.read result, c, w)
  | .info => (.info (T.info c), c, w)
  | .close =>
    let ((result, c), w) := w.perform (T.close c)
    (.closed result, c, w)

/-- One call after the other. -/
def carryOut (T : Transport χ σ) :
    List ChannelCall → χ → World σ → List ChannelAnswer × χ × World σ
  | [], c, w => ([], c, w)
  | call :: rest, c, w =>
    let (answer, c, w) := T.answer call c w
    let (answers, c, w) := carryOut T rest c w
    (answer :: answers, c, w)

end Transport

end BrailleDisplay
