import BrailleDisplay.Frame.Link
import BrailleDisplay.Proofs.Channel.Simulation

/-!
# Links over channels that do as others do

A link decides nothing by its channel but what the channel answers.  So over channels that do as
others do, links do as others do: what they find and answer is the same, and so are their
recogniser, the bytes they have left, and whether they are closed.

* `Link.map` — the link over the channel that a channel stands for;
* `Link.Alike` — results that agree;
* `Link.drain_alike`, `Link.nextFrame_alike` — reading frames, by induction on the bound;
* `Link.write_alike`, `Link.close_alike`, `Link.drop_alike` — writing and closing.
-/

namespace BrailleDisplay

variable {χ χ' σ α : Type} {T' : Transport χ' σ} {T : Transport χ σ} {π : χ' → χ}
  {W : World σ → World σ → Prop}

namespace Link

/-- The link over the channel that the channel stands for. -/
def map (π : χ' → χ) (link : Link χ') : Link χ where
  channel := π link.channel
  decoder := link.decoder
  pending := link.pending
  closed := link.closed

/-- Results of an operation on links that agree. -/
def Alike (π : χ' → χ) (W : World σ → World σ → Prop) :
    α × Link χ' × World σ → α × Link χ × World σ → Prop :=
  Pairs Eq (Pairs (map π · = ·) W)

theorem rejection_isEntry (reason : FrameFault) (bytes : List UInt8) :
    (rejection reason bytes).IsEntry := by
  unfold rejection
  split
  · exact ⟨_, _, rfl⟩
  · exact ⟨_, _, rfl⟩

/-- Recognising frames finds the same in worlds that are alike. -/
theorem drain_alike (kinship : Kinship W) (d : Decoder) (bytes : List UInt8) {w' w : World σ}
    (kin : W w' w) :
    Pairs Eq (Pairs Eq (Pairs Eq W)) (drain d w' bytes) (drain d w bytes) := by
  induction bytes generalizing d w' w with
  | nil => exact ⟨rfl, rfl, rfl, kin⟩
  | cons b rest ih =>
    unfold drain
    match d.push b with
    | (.incomplete, d₁) => exact ih d₁ kin
    | (.valid frame, d₁) => exact ⟨rfl, rfl, rfl, kinship.log _ _ kin⟩
    | (.invalid reason bytes, d₁) => exact ih d₁ (kinship.note (rejection_isEntry reason bytes) kin)

theorem write_alike (sim : T'.Simulates T π W) (kinship : Kinship W) (bytes : List UInt8)
    (link : Link χ') {w' w : World σ} (kin : W w' w) :
    Alike π W (link.write T' bytes w') ((link.map π).write T bytes w) := by
  unfold write
  by_cases closed : link.closed = true
  · rw [if_pos closed, if_pos (show (link.map π).closed = true from closed)]
    exact ⟨rfl, rfl, kin⟩
  · rw [if_neg closed, if_neg (show ¬(link.map π).closed = true from closed)]
    have written := sim.write bytes link.channel
      (kinship.log .debug ("write: " ++ Text.hexDump bytes) kin)
    dsimp only [map]
    generalize World.perform _ (T'.write bytes link.channel) = result' at written ⊢
    generalize World.perform _ (T.write bytes (π link.channel)) = result at written ⊢
    obtain ⟨⟨outcome', channel'⟩, w₁'⟩ := result'
    obtain ⟨⟨outcome, channel⟩, w₁⟩ := result
    obtain ⟨⟨rfl, rfl⟩, kin₁⟩ := written
    exact ⟨rfl, rfl, kin₁⟩

theorem close_alike (sim : T'.Simulates T π W) (link : Link χ') {w' w : World σ} (kin : W w' w) :
    Alike π W (link.close T' w') ((link.map π).close T w) := by
  unfold close
  by_cases closed : link.closed = true
  · rw [if_pos closed, if_pos (show (link.map π).closed = true from closed)]
    exact ⟨rfl, rfl, kin⟩
  · rw [if_neg closed, if_neg (show ¬(link.map π).closed = true from closed)]
    have closing := sim.close link.channel kin
    dsimp only [map]
    generalize w'.perform (T'.close link.channel) = result' at closing ⊢
    generalize w.perform (T.close (π link.channel)) = result at closing ⊢
    obtain ⟨⟨outcome', channel'⟩, w₁'⟩ := result'
    obtain ⟨⟨outcome, channel⟩, w₁⟩ := result
    obtain ⟨⟨rfl, rfl⟩, kin₁⟩ := closing
    exact ⟨rfl, rfl, kin₁⟩

theorem shut_alike (sim : T'.Simulates T π W) (kinship : Kinship W) (link : Link χ')
    {w' w : World σ} (kin : W w' w) :
    Pairs (map π · = ·) W (link.shut T' w') ((link.map π).shut T w) := by
  have closing := close_alike sim link kin
  unfold shut
  generalize link.close T' w' = result' at closing ⊢
  generalize (link.map π).close T w = result at closing ⊢
  obtain ⟨outcome', link₁', w₁'⟩ := result'
  obtain ⟨outcome, link₁, w₁⟩ := result
  obtain ⟨rfl, rfl, kin₁⟩ := closing
  cases outcome' with
  | ok _ => exact ⟨rfl, kin₁⟩
  | error fault => exact ⟨rfl, kinship.log _ _ kin₁⟩

theorem drop_alike (sim : T'.Simulates T π W) (kinship : Kinship W) (link : Link χ')
    {w' w : World σ} (kin : W w' w) : W (link.drop T' w') ((link.map π).drop T w) :=
  (shut_alike sim kinship link kin).2

/-- Reading until a frame is complete, by induction on the bound. -/
theorem awaitFrame_alike (sim : T'.Simulates T π W) (kinship : Kinship W) (deadline fuel : Nat)
    (link : Link χ') {w' w : World σ} (kin : W w' w) :
    Bounded.Alike (Alike π W) W (link.awaitFrame T' deadline fuel w')
      ((link.map π).awaitFrame T deadline fuel w) := by
  -- what is left over is looked at before the bound is
  induction fuel using Nat.strongRecOn generalizing link w' w with
  | ind fuel ih =>
    have drained := drain_alike kinship link.decoder link.pending kin
    unfold awaitFrame
    dsimp only [map]
    generalize drain link.decoder w' link.pending = result' at drained ⊢
    generalize drain link.decoder w link.pending = result at drained ⊢
    obtain ⟨found', decoder', pending', w₁'⟩ := result'
    obtain ⟨found, decoder, pending, w₁⟩ := result
    obtain ⟨rfl, rfl, rfl, kin₁⟩ := drained
    match found', fuel with
    | some frame, _ => exact ⟨rfl, rfl, kin₁⟩
    | none, 0 => exact kin₁
    | none, fuel + 1 =>
      have read := sim.read readSize (deadline - w₁.now) link.channel kin₁
      dsimp only
      rw [kinship.now kin₁]
      generalize w₁'.perform _ = result' at read ⊢
      generalize w₁.perform _ = result at read ⊢
      obtain ⟨⟨outcome', channel'⟩, w₂'⟩ := result'
      obtain ⟨⟨outcome, channel⟩, w₂⟩ := result
      obtain ⟨⟨rfl, rfl⟩, kin₂⟩ := read
      match outcome' with
      | .error e => exact ⟨rfl, rfl, kin₂⟩
      | .ok [] => exact ⟨rfl, rfl, kin₂⟩
      | .ok (b :: rest) => exact ih fuel (Nat.lt_succ_self fuel) _ kin₂

theorem nextFrame_alike (sim : T'.Simulates T π W) (kinship : Kinship W) (fuel timeout : Nat)
    (link : Link χ') {w' w : World σ} (kin : W w' w) :
    Bounded.Alike (Alike π W) W (link.nextFrame T' fuel timeout w')
      ((link.map π).nextFrame T fuel timeout w) := by
  unfold nextFrame
  rw [kinship.now kin, show (link.map π).closed = link.closed from rfl]
  cases link.closed with
  | true => exact ⟨rfl, rfl, kin⟩
  | false => exact awaitFrame_alike sim kinship (w.now + timeout) fuel link kin

end Link

end BrailleDisplay
