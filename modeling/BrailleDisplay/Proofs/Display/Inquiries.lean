import BrailleDisplay.Proofs.Display.Asking
import BrailleDisplay.Proofs.Display.Echoes
import BrailleDisplay.Proofs.Display.Patience

/-!
# Which count decides

Asking for the width is told here read by read, on a link in any state.  An inquiry is one request
and, if that was acknowledged, reads until its window has closed or one of them brings a usable
count, nothing, or a failure.

* `Inquiry`, `Inquiry.count` — what is seen of an inquiry, and the first usable count it heard;
* `Settles` — the width that so many inquiries come to;
* `Link.Inquired`, `Link.Inquiries` — inquiries and their sequence on a link, where nothing else is
  done to it;
* `Link.askAgain_inquires` — asking for the width is such a sequence;
* `Link.askWidth_decides` — what it says of the answer, of the number of requests, and of what is
  read and written.
-/

namespace BrailleDisplay

/-! ## Inquiries -/

/-- What is seen of an attempt to learn the width. -/
structure Inquiry where
  /-- The request, and what came of sending it. -/
  attempt : Attempt
  /-- What the reads after it came to, in their order. -/
  heard : List Hearing

namespace Inquiry

/-- The frames that were read. -/
def found (inquiry : Inquiry) : List Frame :=
  inquiry.heard.flatMap Link.brought

/-- The first usable count among them. -/
def count (inquiry : Inquiry) : Option UInt8 :=
  countIn inquiry.found

/-- An inquiry is a round, told read by read. -/
def round (inquiry : Inquiry) : Round :=
  ⟨inquiry.attempt, inquiry.found⟩

end Inquiry

/-- What asking for the width comes to when this is what its inquiries heard. -/
structure Settles (fallback : UInt8) (inquiries : List Inquiry) (width : Width) : Prop where
  /-- There is a first inquiry, and a second exactly if the first heard no usable count. -/
  twice : ∃ first, inquiries.head? = some first
    ∧ inquiries.length = if first.count = none then 2 else 1
  /-- The width is reported exactly if some inquiry heard a usable count, and the first says it. -/
  reported : ∀ cells, width = .reported cells
    ↔ ∃ count, inquiries.findSome? Inquiry.count = some count ∧ cells = min count 40
  /-- It is assumed exactly if none did. -/
  assumed : ∀ cells, width = .assumed cells
    ↔ (∀ inquiry ∈ inquiries, inquiry.count = none) ∧ cells = fallback
  /-- From a fallback that displays can have, it is a width that displays can have. -/
  inRange : 1 ≤ fallback ∧ fallback ≤ 40 → 1 ≤ width.cells ∧ width.cells ≤ 40

/-- Two attempts settle the width. -/
theorem Asked.settles {fallback : UInt8} {inquiries : List Inquiry} {width : Width}
    (asked : Asked fallback 2 (inquiries.map Inquiry.round) width) :
    Settles fallback inquiries width where
  twice := by
    obtain ⟨first, head, length⟩ := asked.length_eq
    rw [List.head?_map, Option.map_eq_some_iff] at head
    obtain ⟨inquiry, head, rfl⟩ := head
    rw [List.length_map] at length
    exact ⟨inquiry, head, length⟩
  reported cells := by
    rw [asked.width_eq, List.findSome?_map, Width.ofCount_eq_reported_iff]
    rfl
  assumed cells := by
    rw [asked.width_eq, List.findSome?_map, Width.ofCount_eq_assumed_iff,
      List.findSome?_eq_none_iff]
    rfl
  inRange := asked.cells_bounds

/-! ## Inquiries on a link -/

namespace Link

variable {χ σ : Type} {T : Transport χ σ} {fuel : Nat}

variable (T fuel) in
/-- An inquiry on a link: the request is sent once, and only if that succeeds a count is waited for,
for a second after that. -/
inductive Inquired : Link χ → World σ → Inquiry → Link χ → World σ → Prop
  | unsent {link link' : Link χ} {w w' : World σ} {bytes : List UInt8} {fault : ChannelFault}
      (requests : Attempt.AsksWidth ⟨bytes, .error fault⟩)
      (write : link.write T bytes w = (.error fault, link', w')) :
      Inquired link w ⟨⟨bytes, .error fault⟩, []⟩ link' w'
  | sent {link link₁ link' : Link χ} {w w₁ w' : World σ} {bytes : List UInt8}
      {heard : List Hearing} {answer : Except DisplayFault (Option UInt8)}
      (requests : Attempt.AsksWidth ⟨bytes, .ok ()⟩)
      (write : link.write T bytes w = (.ok (), link₁, w₁))
      (awaited : Awaited T fuel (w₁.now + 1000000) link₁ w₁ heard
        (.ended (answer, link', w'))) :
      Inquired link w ⟨⟨bytes, .ok ()⟩, heard⟩ link' w'

variable (T fuel) in
/-- Inquiries on a link, one after the other, and nothing besides. -/
inductive Inquiries : Link χ → World σ → List Inquiry → Link χ → World σ → Prop
  | done {link : Link χ} {w w' : World σ} (same : w'.plant = w.plant) : Inquiries link w [] link w'
  | next {link link₁ link' : Link χ} {w w₁ w₂ w' : World σ} {inquiry : Inquiry}
      {inquiries : List Inquiry} (first : Inquired T fuel link w inquiry link₁ w₁)
      (same : w₂.plant = w₁.plant) (later : Inquiries link₁ w₂ inquiries link' w') :
      Inquiries link w (inquiry :: inquiries) link' w'

variable (T fuel) in
/-- An attempt to learn the width is an inquiry, and its answer is the count that this heard. -/
theorem askOnce_inquires (link : Link χ) (w : World σ) :
    (link.askOnce T fuel w).Ends
      (fun (result, link', w') => ∃ inquiry, Inquired T fuel link w inquiry link' w'
        ∧ result.toOption.join = inquiry.count.map (min · 40))
      (fun _ => True) := by
  obtain ⟨bytes, requests⟩ := widthRequest.fits_encode (by decide) (by decide)
  unfold askOnce send
  rw [requests]
  dsimp only
  rcases write : link.write T bytes w with ⟨outcome, link₁, w₁⟩
  cases outcome with
  | error fault => exact ⟨⟨⟨bytes, .error fault⟩, []⟩, .unsent requests write, rfl⟩
  | ok _ =>
    obtain ⟨heard, awaited⟩ := awaitWidth_awaits T fuel (w₁.now + widthTimeout) fuel link₁ w₁
    have told := awaited.told
    show (link₁.awaitWidth T fuel (w₁.now + widthTimeout) fuel w₁).Ends _ _
    generalize link₁.awaitWidth T fuel (w₁.now + widthTimeout) fuel w₁ = run at awaited told ⊢
    cases run with
    | ended answer => exact ⟨⟨⟨bytes, .ok ()⟩, heard⟩, .sent requests write awaited, told⟩
    | cutShort w' => trivial

theorem Inquired.requests {link link' : Link χ} {w w' : World σ} {inquiry : Inquiry}
    (inquired : Inquired T fuel link w inquiry link' w') :
    inquiry.attempt.AsksWidth := by
  cases inquired with
  | unsent requests _ => exact requests
  | sent requests _ _ => exact requests

variable (T fuel) in
/-- **Asking for the width is a sequence of inquiries**, made until one hears a usable count. -/
theorem askAgain_inquires (fallback : UInt8) (remaining : Nat) (link : Link χ) (w : World σ) :
    (link.askAgain T fuel fallback remaining w).Ends
      (fun (width, link', w') => ∃ inquiries, Inquiries T fuel link w inquiries link' w'
        ∧ Asked fallback remaining (inquiries.map Inquiry.round) width)
      (fun _ => True) := by
  induction remaining generalizing link w with
  | zero => exact ⟨[], .done rfl, .silent⟩
  | succ remaining ih =>
    unfold askAgain
    refine (askOnce_inquires T fuel link w).bind ?_
    rintro ⟨outcome, link₁, w₁⟩ ⟨inquiry, inquired, told⟩
    -- silence and a failure are both followed by the next inquiry, if any remains
    have onward (w₂ : World σ) (same : w₂.plant = w₁.plant) (nothing : inquiry.count = none) :
        (link₁.askAgain T fuel fallback remaining w₂).Ends
          (fun (width, link', w') => ∃ inquiries, Inquiries T fuel link w inquiries link' w'
            ∧ Asked fallback (remaining + 1) (inquiries.map Inquiry.round) width)
          (fun _ => True) := by
      refine (ih link₁ w₂).imp ?_ fun _ => id
      rintro ⟨width, link', w'⟩ ⟨inquiries, later, asked⟩
      exact ⟨inquiry :: inquiries, .next inquired same later,
        .again inquired.requests nothing asked⟩
    rcases outcome with fault | _ | cells
    · exact onward _ rfl (Option.map_eq_none_iff.mp told.symm)
    · exact onward _ rfl (Option.map_eq_none_iff.mp told.symm)
    · obtain ⟨count, heard, rfl⟩ := Option.map_eq_some_iff.mp told.symm
      exact ⟨[inquiry], .next inquired rfl (.done rfl), .told inquired.requests heard⟩

/-! ## What is read and sent -/

variable {journal : σ → List Entry} {number : χ → Nat}

/-- An inquiry on an open link is one attempt to write, that of its request. -/
theorem Inquired.exchange (enters : T.Enters journal number) {link link' : Link χ}
    {w w' : World σ} {inquiry : Inquiry} (inquired : Inquired T fuel link w inquiry link' w')
    (isOpen : link.closed = false) :
    Exchange journal number link w inquiry.found [inquiry.attempt] link' w' := by
  cases inquired with
  | unsent _ write => exact .ofWrite enters isOpen write
  | sent _ write awaited =>
    have asked := Exchange.ofWrite enters isOpen write
    exact asked.trans (awaited.exchange enters asked.staysOpen)

/-- Inquiries on an open link attempt to write each request once, and nothing else. -/
theorem Inquiries.exchange (enters : T.Enters journal number) {link link' : Link χ}
    {w w' : World σ} {inquiries : List Inquiry}
    (run : Inquiries T fuel link w inquiries link' w') (isOpen : link.closed = false) :
    Exchange journal number link w (inquiries.flatMap Inquiry.found)
      (inquiries.map Inquiry.attempt) link' w' := by
  induction run with
  | done same => exact .idle isOpen (by rw [same])
  | next first same _ ih =>
    have talk := first.exchange enters isOpen
    exact talk.trans ((ih talk.staysOpen).afterIdle (by rw [same]))

/-- A closed link sends no request and touches no channel. -/
theorem Inquired.of_closed {link link' : Link χ} {w w' : World σ} {inquiry : Inquiry}
    (inquired : Inquired T fuel link w inquiry link' w') (closed : link.closed = true) :
    inquiry.attempt.result = .error .closed ∧ link' = link ∧ w' = w := by
  cases inquired with
  | unsent _ write =>
    rw [write_closed closed] at write
    cases write
    exact ⟨rfl, rfl, rfl⟩
  | sent _ write _ =>
    rw [write_closed closed] at write
    cases write

theorem Inquiries.of_closed {link link' : Link χ} {w w' : World σ} {inquiries : List Inquiry}
    (run : Inquiries T fuel link w inquiries link' w') (closed : link.closed = true) :
    (∀ inquiry ∈ inquiries, inquiry.attempt.result = .error .closed) ∧ link' = link
      ∧ w'.plant = w.plant := by
  induction run with
  | done same => exact ⟨fun _ none => (nomatch none), rfl, same⟩
  | next first same _ ih =>
    obtain ⟨refused, rfl, rfl⟩ := first.of_closed closed
    obtain ⟨all, rfl, later⟩ := ih closed
    exact ⟨List.forall_mem_cons.mpr ⟨refused, all⟩, rfl, later.trans same⟩

/-- **The first usable count of the first inquiry that hears one** is the width, limited to the
widest display, and the fallback is the width exactly if none hears one: whatever comes in and
whenever, whatever fails, and whatever state the link is in.

The inquiries are all that is done to the link.  On an open link they recognise their frames among
the bytes that come, and attempt to write their requests and nothing else; on a closed one nothing
reaches the channel.  They are cut short only when at least as many bytes have come or were pending
as a wait may go round. -/
theorem askWidth_decides (T : Transport χ σ) (fuel : Nat) (fallback : UInt8)
    (link : Link (Numbered χ)) (w : World (Journaled σ)) :
    (link.askWidth T.journaled fuel fallback w).Ends
      (fun (width, link', w') => ∃ inquiries,
        Inquiries T.journaled fuel link w inquiries link' w' ∧ Settles fallback inquiries width
        ∧ (link.closed = false →
            Exchange Journaled.journal Numbered.number link w (inquiries.flatMap Inquiry.found)
              (inquiries.map Inquiry.attempt) link' w')
        ∧ (link.closed = true →
            (∀ inquiry ∈ inquiries, inquiry.attempt.result = .error .closed) ∧ link' = link
              ∧ w'.plant = w.plant))
      (fun w' => Outlasted Journaled.journal Numbered.number fuel link w w') := by
  have enters := T.enters_journaled
  refine ((askAgain_inquires T.journaled fuel fallback widthAttempts link w).and
    (askWidth_lasts enters fuel fallback link w)).imp ?_ fun _ => And.right
  intro (width, link', w') ⟨⟨inquiries, run, asked⟩, _⟩
  exact ⟨inquiries, run, asked.settles, run.exchange enters, run.of_closed⟩

end Link

end BrailleDisplay
