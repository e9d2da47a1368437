import BrailleDisplay.Frame.Host

/-!
# Writing and reading frames to the display

`HostFrame.encode` and `HostFrame.parse` are inverse to each other, in both directions.

* `Reader.Past` — which bytes lie between two places of a buffer;
* one lemma for each reading operation: it succeeds exactly when the bytes it wants come next
  (`byte_eq_ok_iff`, `word_eq_ok_iff`, `take_eq_ok_iff`, `marker_eq_ok_iff`, `markers_eq_ok_iff`,
  `dataSection_eq_ok_iff`);
* `HostFrame.encode_eq_ok_iff` — the layout of a written frame;
* `HostFrame.parse_eq_ok_iff` — reading succeeds exactly on that layout;
* `HostFrame.parse_iff_encode` — both together, with the one way writing can fail.
-/

namespace BrailleDisplay

/-! ## Answers of composed readings -/

section Answers

variable {ε α β : Type}

theorem bind_eq_ok_iff {x : Except ε α} {next : α → Except ε β} {b : β} :
    x >>= next = .ok b ↔ ∃ a, x = .ok a ∧ next a = .ok b := by
  cases x with
  | ok a => exact ⟨fun h => ⟨a, rfl, h⟩, fun ⟨_, same, h⟩ => Except.ok.inj same ▸ h⟩
  | error e => exact ⟨fun h => (nomatch h), fun ⟨_, same, _⟩ => (nomatch same)⟩

theorem throw_bind (e : ε) (next : α → Except ε β) :
    (throw e : Except ε α) >>= next = throw e := rfl

theorem refusal_eq_ok_iff {p : Prop} [Decidable p] {e : ε} {x : Except ε α} {a : α} :
    (if p then throw e else x) = .ok a ↔ ¬p ∧ x = .ok a := by
  split
  · rename_i holds
    exact iff_of_false (fun h => (nomatch h)) (fun h => h.1 holds)
  · rename_i fails
    exact (and_iff_right fails).symm

theorem pure_eq_ok_iff {a b : α} : (pure a : Except ε α) = .ok b ↔ a = b :=
  Except.ok.injEq a b ▸ Iff.rfl

end Answers

/-! ## Reading operations -/

namespace Reader

/-- Exactly these bytes lie between two places of a buffer. -/
def Past (c : Reader) (bytes : List UInt8) (next : Reader) : Prop :=
  c.rest = bytes ++ next.rest ∧ next.offset = c.offset + bytes.length

theorem past_append_iff {c next : Reader} {front back : List UInt8} :
    c.Past (front ++ back) next ↔ ∃ mid, c.Past front mid ∧ mid.Past back next := by
  constructor
  · intro h
    obtain ⟨rest, offset⟩ := h
    refine ⟨⟨c.offset + front.length, back ++ next.rest⟩, ⟨?_, rfl⟩, rfl, ?_⟩
    · rw [rest, List.append_assoc]
    · rw [offset, List.length_append, Nat.add_assoc]
  · intro h
    obtain ⟨mid, ⟨rest₁, offset₁⟩, rest₂, offset₂⟩ := h
    refine ⟨?_, ?_⟩
    · rw [rest₁, rest₂, List.append_assoc]
    · rw [offset₂, offset₁, List.length_append, Nat.add_assoc]

theorem Past.append {c mid next : Reader} {front back : List UInt8} (first : c.Past front mid)
    (second : mid.Past back next) : c.Past (front ++ back) next :=
  past_append_iff.mpr ⟨mid, first, second⟩

/-- From the start of a buffer to its end lie all of its bytes. -/
theorem past_whole_iff {bytes all : List UInt8} {next : Reader} :
    (Past ⟨0, bytes⟩ all next ∧ next.rest = []) ↔ bytes = all ∧ next = ⟨all.length, []⟩ := by
  obtain ⟨offset, rest⟩ := next
  constructor
  · intro h
    obtain ⟨⟨same, size⟩, rfl⟩ := h
    obtain rfl : bytes = all ++ [] := same
    obtain rfl : offset = 0 + all.length := size
    exact ⟨List.append_nil all, by rw [Nat.zero_add]⟩
  · intro h
    obtain ⟨rfl, same⟩ := h
    cases same
    exact ⟨⟨(List.append_nil bytes).symm, (Nat.zero_add _).symm⟩, rfl⟩

theorem byte_eq_ok_iff {c next : Reader} {b : UInt8} :
    c.byte = .ok (b, next) ↔ c.Past [b] next := by
  obtain ⟨offset, rest⟩ := c
  obtain ⟨offset', rest'⟩ := next
  cases rest with
  | nil => exact iff_of_false (fun h => (nomatch h)) (fun h => (nomatch h.1))
  | cons first rest =>
    simp only [byte, Past, Except.ok.injEq, Prod.mk.injEq, Reader.mk.injEq, List.cons_append,
      List.nil_append, List.cons.injEq, List.length_singleton]
    constructor
    · intro h
      obtain ⟨rfl, rfl, rfl⟩ := h
      exact ⟨⟨rfl, rfl⟩, rfl⟩
    · intro h
      obtain ⟨⟨rfl, rfl⟩, rfl⟩ := h
      exact ⟨rfl, rfl, rfl⟩

theorem word_eq_ok_iff {c next : Reader} {n : Nat} :
    c.word = .ok (n, next) ↔
      ∃ low high : UInt8, low.toNat + 256 * high.toNat = n ∧ c.Past [low, high] next := by
  obtain ⟨offset, rest⟩ := c
  obtain ⟨offset', rest'⟩ := next
  constructor
  · intro read
    match rest, read with
    | low :: high :: rest, read =>
      obtain ⟨value, rfl, rfl⟩ : low.toNat + 256 * high.toNat = n ∧ offset + 2 = offset'
          ∧ rest = rest' := by
        simpa only [word, Except.ok.injEq, Prod.mk.injEq, Reader.mk.injEq] using read
      exact ⟨low, high, value, rfl, rfl⟩
  · intro h
    obtain ⟨low, high, rfl, same, rfl⟩ := h
    obtain rfl : rest = low :: high :: rest' := same
    rfl

theorem take_eq_ok_iff {c next : Reader} {n : Nat} {bytes : List UInt8} :
    c.take n = .ok (bytes, next) ↔ bytes.length = n ∧ c.Past bytes next := by
  obtain ⟨offset, rest⟩ := c
  obtain ⟨offset', rest'⟩ := next
  by_cases short : rest.length < n
  · have refused : take n ⟨offset, rest⟩
        = .error (.truncated (offset + n) (offset + rest.length)) := if_pos short
    rw [refused]
    refine iff_of_false (fun h => (nomatch h)) ?_
    intro h
    obtain ⟨rfl, same, -⟩ := h
    have sizes : rest.length = bytes.length + rest'.length := by
      rw [← List.length_append]
      exact congrArg List.length same
    omega
  · have answered : take n ⟨offset, rest⟩ = .ok (rest.take n, ⟨offset + n, rest.drop n⟩) :=
      if_neg short
    rw [answered]
    simp only [Except.ok.injEq, Prod.mk.injEq, Reader.mk.injEq]
    constructor
    · intro h
      obtain ⟨rfl, rfl, rfl⟩ := h
      have size : (rest.take n).length = n := by rw [List.length_take]; omega
      exact ⟨size, (List.take_append_drop n rest).symm, by rw [size]⟩
    · intro h
      obtain ⟨rfl, same, rfl⟩ := h
      obtain rfl : rest = bytes ++ rest' := same
      exact ⟨List.take_left, rfl, List.drop_left⟩

theorem marker_eq_ok_iff {c next : Reader} {expected : UInt8} :
    c.marker expected = .ok next ↔ c.Past [expected] next := by
  simp only [marker, bind_eq_ok_iff, Prod.exists, byte_eq_ok_iff]
  constructor
  · intro h
    obtain ⟨got, mid, past, checked⟩ := h
    split at checked
    · rename_i right
      cases checked
      exact right ▸ past
    · cases checked
  · intro past
    exact ⟨expected, next, past, if_pos rfl⟩

theorem markers_eq_ok_iff {c next : Reader} {expected : UInt8} {n : Nat} :
    c.markers expected n = .ok next ↔ c.Past (List.replicate n expected) next := by
  induction n generalizing c with
  | zero =>
    obtain ⟨offset, rest⟩ := c
    obtain ⟨offset', rest'⟩ := next
    simp only [markers, Past, Except.ok.injEq, Reader.mk.injEq, List.replicate_zero,
      List.nil_append, List.length_nil, Nat.add_zero]
    exact and_comm.trans (and_congr_right fun _ => eq_comm)
  | succ n ih =>
    simp only [markers, bind_eq_ok_iff, marker_eq_ok_iff, ih]
    show _ ↔ c.Past ([expected] ++ List.replicate n expected) next
    exact past_append_iff.symm

end Reader

/-! ## Section lengths -/

theorem sectionLength?_eq_ok_iff {data size : List UInt8} :
    sectionLength? data = .ok size ↔
      ∃ low high : UInt8, low.toNat + 256 * high.toNat = data.length ∧ size = [low, high] := by
  unfold sectionLength?
  dsimp only
  split
  · rename_i fits
    simp only [Except.ok.injEq]
    constructor
    · intro same
      subst same
      refine ⟨_, _, ?_, rfl⟩
      rw [UInt8.toNat_ofNat_of_lt' (Nat.mod_lt _ (by decide)),
        UInt8.toNat_ofNat_of_lt' (Nat.div_lt_of_lt_mul fits)]
      exact Nat.mod_add_div _ _
    · intro h
      obtain ⟨low, high, value, rfl⟩ := h
      have bound := low.toNat_lt
      have rest : data.length % 256 = low.toNat := by omega
      have quotient : data.length / 256 = high.toNat := by omega
      rw [rest, quotient, UInt8.ofNat_toNat, UInt8.ofNat_toNat]
  · rename_i long
    refine iff_of_false (fun h => (nomatch h)) ?_
    intro h
    obtain ⟨low, high, value, -⟩ := h
    have lowBound := low.toNat_lt
    have highBound := high.toNat_lt
    omega

theorem sectionLength?_eq_error_iff {data : List UInt8} {fault : FrameFault} :
    sectionLength? data = .error fault ↔
      65535 < data.length ∧ fault = .payloadTooLarge data.length := by
  unfold sectionLength?
  dsimp only
  split
  · rename_i fits
    exact iff_of_false (fun h => (nomatch h)) (fun h => by omega)
  · rename_i long
    rw [Except.error.injEq, eq_comm]
    exact (and_iff_right (by omega)).symm

namespace Reader

/-- A data section is read exactly when its markers, its length and as many bytes come next. -/
theorem dataSection_eq_ok_iff {c next : Reader} {start stop : UInt8} {data : List UInt8} :
    c.dataSection start stop = .ok (data, next) ↔
      ∃ size, sectionLength? data = .ok size
        ∧ c.Past ([start] ++ (size ++ (data ++ [stop]))) next := by
  simp only [dataSection, bind_eq_ok_iff, Prod.exists, marker_eq_ok_iff, word_eq_ok_iff,
    take_eq_ok_iff, pure_eq_ok_iff, past_append_iff, sectionLength?_eq_ok_iff]
  constructor
  · intro h
    obtain ⟨c₁, start, _, c₂, ⟨low, high, value, size⟩, _, c₃, ⟨length, past⟩, c₄, stop, same⟩ := h
    cases same
    exact ⟨[low, high], ⟨low, high, value.trans length.symm, rfl⟩, c₁, start, c₂, size, c₃, past,
      stop⟩
  · intro h
    obtain ⟨_, ⟨low, high, value, rfl⟩, c₁, start, c₂, size, c₃, past, stop⟩ := h
    exact ⟨c₁, start, _, c₂, ⟨low, high, rfl, size⟩, data, c₃, ⟨value.symm, past⟩, next, stop, rfl⟩

end Reader

namespace HostFrame

/-! ## Whole frames -/

/-- A written frame: the part before the checksum, the sum of all else, and the closing pair. -/
theorem encode_eq_ok_iff {f : HostFrame} {bytes : List UInt8} :
    f.encode = .ok bytes ↔
      ∃ size₁ size₂, sectionLength? f.data1 = .ok size₁ ∧ sectionLength? f.data2 = .ok size₂
        ∧ bytes = f.beforeCheck size₁ size₂
          ++ [checksum (f.beforeCheck size₁ size₂ ++ [Marker.closing, Marker.closing])]
          ++ [Marker.closing, Marker.closing] := by
  simp only [encode, bind_eq_ok_iff, pure_eq_ok_iff]
  constructor
  · intro h
    obtain ⟨size₁, h₁, size₂, h₂, rfl⟩ := h
    exact ⟨size₁, size₂, h₁, h₂, rfl⟩
  · intro h
    obtain ⟨size₁, size₂, h₁, h₂, rfl⟩ := h
    exact ⟨size₁, h₁, size₂, h₂, rfl⟩

/-- A written frame begins with its command, and has its sections and the bytes around them. -/
theorem shape_of_encode {f : HostFrame} {bytes : List UInt8} (written : f.encode = .ok bytes) :
    bytes.head? = some f.command
      ∧ bytes.length = f.data1.length + f.data2.length + hostOverhead := by
  obtain ⟨size₁, size₂, h₁, h₂, rfl⟩ := encode_eq_ok_iff.mp written
  obtain ⟨low₁, high₁, -, rfl⟩ := sectionLength?_eq_ok_iff.mp h₁
  obtain ⟨low₂, high₂, -, rfl⟩ := sectionLength?_eq_ok_iff.mp h₂
  refine ⟨rfl, ?_⟩
  simp [beforeCheck, hostOverhead, zeroRun]
  omega

/-- Writing fails exactly on a section that its length field cannot count, the first such one. -/
theorem encode_eq_error_iff {f : HostFrame} {fault : FrameFault} :
    f.encode = .error fault ↔
      (65535 < f.data1.length ∧ fault = .payloadTooLarge f.data1.length)
        ∨ (f.data1.length ≤ 65535 ∧ 65535 < f.data2.length
          ∧ fault = .payloadTooLarge f.data2.length) := by
  rw [← sectionLength?_eq_error_iff, ← sectionLength?_eq_error_iff]
  cases h₁ : sectionLength? f.data1 with
  | error e =>
    have long := (sectionLength?_eq_error_iff.mp h₁).1
    have failed : f.encode = .error e := by
      rw [encode, h₁]
      rfl
    rw [failed]
    exact ⟨.inl, fun h => h.elim id fun ⟨fits, _⟩ => by omega⟩
  | ok size₁ =>
    have fits : f.data1.length ≤ 65535 := by
      refine Nat.le_of_not_lt fun long => ?_
      have failed := sectionLength?_eq_error_iff.mpr ⟨long, rfl⟩
      rw [h₁] at failed
      cases failed
    have rest : f.encode = .error fault ↔ sectionLength? f.data2 = .error fault := by
      cases h₂ : sectionLength? f.data2 with
      | error e =>
        rw [encode, h₁, h₂]
        exact Iff.rfl
      | ok size₂ =>
        rw [encode, h₁, h₂]
        exact iff_of_false (fun h => (nomatch h)) (fun h => (nomatch h))
    rw [rest]
    exact ⟨fun h => .inr ⟨fits, h⟩, fun h => h.elim (fun h => (nomatch h)) And.right⟩

/-- The order in which a frame is read, and the order in which it is laid out. -/
theorem layout_eq (f : HostFrame) (size₁ size₂ : List UInt8) (carried : UInt8) :
    f.beforeCheck size₁ size₂ ++ [carried] ++ [Marker.closing, Marker.closing]
      = [f.command] ++ ([f.command] ++ ([f.mode]
        ++ (([Marker.section1Lead] ++ (size₁ ++ (f.data1 ++ [Marker.section1Tail])))
        ++ (([Marker.section2Lead] ++ (size₂ ++ (f.data2 ++ [Marker.section2Tail])))
        ++ (List.replicate zeroRun 0 ++ ([carried] ++ List.replicate 2 Marker.closing)))))) := by
  simp only [beforeCheck, List.append_assoc, List.cons_append, List.nil_append]
  rfl

/-- The sum of a whole frame, less the checksum it carries, is the sum of all its other bytes. -/
theorem checksum_layout (f : HostFrame) (size₁ size₂ : List UInt8) (carried : UInt8) :
    checksum (f.beforeCheck size₁ size₂ ++ [carried] ++ [Marker.closing, Marker.closing]) - carried
      = checksum (f.beforeCheck size₁ size₂ ++ [Marker.closing, Marker.closing]) := by
  rw [List.append_assoc, List.singleton_append, checksum_sub_slot]

/-- **Reading succeeds exactly on the layout of a written frame.** -/
theorem parse_eq_ok_iff {bytes : List UInt8} {f : HostFrame} :
    parse bytes = .ok f ↔
      ∃ size₁ size₂, sectionLength? f.data1 = .ok size₁ ∧ sectionLength? f.data2 = .ok size₂
        ∧ bytes = f.beforeCheck size₁ size₂
          ++ [checksum (f.beforeCheck size₁ size₂ ++ [Marker.closing, Marker.closing])]
          ++ [Marker.closing, Marker.closing] := by
  simp only [parse, bind_eq_ok_iff, throw_bind, refusal_eq_ok_iff, Prod.exists, pure_eq_ok_iff,
    Reader.byte_eq_ok_iff, Reader.dataSection_eq_ok_iff, Reader.markers_eq_ok_iff,
    Decidable.not_not]
  constructor
  · intro h
    obtain ⟨command, c₁, h₁, again, c₂, h₂, same, mode, c₃, h₃, data1, c₄, ⟨size₁, hs₁, h₄⟩,
      data2, c₅, ⟨size₂, hs₂, h₅⟩, c₆, h₆, carried, c₇, h₇, c₈, h₈, ended, sum, rfl⟩ := h
    subst same
    have tail := h₅.append (h₆.append (h₇.append h₈))
    have read := h₁.append (h₂.append (h₃.append (h₄.append tail)))
    obtain ⟨whole, -⟩ := Reader.past_whole_iff.mp ⟨read, ended⟩
    rw [← layout_eq ⟨command, mode, data1, data2⟩ size₁ size₂ carried] at whole
    rw [whole, checksum_layout] at sum
    refine ⟨size₁, size₂, hs₁, hs₂, ?_⟩
    rw [sum]
    exact whole
  · intro h
    obtain ⟨size₁, size₂, hs₁, hs₂, whole⟩ := h
    have sum := checksum_layout f size₁ size₂
      (checksum (f.beforeCheck size₁ size₂ ++ [Marker.closing, Marker.closing]))
    rw [← whole] at sum
    rw [layout_eq] at whole
    obtain ⟨read, ended⟩ := Reader.past_whole_iff.mpr ⟨whole, rfl⟩
    obtain ⟨c₁, h₁, read⟩ := Reader.past_append_iff.mp read
    obtain ⟨c₂, h₂, read⟩ := Reader.past_append_iff.mp read
    obtain ⟨c₃, h₃, read⟩ := Reader.past_append_iff.mp read
    obtain ⟨c₄, h₄, read⟩ := Reader.past_append_iff.mp read
    obtain ⟨c₅, h₅, read⟩ := Reader.past_append_iff.mp read
    obtain ⟨c₆, h₆, read⟩ := Reader.past_append_iff.mp read
    obtain ⟨c₇, h₇, read⟩ := Reader.past_append_iff.mp read
    exact ⟨_, c₁, h₁, _, c₂, h₂, rfl, _, c₃, h₃, _, c₄, ⟨size₁, hs₁, h₄⟩, _, c₅, ⟨size₂, hs₂, h₅⟩,
      c₆, h₆, _, c₇, h₇, _, read, ended, sum, rfl⟩

/-- **Reading and writing are inverse to each other**: a buffer reads as a frame exactly when that
frame is written as it, and writing fails exactly on a section longer than its length field can
count, naming the length of the first such section. -/
theorem parse_iff_encode (bytes : List UInt8) (f : HostFrame) :
    (parse bytes = .ok f ↔ f.encode = .ok bytes)
      ∧ ∀ fault, f.encode = .error fault ↔
          (65535 < f.data1.length ∧ fault = .payloadTooLarge f.data1.length)
            ∨ (f.data1.length ≤ 65535 ∧ 65535 < f.data2.length
              ∧ fault = .payloadTooLarge f.data2.length) :=
  ⟨parse_eq_ok_iff.trans encode_eq_ok_iff.symm, fun _ => encode_eq_error_iff⟩

end HostFrame

end BrailleDisplay
