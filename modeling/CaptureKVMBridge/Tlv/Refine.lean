import CaptureKVMBridge.Tlv.Framer

/-!
# `tlv_stream.c` refines the framer

`Holds s held` relates a `tlv_stream_t` to the bytes it holds: the parser
state fixes how many header bytes there are, and the buffer, the type and the
two counters must agree with them. It is the representation invariant of the
struct and the refinement relation at once; fields that a state does not read
(an old `type` after a reset, the buffer behind its valid part) are not mentioned.

`tlvStreamFeedByte_refines` shows that one byte takes related states to
related states and makes a callback call exactly when the framer delivers.
`tlvStreamFeedAll_refines` is the consequence used everywhere above: the calls
made by any run of `tlv_stream_feed` are the framer's deliveries.
-/

namespace CaptureKVMBridge.Tlv

open CaptureKVMBridge.Machine

variable {cfg : Config} {κ : Type}

/-- The stream `s` has read exactly `held` since the sync word it works on. -/
inductive Holds (s : TlvStream cfg κ) : List UInt8 → Prop
  | sync0 (hst : s.state = tlvStateSync0) : Holds s []
  | sync1 (hst : s.state = tlvStateSync1) : Holds s [protocolTlvSync0]
  | type (hst : s.state = tlvStateType) : Holds s [protocolTlvSync0, protocolTlvSync1]
  | lenMsb (hst : s.state = tlvStateLenMsb) (ht : protocolTlvTypeIsValid s.type = true)
      (hfr : s.frame.toList.take 1 = [s.type]) :
      Holds s [protocolTlvSync0, protocolTlvSync1, s.type]
  | lenLsb {m : UInt8} (hst : s.state = tlvStateLenLsb)
      (ht : protocolTlvTypeIsValid s.type = true) (hexp : s.expected = m.toUInt16 <<< 8)
      (hfr : s.frame.toList.take 2 = [s.type, m]) :
      Holds s [protocolTlvSync0, protocolTlvSync1, s.type, m]
  | payload {m l : UInt8} {p : List UInt8} (hst : s.state = tlvStatePayload)
      (ht : protocolTlvTypeIsValid s.type = true) (hexp : s.expected = be16 m l)
      (hsane : LengthSane cfg s.type s.expected) (hrec : s.received.toNat = p.length)
      (hlt : s.received < s.expected)
      (hfr : s.frame.toList.take (3 + s.received.toNat) = s.type :: m :: l :: p) :
      Holds s (protocolTlvSync0 :: protocolTlvSync1 :: s.type :: m :: l :: p)

/-- What a stream holds, a framer can hold. -/
theorem Holds.held {s : TlvStream cfg κ} {held : List UInt8} (h : Holds s held) :
    Held cfg held := by
  cases h with
  | sync0 => trivial
  | sync1 => exact rfl
  | type => exact ⟨rfl, rfl⟩
  | lenMsb _ ht => exact ⟨rfl, rfl, ht⟩
  | lenLsb _ ht => exact ⟨rfl, rfl, ht⟩
  | payload _ ht hexp hsane hrec hlt =>
    refine ⟨rfl, rfl, ht, hexp ▸ hsane, ?_⟩
    rw [← hexp, ← hrec]
    exact UInt16.lt_iff_toNat_lt.mp hlt

/-! ## The buffer -/

/-- Setting the element after a prefix extends the prefix. -/
theorem take_succ_set {α : Type} {l : List α} {i : Nat} (h : i < l.length) (b : α) :
    (l.set i b).take (i + 1) = l.take i ++ [b] := by
  rw [List.take_add_one, List.getElem?_set_self h, Option.toList_some, List.take_set,
    List.set_eq_of_length_le (by rw [List.length_take]; omega)]

/-- A write behind the valid part of the buffer appends to it. -/
theorem write_take (s : TlvStream cfg κ) {i : Nat} (byte : UInt8)
    (hi : i < cfg.appTlvMaxPayload + 3) :
    (s.write i byte).frame.toList.take (i + 1) = s.frame.toList.take i ++ [byte] := by
  unfold TlvStream.write
  rw [Vector.toList_setIfInBounds, take_succ_set (by rw [Vector.length_toList]; exact hi)]

/-! ## One byte, state by state -/

section Branches

variable {s : TlvStream cfg κ} (byte : UInt8)

theorem feedByte_sync0 (h : s.state = tlvStateSync0) :
    tlvStreamFeedByte s byte
      = (if byte = protocolTlvSync0 then { s with state := tlvStateSync1 } else s, none) := by
  unfold tlvStreamFeedByte
  rw [if_pos h]

theorem feedByte_sync1 (h : s.state = tlvStateSync1) :
    tlvStreamFeedByte s byte
      = (if byte = protocolTlvSync1 then { s with state := tlvStateType }
          else if byte = protocolTlvSync0 then { s with state := tlvStateSync1 }
          else { s with state := tlvStateSync0 }, none) := by
  unfold tlvStreamFeedByte
  rw [switch_sync1 h]

theorem feedByte_type (h : s.state = tlvStateType) :
    tlvStreamFeedByte s byte =
      if protocolTlvTypeIsValid byte = false then
        (if byte = protocolTlvSync0 then
            { s with invalidTypeCounter := s.invalidTypeCounter + 1, state := tlvStateSync1 }
          else { s with invalidTypeCounter := s.invalidTypeCounter + 1, state := tlvStateSync0 },
          none)
      else
        ({ ({ s with invalidTypeCounter := 0, type := byte } : TlvStream cfg κ).write 0 byte with
            state := tlvStateLenMsb }, none) := by
  unfold tlvStreamFeedByte
  rw [switch_type h]

theorem feedByte_lenMsb (h : s.state = tlvStateLenMsb) :
    tlvStreamFeedByte s byte =
      ({ ({ s with expected := byte.toUInt16 <<< 8 } : TlvStream cfg κ).write 1 byte with
          state := tlvStateLenLsb }, none) := by
  unfold tlvStreamFeedByte
  rw [switch_lenMsb h]

/-- A rejected length resets the stream. -/
theorem feedByte_lenLsb_reject (h : s.state = tlvStateLenLsb)
    (hbad : ¬LengthSane cfg s.type (s.expected ||| byte.toUInt16)) :
    (tlvStreamFeedByte s byte).2 = none ∧
    (tlvStreamFeedByte s byte).1.state = tlvStateSync0 ∧
    (tlvStreamFeedByte s byte).1.callback = s.callback ∧
    (tlvStreamFeedByte s byte).1.source = s.source := by
  unfold tlvStreamFeedByte
  rw [switch_lenLsb h]
  dsimp only [TlvStream.write]
  cases hres : tlvLengthIsSane cfg s.type (s.expected ||| byte.toUInt16) with
  | error _ => exact ⟨rfl, rfl, rfl, rfl⟩
  | ok u => exact absurd hres hbad

/-- An accepted length opens the payload. -/
theorem feedByte_lenLsb_accept (h : s.state = tlvStateLenLsb)
    (hok : LengthSane cfg s.type (s.expected ||| byte.toUInt16)) :
    tlvStreamFeedByte s byte =
      ({ ({ s with expected := s.expected ||| byte.toUInt16 } : TlvStream cfg κ).write 2 byte with
          invalidLengthCounter := 0, received := 0, state := tlvStatePayload }, none) := by
  have hne : s.expected ||| byte.toUInt16 ≠ 0 := fun h0 => by
    have hpos := hok.pos
    rw [h0] at hpos
    exact absurd hpos (by decide)
  unfold tlvStreamFeedByte
  rw [switch_lenLsb h]
  dsimp only [TlvStream.write]
  rw [show tlvLengthIsSane cfg s.type (s.expected ||| byte.toUInt16) = .ok () from hok]
  dsimp only
  rw [if_neg hne]

/-- A byte before the last one is stored. -/
theorem feedByte_payload_more (h : s.state = tlvStatePayload)
    (hlt : s.received + 1 < s.expected) :
    tlvStreamFeedByte s byte =
      ({ s.write (3 + s.received.toNat) byte with received := s.received + 1 }, none) := by
  unfold tlvStreamFeedByte
  rw [switch_payload h]
  exact if_neg (UInt16.not_le.mpr hlt)

/-- The last byte is stored, the frame is handed over and the stream is reset. -/
theorem feedByte_payload_last (h : s.state = tlvStatePayload)
    (hge : s.expected ≤ s.received + 1) :
    tlvStreamFeedByte s byte =
      (tlvStreamReset { s.write (3 + s.received.toNat) byte with received := s.received + 1 },
        (s.write (3 + s.received.toNat) byte).call (3 + s.expected.toNat)) := by
  unfold tlvStreamFeedByte
  rw [switch_payload h]
  exact if_pos hge

end Branches

/-! ## The refinement -/

/-- A framer whose deliveries are calls of `cb` for `src`. -/
def framerCalls (cfg : Config) (cb : κ) (src : AppInputSource) (held : List UInt8) (b : UInt8) :
    List UInt8 × Option (CallbackCall κ) :=
  ((framerStep cfg held b).1,
    (framerStep cfg held b).2.map fun f => { callback := cb, source := src, frame := f })

/-- The stream holds `held` and belongs to the callback and the source. -/
def Refines (cb : κ) (src : AppInputSource) (s : TlvStream cfg κ) (held : List UInt8) : Prop :=
  Holds s held ∧ s.callback = some cb ∧ s.source = src

/-- One byte from related states: the same output, and related states again. -/
def StepRefines (cb : κ) (src : AppInputSource) (s : TlvStream cfg κ) (held : List UInt8)
    (b : UInt8) : Prop :=
  (tlvStreamFeedByte s b).2 = (framerCalls cfg cb src held b).2 ∧
    Refines cb src (tlvStreamFeedByte s b).1 (framerCalls cfg cb src held b).1

section States

variable {cb : κ} {src : AppInputSource} {s : TlvStream cfg κ} (hcb : s.callback = some cb)
  (hsrc : s.source = src) (b : UInt8)
include hcb hsrc

theorem refines_sync0 (hst : s.state = tlvStateSync0) : StepRefines cb src s [] b := by
  unfold StepRefines
  rw [feedByte_sync0 b hst]
  refine ⟨rfl, ?_, ?_, ?_⟩
  · by_cases hb : b = protocolTlvSync0
    · simp only [framerCalls, framerStep, if_pos hb]
      rw [hb]
      exact .sync1 rfl
    · simp only [framerCalls, framerStep, if_neg hb]
      exact .sync0 hst
  · split <;> exact hcb
  · split <;> exact hsrc

theorem refines_sync1 (hst : s.state = tlvStateSync1) :
    StepRefines cb src s [protocolTlvSync0] b := by
  unfold StepRefines
  rw [feedByte_sync1 b hst]
  refine ⟨rfl, ?_, ?_, ?_⟩
  · by_cases h1 : b = protocolTlvSync1
    · simp only [framerCalls, framerStep, if_pos h1]
      rw [h1]
      exact .type rfl
    · by_cases h0 : b = protocolTlvSync0
      · simp only [framerCalls, framerStep, if_neg h1, if_pos h0]
        rw [h0]
        exact .sync1 rfl
      · simp only [framerCalls, framerStep, if_neg h1, if_neg h0]
        exact .sync0 rfl
  · split
    · exact hcb
    · split <;> exact hcb
  · split
    · exact hsrc
    · split <;> exact hsrc

theorem refines_type (hst : s.state = tlvStateType) :
    StepRefines cb src s [protocolTlvSync0, protocolTlvSync1] b := by
  unfold StepRefines
  rw [feedByte_type b hst]
  by_cases ht : protocolTlvTypeIsValid b = true
  · rw [if_neg (by rw [ht]; decide)]
    refine ⟨by simp only [framerCalls, framerStep, Option.map_none], ?_, hcb, hsrc⟩
    simp only [framerCalls, framerStep, if_pos ht]
    refine .lenMsb rfl ht ?_
    have hw := write_take ({ s with invalidTypeCounter := 0, type := b } : TlvStream cfg κ)
      (i := 0) b (Nat.zero_lt_succ _)
    exact hw
  · rw [if_pos (Bool.eq_false_iff.mpr ht)]
    refine ⟨rfl, ?_, ?_, ?_⟩
    · by_cases h0 : b = protocolTlvSync0
      · simp only [framerCalls, framerStep, if_neg ht, if_pos h0]
        rw [h0]
        exact .sync1 rfl
      · simp only [framerCalls, framerStep, if_neg ht, if_neg h0]
        exact .sync0 rfl
    · split <;> exact hcb
    · split <;> exact hsrc

theorem refines_lenMsb (hst : s.state = tlvStateLenMsb)
    (ht : protocolTlvTypeIsValid s.type = true) (hfr : s.frame.toList.take 1 = [s.type]) :
    StepRefines cb src s [protocolTlvSync0, protocolTlvSync1, s.type] b := by
  unfold StepRefines
  rw [feedByte_lenMsb b hst]
  refine ⟨rfl, .lenLsb rfl ht rfl ?_, hcb, hsrc⟩
  have hw := write_take ({ s with expected := b.toUInt16 <<< 8 } : TlvStream cfg κ)
    (i := 1) b (by omega)
  rw [hfr] at hw
  exact hw

/-- The last header byte decides: the payload is opened, or everything is dropped. -/
theorem refines_lenLsb {m : UInt8} (hst : s.state = tlvStateLenLsb)
    (ht : protocolTlvTypeIsValid s.type = true) (hexp : s.expected = m.toUInt16 <<< 8)
    (hfr : s.frame.toList.take 2 = [s.type, m]) :
    StepRefines cb src s [protocolTlvSync0, protocolTlvSync1, s.type, m] b := by
  unfold StepRefines
  have hlen : s.expected ||| b.toUInt16 = be16 m b := by rw [hexp]; rfl
  by_cases hs : LengthSane cfg s.type (be16 m b)
  · rw [feedByte_lenLsb_accept b hst (hlen ▸ hs)]
    refine ⟨rfl, ?_, hcb, hsrc⟩
    simp only [framerCalls, framerStep, if_pos hs]
    refine .payload (p := []) rfl ht hlen (by rw [← hlen] at hs; exact hs) rfl ?_ ?_
    · have hpos := hs.pos
      rw [← hlen] at hpos
      exact UInt16.lt_iff_toNat_lt.mpr hpos
    · have hw := write_take
        ({ s with expected := s.expected ||| b.toUInt16 } : TlvStream cfg κ) (i := 2) b (by omega)
      rw [hfr] at hw
      exact hw
  · obtain ⟨hnone, hst', hcb', hsrc'⟩ := feedByte_lenLsb_reject b hst (hlen ▸ hs)
    refine ⟨?_, ?_, hcb'.trans hcb, hsrc'.trans hsrc⟩
    · rw [hnone]
      simp only [framerCalls, framerStep, Option.map_none]
    · simp only [framerCalls, framerStep, if_neg hs]
      exact .sync0 hst'

/-- A payload byte is stored, and the last one hands the frame over. -/
theorem refines_payload {m l : UInt8} {p : List UInt8} (hst : s.state = tlvStatePayload)
    (ht : protocolTlvTypeIsValid s.type = true) (hexp : s.expected = be16 m l)
    (hsane : LengthSane cfg s.type s.expected) (hrec : s.received.toNat = p.length)
    (hlt : s.received < s.expected)
    (hfr : s.frame.toList.take (3 + s.received.toNat) = s.type :: m :: l :: p) :
    StepRefines cb src s (protocolTlvSync0 :: protocolTlvSync1 :: s.type :: m :: l :: p) b := by
  unfold StepRefines
  have hlt' : s.received.toNat < s.expected.toNat := UInt16.lt_iff_toNat_lt.mp hlt
  have hmax : s.expected.toNat ≤ cfg.appTlvMaxPayload := hsane.le
  -- `received` is below a 16-bit `expected`, so the increment does not wrap
  have hsucc : (s.received + 1).toNat = p.length + 1 := by
    rw [UInt16.toNat_add, hrec, show UInt16.toNat 1 = 1 from rfl]
    have := s.expected.toNat_lt
    exact Nat.mod_eq_of_lt (by omega)
  have hw := write_take s (i := 3 + s.received.toNat) b (by omega)
  rw [hfr] at hw
  by_cases hmore : p.length + 1 < (be16 m l).toNat
  · have hlt2 : s.received + 1 < s.expected := by
      rw [UInt16.lt_iff_toNat_lt, hsucc, hexp]
      exact hmore
    rw [feedByte_payload_more b hst hlt2]
    refine ⟨?_, ?_, hcb, hsrc⟩
    · simp only [framerCalls, framerStep, if_pos hmore, Option.map_none]
    · simp only [framerCalls, framerStep, if_pos hmore]
      refine .payload hst ht hexp hsane ?_ hlt2 ?_
      · rw [List.length_append, List.length_singleton]
        exact hsucc
      · show (s.write (3 + s.received.toNat) b).frame.toList.take (3 + (s.received + 1).toNat) = _
        rw [hsucc, ← hrec]
        exact hw
  · have hge : s.expected ≤ s.received + 1 := by
      rw [UInt16.le_iff_toNat_le, hsucc, hexp]
      omega
    have hfull : 3 + s.expected.toNat = 3 + s.received.toNat + 1 := by
      rw [hexp] at hlt' ⊢
      omega
    rw [feedByte_payload_last b hst hge]
    refine ⟨?_, ?_, hcb, hsrc⟩
    · simp only [framerCalls, framerStep, if_neg hmore, Option.map_some, TlvStream.call, hfull, hw]
      show (s.callback.map _ : Option (CallbackCall κ)) = _
      rw [hcb, ← hsrc]
      rfl
    · simp only [framerCalls, framerStep, if_neg hmore]
      exact .sync0 rfl

end States

/-- **One byte of `tlv_stream_feed` is one step of the framer.** -/
theorem tlvStreamFeedByte_refines (cb : κ) (src : AppInputSource) :
    Simulates (Refines cb src : TlvStream cfg κ → List UInt8 → Prop) tlvStreamFeedByte
      (framerCalls cfg cb src) := by
  intro s held b hR
  obtain ⟨h, hcb, hsrc⟩ := hR
  cases h with
  | sync0 hst => exact refines_sync0 hcb hsrc b hst
  | sync1 hst => exact refines_sync1 hcb hsrc b hst
  | type hst => exact refines_type hcb hsrc b hst
  | lenMsb hst ht hfr => exact refines_lenMsb hcb hsrc b hst ht hfr
  | lenLsb hst ht hexp hfr => exact refines_lenLsb hcb hsrc b hst ht hexp hfr
  | payload hst ht hexp hsane hrec hlt hfr =>
    exact refines_payload hcb hsrc b hst ht hexp hsane hrec hlt hfr

/-- A reset stream holds nothing. -/
theorem tlvStreamReset_refines {cb : κ} {s : TlvStream cfg κ} (hcb : s.callback = some cb) :
    Refines cb s.source (tlvStreamReset s) [] := ⟨.sync0 rfl, hcb, rfl⟩

/-- A fresh stream holds nothing. -/
theorem tlvStreamInit_refines (cfg : Config) (cb : κ) (src : AppInputSource) :
    Refines cb src (tlvStreamInit cfg (some cb) src) [] := ⟨.sync0 rfl, rfl, rfl⟩

/-- The framer's deliveries, as the calls of a callback. -/
theorem framerCalls_outputs (cfg : Config) (cb : κ) (src : AppInputSource) :
    ∀ (w held : List UInt8),
      outputs (framerCalls cfg cb src) held w
        = (outputs (framerStep cfg) held w).map
            (fun f => { callback := cb, source := src, frame := f })
      ∧ final (framerCalls cfg cb src) held w = final (framerStep cfg) held w := by
  intro w
  induction w with
  | nil => intro held; exact ⟨rfl, rfl⟩
  | cons b w ih =>
    intro held
    obtain ⟨ho, hf⟩ := ih (framerStep cfg held b).1
    refine ⟨?_, hf⟩
    rw [outputs_cons, outputs_cons, List.map_append]
    refine congrArg₂ (· ++ ·) ?_ ho
    show ((framerStep cfg held b).2.map _).toList = _
    cases (framerStep cfg held b).2 <;> rfl

/-- **The calls of a stream are the deliveries of the framer** that holds the
same bytes, and the two stay in step. -/
theorem feedByte_run_refines {cb : κ} {src : AppInputSource} {s : TlvStream cfg κ}
    {held : List UInt8} (h : Refines cb src s held) (w : List UInt8) :
    outputs tlvStreamFeedByte s w
      = (outputs (framerStep cfg) held w).map
          (fun f => { callback := cb, source := src, frame := f })
    ∧ Refines cb src (final tlvStreamFeedByte s w) (final (framerStep cfg) held w) := by
  obtain ⟨ho, hf⟩ := (tlvStreamFeedByte_refines cb src).run w h
  obtain ⟨ho', hf'⟩ := framerCalls_outputs cfg cb src w held
  exact ⟨ho.trans ho', hf' ▸ hf⟩

/-- The same for a run of `tlv_stream_feed` calls, however the input is cut. -/
theorem tlvStreamFeedAll_refines {cb : κ} {src : AppInputSource} {s : TlvStream cfg κ}
    {held : List UInt8} (h : Refines cb src s held) (chunks : List (List UInt8)) :
    (tlvStreamFeedAll s chunks).2
      = (outputs (framerStep cfg) held chunks.flatten).map
          (fun f => { callback := cb, source := src, frame := f })
    ∧ Refines cb src (tlvStreamFeedAll s chunks).1
        (final (framerStep cfg) held chunks.flatten) := by
  rw [tlvStreamFeedAll_eq]
  exact feedByte_run_refines h _

end CaptureKVMBridge.Tlv
