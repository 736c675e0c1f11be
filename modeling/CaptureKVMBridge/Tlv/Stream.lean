import CaptureKVMBridge.Machine.Transducer
import CaptureKVMBridge.Tlv.Protocol

/-!
# `tlv_stream.c`: the byte machine

The stream parser of the serial and UART transports, field by field:
`tlvStreamFeedByte` is the body of the `for` loop of `tlv_stream_feed`, one
branch of the `switch` after the other, over the same fixed buffer, 16-bit
counters and stale fields as the C struct. `tlvStreamFeed` is the loop.

Mirroring notes:
- `state` is the `uint8_t` of the struct, so the `default` branch is there.
- The callback is an opaque pointer (`Option κ`). Each call is returned as a
  `CallbackCall`; the code does nothing after a call but reset the stream, so
  a callback that runs later sees the same frame.
- The warning counters are kept, the log lines are not.
-/

namespace CaptureKVMBridge.Tlv

open CaptureKVMBridge.Machine

variable {cfg : Config} {κ : Type}

/-! ## States -/

/-- `TLV_STATE_SYNC0` -/
def tlvStateSync0 : UInt8 := 0
/-- `TLV_STATE_SYNC1` -/
def tlvStateSync1 : UInt8 := 1
/-- `TLV_STATE_TYPE` -/
def tlvStateType : UInt8 := 2
/-- `TLV_STATE_LEN_MSB` -/
def tlvStateLenMsb : UInt8 := 3
/-- `TLV_STATE_LEN_LSB` -/
def tlvStateLenLsb : UInt8 := 4
/-- `TLV_STATE_PAYLOAD` -/
def tlvStatePayload : UInt8 := 5

/-- `tlv_stream_t`. -/
structure TlvStream (cfg : Config) (κ : Type) where
  state : UInt8
  type : UInt8
  expected : UInt16
  received : UInt16
  frame : Vector UInt8 (cfg.appTlvMaxPayload + 3)
  callback : Option κ
  source : AppInputSource
  invalidTypeCounter : UInt32
  invalidLengthCounter : UInt32

/-- One call `callback(source, frame, length)`: the `length` bytes it is given. -/
structure CallbackCall (κ : Type) where
  callback : κ
  source : AppInputSource
  frame : List UInt8
  deriving DecidableEq, Repr

/-! ## Operations -/

/-- `tlv_stream_reset`. -/
def tlvStreamReset (s : TlvStream cfg κ) : TlvStream cfg κ :=
  { s with
    state := tlvStateSync0
    expected := 0
    received := 0
    frame := Vector.replicate _ 0 }

/-- `tlv_stream_init`: `memset` to zero, then the two fields, then a reset. -/
def tlvStreamInit (cfg : Config) (cb : Option κ) (source : AppInputSource) : TlvStream cfg κ :=
  tlvStreamReset
    { state := 0
      type := 0
      expected := 0
      received := 0
      frame := Vector.replicate _ 0
      callback := cb
      source := source
      invalidTypeCounter := 0
      invalidLengthCounter := 0 }

/-- `tlv_length_is_sane`: `.ok ()` for `true`, the `reason` for `false`. -/
def tlvLengthIsSane (cfg : Config) (type : UInt8) (length : UInt16) : Except String Unit :=
  if length.toNat > cfg.appTlvMaxPayload then .error "payload exceeds limit"
  else if type = protocolEventKeyboard then
    if length ≠ protocolKeyboardPayloadLen then .error "keyboard payload length mismatch"
    else .ok ()
  else if type = protocolEventMouse then
    if length ≠ protocolMousePayloadLen then .error "mouse payload length mismatch"
    else .ok ()
  else if type = protocolEventMouseAbsolute then
    if length ≠ protocolMouseAbsPayloadLen then .error "abs mouse payload length mismatch"
    else .ok ()
  else if type = protocolEventMicrophone then
    if cfg.appEnableUsbAudio then
      if length = 0 ∨ length &&& 1 ≠ 0 then .error "mic payload invalid size"
      -- `#if TLV_MIC_MAX_BYTES > 0`
      else if tlvMicMaxBytes cfg > 0 ∧ length.toNat > tlvMicMaxBytes cfg then
        .error "mic payload exceeds frame capacity"
      else .ok ()
    else .error "mic payload received but audio disabled"
  else .error "unknown TLV type"

/-- The length is accepted for the type. -/
def LengthSane (cfg : Config) (type : UInt8) (length : UInt16) : Prop :=
  tlvLengthIsSane cfg type length = .ok ()

instance (type : UInt8) (length : UInt16) : Decidable (LengthSane cfg type length) :=
  match h : tlvLengthIsSane cfg type length with
  | .ok () => isTrue h
  | .error _ => isFalse fun h' => by rw [LengthSane, h] at h'; cases h'

/-- `if (stream->callback) stream->callback(stream->source, stream->frame, length)`. -/
def TlvStream.call (s : TlvStream cfg κ) (length : Nat) : Option (CallbackCall κ) :=
  s.callback.map fun cb =>
    { callback := cb, source := s.source, frame := s.frame.toList.take length }

/-- `stream->frame[i] = byte`. -/
def TlvStream.write (s : TlvStream cfg κ) (i : Nat) (byte : UInt8) : TlvStream cfg κ :=
  { s with frame := s.frame.setIfInBounds i byte }

/-- The body of the loop of `tlv_stream_feed`. -/
def tlvStreamFeedByte (s : TlvStream cfg κ) (byte : UInt8) :
    TlvStream cfg κ × Option (CallbackCall κ) :=
  if s.state = tlvStateSync0 then
    (if byte = protocolTlvSync0 then { s with state := tlvStateSync1 } else s, none)
  else if s.state = tlvStateSync1 then
    (if byte = protocolTlvSync1 then { s with state := tlvStateType }
      else if byte = protocolTlvSync0 then { s with state := tlvStateSync1 }
      else { s with state := tlvStateSync0 }, none)
  else if s.state = tlvStateType then
    if protocolTlvTypeIsValid byte = false then
      let s := { s with invalidTypeCounter := s.invalidTypeCounter + 1 }
      (if byte = protocolTlvSync0 then { s with state := tlvStateSync1 }
        else { s with state := tlvStateSync0 }, none)
    else
      let s := { s with invalidTypeCounter := 0, type := byte }
      ({ s.write 0 byte with state := tlvStateLenMsb }, none)
  else if s.state = tlvStateLenMsb then
    let s := { s with expected := byte.toUInt16 <<< 8 }
    ({ s.write 1 byte with state := tlvStateLenLsb }, none)
  else if s.state = tlvStateLenLsb then
    let s := { s with expected := s.expected ||| byte.toUInt16 }
    let s := s.write 2 byte
    match tlvLengthIsSane cfg s.type s.expected with
    | .error _ =>
      -- a rejected header is dropped whole: its length bytes are not rescanned
      (tlvStreamReset { s with invalidLengthCounter := s.invalidLengthCounter + 1 }, none)
    | .ok () =>
      let s := { s with invalidLengthCounter := 0 }
      if s.expected = 0 then (tlvStreamReset s, s.call 3)
      else ({ s with received := 0, state := tlvStatePayload }, none)
  else if s.state = tlvStatePayload then
    let s := s.write (3 + s.received.toNat) byte
    let s := { s with received := s.received + 1 }
    if s.received ≥ s.expected then (tlvStreamReset s, s.call (3 + s.expected.toNat))
    else (s, none)
  else (tlvStreamReset s, none)

/-- `tlv_stream_feed`: the stream after the bytes, and the callback calls. -/
def tlvStreamFeed (s : TlvStream cfg κ) (data : List UInt8) :
    TlvStream cfg κ × List (CallbackCall κ) :=
  if data.length = 0 then (s, []) else run tlvStreamFeedByte s data

/-- The early return on an empty chunk changes nothing. -/
theorem tlvStreamFeed_eq (s : TlvStream cfg κ) (data : List UInt8) :
    tlvStreamFeed s data = run tlvStreamFeedByte s data := by
  unfold tlvStreamFeed
  split
  · next h =>
    rw [List.length_eq_zero_iff] at h
    subst h
    rfl
  · rfl

/-- A run of `tlv_stream_feed` calls on one stream. -/
def tlvStreamFeedAll (s : TlvStream cfg κ) :
    List (List UInt8) → TlvStream cfg κ × List (CallbackCall κ)
  | [] => (s, [])
  | c :: cs =>
    let r := tlvStreamFeed s c
    let t := tlvStreamFeedAll r.1 cs
    (t.1, r.2 ++ t.2)

/-- Cutting the input into chunks changes neither the calls nor the stream. -/
theorem tlvStreamFeedAll_eq (chunks : List (List UInt8)) (s : TlvStream cfg κ) :
    tlvStreamFeedAll s chunks = run tlvStreamFeedByte s chunks.flatten := by
  rw [← runChunks_eq]
  induction chunks generalizing s with
  | nil => rfl
  | cons c cs ih =>
    simp only [tlvStreamFeedAll, runChunks, tlvStreamFeed_eq, ih]

/-! ## The `switch`

A stream in some state takes the branch of that state. -/

section Switch

variable {α : Type} {st : UInt8} {b0 b1 b2 b3 b4 b5 d : α}

theorem switch_sync1 (h : st = tlvStateSync1) :
    (if st = tlvStateSync0 then b0 else if st = tlvStateSync1 then b1 else d) = b1 := by
  subst h
  rfl

theorem switch_type (h : st = tlvStateType) :
    (if st = tlvStateSync0 then b0 else if st = tlvStateSync1 then b1
      else if st = tlvStateType then b2 else d) = b2 := by
  subst h
  rfl

theorem switch_lenMsb (h : st = tlvStateLenMsb) :
    (if st = tlvStateSync0 then b0 else if st = tlvStateSync1 then b1
      else if st = tlvStateType then b2 else if st = tlvStateLenMsb then b3 else d) = b3 := by
  subst h
  rfl

theorem switch_lenLsb (h : st = tlvStateLenLsb) :
    (if st = tlvStateSync0 then b0 else if st = tlvStateSync1 then b1
      else if st = tlvStateType then b2 else if st = tlvStateLenMsb then b3
      else if st = tlvStateLenLsb then b4 else d) = b4 := by
  subst h
  rfl

theorem switch_payload (h : st = tlvStatePayload) :
    (if st = tlvStateSync0 then b0 else if st = tlvStateSync1 then b1
      else if st = tlvStateType then b2 else if st = tlvStateLenMsb then b3
      else if st = tlvStateLenLsb then b4 else if st = tlvStatePayload then b5 else d) = b5 := by
  subst h
  rfl

end Switch

/-! ## What the length check lets through -/

/-- The accepted lengths, type by type. -/
theorem lengthSane_iff {type : UInt8} {length : UInt16} :
    LengthSane cfg type length ↔
      length.toNat ≤ cfg.appTlvMaxPayload ∧
      ((type = protocolEventKeyboard ∧ length = protocolKeyboardPayloadLen) ∨
       (type = protocolEventMouse ∧ length = protocolMousePayloadLen) ∨
       (type = protocolEventMouseAbsolute ∧ length = protocolMouseAbsPayloadLen) ∨
       (type = protocolEventMicrophone ∧ cfg.appEnableUsbAudio = true ∧
         ¬(length = 0 ∨ length &&& 1 ≠ 0) ∧
         ¬(tlvMicMaxBytes cfg > 0 ∧ length.toNat > tlvMicMaxBytes cfg))) := by
  unfold LengthSane tlvLengthIsSane
  have hkm : protocolEventKeyboard ≠ protocolEventMouse := by decide
  have hka : protocolEventKeyboard ≠ protocolEventMouseAbsolute := by decide
  have hkc : protocolEventKeyboard ≠ protocolEventMicrophone := by decide
  have hma : protocolEventMouse ≠ protocolEventMouseAbsolute := by decide
  have hmc : protocolEventMouse ≠ protocolEventMicrophone := by decide
  have hac : protocolEventMouseAbsolute ≠ protocolEventMicrophone := by decide
  by_cases hlim : length.toNat > cfg.appTlvMaxPayload
  · simp [hlim]
  · rw [if_neg hlim]
    have hle : length.toNat ≤ cfg.appTlvMaxPayload := by omega
    by_cases hk : type = protocolEventKeyboard
    · subst hk
      simp [hle, hkm, hka, hkc]
    · by_cases hm : type = protocolEventMouse
      · subst hm
        simp [hle, hkm.symm, hma, hmc]
      · by_cases ha : type = protocolEventMouseAbsolute
        · subst ha
          simp [hle, hka.symm, hma.symm, hac]
        · by_cases hc : type = protocolEventMicrophone
          · subst hc
            cases haud : cfg.appEnableUsbAudio with
            | false => simp [hkc.symm, hmc.symm, hac.symm]
            | true =>
              rw [if_neg hk, if_neg hm, if_neg ha, if_pos rfl, if_pos rfl]
              by_cases hz : length = 0 ∨ length &&& 1 ≠ 0
              · simp [hz, hkc.symm, hmc.symm, hac.symm]
              · rw [if_neg hz]
                by_cases hcap : tlvMicMaxBytes cfg > 0 ∧ length.toNat > tlvMicMaxBytes cfg
                · simp [hcap, hkc.symm, hmc.symm, hac.symm]
                · simp [hz, hcap, hle, hkc.symm, hmc.symm, hac.symm]
          · simp [hk, hm, ha, hc]

/-- An accepted length is not zero, so the zero-length delivery never runs. -/
theorem LengthSane.pos {type : UInt8} {length : UInt16} (h : LengthSane cfg type length) :
    0 < length.toNat := by
  rcases (lengthSane_iff.mp h).2 with ⟨-, rfl⟩ | ⟨-, rfl⟩ | ⟨-, rfl⟩ | ⟨-, -, hz, -⟩
  · decide
  · decide
  · decide
  · rcases Nat.eq_zero_or_pos length.toNat with h0 | hpos
    · exact absurd (Or.inl (UInt16.toNat.inj h0)) hz
    · exact hpos

theorem LengthSane.le {type : UInt8} {length : UInt16} (h : LengthSane cfg type length) :
    length.toNat ≤ cfg.appTlvMaxPayload := (lengthSane_iff.mp h).1

end CaptureKVMBridge.Tlv
