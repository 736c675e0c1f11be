import CaptureKVMBridge.Tlv.RoundTrip

/-!
# What the decoder accepts is what the encoder writes

`protocol_tlv_receive_frame` is also called on raw datagrams, so its domain is
every byte string. `receiveFrame_image` says what it makes of one: the strings
it dispatches are exactly the frames of the wire format, encoding the
dispatched event gives the string back byte for byte, and a string it does not
dispatch leaves no trace in the application state.

Decoding therefore loses nothing (`DispatchedFrame.encode`), although the C
structures order their fields differently from the wire and mix signs and byte
orders. One clause of the wire format depends on the build: a build in which
`TLV_MIC_MAX_BYTES` comes out as `0` has no upper limit on a microphone payload
(`#if TLV_MIC_MAX_BYTES > 0`).
-/

namespace CaptureKVMBridge.Tlv

open CaptureKVMBridge.Machine

variable {cfg : Config} {η : Type}

/-! ## The wire format, read from the bytes -/

/-- Type, big-endian length and payload, with a payload length the type has.
What a microphone payload must fit is a parameter. -/
def WireFormat (micFits : Nat → Prop) (data : List UInt8) : Prop :=
  ∃ t m l payload, data = t :: m :: l :: payload ∧
    payload.length = m.toNat * 256 + l.toNat ∧
    ((t = protocolEventKeyboard ∧ payload.length = 8) ∨
      (t = protocolEventMouse ∧ payload.length = 5) ∨
      (t = protocolEventMouseAbsolute ∧ payload.length = 7) ∨
      (t = protocolEventMicrophone ∧ payload.length % 2 = 0 ∧ payload.length ≠ 0 ∧
        micFits payload.length))

/-- The microphone limit of a build: none where `TLV_MIC_MAX_BYTES` is `0`. -/
def MicFits (cfg : Config) (n : Nat) : Prop :=
  tlvMicMaxBytes cfg > 0 → n ≤ tlvMicMaxBytes cfg

/-- The length rules of the decoder, read as numbers. -/
theorem decodesLength_iff {t : UInt8} {n : UInt16} :
    DecodesLength cfg t n ↔
      (t = protocolEventKeyboard ∧ n.toNat = 8) ∨
      (t = protocolEventMouse ∧ n.toNat = 5) ∨
      (t = protocolEventMouseAbsolute ∧ n.toNat = 7) ∨
      (t = protocolEventMicrophone ∧ n.toNat % 2 = 0 ∧ n.toNat ≠ 0 ∧ MicFits cfg n.toNat) := by
  have hmic : (¬(n = 0 ∨ n &&& 1 ≠ 0) ∧ ¬(tlvMicMaxBytes cfg > 0 ∧ n.toNat > tlvMicMaxBytes cfg)) ↔
      n.toNat % 2 = 0 ∧ n.toNat ≠ 0 ∧ MicFits cfg n.toNat := by
    rw [not_or, not_not, and_one_eq_zero_iff, not_and, not_lt, ← UInt16.toNat_inj]
    constructor
    · intro h
      exact ⟨h.1.2, h.1.1, h.2⟩
    · intro h
      exact ⟨⟨h.2.1, h.1⟩, h.2.2⟩
  rw [DecodesLength, hmic, ← UInt16.toNat_inj, ← UInt16.toNat_inj, ← UInt16.toNat_inj]
  rfl

/-- The frames that pass every check are those of the wire format. -/
theorem wireFormat_iff {data : List UInt8} :
    WireFormat (MicFits cfg) data ↔
      ∃ t m l pl, data = t :: m :: l :: pl ∧ DecodesLength cfg t (be16 m l) ∧
        pl.length = (be16 m l).toNat := by
  constructor
  · intro h
    obtain ⟨t, m, l, pl, hdata, hlen, hrule⟩ := h
    have hlen' : pl.length = (be16 m l).toNat := hlen.trans (be16_toNat m l).symm
    refine ⟨t, m, l, pl, hdata, ?_, hlen'⟩
    rw [hlen'] at hrule
    exact decodesLength_iff.mpr hrule
  · intro h
    obtain ⟨t, m, l, pl, hdata, hdec, hlen⟩ := h
    refine ⟨t, m, l, pl, hdata, hlen.trans (be16_toNat m l), ?_⟩
    rw [decodesLength_iff, ← hlen] at hdec
    exact hdec

/-! ## Encoding undoes decoding -/

/-- A payload of a length its type has is the layout of the event read from it. -/
theorem encodePayload_decodePayload {t : UInt8} {n : UInt16} {pl : List UInt8}
    (hd : DecodesLength cfg t n) (hlen : pl.length = n.toNat) :
    encodePayload (decodePayload t pl) = pl := by
  rw [decodesLength_iff, ← hlen] at hd
  rcases hd with ⟨rfl, h⟩ | ⟨rfl, h⟩ | ⟨rfl, h⟩ | ⟨rfl, heven, -⟩
  · match pl, h with
    | [_, _, _, _, _, _, _, _], _ => rfl
  · match pl, h with
    | [_, _, _, _, _], _ => rfl
  · match pl, h with
    | [b, x1, x0, y1, y0, w, q], _ =>
      show [b, hiByte (be16 x1 x0), loByte (be16 x1 x0), hiByte (be16 y1 y0),
        loByte (be16 y1 y0), w, q] = _
      rw [hiByte_be16, loByte_be16, hiByte_be16, loByte_be16]
  · rw [decodePayload_microphone]
    exact bytesLE_halfwordsLE pl heven

/-- So a frame that passes the checks is the frame of its event. -/
theorem encodeFrame_decodeFrame {t m l : UInt8} {pl : List UInt8}
    (hd : DecodesLength cfg t (be16 m l)) (hlen : pl.length = (be16 m l).toNat) :
    encodeFrame (decodeFrame (t :: m :: l :: pl)) = t :: m :: l :: pl := by
  have hpl : encodePayload (decodePayload t pl) = pl := encodePayload_decodePayload hd hlen
  have hn : UInt16.ofNat pl.length = be16 m l := by
    rw [hlen, UInt16.ofNat_toNat]
  show (decodePayload t pl).type
      :: hiByte (UInt16.ofNat (encodePayload (decodePayload t pl)).length)
      :: loByte (UInt16.ofNat (encodePayload (decodePayload t pl)).length)
      :: encodePayload (decodePayload t pl) = t :: m :: l :: pl
  rw [decodePayload_type hd.valid, hpl, hn, hiByte_be16, loByte_be16]

/-! ## Every byte string is forwarded or refused -/

/-- A frame was dispatched to the handler, once, and encodes back. -/
structure DispatchedFrame (h : η) (src : AppInputSource) (data : List UInt8)
    (out : Option (η × ProtocolEvent)) (e : ProtocolEvent) : Prop where
  once : out = some (h, e)
  source : e.source = src
  encode : encodeFrame e.payload = data

/-- A frame of the wire format is dispatched. -/
theorem receiveFrame_dispatches {p : ProtocolTlv η} {h : η} (hp : p.handler = some h)
    (src : AppInputSource) {data : List UInt8} (hdata : WireFormat (MicFits cfg) data) :
    ∃ e, DispatchedFrame h src data (protocolTlvReceiveFrame cfg p src data).2 e := by
  obtain ⟨t, m, l, pl, rfl, hd, hlen⟩ := wireFormat_iff.mp hdata
  refine ⟨{ source := src, payload := decodeFrame (t :: m :: l :: pl) }, ?_, rfl, ?_⟩
  · rw [(receiveFrame_accepts hd hlen p src).dispatched, dispatchEvent, hp]
    rfl
  · exact encodeFrame_decodeFrame hd hlen

/-- Anything else is refused, whatever its length. -/
theorem receiveFrame_refused {data : List UInt8} (hdata : ¬WireFormat (MicFits cfg) data)
    (p : ProtocolTlv η) (src : AppInputSource) :
    Refused p (protocolTlvReceiveFrame cfg p src data).1
      (protocolTlvReceiveFrame cfg p src data).2 := by
  match data with
  | [] => exact ⟨rfl, rfl, rfl, rfl⟩
  | [_] => exact ⟨rfl, rfl, rfl, rfl⟩
  | [_, _] => exact ⟨rfl, rfl, rfl, rfl⟩
  | t :: m :: l :: pl =>
    refine receiveFrame_refuses ?_ p src
    intro h
    exact hdata (wireFormat_iff.mpr ⟨t, m, l, pl, rfl, h.1, h.2⟩)

/-- **The decoder accepts exactly the image of the encoding and loses nothing.**
In every build, with a handler installed: a byte string is dispatched if and
only if it is of the wire format; then one event goes to the handler, its
encoding is the byte string, and no other string is dispatched as the same
event; otherwise the application state is as it was. -/
theorem receiveFrame_image (cfg : Config) (p : ProtocolTlv η) (h : η) (hp : p.handler = some h)
    (src : AppInputSource) (data : List UInt8) :
    ((protocolTlvReceiveFrame cfg p src data).2 ≠ none ↔ WireFormat (MicFits cfg) data) ∧
    ((protocolTlvReceiveFrame cfg p src data).2 ≠ none →
      ∃ e, DispatchedFrame h src data (protocolTlvReceiveFrame cfg p src data).2 e ∧
        ∀ (q : ProtocolTlv η) (g : η) (src' : AppInputSource) (data' : List UInt8),
          (protocolTlvReceiveFrame cfg q src' data').2 = some (g, e) → data' = data) ∧
    ((protocolTlvReceiveFrame cfg p src data).2 = none →
      (protocolTlvReceiveFrame cfg p src data).1.app = p.app) := by
  have hiff : (protocolTlvReceiveFrame cfg p src data).2 ≠ none
      ↔ WireFormat (MicFits cfg) data := by
    constructor
    · intro hout
      by_contra hdata
      exact hout (receiveFrame_refused hdata p src).silent
    · intro hdata
      obtain ⟨e, he⟩ := receiveFrame_dispatches hp src hdata
      rw [he.once]
      exact Option.some_ne_none _
  refine ⟨hiff, ?_, ?_⟩
  · intro hout
    obtain ⟨e, he⟩ := receiveFrame_dispatches hp src (hiff.mp hout)
    refine ⟨e, he, ?_⟩
    intro q g src' data' hout'
    -- a dispatched string is of the wire format, so it too is the encoding of `e`
    have hdata' : WireFormat (MicFits cfg) data' := by
      by_contra hnot
      rw [(receiveFrame_refused hnot q src').silent] at hout'
      cases hout'
    obtain ⟨t, m, l, pl, rfl, hd, hlen⟩ := wireFormat_iff.mp hdata'
    rw [(receiveFrame_accepts hd hlen q src').dispatched, dispatchEvent] at hout'
    obtain ⟨k, -, hk⟩ := Option.map_eq_some_iff.mp hout'
    have hpayload : decodeFrame (t :: m :: l :: pl) = e.payload :=
      congrArg (fun d : η × ProtocolEvent => d.2.payload) hk
    calc t :: m :: l :: pl = encodeFrame (decodeFrame (t :: m :: l :: pl)) :=
          (encodeFrame_decodeFrame hd hlen).symm
      _ = data := by rw [hpayload, he.encode]
  · intro hout
    have hnot : ¬WireFormat (MicFits cfg) data := fun hdata => hiff.mpr hdata hout
    exact (receiveFrame_refused hnot p src).app

/-- A relative mouse frame: dispatched, and nothing else decodes to its event. -/
theorem receiveFrame_image_mouse :
    let p := protocolTlvInit (ProtocolTlv.boot (Stream'.const 0)) (some ())
    ∃ e, DispatchedFrame () .network [2, 0, 5, 1, 3, 0xFF, 0, 0]
      (protocolTlvReceiveFrame Config.shipped p .network [2, 0, 5, 1, 3, 0xFF, 0, 0]).2 e := by
  intro p
  have h := receiveFrame_image Config.shipped p () rfl .network [2, 0, 5, 1, 3, 0xFF, 0, 0]
  obtain ⟨e, he, -⟩ := h.2.1 (by decide)
  exact ⟨e, he⟩

/-- **`0` means no limit.** Without a microphone channel `TLV_MIC_MAX_BYTES` is
`0`, yet a microphone frame of two bytes is dispatched. -/
theorem receiveFrame_image_unlimited :
    ¬∀ (cfg : Config) (p : ProtocolTlv Unit) (src : AppInputSource) (data : List UInt8),
      cfg.appEnableUsbAudio = true → p.handler = some () →
      ((protocolTlvReceiveFrame cfg p src data).2 ≠ none ↔
        WireFormat (fun n => n ≤ tlvMicMaxBytes cfg) data) := by
  intro hall
  have h := hall Config.noMicChannel
    (protocolTlvInit (ProtocolTlv.boot (Stream'.const 0)) (some ())) .network [3, 0, 2, 0xAB, 0xCD] rfl rfl
  obtain ⟨t, m, l, pl, hdata, -, hrule⟩ := h.mp (by decide)
  obtain ⟨rfl, -, -, rfl⟩ : 3 = t ∧ 0 = m ∧ 2 = l ∧ [0xAB, 0xCD] = pl := by
    simpa using hdata
  rcases hrule with hk | hm | ha | hmic
  · exact absurd hk.1 (by decide)
  · exact absurd hm.1 (by decide)
  · exact absurd ha.1 (by decide)
  · exact absurd hmic.2.2.2 (by decide)

end CaptureKVMBridge.Tlv
