import CaptureKVMBridge.Tlv.Validate

/-!
# Decoding undoes encoding, end to end

The sender's side is a specification: `encode` lays an event out as the wire
format says (sync word, type, big-endian length, payload; absolute coordinates
big-endian, samples little-endian). The receiver's side is the code: two
streams whose callback is `protocol_tlv_receive_frame`, fed in any order and
any chunks (`ingressRun`).

`ingressRun_encode` is the end-to-end statement. Payload bytes are arbitrary,
so fake headers inside a payload are covered: the framer never looks at a
payload byte (`framer_payload`).
-/

namespace CaptureKVMBridge.Tlv

open CaptureKVMBridge.Machine

variable {cfg : Config} {η : Type}

/-! ## The wire format -/

/-- The payload bytes of an event, fields in wire order. -/
def encodePayload : ProtocolPayload → List UInt8
  | .keyboard r => r.modifiers :: r.reserved :: r.keycodes.toList
  | .mouse r => [r.buttons, r.x.toUInt8, r.y.toUInt8, r.wheel.toUInt8, r.pan.toUInt8]
  | .mouseAbs r =>
    [r.buttons, hiByte r.x, loByte r.x, hiByte r.y, loByte r.y, r.wheel.toUInt8, r.pan.toUInt8]
  | .microphone f => bytesLE f.samples

/-- Type, 16-bit big-endian length, payload. -/
def encodeFrame (e : ProtocolPayload) : List UInt8 :=
  e.type :: hiByte (UInt16.ofNat (encodePayload e).length) ::
    loByte (UInt16.ofNat (encodePayload e).length) :: encodePayload e

/-- An event on the wire. -/
def encode (e : ProtocolPayload) : List UInt8 := wire (encodeFrame e)

/-- The events a sender may send: all of them, but a microphone frame is not
empty and fits the payload limit and the microphone limit. -/
def Sendable (cfg : Config) : ProtocolPayload → Prop
  | .microphone f =>
    f.samples ≠ [] ∧ 2 * f.samples.length ≤ cfg.appTlvMaxPayload ∧
    (tlvMicMaxBytes cfg > 0 → 2 * f.samples.length ≤ tlvMicMaxBytes cfg)
  | _ => True

/-- Reading a keyboard payload back. -/
theorem readKeyboard_encode (r : UsbKeyboardReport) :
    readKeyboard (r.modifiers :: r.reserved :: r.keycodes.toList) = r := by
  obtain ⟨mods, res, ⟨⟨keys⟩, hkeys⟩⟩ := r
  match keys, hkeys with
  | [_, _, _, _, _, _], _ => rfl

/-- Each payload decodes to the event it encodes. -/
theorem decodePayload_encodePayload (e : ProtocolPayload) :
    decodePayload e.type (encodePayload e) = e := by
  cases e with
  | keyboard r => exact congrArg ProtocolPayload.keyboard (readKeyboard_encode r)
  | mouse r => rfl
  | mouseAbs r =>
    show ProtocolPayload.mouseAbs ⟨be16 (hiByte r.x) (loByte r.x),
      be16 (hiByte r.y) (loByte r.y), r.wheel, r.pan, r.buttons⟩ = _
    rw [be16_hiByte_loByte, be16_hiByte_loByte]
  | microphone f =>
    show ProtocolPayload.microphone { samples := halfwordsLE (bytesLE f.samples) } = _
    rw [halfwordsLE_bytesLE]

theorem decodeFrame_encodeFrame (e : ProtocolPayload) : decodeFrame (encodeFrame e) = e :=
  decodePayload_encodePayload e

/-- **What a sender may send, the parser accepts.** -/
theorem encodeFrame_wellFormed (haudio : cfg.appEnableUsbAudio = true) {e : ProtocolPayload}
    (he : Sendable cfg e) : WellFormedFrame cfg (encodeFrame e) := by
  have hmin := cfg.maxPayload_ge
  have hmax := cfg.maxPayload_le
  have hlen : (encodePayload e).length < 65536 := by
    cases e with
    | keyboard r => simp [encodePayload]
    | mouse r => simp [encodePayload]
    | mouseAbs r => simp [encodePayload]
    | microphone f =>
      have := he.2.1
      simp only [encodePayload, bytesLE_length]
      omega
  have hround : (UInt16.ofNat (encodePayload e).length).toNat = (encodePayload e).length := by
    rw [UInt16.toNat_ofNat']
    exact Nat.mod_eq_of_lt hlen
  refine ⟨?_, ?_, ?_⟩
  · cases e <;> rfl
  · rw [be16_hiByte_loByte, lengthSane_iff, hround]
    cases e with
    | keyboard r =>
      have h8 : (encodePayload (.keyboard r)).length = 8 := by simp [encodePayload]
      rw [h8]
      exact ⟨by omega, Or.inl ⟨rfl, rfl⟩⟩
    | mouse r => exact ⟨by simp [encodePayload]; omega, Or.inr (Or.inl ⟨rfl, rfl⟩)⟩
    | mouseAbs r => exact ⟨by simp [encodePayload]; omega, Or.inr (Or.inr (Or.inl ⟨rfl, rfl⟩))⟩
    | microphone f =>
      obtain ⟨hne, hpay, hmic⟩ := he
      have hpos : 0 < f.samples.length := List.length_pos_iff.mpr hne
      have hl : (encodePayload (.microphone f)).length = 2 * f.samples.length := by
        simp only [encodePayload, bytesLE_length]
      rw [hl] at hround ⊢
      refine ⟨hpay, Or.inr (Or.inr (Or.inr ⟨rfl, haudio, ?_, fun hcap => ?_⟩))⟩
      · intro hbad
        rcases hbad with h0 | hodd
        · have h0' := congrArg UInt16.toNat h0
          rw [hround] at h0'
          exact absurd h0' (by show ¬(2 * f.samples.length = 0); omega)
        · exact hodd (and_one_eq_zero_iff.mpr (by rw [hround]; omega))
      · have := hmic hcap.1
        omega
  · rw [be16_hiByte_loByte, hround]

/-- The frames that the framer finds in encoded events. -/
theorem framer_encode (haudio : cfg.appEnableUsbAudio = true) {es : List ProtocolPayload}
    (hes : ∀ e ∈ es, Sendable cfg e) :
    outputs (framerStep cfg) [] ((es.map encode).flatten) = es.map encodeFrame := by
  have hwires : (es.map encode).flatten = wires (es.map encodeFrame) := by
    rw [wires, List.map_map]
    rfl
  have hwf : ∀ f ∈ es.map encodeFrame, WellFormedFrame cfg f := by
    intro f hf
    obtain ⟨e, he, rfl⟩ := List.mem_map.mp hf
    exact encodeFrame_wellFormed haudio (hes e he)
  rw [hwires, framer_wires hwf]

/-! ## Two streams and one handler -/

/-- The two stream transports. -/
inductive StreamTransport where
  | serial
  | uart
  deriving DecidableEq, Repr

/-- The source that `serial_transport_start` and `uart_transport_start` give
their streams. -/
def StreamTransport.source : StreamTransport → AppInputSource
  | .serial => .usbJtag
  | .uart => .uart

theorem StreamTransport.source_inj {t u : StreamTransport} (h : t.source = u.source) : t = u := by
  cases t <;> cases u <;> first | rfl | cases h

/-- The type of `protocol_tlv_receive_frame` as a stream callback. -/
abbrev TlvStreamCallback (η : Type) :=
  ProtocolTlv η → AppInputSource → List UInt8 → ProtocolTlv η × Option (η × ProtocolEvent)

/-- Carry out the callback calls of a stream, collecting the handler's events. -/
def runCalls : List (CallbackCall (TlvStreamCallback η)) → ProtocolTlv η →
    ProtocolTlv η × List (η × ProtocolEvent)
  | [], p => (p, [])
  | c :: cs, p =>
    let r := c.callback p c.source c.frame
    let t := runCalls cs r.1
    (t.1, r.2.toList ++ t.2)

/-- The ingress path: a parser for each stream transport, one decoder. -/
structure Ingress (cfg : Config) (η : Type) where
  streams : StreamTransport → TlvStream cfg (TlvStreamCallback η)
  tlv : ProtocolTlv η

/-- Both transports started with callback `protocol_tlv_receive_frame`. -/
def ingressStart (cfg : Config) (tlv : ProtocolTlv η) : Ingress cfg η where
  streams t := tlvStreamInit cfg (some (protocolTlvReceiveFrame cfg)) t.source
  tlv := tlv

/-- Calls of `tlv_stream_feed` on the two streams, in order, and everything
the handler is given on the way. -/
def ingressRun (g : Ingress cfg η) :
    List (StreamTransport × List UInt8) → Ingress cfg η × List (η × ProtocolEvent)
  | [] => (g, [])
  | (t, chunk) :: feeds =>
    let r := tlvStreamFeed (g.streams t) chunk
    let q := runCalls r.2 g.tlv
    let rest := ingressRun { streams := Function.update g.streams t r.1, tlv := q.1 } feeds
    (rest.1, q.2 ++ rest.2)

theorem runCalls_append (cs ds : List (CallbackCall (TlvStreamCallback η))) (p : ProtocolTlv η) :
    runCalls (cs ++ ds) p
      = ((runCalls ds (runCalls cs p).1).1,
          (runCalls cs p).2 ++ (runCalls ds (runCalls cs p).1).2) := by
  induction cs generalizing p with
  | nil => rfl
  | cons c cs ih =>
    rw [List.cons_append, runCalls, ih, runCalls, List.append_assoc]

/-- The handler's log is what the calls of the family of streams cause. -/
theorem ingressRun_log : ∀ (feeds : List (StreamTransport × List UInt8)) (g : Ingress cfg η),
    (ingressRun g feeds).2
      = (runCalls ((runFamily tlvStreamFeedByte g.streams feeds).2.map Prod.snd) g.tlv).2 := by
  intro feeds
  induction feeds with
  | nil => intro g; rfl
  | cons f feeds ih =>
    intro g
    obtain ⟨t, chunk⟩ := f
    simp only [ingressRun, runFamily, ih, tlvStreamFeed_eq, List.map_append, List.map_map,
      runCalls_append]
    rw [show (Prod.snd ∘ fun c : CallbackCall (TlvStreamCallback η) => (t, c)) = id from rfl,
      List.map_id]
    rfl

/-- Calls of `protocol_tlv_receive_frame` on well-formed frames give the
handler one event each, whatever the decoder's counters and clock. -/
theorem runCalls_receive (cfg : Config) {h : η} :
    ∀ (cs : List (CallbackCall (TlvStreamCallback η))) {p : ProtocolTlv η}, p.handler = some h →
      (∀ c ∈ cs, c.callback = protocolTlvReceiveFrame cfg ∧ WellFormedFrame cfg c.frame) →
      (runCalls cs p).2
        = cs.map fun c => (h, { source := c.source, payload := decodeFrame c.frame }) := by
  intro cs
  induction cs with
  | nil => intro p _ _; rfl
  | cons c cs ih =>
    intro p hp hcs
    obtain ⟨hcb, hwf⟩ := hcs c (List.mem_cons_self ..)
    obtain ⟨hout, -, hhandler⟩ := receiveFrame_wellFormed hwf p c.source
    rw [runCalls, hcb]
    dsimp only
    rw [ih (hhandler.trans hp) fun d hd => hcs d (List.mem_cons_of_mem _ hd), hout, dispatchEvent, hp]
    rfl

/-! ## End to end -/

/-- The callback call that an encoded event leads to. -/
def eventCall (cfg : Config) (t : StreamTransport) (e : ProtocolPayload) :
    CallbackCall (TlvStreamCallback η) where
  callback := protocolTlvReceiveFrame cfg
  source := t.source
  frame := encodeFrame e

/-- What a stream transport calls back with when it is sent encoded events. -/
theorem stream_encode_calls (haudio : cfg.appEnableUsbAudio = true) {t : StreamTransport}
    {es : List ProtocolPayload} (hes : ∀ e ∈ es, Sendable cfg e) (tlv : ProtocolTlv η) :
    outputs tlvStreamFeedByte ((ingressStart cfg tlv).streams t) ((es.map encode).flatten)
      = es.map (eventCall cfg t) := by
  have hwires : (es.map encode).flatten = wires (es.map encodeFrame) := by
    rw [wires, List.map_map]
    rfl
  have hwf : ∀ f ∈ es.map encodeFrame, WellFormedFrame cfg f := by
    intro f hf
    obtain ⟨e, he, rfl⟩ := List.mem_map.mp hf
    exact encodeFrame_wellFormed haudio (hes e he)
  have hinit := tlvStreamInit_refines cfg (protocolTlvReceiveFrame (η := η) cfg) t.source
  rw [show (ingressStart cfg tlv).streams t
      = tlvStreamInit cfg (some (protocolTlvReceiveFrame cfg)) t.source from rfl,
    (feedByte_run_refines hinit _).1, hwires, framer_wires hwf, List.map_map]
  rfl

/-- The log of a family of calls, restricted to a source, is the log of the
calls of that transport. -/
theorem filter_source (h : η) (t : StreamTransport)
    (os : List (StreamTransport × CallbackCall (TlvStreamCallback η))) :
    (os.map fun o => ((h, { source := o.1.source, payload := decodeFrame o.2.frame }) :
        η × ProtocolEvent)).filter (fun d => d.2.source = t.source)
      = (os.filterMap (fun o => if o.1 = t then some o.2 else none)).map
          fun c => (h, { source := t.source, payload := decodeFrame c.frame }) := by
  induction os with
  | nil => rfl
  | cons o os ih =>
    by_cases ho : o.1 = t
    · simp [ho, ih]
    · have hs : ¬o.1.source = t.source := fun e => ho (StreamTransport.source_inj e)
      simp [ho, hs, ih]

/-- **End-to-end decode undoes encode.** In a build with audio, with a handler
installed, however the two encoded byte streams are cut and interleaved: for
each transport the handler is given exactly the events sent on it, in order
and tagged with its source, and it is given nothing else. -/
theorem ingressRun_encode (cfg : Config) (haudio : cfg.appEnableUsbAudio = true)
    (p : ProtocolTlv η) (h : η) (events : StreamTransport → List ProtocolPayload)
    (hevents : ∀ t, ∀ e ∈ events t, Sendable cfg e)
    (feeds : List (StreamTransport × List UInt8))
    (hfeeds : ∀ t, inputOf t feeds = ((events t).map encode).flatten) :
    let log := (ingressRun (ingressStart cfg (protocolTlvInit p (some h))) feeds).2
    (∀ t : StreamTransport, log.filter (fun d => d.2.source = t.source)
      = (events t).map fun e => (h, { source := t.source, payload := e })) ∧
    ∀ d ∈ log, ∃ t : StreamTransport, d.2.source = t.source := by
  intro log
  set fam := runFamily tlvStreamFeedByte
    (ingressStart cfg (protocolTlvInit p (some h))).streams feeds with hfam
  have hout : ∀ t : StreamTransport,
      fam.2.filterMap (fun o => if o.1 = t then some o.2 else none)
        = (events t).map (eventCall cfg t) := by
    intro t
    rw [hfam, runFamily_outputs, hfeeds, stream_encode_calls haudio (hevents t)]
  -- every call of the family is one of those its own transport makes
  have hmem : ∀ o ∈ fam.2, ∃ e ∈ events o.1, o.2 = eventCall cfg o.1 e := by
    intro o ho
    have hin : o.2 ∈ fam.2.filterMap (fun q => if q.1 = o.1 then some q.2 else none) :=
      List.mem_filterMap.mpr ⟨o, ho, if_pos rfl⟩
    rw [hout] at hin
    obtain ⟨e, he, heq⟩ := List.mem_map.mp hin
    exact ⟨e, he, heq.symm⟩
  have hlog : log = fam.2.map fun o =>
      (h, { source := o.1.source, payload := decodeFrame o.2.frame }) := by
    show (ingressRun _ feeds).2 = _
    rw [ingressRun_log, ← hfam, runCalls_receive cfg (h := h) _ rfl ?_, List.map_map]
    · apply List.map_congr_left
      intro o ho
      obtain ⟨e, -, heq⟩ := hmem o ho
      simp only [Function.comp_apply, heq, eventCall]
    · intro c hc
      obtain ⟨o, ho, rfl⟩ := List.mem_map.mp hc
      obtain ⟨e, he, heq⟩ := hmem o ho
      rw [heq]
      exact ⟨rfl, encodeFrame_wellFormed haudio (hevents _ e he)⟩
  constructor
  · intro t
    rw [hlog, filter_source, hout, List.map_map]
    apply List.map_congr_left
    intro e _
    simp only [Function.comp_apply, eventCall, decodeFrame_encodeFrame]
  · intro d hd
    rw [hlog] at hd
    obtain ⟨o, -, rfl⟩ := List.mem_map.mp hd
    exact ⟨o.1, rfl⟩

/-- A key press. -/
def pressEvent : ProtocolPayload := .keyboard ⟨2, 0, #v[4, 0, 0, 0, 0, 0]⟩

/-- A microphone frame whose samples spell a keyboard header. -/
def talkEvent : ProtocolPayload := .microphone ⟨[0xAAD5, 0x0001, 0x0208]⟩

/-- The microphone frame is cut inside its own header, around the key press on
the other transport. -/
theorem ingressRun_encode_interleaved :
    let log := (ingressRun (ingressStart Config.shipped
      (protocolTlvInit (ProtocolTlv.boot (Stream'.const 0)) (some ())))
      [(.uart, [0xD5, 0xAA, 3]), (.serial, [0xD5]),
        (.uart, [0, 6, 0xD5, 0xAA, 1, 0, 8, 2]),
        (.serial, [0xAA, 1, 0, 8, 2, 0, 4, 0, 0, 0, 0, 0])]).2
    log.filter (fun d => d.2.source = AppInputSource.usbJtag) = [((), ⟨.usbJtag, pressEvent⟩)] ∧
    log.filter (fun d => d.2.source = AppInputSource.uart) = [((), ⟨.uart, talkEvent⟩)] := by
  have h := ingressRun_encode Config.shipped rfl (ProtocolTlv.boot (Stream'.const 0)) ()
    (fun t => match t with
      | .serial => [pressEvent]
      | .uart => [talkEvent])
    (by
      intro t e he
      cases t with
      | serial =>
        obtain rfl := List.mem_singleton.mp he
        trivial
      | uart =>
        obtain rfl := List.mem_singleton.mp he
        exact ⟨by decide, by decide, fun _ => by decide⟩)
    [(.uart, [0xD5, 0xAA, 3]), (.serial, [0xD5]),
      (.uart, [0, 6, 0xD5, 0xAA, 1, 0, 8, 2]),
      (.serial, [0xAA, 1, 0, 8, 2, 0, 4, 0, 0, 0, 0, 0])]
    (by
      intro t
      cases t with
      | serial => decide
      | uart => decide)
  exact ⟨h.1 .serial, h.1 .uart⟩

end CaptureKVMBridge.Tlv
