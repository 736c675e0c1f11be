import CaptureKVMBridge.Tlv.Refine

/-!
# The stream parser is sound, and the two validators agree

On arbitrary input `tlv_stream_feed` only ever hands over slices of it:
`tlvStreamFeedAll_sound` places every callback frame in the input, behind its
own sync word, disjoint from and after the one before.

The frames it hands over are checked a second time by
`protocol_tlv_receive_frame`, whose length rules are written separately and
under other preprocessor conditions. `receiveFrame_wellFormed` shows that the
second validator accepts whatever the first lets through: the rules differ (a
payload limit here, no question about audio there) but only in the direction
that makes the second more permissive.
-/

namespace CaptureKVMBridge.Tlv

open CaptureKVMBridge.Machine

variable {cfg : Config} {κ η : Type}

/-! ## What the second validator makes of a good frame -/

/-- The payload read under a type, by the `switch` of
`protocol_tlv_receive_frame` without its checks. -/
def decodePayload (type : UInt8) (payload : List UInt8) : ProtocolPayload :=
  if type = protocolEventKeyboard then .keyboard (readKeyboard payload)
  else if type = protocolEventMouse then .mouse (readMouse payload)
  else if type = protocolEventMouseAbsolute then .mouseAbs (readMouseAbs payload)
  else .microphone (readMicrophone payload)

@[simp] theorem decodePayload_keyboard (pl : List UInt8) :
    decodePayload protocolEventKeyboard pl = .keyboard (readKeyboard pl) := rfl

@[simp] theorem decodePayload_mouse (pl : List UInt8) :
    decodePayload protocolEventMouse pl = .mouse (readMouse pl) := rfl

@[simp] theorem decodePayload_mouseAbs (pl : List UInt8) :
    decodePayload protocolEventMouseAbsolute pl = .mouseAbs (readMouseAbs pl) := rfl

@[simp] theorem decodePayload_microphone (pl : List UInt8) :
    decodePayload protocolEventMicrophone pl = .microphone (readMicrophone pl) := rfl

/-- The payload of a whole frame. -/
def decodeFrame : List UInt8 → ProtocolPayload
  | t :: _ :: _ :: p => decodePayload t p
  | _ => decodePayload 0 []

/-- The event was noted and handed over: one dispatch, one count. -/
structure Forwarded (p p' : ProtocolTlv η) (out : Option (η × ProtocolEvent))
    (e : ProtocolEvent) : Prop where
  dispatched : out = dispatchEvent p e
  noted : p'.app = appStateNoteEvent p.app p.timer.head e.source
  handler : p'.handler = p.handler

theorem noteAndDispatch_forwarded {p q : ProtocolTlv η} (happ : q.app = p.app)
    (htimer : q.timer = p.timer) (hhandler : q.handler = p.handler) (src : AppInputSource)
    (payload : ProtocolPayload) :
    Forwarded p (noteAndDispatch q src payload).1 (noteAndDispatch q src payload).2
      { source := src, payload := payload } := by
  refine ⟨?_, ?_, hhandler⟩
  · simp only [noteAndDispatch, dispatchEvent, hhandler]
  · simp only [noteAndDispatch, happ, htimer]

/-- The payload lengths that `protocol_tlv_receive_frame` accepts, type by type. -/
def DecodesLength (cfg : Config) (type : UInt8) (length : UInt16) : Prop :=
  (type = protocolEventKeyboard ∧ length = protocolKeyboardPayloadLen) ∨
  (type = protocolEventMouse ∧ length = protocolMousePayloadLen) ∨
  (type = protocolEventMouseAbsolute ∧ length = protocolMouseAbsPayloadLen) ∨
  (type = protocolEventMicrophone ∧ ¬(length = 0 ∨ length &&& 1 ≠ 0) ∧
    ¬(tlvMicMaxBytes cfg > 0 ∧ length.toNat > tlvMicMaxBytes cfg))

/-- **How the two sets of length rules differ**: the stream has a payload limit
and asks whether audio is compiled in, the decoder does neither. -/
theorem lengthSane_iff_decodesLength {type : UInt8} {length : UInt16} :
    LengthSane cfg type length ↔
      length.toNat ≤ cfg.appTlvMaxPayload ∧ DecodesLength cfg type length ∧
      (type = protocolEventMicrophone → cfg.appEnableUsbAudio = true) := by
  rw [lengthSane_iff]
  constructor
  · intro hsane
    obtain ⟨hle, ⟨rfl, hn⟩ | ⟨rfl, hn⟩ | ⟨rfl, hn⟩ | ⟨rfl, haudio, hz, hcap⟩⟩ := hsane
    · exact ⟨hle, Or.inl ⟨rfl, hn⟩, fun h => absurd h (by decide)⟩
    · exact ⟨hle, Or.inr (Or.inl ⟨rfl, hn⟩), fun h => absurd h (by decide)⟩
    · exact ⟨hle, Or.inr (Or.inr (Or.inl ⟨rfl, hn⟩)), fun h => absurd h (by decide)⟩
    · exact ⟨hle, Or.inr (Or.inr (Or.inr ⟨rfl, hz, hcap⟩)), fun _ => haudio⟩
  · intro hdec
    obtain ⟨hle, hk | hm | ha | ⟨rfl, hz, hcap⟩, haudio⟩ := hdec
    · exact ⟨hle, Or.inl hk⟩
    · exact ⟨hle, Or.inr (Or.inl hm)⟩
    · exact ⟨hle, Or.inr (Or.inr (Or.inl ha))⟩
    · exact ⟨hle, Or.inr (Or.inr (Or.inr ⟨rfl, haudio rfl, hz, hcap⟩))⟩

theorem DecodesLength.valid {type : UInt8} {length : UInt16} (h : DecodesLength cfg type length) :
    protocolTlvTypeIsValid type = true := by
  rw [protocolTlvTypeIsValid_iff]
  rcases h with ⟨h, -⟩ | ⟨h, -⟩ | ⟨h, -⟩ | ⟨h, -⟩
  · exact Or.inl h
  · exact Or.inr (Or.inl h)
  · exact Or.inr (Or.inr (Or.inr h))
  · exact Or.inr (Or.inr (Or.inl h))

/-- A frame with its announced length, which the type may have, is forwarded. -/
theorem receiveFrame_accepts {t m l : UInt8} {pl : List UInt8}
    (hd : DecodesLength cfg t (be16 m l)) (hlen : pl.length = (be16 m l).toNat)
    (p : ProtocolTlv η) (src : AppInputSource) :
    Forwarded p (protocolTlvReceiveFrame cfg p src (t :: m :: l :: pl)).1
      (protocolTlvReceiveFrame cfg p src (t :: m :: l :: pl)).2
      { source := src, payload := decodeFrame (t :: m :: l :: pl) } := by
  unfold protocolTlvReceiveFrame decodeFrame
  dsimp only
  rw [if_neg (by rw [hd.valid]; decide), if_neg (not_not.mpr hlen.symm)]
  -- one case per type; in each the length check passes by the disjunct
  rcases hd with ⟨rfl, hn⟩ | ⟨rfl, hn⟩ | ⟨rfl, hn⟩ | ⟨rfl, hz, hcap⟩
  · rw [if_pos rfl, if_neg (not_not.mpr hn), decodePayload_keyboard]
    refine noteAndDispatch_forwarded ?_ ?_ ?_ src _ <;> rfl
  · rw [if_neg (by decide), if_pos rfl, if_neg (not_not.mpr hn), decodePayload_mouse]
    refine noteAndDispatch_forwarded ?_ ?_ ?_ src _ <;> rfl
  · rw [if_neg (by decide), if_neg (by decide), if_pos rfl, if_neg (not_not.mpr hn),
      decodePayload_mouseAbs]
    refine noteAndDispatch_forwarded ?_ ?_ ?_ src _ <;> rfl
  · rw [if_neg (by decide), if_neg (by decide), if_neg (by decide), if_pos rfl, if_neg hz,
      if_neg hcap, decodePayload_microphone]
    refine noteAndDispatch_forwarded ?_ ?_ ?_ src _ <;> rfl

/-- The frame was turned down: nothing dispatched, and of the statics at most a
warning counter has moved. -/
structure Refused (p p' : ProtocolTlv η) (out : Option (η × ProtocolEvent)) : Prop where
  silent : out = none
  app : p'.app = p.app
  timer : p'.timer = p.timer
  handler : p'.handler = p.handler

/-- A type, or a length, that the checks do not admit is refused. -/
theorem receiveFrame_refuses {t m l : UInt8} {pl : List UInt8}
    (hd : ¬(DecodesLength cfg t (be16 m l) ∧ pl.length = (be16 m l).toNat))
    (p : ProtocolTlv η) (src : AppInputSource) :
    Refused p (protocolTlvReceiveFrame cfg p src (t :: m :: l :: pl)).1
      (protocolTlvReceiveFrame cfg p src (t :: m :: l :: pl)).2 := by
  unfold protocolTlvReceiveFrame
  dsimp only
  split
  · exact ⟨rfl, rfl, rfl, rfl⟩
  split
  · exact ⟨rfl, rfl, rfl, rfl⟩
  next hlen =>
    -- the length is as announced, so it is the type's own rule that fails
    have hd : ¬DecodesLength cfg t (be16 m l) := fun h => hd ⟨h, (not_not.mp hlen).symm⟩
    split
    · next ht =>
      rw [if_pos fun hn => hd (Or.inl ⟨ht, hn⟩)]
      exact ⟨rfl, rfl, rfl, rfl⟩
    split
    · next ht =>
      rw [if_pos fun hn => hd (Or.inr (Or.inl ⟨ht, hn⟩))]
      exact ⟨rfl, rfl, rfl, rfl⟩
    split
    · next ht =>
      rw [if_pos fun hn => hd (Or.inr (Or.inr (Or.inl ⟨ht, hn⟩)))]
      exact ⟨rfl, rfl, rfl, rfl⟩
    split
    · next ht =>
      split
      · exact ⟨rfl, rfl, rfl, rfl⟩
      · next hz =>
        rw [if_pos (not_not.mp fun hcap => hd (Or.inr (Or.inr (Or.inr ⟨ht, hz, hcap⟩))))]
        exact ⟨rfl, rfl, rfl, rfl⟩
    · exact ⟨rfl, rfl, rfl, rfl⟩

/-- A length that the type may not have is not dispatched. -/
theorem receiveFrame_rejects {t m l : UInt8} (hd : ¬DecodesLength cfg t (be16 m l))
    (pl : List UInt8) (p : ProtocolTlv η) (src : AppInputSource) :
    (protocolTlvReceiveFrame cfg p src (t :: m :: l :: pl)).2 = none :=
  (receiveFrame_refuses (fun h => hd h.1) p src).silent

/-- **The second validator accepts what the first accepted.** A well-formed
frame passes every check of `protocol_tlv_receive_frame`, in every build. -/
theorem receiveFrame_wellFormed {f : List UInt8} (hf : WellFormedFrame cfg f)
    (p : ProtocolTlv η) (src : AppInputSource) :
    Forwarded p (protocolTlvReceiveFrame cfg p src f).1 (protocolTlvReceiveFrame cfg p src f).2
      { source := src, payload := decodeFrame f } := by
  obtain ⟨t, m, l, pl, rfl⟩ := hf.split
  exact receiveFrame_accepts (lengthSane_iff_decodesLength.mp hf.2.1).2.1 hf.2.2 p src

/-- The tag of a decoded payload is the type byte it was decoded under. -/
theorem decodePayload_type {t : UInt8} (ht : protocolTlvTypeIsValid t = true) (pl : List UInt8) :
    (decodePayload t pl).type = t := by
  rcases protocolTlvTypeIsValid_iff.mp ht with rfl | rfl | rfl | rfl <;> rfl

/-- A decodable length within the limit is one the stream accepts too, unless
it is audio's in a build without. -/
theorem DecodesLength.sane_or {t : UInt8} {n : UInt16} (hd : DecodesLength cfg t n)
    (hmax : n.toNat ≤ cfg.appTlvMaxPayload) :
    LengthSane cfg t n ∨ t = protocolEventMicrophone ∧ cfg.appEnableUsbAudio = false := by
  by_cases h : t = protocolEventMicrophone → cfg.appEnableUsbAudio = true
  · exact Or.inl (lengthSane_iff_decodesLength.mpr ⟨hmax, hd, h⟩)
  · rw [Classical.not_imp, Bool.not_eq_true] at h
    exact Or.inr h

/-- No stream delivers audio in a build without. -/
theorem WellFormedFrame.not_microphone (haudio : cfg.appEnableUsbAudio = false) {g : List UInt8}
    (hg : WellFormedFrame cfg g) {m l : UInt8} {pl : List UInt8} :
    decodeFrame g ≠ decodeFrame (protocolEventMicrophone :: m :: l :: pl) := by
  match g, hg with
  | t :: m' :: l' :: pl', ⟨ht, hs, _⟩ =>
    intro heq
    have htype := congrArg ProtocolPayload.type heq
    rw [show decodeFrame (t :: m' :: l' :: pl') = decodePayload t pl' from rfl,
      decodePayload_type ht] at htype
    have hon := (lengthSane_iff_decodesLength.mp hs).2.2 htype
    rw [haudio] at hon
    cases hon

/-! ## Where the frames lie in the input -/

/-- The placed frames sit in `input` behind their sync words, disjoint and
from left to right. -/
structure Placed (input : List UInt8) (placed : List (Nat × List UInt8)) : Prop where
  at_offset : ∀ q ∈ placed, wire q.2 <+: input.drop q.1
  disjoint : placed.Pairwise fun q r => q.1 + (wire q.2).length ≤ r.1

/-- A slicing names the offsets of its frames. -/
theorem Sliced.placed {w : List UInt8} {F : List (List UInt8)} (h : Sliced w F) :
    ∃ placed, F = placed.map Prod.snd ∧ Placed w placed := by
  induction h with
  | tail g => exact ⟨[], rfl, fun q hq => absurd hq (by simp), .nil⟩
  | @frame g f w F _ ih =>
    obtain ⟨placed, hF, hat, hdis⟩ := ih
    refine ⟨(g.length, f) ::
      placed.map (fun q => (g.length + (wire f).length + q.1, q.2)), ?_, ?_, ?_⟩
    · rw [List.map_cons, List.map_map, hF]
      rfl
    · intro q hq
      rcases List.mem_cons.mp hq with rfl | hq
      · rw [List.drop_left]
        exact List.prefix_append _ _
      · obtain ⟨r, hr, rfl⟩ := List.mem_map.mp hq
        dsimp only
        rw [← List.append_assoc, ← List.length_append, List.drop_append]
        simp only [Nat.add_sub_cancel_left, List.drop_of_length_le (Nat.le_add_right _ _),
          List.nil_append]
        exact hat r hr
    · refine List.pairwise_cons.mpr ⟨?_, ?_⟩
      · intro q hq
        obtain ⟨r, -, rfl⟩ := List.mem_map.mp hq
        exact Nat.le_add_right _ _
      · refine List.pairwise_map.mpr (hdis.imp ?_)
        intro q r hqr
        dsimp only
        omega

/-- The fields of a well-formed frame, one by one. -/
theorem WellFormedFrame.fields {f : List UInt8} (hf : WellFormedFrame cfg f) :
    ∃ t m l p, f = t :: m :: l :: p ∧ protocolTlvTypeIsValid t = true ∧
      f.length = 3 + (m.toNat * 256 + l.toNat) ∧ LengthSane cfg t (be16 m l) := by
  obtain ⟨t, m, l, p, rfl⟩ := hf.split
  obtain ⟨ht, hs, hlen⟩ := hf
  refine ⟨t, m, l, p, rfl, ht, ?_, hs⟩
  simp only [List.length_cons, hlen, be16_toNat]
  omega

/-- **Soundness of the stream parser and agreement of the validators.** For
any input in any chunking, the callback frames are slices of the input behind
`D5 AA`, disjoint and in order; each has a valid type, the length its header
announces and one that `tlv_length_is_sane` accepts; and each one, handed to
`protocol_tlv_receive_frame` with a handler installed, dispatches one event
and counts once. -/
theorem tlvStreamFeedAll_sound (cfg : Config) (cb : κ) (src : AppInputSource)
    (chunks : List (List UInt8)) :
    (∃ placed : List (Nat × List UInt8),
      (tlvStreamFeedAll (tlvStreamInit cfg (some cb) src) chunks).2.map CallbackCall.frame
        = placed.map Prod.snd ∧ Placed chunks.flatten placed) ∧
    ∀ c ∈ (tlvStreamFeedAll (tlvStreamInit cfg (some cb) src) chunks).2,
      (c.callback = cb ∧ c.source = src) ∧
      (∃ t m l payload, c.frame = t :: m :: l :: payload ∧ protocolTlvTypeIsValid t = true ∧
        c.frame.length = 3 + (m.toNat * 256 + l.toNat) ∧ LengthSane cfg t (be16 m l)) ∧
      ∀ (p : ProtocolTlv η) (h : η) (from' : AppInputSource), p.handler = some h →
        (protocolTlvReceiveFrame cfg p from' c.frame).2
          = some (h, { source := from', payload := decodeFrame c.frame }) ∧
        (protocolTlvReceiveFrame cfg p from' c.frame).1.app.snapshot.eventsForwarded
          = p.app.snapshot.eventsForwarded + 1 := by
  have hrun := (tlvStreamFeedAll_refines (tlvStreamInit_refines cfg cb src) chunks).1
  obtain ⟨hsliced, hwf⟩ := framer_sliced chunks.flatten (held_nil cfg)
  constructor
  · obtain ⟨placed, hF, hplaced⟩ := hsliced.placed
    refine ⟨placed, ?_, hplaced⟩
    rw [hrun, List.map_map, ← hF]
    exact List.map_id _
  · intro c hc
    rw [hrun] at hc
    obtain ⟨f, hf, rfl⟩ := List.mem_map.mp hc
    refine ⟨⟨rfl, rfl⟩, (hwf f hf).fields, ?_⟩
    intro p h from' hh
    obtain ⟨hout, happ, -⟩ := receiveFrame_wellFormed (hwf f hf) p from'
    dsimp only
    refine ⟨?_, ?_⟩
    · rw [hout, dispatchEvent, hh]
      rfl
    · rw [happ, appStateNoteEvent_eventsForwarded]

/-- A mouse frame behind a broken one, cut in the middle: it is called back
with, and it is forwarded. -/
theorem tlvStreamFeedAll_sound_mouse :
    let p := protocolTlvInit (ProtocolTlv.boot (Stream'.const 0)) (some ())
    let frame : List UInt8 := [2, 0, 5, 1, 3, 0xFF, 0, 0]
    (∃ c ∈ (tlvStreamFeedAll (tlvStreamInit Config.shipped (some ()) .uart)
        [[0xD5, 0xAA, 1, 0, 9, 0xD5], 0xAA :: frame]).2, c.frame = frame) ∧
    (protocolTlvReceiveFrame Config.shipped p .uart frame).1.app.snapshot.eventsForwarded = 1 := by
  intro p frame
  have hcall : (tlvStreamFeedAll (tlvStreamInit Config.shipped (some ()) .uart)
      [[0xD5, 0xAA, 1, 0, 9, 0xD5], 0xAA :: frame]).2 = [⟨(), .uart, frame⟩] := by
    rw [(tlvStreamFeedAll_refines (tlvStreamInit_refines _ _ _) _).1]
    decide
  have hmem := List.mem_of_mem_head? (congrArg List.head? hcall)
  have h := (tlvStreamFeedAll_sound (η := Unit) Config.shipped () .uart _).2 _ hmem
  exact ⟨⟨_, hmem, rfl⟩, (h.2.2 p () .uart rfl).2⟩

end CaptureKVMBridge.Tlv
