import CaptureKVMBridge.Tlv.Resync
import CaptureKVMBridge.Tlv.RoundTrip

/-!
# `network_transport.c`: frames in datagrams

One iteration of `udp_listener_task` against the stream parser on the same
bytes. The listener checks the header itself and leaves the type's own length
rule to `protocol_tlv_receive_frame`; the stream applies both at once.

`udpMatchesSerial_iff` says for which datagrams the two ingress paths agree.
They part in four places, one for each disjunct of `UdpDiffers`: the buffer is
two bytes short of the largest datagram the listener's own limit admits, so
such a datagram is cut and dropped, and a cut datagram can look complete; the
listener does not ask whether audio is compiled in; and the stream looks for
frames behind a header it rejects.

Mirroring notes:
- `recvfrom` is the call and nothing of lwIP: the first bytes of the datagram
  are written over the start of the buffer, whose rest is stale.
- The socket set-up and the log lines are left out.
-/

namespace CaptureKVMBridge.Net

open CaptureKVMBridge.Machine CaptureKVMBridge.Tlv

variable {cfg : Config} {κ η : Type}

/-! ## The listener -/

/-- `uint8_t buffer[CONFIG_APP_TLV_MAX_PAYLOAD + 3]`. -/
abbrev UdpBuffer (cfg : Config) := Vector UInt8 (cfg.appTlvMaxPayload + 3)

/-- What `recvfrom` finds: an error (`EINTR` or another), or a datagram. -/
inductive UdpReceive where
  | error
  | datagram (d : List UInt8)

/-- `recvfrom(sock, buffer, sizeof(buffer), ..)` on a datagram: the buffer and
the length it returns. -/
def recvfrom {n : Nat} (buffer : Vector UInt8 n) (d : List UInt8) : Vector UInt8 n × Nat :=
  (⟨(d.take n ++ buffer.toList.drop (d.take n).length).toArray, by
      simp only [List.size_toArray, List.length_append, List.length_take, List.length_drop,
        Vector.length_toList]
      omega⟩,
    min d.length n)

/-- One iteration of the loop of `udp_listener_task`. -/
def udpListenerIteration (callback : Option κ) (buffer : UdpBuffer cfg) :
    UdpReceive → UdpBuffer cfg × Option (CallbackCall κ)
  | .error => (buffer, none)
  | .datagram d =>
    let buffer' := (recvfrom buffer d).1
    let len := (recvfrom buffer d).2
    let bytes := buffer'.toList
    let payloadLen := be16 (bytes.getD 3 0) (bytes.getD 4 0)
    if len < 5 then (buffer', none)
    else if bytes.getD 0 0 ≠ protocolTlvSync0 ∨ bytes.getD 1 0 ≠ protocolTlvSync1 then
      (buffer', none)
    else if protocolTlvTypeIsValid (bytes.getD 2 0) = false then (buffer', none)
    else if payloadLen.toNat > cfg.appTlvMaxPayload then (buffer', none)
    else if len ≠ payloadLen.toNat + 5 then (buffer', none)
    else
      (buffer', callback.map fun cb =>
        { callback := cb
          source := .network
          frame := (bytes.drop 2).take (payloadLen.toNat + 3) })

@[simp] theorem recvfrom_toList {n : Nat} (buffer : Vector UInt8 n) (d : List UInt8) :
    (recvfrom buffer d).1.toList = d.take n ++ buffer.toList.drop (d.take n).length := rfl

/-- **What one iteration calls back with**: it depends on the received bytes
only, never on what an earlier datagram left in the buffer. -/
theorem udpListenerIteration_call (cb : κ) (buffer : UdpBuffer cfg) {d : List UInt8}
    {s0 s1 t m l : UInt8} {pl : List UInt8}
    (hd : d.take (cfg.appTlvMaxPayload + 3) = s0 :: s1 :: t :: m :: l :: pl) :
    (udpListenerIteration (some cb) buffer (.datagram d)).2
      = if (s0 = protocolTlvSync0 ∧ s1 = protocolTlvSync1) ∧ protocolTlvTypeIsValid t = true ∧
          (be16 m l).toNat ≤ cfg.appTlvMaxPayload ∧ pl.length = (be16 m l).toNat then
          some { callback := cb, source := .network, frame := t :: m :: l :: pl }
        else none := by
  have hlen : min d.length (cfg.appTlvMaxPayload + 3) = pl.length + 5 := by
    have h := congrArg List.length hd
    rw [List.length_take, Nat.min_comm] at h
    simpa using h
  unfold udpListenerIteration
  dsimp only
  rw [recvfrom_toList, hd]
  simp only [List.cons_append, List.getD_cons_zero, List.getD_cons_succ]
  rw [if_neg (by rw [show (recvfrom buffer d).2 = _ from hlen]; omega)]
  by_cases hsync : s0 ≠ protocolTlvSync0 ∨ s1 ≠ protocolTlvSync1
  · rw [if_pos hsync, if_neg fun h => ?_]
    exact hsync.elim (fun h0 => h0 h.1.1) fun h1 => h1 h.1.2
  rw [if_neg hsync]
  rw [not_or, not_not, not_not] at hsync
  by_cases ht : protocolTlvTypeIsValid t = false
  · rw [if_pos ht, if_neg fun h => by rw [h.2.1] at ht; cases ht]
  rw [if_neg ht]
  by_cases hmax : (be16 m l).toNat > cfg.appTlvMaxPayload
  · rw [if_pos hmax, if_neg fun h => by omega]
  rw [if_neg hmax]
  by_cases hn : pl.length = (be16 m l).toNat
  · rw [if_neg (by rw [show (recvfrom buffer d).2 = _ from hlen]; omega),
      if_pos ⟨hsync, Bool.not_eq_false _ |>.mp ht, by omega, hn⟩]
    simp only [List.drop_succ_cons, List.drop_zero, List.take_succ_cons, Option.map_some, ← hn,
      List.take_left]
  · rw [if_pos (by rw [show (recvfrom buffer d).2 = _ from hlen]; omega), if_neg fun h => hn h.2.2.2]

/-- A datagram without a whole header is dropped. -/
theorem udpListenerIteration_short (cb : κ) (buffer : UdpBuffer cfg) {d : List UInt8}
    (hd : d.length < 5) : (udpListenerIteration (some cb) buffer (.datagram d)).2 = none := by
  unfold udpListenerIteration
  dsimp only
  rw [if_pos (show (recvfrom buffer d).2 < 5 by simp only [recvfrom]; omega)]

/-! ## The two ingress paths -/

/-- What the handler is given by one iteration of the listener on a datagram. -/
def udpLog (buffer : UdpBuffer cfg) (p : ProtocolTlv η) (d : List UInt8) :
    List (η × ProtocolEvent) :=
  (runCalls (udpListenerIteration (some (protocolTlvReceiveFrame cfg)) buffer
    (.datagram d)).2.toList p).2

/-- What the handler is given when the same bytes are fed to a fresh stream. -/
def serialLog (cfg : Config) (src : AppInputSource) (p : ProtocolTlv η) (d : List UInt8) :
    List (η × ProtocolEvent) :=
  (runCalls (tlvStreamFeed (tlvStreamInit cfg (some (protocolTlvReceiveFrame cfg)) src) d).2 p).2

/-- A sync word, a header, and as many bytes as the header says. -/
def OneSyncFrame : List UInt8 → Prop
  | s0 :: s1 :: _ :: m :: l :: pl =>
    s0 = protocolTlvSync0 ∧ s1 = protocolTlvSync1 ∧ pl.length = (be16 m l).toNat
  | _ => False

/-- Such a datagram has a sync word and a header. -/
theorem OneSyncFrame.split {d : List UInt8} (h : OneSyncFrame d) :
    ∃ t m l pl, d = wire (t :: m :: l :: pl) := by
  match d, h with
  | s0 :: s1 :: t :: m :: l :: pl, ⟨h0, h1, _⟩ =>
    rw [h0, h1]
    exact ⟨t, m, l, pl, rfl⟩

/-- The two paths treat a datagram alike: over UDP it is dispatched as an event
if and only if it is one frame and the stream dispatches that one event. -/
def UdpMatchesSerial (buffer : UdpBuffer cfg) (src : AppInputSource) (p : ProtocolTlv η) (h : η)
    (d : List UInt8) : Prop :=
  ∀ e : ProtocolPayload,
    udpLog buffer (protocolTlvInit p (some h)) d = [(h, { source := .network, payload := e })] ↔
      OneSyncFrame d ∧
      serialLog cfg src (protocolTlvInit p (some h)) d = [(h, { source := src, payload := e })]

/-- The datagrams on which the two paths part. -/
inductive UdpDiffers (cfg : Config) : List UInt8 → Prop
  /-- a whole frame that the stream accepts, longer than the buffer -/
  | clipped {f : List UInt8} (hf : WellFormedFrame cfg f)
      (hlong : cfg.appTlvMaxPayload + 3 < (wire f).length) : UdpDiffers cfg (wire f)
  /-- such a frame with bytes behind it that fall off the end of the buffer -/
  | trailing {f x : List UInt8} (hf : WellFormedFrame cfg f)
      (hfull : (wire f).length = cfg.appTlvMaxPayload + 3) (hx : x ≠ []) :
      UdpDiffers cfg (wire f ++ x)
  /-- audio that nobody compiled in -/
  | unasked {m l : UInt8} {pl x : List UInt8} (haudio : cfg.appEnableUsbAudio = false)
      (hd : DecodesLength cfg protocolEventMicrophone (be16 m l))
      (hlen : pl.length = (be16 m l).toNat)
      (hx : x = [] ∧ (wire (protocolEventMicrophone :: m :: l :: pl)).length
          ≤ cfg.appTlvMaxPayload + 3 ∨
        (wire (protocolEventMicrophone :: m :: l :: pl)).length = cfg.appTlvMaxPayload + 3) :
      UdpDiffers cfg (wire (protocolEventMicrophone :: m :: l :: pl) ++ x)
  /-- a frame with a rejected header whose bytes carry a frame of their own -/
  | nested {f g : List UInt8} (hone : OneSyncFrame (wire f)) (hf : ¬WellFormedFrame cfg f)
      (hg : Carries cfg (wire f) [g]) : UdpDiffers cfg (wire f)

/-! ## What each path dispatches -/

section Logs

variable (buffer : UdpBuffer cfg) (p : ProtocolTlv η) (h : η) (e : ProtocolPayload)

/-- Over UDP: the received bytes are one frame with a length that the decoder
accepts for its type. -/
theorem udpLog_wire_iff {d : List UInt8} {t m l : UInt8} {pl : List UInt8}
    (hd : d.take (cfg.appTlvMaxPayload + 3) = wire (t :: m :: l :: pl)) :
    udpLog buffer (protocolTlvInit p (some h)) d = [(h, { source := .network, payload := e })] ↔
      (DecodesLength cfg t (be16 m l) ∧ (be16 m l).toNat ≤ cfg.appTlvMaxPayload ∧
        pl.length = (be16 m l).toNat) ∧ e = decodeFrame (t :: m :: l :: pl) := by
  unfold udpLog
  rw [udpListenerIteration_call _ buffer hd]
  by_cases hd : DecodesLength cfg t (be16 m l) ∧ (be16 m l).toNat ≤ cfg.appTlvMaxPayload ∧
      pl.length = (be16 m l).toNat
  · obtain ⟨hdec, hmax, hlen⟩ := hd
    have hrecv := receiveFrame_accepts hdec hlen (protocolTlvInit p (some h)) .network
    rw [if_pos ⟨⟨rfl, rfl⟩, hdec.valid, hmax, hlen⟩, Option.toList_some, runCalls]
    dsimp only [runCalls]
    rw [hrecv.dispatched]
    simp only [dispatchEvent, protocolTlvInit, Option.map_some, Option.toList_some, List.append_nil,
      List.cons.injEq, and_true, Prod.mk.injEq, true_and, ProtocolEvent.mk.injEq]
    exact ⟨fun he => ⟨⟨hdec, hmax, hlen⟩, he.symm⟩, fun he => he.2.symm⟩
  · refine iff_of_false ?_ fun he => hd he.1
    split
    · next hok =>
      rw [Option.toList_some, runCalls]
      dsimp only [runCalls]
      rw [receiveFrame_rejects fun hdec => hd ⟨hdec, hok.2.2⟩]
      exact (List.cons_ne_nil _ _).symm
    · exact (List.cons_ne_nil _ _).symm

/-- Without a sync word and a header nothing is dispatched over UDP. -/
theorem udpLog_not_wire {d : List UInt8} (hd : ¬∃ t m l pl, d = wire (t :: m :: l :: pl)) :
    udpLog buffer p d = [] := by
  unfold udpLog
  match d with
  | s0 :: s1 :: t :: m :: l :: pl =>
    have htake : (s0 :: s1 :: t :: m :: l :: pl).take (cfg.appTlvMaxPayload + 3)
        = s0 :: s1 :: t :: m :: l :: pl.take (cfg.appTlvMaxPayload - 2) := by
      have hmin := cfg.maxPayload_ge
      obtain ⟨k, hk⟩ : ∃ k, cfg.appTlvMaxPayload = k + 2 := ⟨cfg.appTlvMaxPayload - 2, by omega⟩
      rw [hk]
      rfl
    rw [udpListenerIteration_call _ buffer htake, if_neg]
    · rfl
    · intro hok
      obtain ⟨⟨rfl, rfl⟩, -⟩ := hok
      exact hd ⟨t, m, l, pl, rfl⟩
  | [] | [_] | [_, _] | [_, _, _] | [_, _, _, _] =>
    rw [udpListenerIteration_short _ _ (by simp)]
    rfl

/-- From a stream: the bytes carry one frame. -/
theorem serialLog_iff (src : AppInputSource) (d : List UInt8) :
    serialLog cfg src (protocolTlvInit p (some h)) d = [(h, { source := src, payload := e })] ↔
      ∃ g, (WellFormedFrame cfg g ∧ Carries cfg d [g]) ∧ e = decodeFrame g := by
  have hinit := tlvStreamInit_refines cfg (protocolTlvReceiveFrame (η := η) cfg) src
  have hwf := (framer_sliced d (held_nil cfg)).2
  have hlog : serialLog cfg src (protocolTlvInit p (some h)) d
      = (outputs (framerStep cfg) [] d).map
          fun f => (h, { source := src, payload := decodeFrame f }) := by
    unfold serialLog
    rw [tlvStreamFeed_eq, run_eq, (feedByte_run_refines hinit d).1,
      runCalls_receive cfg (h := h) _ rfl ?_, List.map_map]
    · rfl
    · intro c hc
      obtain ⟨f, hf, rfl⟩ := List.mem_map.mp hc
      exact ⟨rfl, hwf f hf⟩
  rw [hlog]
  constructor
  · intro hone
    obtain ⟨g, hg, heq⟩ := List.map_eq_singleton_iff.mp hone
    refine ⟨g, ⟨hwf g (by simp [hg]), carries_iff.mpr hg⟩, ?_⟩
    simp only [Prod.mk.injEq, ProtocolEvent.mk.injEq, true_and] at heq
    exact heq.symm
  · intro hcarried
    obtain ⟨g, ⟨-, hg⟩, rfl⟩ := hcarried
    rw [carries_iff.mp hg]
    rfl

end Logs

/-! ## When the two agree -/

/-- The bytes that a datagram leaves in the buffer, behind its header. -/
theorem take_wire {n : Nat} (hn : 2 ≤ n) (t m l : UInt8) (pl : List UInt8) :
    (wire (t :: m :: l :: pl)).take (n + 3) = wire (t :: m :: l :: pl.take (n - 2)) := by
  obtain ⟨k, rfl⟩ : ∃ k, n = k + 2 := ⟨n - 2, by omega⟩
  rfl

section Agreement

variable (buffer : UdpBuffer cfg) (src : AppInputSource) (p : ProtocolTlv η) (h : η)

/-- On each of the four kinds of datagram the two paths part. -/
theorem UdpDiffers.not_matches {d : List UInt8} (hd : UdpDiffers cfg d) :
    ¬UdpMatchesSerial buffer src p h d := by
  have hmin := cfg.maxPayload_ge
  intro hmatch
  cases hd with
  | @clipped f hf hlong =>
    obtain ⟨t, m, l, pl, rfl⟩ := hf.split
    have hlen := hf.2.2
    have hserial := (serialLog_iff p h (decodeFrame (t :: m :: l :: pl)) src _).mpr
      ⟨t :: m :: l :: pl, ⟨hf, carries_iff.mpr (congrArg Prod.snd (framer_wire hf))⟩, rfl⟩
    have hudp := (hmatch _).mpr ⟨⟨rfl, rfl, hlen⟩, hserial⟩
    rw [udpLog_wire_iff buffer p h _ (take_wire (by omega) t m l pl)] at hudp
    -- the bytes that are left are fewer than the header says
    have hshort := hudp.1.2.2
    rw [List.length_take, ← hlen] at hshort
    simp only [wire, List.length_cons] at hlong
    omega
  | @trailing f x hf hfull hx =>
    obtain ⟨t, m, l, pl, rfl⟩ := hf.split
    obtain ⟨-, hs, hlen⟩ := hf
    obtain ⟨hmax, hdec, -⟩ := lengthSane_iff_decodesLength.mp hs
    have htake : (wire (t :: m :: l :: pl) ++ x).take (cfg.appTlvMaxPayload + 3)
        = wire (t :: m :: l :: pl) := by rw [← hfull, List.take_left]
    have hudp := (udpLog_wire_iff buffer p h _ htake).mpr ⟨⟨hdec, hmax, hlen⟩, rfl⟩
    -- the listener takes it, but the datagram is longer than one frame
    have hone : (pl ++ x).length = (be16 m l).toNat := ((hmatch _).mp hudp).1.2.2
    rw [List.length_append, hlen] at hone
    exact hx (List.length_eq_zero_iff.mp (by omega))
  | @unasked m l pl x haudio hdec hlen hx =>
    have htake : (wire (protocolEventMicrophone :: m :: l :: pl) ++ x).take
        (cfg.appTlvMaxPayload + 3) = wire (protocolEventMicrophone :: m :: l :: pl) := by
      rcases hx with ⟨rfl, hfit⟩ | hfull
      · rw [List.append_nil, List.take_of_length_le hfit]
      · rw [← hfull, List.take_left]
    have hmax : (be16 m l).toNat ≤ cfg.appTlvMaxPayload := by
      have hfit := congrArg List.length htake
      rw [List.length_take] at hfit
      simp only [wire, List.length_cons, hlen] at hfit
      omega
    have hudp := (udpLog_wire_iff buffer p h _ htake).mpr ⟨⟨hdec, hmax, hlen⟩, rfl⟩
    -- the listener takes it, but no stream delivers samples in this build
    obtain ⟨g, ⟨hg, -⟩, heq⟩ := (serialLog_iff p h _ src _).mp ((hmatch _).mp hudp).2
    exact hg.not_microphone haudio heq.symm
  | @nested f g hone hf hg =>
    have hwf : WellFormedFrame cfg g :=
      (framer_sliced (wire f) (held_nil cfg)).2 g (by simp [carries_iff.mp hg])
    have hudp := (hmatch _).mpr ⟨hone, (serialLog_iff p h _ src _).mpr ⟨g, ⟨hwf, hg⟩, rfl⟩⟩
    -- the listener would have to take the frame around it, as audio
    obtain ⟨t, m, l, pl, heqf⟩ := hone.split
    obtain rfl : f = t :: m :: l :: pl := (List.cons.inj (List.cons.inj heqf).2).2
    rw [udpLog_wire_iff buffer p h _ (take_wire (by omega) t m l pl)] at hudp
    obtain ⟨⟨hdec, hmax, -⟩, heq⟩ := hudp
    rcases hdec.sane_or hmax with hs | ⟨rfl, haudio⟩
    · exact hf ⟨hdec.valid, hs, hone.2.2⟩
    · exact hwf.not_microphone haudio heq

/-- What is dispatched over UDP is one frame that the stream accepts, unless the
datagram is of one of the four kinds. -/
theorem oneFrame_of_udpLog {t m l : UInt8} {pl : List UInt8} {e : ProtocolPayload}
    (hd : ¬UdpDiffers cfg (wire (t :: m :: l :: pl)))
    (hudp : udpLog buffer (protocolTlvInit p (some h)) (wire (t :: m :: l :: pl))
      = [(h, { source := .network, payload := e })]) :
    WellFormedFrame cfg (t :: m :: l :: pl) ∧ e = decodeFrame (t :: m :: l :: pl) := by
  have hmin := cfg.maxPayload_ge
  have htake := take_wire (n := cfg.appTlvMaxPayload) (by omega) t m l pl
  obtain ⟨⟨hdec, hmax, hlen⟩, he⟩ := (udpLog_wire_iff buffer p h e htake).mp hudp
  set q := pl.take (cfg.appTlvMaxPayload - 2) with hq
  set x := pl.drop (cfg.appTlvMaxPayload - 2) with hx
  have hpl : q ++ x = pl := List.take_append_drop _ _
  have hsplit : wire (t :: m :: l :: pl) = wire (t :: m :: l :: q) ++ x := by
    rw [← hpl]
    rfl
  rw [hsplit] at hd
  by_cases hnil : x = []
  · rw [hnil, List.append_nil] at hpl hd
    rw [hpl] at hlen he hd
    rcases hdec.sane_or hmax with hs | ⟨rfl, haudio⟩
    · exact ⟨⟨hdec.valid, hs, hlen⟩, he⟩
    · have hfit : pl.length ≤ cfg.appTlvMaxPayload - 2 := List.drop_eq_nil_iff.mp hnil
      refine absurd (UdpDiffers.unasked (x := []) haudio hdec hlen (Or.inl ⟨rfl, ?_⟩)) ?_
      · simp only [wire, List.length_cons]
        omega
      · rwa [List.append_nil]
  · -- bytes fell off: the frame that was received fills the buffer
    have hlong : cfg.appTlvMaxPayload - 2 < pl.length := by
      by_contra hle
      exact hnil (List.drop_eq_nil_iff.mpr (by omega))
    have hfull : (wire (t :: m :: l :: q)).length = cfg.appTlvMaxPayload + 3 := by
      simp only [wire, List.length_cons, hq, List.length_take]
      omega
    rcases hdec.sane_or hmax with hs | ⟨rfl, haudio⟩
    · have hf : WellFormedFrame cfg (t :: m :: l :: q) := ⟨hdec.valid, hs, hlen⟩
      exact absurd (UdpDiffers.trailing hf hfull hnil) hd
    · exact absurd (UdpDiffers.unasked haudio hdec hlen (Or.inr hfull)) hd

/-- On all other datagrams they agree. -/
theorem udpMatchesSerial_of_not_differs {d : List UInt8} (hd : ¬UdpDiffers cfg d) :
    UdpMatchesSerial buffer src p h d := by
  have hmin := cfg.maxPayload_ge
  intro e
  by_cases hwire : ∃ t m l pl, d = wire (t :: m :: l :: pl)
  · obtain ⟨t, m, l, pl, rfl⟩ := hwire
    constructor
    · intro hudp
      obtain ⟨hf, he⟩ := oneFrame_of_udpLog buffer p h hd hudp
      refine ⟨⟨rfl, rfl, hf.2.2⟩, (serialLog_iff p h e src _).mpr ⟨_, ⟨hf, ?_⟩, he⟩⟩
      exact carries_iff.mpr (congrArg Prod.snd (framer_wire hf))
    · intro hboth
      obtain ⟨hone, hserial⟩ := hboth
      obtain ⟨g, ⟨-, hg⟩, rfl⟩ := (serialLog_iff p h e src _).mp hserial
      have hf : WellFormedFrame cfg (t :: m :: l :: pl) := by
        by_contra hf
        exact hd (.nested hone hf hg)
      obtain rfl : t :: m :: l :: pl = g := by
        have hout := carries_iff.mp hg
        rw [show outputs (framerStep cfg) [] (wire (t :: m :: l :: pl)) = _ from
          congrArg Prod.snd (framer_wire hf)] at hout
        exact (List.cons.inj hout).1
      have hfit : (wire (t :: m :: l :: pl)).length ≤ cfg.appTlvMaxPayload + 3 := by
        by_contra hlong
        exact hd (.clipped hf (by omega))
      obtain ⟨hmax, hdec, -⟩ := lengthSane_iff_decodesLength.mp hf.2.1
      exact (udpLog_wire_iff buffer p h _ (List.take_of_length_le hfit)).mpr
        ⟨⟨hdec, hmax, hf.2.2⟩, rfl⟩
  · refine iff_of_false ?_ fun hrhs => hwire hrhs.1.split
    rw [udpLog_not_wire buffer _ hwire]
    exact (List.cons_ne_nil _ _).symm

/-- **When UDP and serial accept the same**: on every datagram but the four
kinds of `UdpDiffers`, and on those they do not. -/
theorem udpMatchesSerial_iff (d : List UInt8) :
    UdpMatchesSerial buffer src p h d ↔ ¬UdpDiffers cfg d :=
  ⟨fun hmatch hd => hd.not_matches buffer src p h hmatch,
    udpMatchesSerial_of_not_differs buffer src p h⟩

end Agreement

/-- A build with audio, as shipped, and the least payload limit. -/
def smallAudio : Config :=
  { Config.minimal with appEnableUsbAudio := true, uac := Config.shipped.uac }

/-- Silence on the wire, `n` bytes of it. -/
def silence (n : Nat) : List UInt8 :=
  wire (protocolEventMicrophone :: 0 :: UInt8.ofNat n :: List.replicate n 0)

/-- 64 bytes of samples where 64 is the limit: the stream takes them, the
listener does not. A byte behind 62 bytes of samples: the listener takes them
although they are not the whole datagram. Samples in a build without audio:
the listener takes them, the stream does not. -/
theorem udp_differs_from_serial :
    let p : ProtocolTlv Unit := ProtocolTlv.boot (Stream'.const 0)
    ¬UdpMatchesSerial (Vector.replicate _ 0 : UdpBuffer smallAudio) .usbJtag p () (silence 64) ∧
    ¬UdpMatchesSerial (Vector.replicate _ 0 : UdpBuffer smallAudio) .usbJtag p ()
      (silence 62 ++ [0]) ∧
    ¬UdpMatchesSerial (Vector.replicate _ 0 : UdpBuffer Config.minimal) .usbJtag p ()
      (silence 2) := by
  intro p
  refine ⟨?_, ?_, ?_⟩
  · have hf : WellFormedFrame smallAudio (3 :: 0 :: 64 :: List.replicate 64 0) := by decide
    exact (UdpDiffers.clipped hf (by decide)).not_matches _ _ _ _
  · have hf : WellFormedFrame smallAudio (3 :: 0 :: 62 :: List.replicate 62 0) := by decide
    have hdiff := UdpDiffers.trailing hf (by decide) (List.cons_ne_nil 0 [])
    exact hdiff.not_matches _ _ _ _
  · have hd : DecodesLength Config.minimal protocolEventMicrophone (be16 0 2) :=
      Or.inr (Or.inr (Or.inr ⟨rfl, by decide, by decide⟩))
    have hlen : ([0, 0] : List UInt8).length = (be16 0 2).toNat := rfl
    have hdiff := UdpDiffers.unasked (x := []) rfl hd hlen (Or.inl ⟨rfl, by decide⟩)
    exact hdiff.not_matches _ _ _ _

end CaptureKVMBridge.Net
