import CaptureKVMBridge.Firmware.Boot
import CaptureKVMBridge.Machine.Merge

/-!
# From the transports to the handlers

Two logs, each merged from the three transports: the events given to the handler,
from the frames that the transports deliver, and those handled, from the events
given. `frames_relayed` puts together what every run of the firmware makes of
them: nothing is lost, invented, repeated or tagged with a source it is not from,
and of one transport nothing is overtaken; only between transports there is a
choice.

The steps that matter are those of the callbacks; `Leaves` says what the others
leave alone.
-/

namespace CaptureKVMBridge.Firmware

open CaptureKVMBridge.Machine CaptureKVMBridge.Tlv CaptureKVMBridge.Usb CaptureKVMBridge.Display
open Net (NetworkConfig UdpBuffer)

variable {cfg : Config} {net : NetworkConfig} {w : World cfg}

/-! ## Frames and events -/

instance (cfg : Config) (type : UInt8) (length : UInt16) :
    Decidable (DecodesLength cfg type length) := by
  unfold DecodesLength
  infer_instance

/-- The event that a frame is decoded to, if its length is one that its type may
have. -/
def frameEvent (cfg : Config) (c : CallbackCall FrameCallback) : Option ProtocolEvent :=
  match c.frame with
  | t :: m :: l :: pl =>
    if DecodesLength cfg t (be16 m l) ∧ pl.length = (be16 m l).toNat then
      some { source := c.source, payload := decodeFrame (t :: m :: l :: pl) }
    else none
  | _ => none

theorem frameEvent_source {c : CallbackCall FrameCallback} {e : ProtocolEvent}
    (h : frameEvent cfg c = some e) : e.source = c.source := by
  unfold frameEvent at h
  split at h
  · split at h
    · cases h
      rfl
    · cases h
  · cases h

/-- **What receiving a frame does**, with a handler installed. -/
theorem receiveFrame_event (cfg : Config) {p : ProtocolTlv EventHandler}
    (hp : p.handler = some .handleProtocolEvent) (c : CallbackCall FrameCallback) :
    (protocolTlvReceiveFrame cfg p c.source c.frame).2
      = (frameEvent cfg c).map (EventHandler.handleProtocolEvent, ·) := by
  unfold frameEvent
  match c.frame with
  | t :: m :: l :: pl =>
    dsimp only
    split
    next hd =>
      have hf := receiveFrame_accepts hd.1 hd.2 p c.source
      rw [hf.dispatched, dispatchEvent, hp]
      rfl
    next hd => exact (receiveFrame_refuses hd p c.source).silent
  | [] | [_] | [_, _] => rfl

/-- A frame that a stream delivers is always an event. -/
theorem frameEvent_wellFormed {c : CallbackCall FrameCallback}
    (h : WellFormedFrame cfg c.frame) :
    frameEvent cfg c = some { source := c.source, payload := decodeFrame c.frame } := by
  obtain ⟨t, m, l, pl, hf⟩ := h.split
  rw [hf] at h
  unfold frameEvent
  rw [hf]
  exact if_pos ⟨(lengthSane_iff_decodesLength.mp h.2.1).2.1, h.2.2⟩

/-! ## The two logs -/

instance : Fintype Transport where
  elems := {.network, .serial, .uart}
  complete t := by cases t <;> simp

theorem Transport.source_injective : Function.Injective Transport.source := by
  intro t u h
  cases t <;> cases u <;> first | rfl | cases h

/-- What a transport has delivered so far. -/
def World.deliveredBy (w : World cfg) : Transport → List (CallbackCall FrameCallback)
  | .network => w.network.delivered
  | .serial => match w.serial with
    | none => []
    | some s => s.delivered
  | .uart => match w.uart with
    | none => []
    | some u => u.delivered.map Uart.Delivery.call

/-- The events among the frames that a transport has delivered. -/
def World.eventsOf (w : World cfg) (t : Transport) : List ProtocolEvent :=
  (w.deliveredBy t).filterMap (frameEvent cfg)

/-- The event that a task has noted, and not dispatched. -/
def Courier.noted (c : Courier) : List ProtocolEvent :=
  match c.handler with
  | some (.dispatchEvent event) => [event]
  | some (.usbHsHandle _) | some (.markFeatureUsage _) | none => []

/-- The events that a task has not dispatched yet. -/
def World.undispatched (w : World cfg) (t : Transport) : List ProtocolEvent :=
  (w.courier t).noted ++ (w.courier t).calls.filterMap (frameEvent cfg)

/-- The event that a task has in the handler, and is not handled. -/
def Courier.unhandled (c : Courier) : List ProtocolEvent :=
  match c.handler with
  | some (.usbHsHandle event) => [event]
  | some (.dispatchEvent _) | some (.markFeatureUsage _) | none => []

def World.unhandled (w : World cfg) (t : Transport) : List ProtocolEvent :=
  (w.courier t).unhandled

/-- The events given to the handler that are from a transport. -/
def World.dispatchedFrom (w : World cfg) : Transport → List ProtocolEvent :=
  ofSource ProtocolEvent.source Transport.source w.dispatched

/-- The events handled that are from a transport. -/
def World.handledFrom (w : World cfg) : Transport → List ProtocolEvent :=
  ofSource ProtocolEvent.source Transport.source w.handled

/-- What is known of the frames that the transports deliver, and will deliver. -/
structure Tagged (w : World cfg) : Prop where
  delivered : ∀ t, ∀ c ∈ w.deliveredBy t,
    c.source = t.source ∧ (t ≠ .network → WellFormedFrame cfg c.frame)
  network : w.network.udpTask.isSome = true → w.network.callback = some .protocolTlvReceiveFrame
  quiet : w.network.udpTask.isSome = false → w.network.delivered = []
  serial : ∀ s, w.serial = some s →
    Serial.Follows (tlvStreamInit cfg (some .protocolTlvReceiveFrame) .usbJtag) s
  uart : ∀ u, w.uart = some u → ∃ held, Refines .protocolTlvReceiveFrame .uart u.stream held

/-- The invariant of the two logs. -/
structure Relays (w : World cfg) : Prop where
  dispatched : Merges ProtocolEvent.source Transport.source w.dispatched w.undispatched w.eventsOf
  handled : Merges ProtocolEvent.source Transport.source w.handled w.unhandled w.dispatchedFrom

/-! ## What the transports' tasks deliver -/

/-- The frames of a stream that holds something a framer can hold. -/
theorem refines_feed {src : AppInputSource} {s : TlvStream cfg FrameCallback} {held : List UInt8}
    (h : Refines .protocolTlvReceiveFrame src s held) (chunk : List UInt8) :
    (∃ held', Refines .protocolTlvReceiveFrame src (tlvStreamFeed s chunk).1 held') ∧
    ∀ c ∈ (tlvStreamFeed s chunk).2, c.source = src ∧ WellFormedFrame cfg c.frame := by
  obtain ⟨hout, hfinal⟩ := feedByte_run_refines h chunk
  have hwf := (framer_sliced chunk h.1.held).2
  rw [tlvStreamFeed_eq]
  refine ⟨⟨_, hfinal⟩, fun c hc => ?_⟩
  rw [show (run tlvStreamFeedByte s chunk).2 = outputs tlvStreamFeedByte s chunk from rfl, hout]
    at hc
  obtain ⟨f, hf, rfl⟩ := List.mem_map.mp hc
  exact ⟨rfl, hwf f hf⟩

/-- **A call of the UART's task** delivers frames of the stream, or nothing. -/
theorem uartTask_delivers {u : Uart.UartWorld cfg FrameCallback}
    (h : ∃ held, Refines .protocolTlvReceiveFrame .uart u.stream held) :
    (∃ held, Refines .protocolTlvReceiveFrame .uart (Uart.uartRxTask u).stream held) ∧
    ∃ new, (Uart.uartRxTask u).delivered.map Uart.Delivery.call
        = u.delivered.map Uart.Delivery.call ++ new ∧
      ∀ c ∈ new, c.source = .uart ∧ WellFormedFrame cfg c.frame := by
  have hquiet : ∀ u' : Uart.UartWorld cfg FrameCallback, u'.stream = u.stream →
      u'.delivered = u.delivered →
      (∃ held, Refines .protocolTlvReceiveFrame .uart u'.stream held) ∧
      ∃ new, u'.delivered.map Uart.Delivery.call = u.delivered.map Uart.Delivery.call ++ new ∧
        ∀ c ∈ new, c.source = .uart ∧ WellFormedFrame cfg c.frame := by
    intro u' hstream hdelivered
    rw [hstream, hdelivered]
    exact ⟨h, [], (List.append_nil _).symm, fun c hc => absurd hc List.not_mem_nil⟩
  obtain ⟨held, hheld⟩ := h
  unfold Uart.uartRxTask
  cases u.task with
  | receive =>
    dsimp only
    split
    · exact hquiet u rfl rfl
    · exact hquiet _ rfl rfl
  | read remaining =>
    dsimp only
    split
    · exact hquiet _ rfl rfl
    · exact hquiet _ rfl rfl
  | feed remaining chunk =>
    obtain ⟨hstream, hcalls⟩ := refines_feed hheld (chunk.map Uart.WireByte.byte)
    refine ⟨hstream, _, ?_, hcalls⟩
    rw [List.map_append, Uart.traced_calls]
  | bufferedLen remaining => exact hquiet _ rfl rfl
  | flushInput => exact hquiet _ rfl rfl
  | queueReset => exact hquiet _ rfl rfl
  | streamReset =>
    have hreset := tlvStreamReset_refines hheld.2.1
    rw [hheld.2.2] at hreset
    exact ⟨⟨[], hreset⟩, [], (List.append_nil _).symm, fun c hc => absurd hc List.not_mem_nil⟩

/-- A call of the serial port's task adds to what is delivered. -/
theorem serialTask_delivers (s : Serial.SerialWorld cfg FrameCallback) (answer : Nat) :
    ∃ new, (Serial.serialRxTask answer s).delivered = s.delivered ++ new := by
  have hcalled := Serial.serialRxTask_called answer s
  generalize Serial.serialRxTask answer s = s' at hcalled ⊢
  cases hcalled with
  | stays => exact ⟨[], (List.append_nil _).symm⟩
  | allocates => exact ⟨[], (List.append_nil _).symm⟩
  | reads => exact ⟨[], (List.append_nil _).symm⟩
  | empties => exact ⟨[], (List.append_nil _).symm⟩
  | feeds chunk => exact ⟨_, rfl⟩

/-- What a serial port that follows its stream has delivered. -/
theorem follows_delivered {s : Serial.SerialWorld cfg FrameCallback}
    (h : Serial.Follows (tlvStreamInit cfg (some .protocolTlvReceiveFrame) .usbJtag) s) :
    ∀ c ∈ s.delivered, c.source = .usbJtag ∧ WellFormedFrame cfg c.frame := by
  intro c hc
  rw [h.frames] at hc
  obtain ⟨f, hf, rfl⟩ := List.mem_map.mp hc
  exact ⟨rfl, (framer_sliced s.fed (held_nil cfg)).2 f hf⟩

/-- A call of the listener adds to what is delivered, if it is there. -/
theorem listener_delivers {n : Net.NetworkWorld cfg FrameCallback}
    (hcb : n.udpTask.isSome = true → n.callback = some .protocolTlvReceiveFrame)
    (a : Net.UdpAnswer) :
    ∃ new, (Net.udpListenerTask n a).delivered = n.delivered ++ new ∧
      (∀ c ∈ new, c.source = .network) ∧ (n.udpTask.isSome = false → new = []) := by
  have hquiet : ∀ n' : Net.NetworkWorld cfg FrameCallback, n'.delivered = n.delivered →
      ∃ new, n'.delivered = n.delivered ++ new ∧
        (∀ c ∈ new, c.source = .network) ∧ (n.udpTask.isSome = false → new = []) := by
    intro n' h
    rw [h]
    exact ⟨[], (List.append_nil _).symm, fun c hc => absurd hc List.not_mem_nil, fun _ => rfl⟩
  unfold Net.udpListenerTask
  split
  · exact hquiet n rfl
  · exact hquiet n rfl
  · exact hquiet _ rfl
  · exact hquiet _ rfl
  next htask =>
    rw [htask] at hcb
    refine ⟨_, rfl, fun c hc => ?_, fun hnone => ?_⟩
    · rw [hcb rfl, Net.udpListenerIteration_frame] at hc
      obtain ⟨f, -, rfl⟩ := List.mem_map.mp hc
      rfl
    · rw [htask] at hnone
      cases hnone

/-! ## The steps that are no callback -/

/-- The logs, the tasks in their callbacks and what the transports have delivered are
as they were. -/
structure Leaves (w w' : World cfg) : Prop where
  courier : w'.courier = w.courier
  dispatched : w'.dispatched = w.dispatched
  handled : w'.handled = w.handled
  delivered : w'.deliveredBy = w.deliveredBy

theorem Relays.leaves {w' : World cfg} (h : Relays w) (hl : Leaves w w') : Relays w' where
  dispatched := by
    rw [hl.dispatched]
    refine h.dispatched.same (fun t => ?_) fun t => ?_
    · rw [World.undispatched, hl.courier]
      rfl
    · rw [World.eventsOf, hl.delivered]
      rfl
  handled := by
    rw [hl.handled]
    refine h.handled.same (fun t => ?_) fun t => ?_
    · rw [World.unhandled, hl.courier]
      rfl
    · rw [World.dispatchedFrom, hl.dispatched]
      rfl

/-- A task that was not in its callback has delivered something new. -/
structure Delivers (w w' : World cfg) (t : Transport) (new : List (CallbackCall FrameCallback)) :
    Prop where
  idle : w.courier t = .idle
  courier : w'.courier = Function.update w.courier t { calls := new, handler := none }
  dispatched : w'.dispatched = w.dispatched
  handled : w'.handled = w.handled
  self : w'.deliveredBy t = w.deliveredBy t ++ new
  other : ∀ u, u ≠ t → w'.deliveredBy u = w.deliveredBy u
  tagged : ∀ c ∈ new, c.source = t.source

theorem Relays.delivers {w' : World cfg} {t : Transport}
    {new : List (CallbackCall FrameCallback)} (h : Relays w) (hd : Delivers w w' t new) :
    Relays w' where
  dispatched := by
    rw [hd.dispatched]
    have hnew : ∀ e ∈ new.filterMap (frameEvent cfg), e.source = t.source := by
      intro e he
      obtain ⟨c, hc, hce⟩ := List.mem_filterMap.mp he
      exact (frameEvent_source hce).trans (hd.tagged c hc)
    refine h.dispatched.arrive t hnew ?_ ?_ fun u hu => ⟨?_, ?_⟩
    · rw [World.undispatched, World.undispatched, hd.courier, hd.idle, Function.update_self]
      rfl
    · rw [World.eventsOf, World.eventsOf, hd.self, List.filterMap_append]
    · rw [World.undispatched, World.undispatched, hd.courier, Function.update_of_ne hu]
    · rw [World.eventsOf, World.eventsOf, hd.other u hu]
  handled := by
    rw [hd.handled]
    refine h.handled.same (fun u => ?_) fun u => ?_
    · rw [World.unhandled, World.unhandled, hd.courier]
      by_cases hu : u = t
      · subst hu
        rw [Function.update_self, hd.idle]
        rfl
      · rw [Function.update_of_ne hu]
    · rw [World.dispatchedFrom, World.dispatchedFrom, hd.dispatched]

/-! ## Callbacks -/

/-- A task has gone on in its callback: `ds` were given to the handler meanwhile, and
`hs` handled. -/
structure Advances (w w' : World cfg) (t : Transport) (ds hs : List ProtocolEvent) : Prop where
  dispatched : w'.dispatched = w.dispatched ++ ds
  handled : w'.handled = w.handled ++ hs
  delivered : w'.deliveredBy = w.deliveredBy
  other : ∀ u, u ≠ t → w'.courier u = w.courier u
  undispatched : w.undispatched t = ds ++ w'.undispatched t
  unhandled : w.unhandled t ++ ds = hs ++ w'.unhandled t

theorem Relays.advances {w' : World cfg} {t : Transport} {ds hs : List ProtocolEvent}
    (h : Relays w) (ha : Advances w w' t ds hs) : Relays w' where
  dispatched := by
    rw [ha.dispatched]
    have htaken : Merges ProtocolEvent.source Transport.source (w.dispatched ++ ds)
        w'.undispatched w.eventsOf := by
      refine h.dispatched.take Transport.source_injective t ha.undispatched fun u hu => ?_
      rw [World.undispatched, World.undispatched, ha.other u hu]
    refine htaken.same (fun _ => rfl) fun u => ?_
    rw [World.eventsOf, World.eventsOf, ha.delivered]
  handled := by
    have hsource : ∀ e ∈ ds, e.source = t.source := fun e he =>
      h.dispatched.waiting_tagged (by rw [ha.undispatched]; exact List.mem_append_left _ he)
    -- what was dispatched waits, and what was handled is the first of what waits
    have harrived : Merges ProtocolEvent.source Transport.source w.handled
        (Function.update w.unhandled t (w.unhandled t ++ ds)) w'.dispatchedFrom := by
      refine h.handled.arrive t hsource (Function.update_self ..) ?_ fun u hu =>
        ⟨Function.update_of_ne hu .., ?_⟩
      · rw [World.dispatchedFrom, ha.dispatched, ofSource_append, ofSource_self hsource]
        rfl
      · rw [World.dispatchedFrom, ha.dispatched, ofSource_append,
          ofSource_other Transport.source_injective hu hsource, List.append_nil]
        rfl
    rw [ha.handled]
    refine harrived.take Transport.source_injective t ?_ fun u hu => ?_
    · rw [Function.update_self, ha.unhandled]
    · rw [Function.update_of_ne hu, World.unhandled, World.unhandled, ha.other u hu]

/-- A frame is received: if it is an event, that is the one to dispatch. -/
theorem advances_receive {t : Transport} {c : CallbackCall FrameCallback}
    {calls : List (CallbackCall FrameCallback)}
    (hhandler : w.protocol.handler = some .handleProtocolEvent)
    (hcalls : (w.courier t).calls = c :: calls) (hpc : (w.courier t).handler = none) :
    let r := protocolTlvReceiveFrame cfg w.protocol c.source c.frame
    Advances w ((w.setProtocol r.1).setCourier t
      { calls := calls, handler := r.2.map fun d => .dispatchEvent d.2 }) t [] [] := by
  intro r
  have hout : r.2 = (frameEvent cfg c).map (EventHandler.handleProtocolEvent, ·) :=
    receiveFrame_event cfg hhandler c
  refine ⟨(List.append_nil _).symm, (List.append_nil _).symm, rfl,
    fun u hu => setCourier_other _ hu _, ?_, ?_⟩
  · rw [World.undispatched, World.undispatched, setCourier_self, hcalls, hout, Courier.noted,
      Courier.noted, hpc, List.filterMap_cons]
    cases frameEvent cfg c <;> rfl
  · rw [World.unhandled, World.unhandled, setCourier_self, hout, Courier.unhandled,
      Courier.unhandled, hpc]
    cases frameEvent cfg c <;> rfl

/-- The event is given to the handler. -/
theorem advances_dispatch {t : Transport} {event : ProtocolEvent}
    (hhandler : w.protocol.handler = some .handleProtocolEvent)
    (hpc : (w.courier t).handler = some (.dispatchEvent event)) (pol : GrantPolicy UInt8) :
    Advances w (callback pol t w) t [event] [] := by
  have hdispatch : dispatchEvent w.protocol event = some (.handleProtocolEvent, event) := by
    rw [dispatchEvent, hhandler]
    rfl
  unfold callback
  rw [hpc]
  dsimp only
  rw [hdispatch]
  refine ⟨rfl, (List.append_nil _).symm, rfl, fun u hu => setCourier_other w hu _, ?_, ?_⟩
  · rw [World.undispatched, Courier.noted, hpc]
    show _ = [event] ++ (((w.setCourier t _).courier t).noted
      ++ ((w.setCourier t _).courier t).calls.filterMap (frameEvent cfg))
    rw [setCourier_self]
    rfl
  · rw [World.unhandled, Courier.unhandled, hpc]
    show _ = [] ++ ((w.setCourier t _).courier t).unhandled
    rw [setCourier_self]
    rfl

/-- The device is given what it is for. -/
theorem advances_handle {t : Transport} {event : ProtocolEvent}
    (hpc : (w.courier t).handler = some (.usbHsHandle event)) (pol : GrantPolicy UInt8) :
    Advances w (callback pol t w) t [] [event] := by
  unfold callback
  rw [hpc]
  refine ⟨(List.append_nil _).symm, rfl, rfl, fun u hu => setCourier_other w hu _, ?_, ?_⟩
  · rw [World.undispatched, Courier.noted, hpc]
    show _ = [] ++ (((w.setCourier t _).courier t).noted
      ++ ((w.setCourier t _).courier t).calls.filterMap (frameEvent cfg))
    rw [setCourier_self]
    rfl
  · rw [World.unhandled, Courier.unhandled, hpc]
    show _ = [event] ++ ((w.setCourier t _).courier t).unhandled
    rw [setCourier_self]
    rfl

/-- The feature is marked as used. -/
theorem advances_mark {t : Transport} {event : ProtocolEvent}
    (hpc : (w.courier t).handler = some (.markFeatureUsage event)) (pol : GrantPolicy UInt8) :
    Advances w (callback pol t w) t [] [] := by
  unfold callback
  rw [hpc]
  refine ⟨(List.append_nil _).symm, (List.append_nil _).symm, rfl,
    fun u hu => setCourier_other w hu _, ?_, ?_⟩
  · rw [World.undispatched, Courier.noted, hpc]
    show _ = [] ++ (((w.setCourier t _).courier t).noted
      ++ ((w.setCourier t _).courier t).calls.filterMap (frameEvent cfg))
    rw [setCourier_self]
    rfl
  · rw [World.unhandled, Courier.unhandled, hpc]
    show _ = [] ++ ((w.setCourier t _).courier t).unhandled
    rw [setCourier_self]
    rfl

/-- **A call inside a callback keeps both logs merged.** -/
theorem Relays.callback (pol : GrantPolicy UInt8) (t : Transport) (h : Relays w)
    (hhandler : w.courier t ≠ .idle → w.tlv.handler = some .handleProtocolEvent) :
    Relays (callback pol t w) := by
  by_cases hidle : w.courier t = .idle
  · rw [callback_idle pol hidle]
    exact h
  · have hprotocol : w.protocol.handler = some .handleProtocolEvent := hhandler hidle
    cases hpc : (w.courier t).handler with
    | none =>
      cases hcalls : (w.courier t).calls with
      | nil => exact absurd (show w.courier t = ⟨[], none⟩ by rw [← hcalls, ← hpc]) hidle
      | cons c calls =>
        have hreceives := advances_receive hprotocol hcalls hpc
        unfold Firmware.callback
        rw [hpc]
        dsimp only
        rw [hcalls]
        cases c.callback with
        | protocolTlvReceiveFrame => exact h.advances hreceives
    | some pc =>
      cases pc with
      | dispatchEvent event => exact h.advances (advances_dispatch hprotocol hpc pol)
      | usbHsHandle event => exact h.advances (advances_handle hpc pol)
      | markFeatureUsage event => exact h.advances (advances_mark hpc pol)

/-! ## `app_main` -/

/-- What the start of the network leaves. -/
theorem networkTransportStart_delivered (net : NetworkConfig) (cb : Option FrameCallback)
    (a : Net.WifiAnswers) (taskCreated : Bool) (n : Net.NetworkWorld cfg FrameCallback) :
    (Net.networkTransportStart net cb a taskCreated n).1.delivered = n.delivered ∧
      (Net.networkTransportStart net cb a taskCreated n).1.callback = cb := by
  unfold Net.networkTransportStart
  dsimp only
  split
  · exact ⟨rfl, rfl⟩
  · split
    · exact ⟨rfl, rfl⟩
    · split
      · exact ⟨rfl, rfl⟩
      · split
        · exact ⟨rfl, rfl⟩
        · exact ⟨rfl, rfl⟩

theorem Tagged.same {w' : World cfg} (h : Tagged w) (hnetwork : w'.network = w.network)
    (hserial : w'.serial = w.serial) (huart : w'.uart = w.uart) : Tagged w' := by
  obtain ⟨hdelivered, hcb, hquiet, hs, hu⟩ := h
  have hsame : w'.deliveredBy = w.deliveredBy := by
    funext t
    cases t with
    | network => exact congrArg Net.NetworkWorld.delivered hnetwork
    | serial =>
      unfold World.deliveredBy
      rw [hserial]
    | uart =>
      unfold World.deliveredBy
      rw [huart]
  refine ⟨?_, ?_, ?_, ?_, ?_⟩
  · rw [hsame]
    exact hdelivered
  · rw [hnetwork]
    exact hcb
  · rw [hnetwork]
    exact hquiet
  · rw [hserial]
    exact hs
  · rw [huart]
    exact hu

/-- **A call of `app_main`** starts transports that have delivered nothing. -/
theorem appMain_tagged (a : MainAnswer) (h : Tagged w) (hboots : Boots cfg net w.parts)
    (hmain : w.main ≠ .aborted) :
    Tagged (appMain net a w) ∧ (appMain net a w).deliveredBy = w.deliveredBy := by
  have hsame : ∀ w' : World cfg, w'.network = w.network → w'.serial = w.serial →
      w'.uart = w.uart → Tagged w' ∧ w'.deliveredBy = w.deliveredBy := by
    intro w' hnetwork hserial huart
    refine ⟨h.same hnetwork hserial huart, ?_⟩
    funext t
    unfold World.deliveredBy
    rw [hnetwork, hserial, huart]
  have hrank : ∀ {main}, w.main = main → w.parts.main.rank = main.rank := by
    intro main hpc
    rw [← hpc]
    rfl
  unfold appMain
  cases hpc : w.main with
  | nvsFlashInit =>
    dsimp only
    split
    · exact hsame _ rfl rfl rfl
    · exact hsame _ rfl rfl rfl
  | networkTransportStart =>
    obtain ⟨hdelivered, hcb⟩ := networkTransportStart_delivered net
      (some .protocolTlvReceiveFrame) a.wifi a.taskCreated w.network
    have hby : World.deliveredBy { w with
        network := (Net.networkTransportStart net (some .protocolTlvReceiveFrame) a.wifi
          a.taskCreated w.network).1 } = w.deliveredBy := by
      funext t
      cases t with
      | network => exact hdelivered
      | serial => rfl
      | uart => rfl
    refine ⟨⟨?_, fun _ => hcb, fun hnone => ?_, h.serial, h.uart⟩, hby⟩
    · show ∀ t, ∀ c ∈ World.deliveredBy { w with network := _ } t, _
      rw [hby]
      exact h.delivered
    · refine hdelivered.trans (h.quiet ?_)
      cases htask : w.network.udpTask with
      | none => rfl
      | some task =>
        have hstays : (Net.networkTransportStart net (some FrameCallback.protocolTlvReceiveFrame)
            a.wifi a.taskCreated w.network).1.udpTask = some task :=
          networkTransportStart_stays _ _ _ htask
        rw [hstays] at hnone
        cases hnone
  | serialTransportStart =>
    -- it is started once, and its log begins empty
    have hnone : w.serial = none := Option.isNone_iff_eq_none.mp
      (Option.isSome_eq_false_iff.mp (hboots.earlySerial hmain (Nat.le_of_eq (hrank hpc))))
    dsimp only
    split
    · exact hsame _ rfl rfl rfl
    next s hs =>
      obtain ⟨-, -, hfollows⟩ := Serial.serialTransportStart_ok hs
      have hempty : s.delivered = [] := by
        have hfed := (Serial.serialTransportStart_ok hs).2.1
        rw [hfollows.delivered, hfed]
        rfl
      have hby : World.deliveredBy { w with serial := some s } = w.deliveredBy := by
        funext t
        cases t with
        | network => rfl
        | serial =>
          unfold World.deliveredBy
          rw [hnone]
          exact hempty
        | uart => rfl
      refine ⟨⟨?_, h.network, h.quiet, fun s' hs' => ?_, h.uart⟩, hby⟩
      · show ∀ t, ∀ c ∈ World.deliveredBy { w with serial := some s } t, _
        rw [hby]
        exact h.delivered
      · cases hs'
        exact hfollows
  | uartTransportStart =>
    have hnone : w.uart = none := Option.isNone_iff_eq_none.mp
      (Option.isSome_eq_false_iff.mp (hboots.earlyUart hmain (Nat.le_of_eq (hrank hpc))))
    dsimp only
    split
    · have hby : World.deliveredBy { w with
          uart := some (Uart.uartTransportStart cfg .protocolTlvReceiveFrame) }
            = w.deliveredBy := by
        funext t
        cases t with
        | network => rfl
        | serial => rfl
        | uart =>
          unfold World.deliveredBy
          rw [hnone]
          rfl
      refine ⟨⟨?_, h.network, h.quiet, h.serial, fun u hu => ?_⟩, hby⟩
      · show ∀ t, ∀ c ∈ World.deliveredBy { w with uart := some _ } t, _
        rw [hby]
        exact h.delivered
      · cases hu
        exact ⟨[], tlvStreamInit_refines cfg FrameCallback.protocolTlvReceiveFrame .uart⟩
    · exact hsame _ rfl rfl rfl
  | nvsFlashErase | nvsFlashInitAgain | bspSpiffsMount | appStateInit | displayUiInit
  | usbHsDeviceInit | protocolTlvInit | createCoreService | createDisplay | returned | aborted =>
    exact hsame _ rfl rfl rfl

theorem appMain_relays (a : MainAnswer) (h : Relays w) (ht : Tagged w)
    (hboots : Boots cfg net w.parts) (hmain : w.main ≠ .aborted) :
    Relays (appMain net a w) := by
  obtain ⟨hcourier, hdispatched, hhandled, -⟩ := appMain_leaves net a w
  exact h.leaves ⟨hcourier, hdispatched, hhandled, (appMain_tagged a ht hboots hmain).2⟩

/-! ## The tasks of the transports -/

theorem newCalls_append {calls new all : List (CallbackCall FrameCallback)}
    (h : all = calls ++ new) : newCalls calls all = new := by
  rw [h, newCalls, List.drop_left]

theorem networkStep_relays (a : Net.UdpAnswer) (h : Relays w) (ht : Tagged w) :
    Relays (networkStep a w) ∧ Tagged (networkStep a w) := by
  obtain ⟨new, hnew, htagged, hnone⟩ := listener_delivers ht.network a
  unfold networkStep
  split
  next hidle =>
    have hsome := udpListenerTask_isSome w.network a
    have hcb : (Net.udpListenerTask w.network a).callback = w.network.callback := by
      unfold Net.udpListenerTask
      split <;> rfl
    have hother : ∀ u, u ≠ .network → World.deliveredBy { w with
        network := Net.udpListenerTask w.network a } u = w.deliveredBy u := by
      intro u hu
      cases u with
      | network => exact absurd rfl hu
      | serial => rfl
      | uart => rfl
    dsimp only
    rw [newCalls_append hnew]
    refine ⟨h.delivers ⟨hidle, rfl, rfl, rfl, hnew, hother, htagged⟩, ⟨fun t c hc => ?_,
      fun hs => hcb.trans (ht.network (hsome.symm.trans hs)), fun hs => ?_, ht.serial, ht.uart⟩⟩
    · cases t with
      | network =>
        have hmem : c ∈ (Net.udpListenerTask w.network a).delivered := hc
        rw [hnew] at hmem
        rcases List.mem_append.mp hmem with hold | hfresh
        · exact ht.delivered .network c hold
        · exact ⟨htagged c hfresh, fun hne => absurd rfl hne⟩
      | serial => exact ht.delivered .serial c hc
      | uart => exact ht.delivered .uart c hc
    · have hs' : w.network.udpTask.isSome = false := hsome.symm.trans hs
      show (Net.udpListenerTask w.network a).delivered = []
      rw [hnew, ht.quiet hs', hnone hs']
      rfl
  next => exact ⟨h, ht⟩

theorem serialStep_relays (op : Serial.SerialOp) (h : Relays w) (ht : Tagged w) :
    Relays (serialStep op w) ∧ Tagged (serialStep op w) := by
  have hother : ∀ (s : Serial.SerialWorld cfg FrameCallback) (u : Transport), u ≠ .serial →
      World.deliveredBy { w with serial := some s } u = w.deliveredBy u := by
    intro s u hu
    cases u with
    | network => rfl
    | serial => exact absurd rfl hu
    | uart => rfl
  have hby : ∀ s, w.serial = some s → w.deliveredBy .serial = s.delivered := by
    intro s hs
    unfold World.deliveredBy
    rw [hs]
  unfold serialStep
  split
  next => exact ⟨h, ht⟩
  next s bs hs =>
    have hsame : World.deliveredBy { w with
        serial := some (Serial.serialExec s (.receive bs)) } = w.deliveredBy := by
      funext t
      by_cases hts : t = .serial
      · subst hts
        exact (hby s hs).symm
      · exact hother _ t hts
    refine ⟨h.leaves ⟨rfl, rfl, rfl, hsame⟩, ⟨?_, ht.network, ht.quiet, fun s' hs' => ?_,
      ht.uart⟩⟩
    · show ∀ t, ∀ c ∈ World.deliveredBy { w with serial := some _ } t, _
      rw [hsame]
      exact ht.delivered
    · cases hs'
      exact (ht.serial s hs).exec (.receive bs)
  next s answer hs =>
    split
    next hidle =>
      have hfollows := (ht.serial s hs).exec (.task answer)
      have hframes := follows_delivered hfollows
      obtain ⟨new, hnew⟩ := serialTask_delivers s answer
      have hself : (Serial.serialExec s (.task answer)).delivered = s.delivered ++ new := hnew
      dsimp only
      rw [newCalls_append hself]
      refine ⟨h.delivers ⟨hidle, rfl, rfl, rfl, ?_, hother _, fun c hc => ?_⟩,
        ⟨fun t c hc => ?_, ht.network, ht.quiet, fun s' hs' => ?_, ht.uart⟩⟩
      · rw [hby s hs]
        exact hnew
      · exact (hframes c (by rw [hself]; exact List.mem_append_right _ hc)).1
      · cases t with
        | network => exact ht.delivered .network c hc
        | serial => exact ⟨(hframes c hc).1, fun _ => (hframes c hc).2⟩
        | uart => exact ht.delivered .uart c hc
      · cases hs'
        exact hfollows
    next => exact ⟨h, ht⟩

theorem uartStep_relays (op : Uart.UartOp) (h : Relays w) (ht : Tagged w) :
    Relays (uartStep op w) ∧ Tagged (uartStep op w) := by
  have hother : ∀ (u : Uart.UartWorld cfg FrameCallback) (t : Transport), t ≠ .uart →
      World.deliveredBy { w with uart := some u } t = w.deliveredBy t := by
    intro u t hu
    cases t with
    | network => rfl
    | serial => rfl
    | uart => exact absurd rfl hu
  have hby : ∀ u, w.uart = some u → w.deliveredBy .uart = u.delivered.map Uart.Delivery.call := by
    intro u hu
    unfold World.deliveredBy
    rw [hu]
  -- what the line and the driver do concerns neither the stream nor what it delivered
  have hline : ∀ u u' : Uart.UartWorld cfg FrameCallback, w.uart = some u →
      u'.stream = u.stream → u'.delivered = u.delivered →
        Relays { w with uart := some u' } ∧ Tagged { w with uart := some u' } := by
    intro u u' hu hstream hdelivered
    have hsame : World.deliveredBy { w with uart := some u' } = w.deliveredBy := by
      funext t
      by_cases hts : t = .uart
      · subst hts
        rw [hby u hu, ← hdelivered]
        rfl
      · exact hother _ t hts
    refine ⟨h.leaves ⟨rfl, rfl, rfl, hsame⟩, ⟨?_, ht.network, ht.quiet, ht.serial,
      fun v hv => ?_⟩⟩
    · rw [hsame]
      exact ht.delivered
    · cases hv
      rw [hstream]
      exact ht.uart u hu
  unfold uartStep
  cases hu : w.uart with
  | none => exact ⟨h, ht⟩
  | some u =>
    cases op with
    | receive bs => exact hline u _ hu rfl rfl
    | overflow full lost hlost => exact hline u _ hu rfl rfl
    | signal e => exact hline u _ hu rfl rfl
    | task =>
      dsimp only
      split
      next hidle =>
        obtain ⟨hrefines, new, hnew, hframes⟩ := uartTask_delivers (ht.uart u hu)
        have hself : (Uart.uartExec u .task).delivered.map Uart.Delivery.call
            = u.delivered.map Uart.Delivery.call ++ new := hnew
        rw [newCalls_append hself]
        refine ⟨h.delivers ⟨hidle, rfl, rfl, rfl, ?_, hother _, fun c hc => (hframes c hc).1⟩,
          ⟨fun t c hc => ?_, ht.network, ht.quiet, ht.serial, fun v hv => ?_⟩⟩
        · rw [hby u hu]
          exact hnew
        · cases t with
          | network => exact ht.delivered .network c hc
          | serial => exact ht.delivered .serial c hc
          | uart =>
            have hmem : c ∈ (Uart.uartExec u .task).delivered.map Uart.Delivery.call := hc
            rw [hself] at hmem
            rcases List.mem_append.mp hmem with hold | hfresh
            · exact ht.delivered .uart c (by rw [hby u hu]; exact hold)
            · exact ⟨(hframes c hfresh).1, fun _ => (hframes c hfresh).2⟩
        · cases hv
          exact hrefines
      next => exact ⟨h, ht⟩

/-! ## Runs -/

/-- **Each step keeps the logs merged**, and the start in order. -/
theorem relays_step (pol : GrantPolicy UInt8) (op : FirmwareOp)
    (h : Boots cfg net w.parts ∧ Attended w ∧ Tagged w ∧ Relays w) :
    let w' := firmwareStep net pol w op
    Boots cfg net w'.parts ∧ Attended w' ∧ Tagged w' ∧ Relays w' := by
  intro w'
  obtain ⟨hboots, hattended, ht, h⟩ := h
  refine ⟨hboots.step pol op, hattended.step pol op, ?_⟩
  show Tagged (firmwareStep net pol w op) ∧ Relays (firmwareStep net pol w op)
  unfold firmwareStep
  split
  · exact ⟨ht, h⟩
  next hmain =>
    have hdevice : ∀ op : InitOp, Tagged { w with usb := initExec cfg pol w.usb op } ∧
        Relays { w with usb := initExec cfg pol w.usb op } := fun op =>
      ⟨ht.same rfl rfl rfl, h.leaves ⟨rfl, rfl, rfl, rfl⟩⟩
    cases op with
    | main a =>
      exact ⟨(appMain_tagged a ht hboots hmain).1, appMain_relays a h ht hboots hmain⟩
    | bus e => exact hdevice _
    | request len buf => exact hdevice _
    | poll =>
      unfold firmwareExec
      dsimp only
      split
      · exact hdevice _
      · exact ⟨ht, h⟩
    | display touch lock =>
      unfold firmwareExec
      dsimp only
      split
      · exact ⟨ht.same rfl rfl rfl, h.leaves ⟨rfl, rfl, rfl, rfl⟩⟩
      · exact ⟨ht, h⟩
    | network a => exact (networkStep_relays a h ht).symm
    | serial op => exact (serialStep_relays op h ht).symm
    | uart op => exact (uartStep_relays op h ht).symm
    | callback t =>
      have hhandler : w.courier t ≠ .idle → w.tlv.handler = some .handleProtocolEvent :=
        fun hbusy => (hboots.ready (Or.inl ⟨t, (hattended t hbusy).started⟩)).handler
      obtain ⟨hnetwork, hserial, huart⟩ := callback_transports pol t w
      exact ⟨ht.same hnetwork hserial huart, h.callback pol t hhandler⟩

theorem tagged_boot (cfg : Config) (env : Answers) (backlight : Stream' Int)
    (buffer : UdpBuffer cfg) : Tagged (boot cfg env backlight buffer) where
  delivered t c hc := by
    have hnone : (boot cfg env backlight buffer).deliveredBy t = [] := by
      cases t <;> rfl
    rw [hnone] at hc
    exact absurd hc List.not_mem_nil
  network := by nofun
  quiet := fun _ => rfl
  serial := by nofun
  uart := by nofun

theorem relays_boot (cfg : Config) (env : Answers) (backlight : Stream' Int)
    (buffer : UdpBuffer cfg) : Relays (boot cfg env backlight buffer) where
  dispatched := merges_nil.same (fun _ => rfl) fun t => by cases t <;> rfl
  handled := merges_nil.same (fun _ => rfl) fun _ => rfl

/-- What holds in every state of every run of the firmware. -/
theorem relays_run (cfg : Config) (net : NetworkConfig) (pol : GrantPolicy UInt8) (env : Answers)
    (backlight : Stream' Int) (buffer : UdpBuffer cfg) (ops : List FirmwareOp) :
    let w := runSteps (firmwareStep net pol) (boot cfg env backlight buffer) ops
    Boots cfg net w.parts ∧ Attended w ∧ Tagged w ∧ Relays w :=
  runSteps_inv (I := fun w : World cfg => Boots cfg net w.parts ∧ Attended w ∧ Tagged w ∧ Relays w)
    (fun _ op h => relays_step pol op h)
    ⟨boots_boot cfg net env backlight buffer, fun _ hbusy => absurd rfl hbusy,
      tagged_boot cfg env backlight buffer, relays_boot cfg env backlight buffer⟩ ops

/-- The event of a well-formed frame from a transport. -/
def frameOf (t : Transport) (f : List UInt8) : ProtocolEvent :=
  { source := t.source, payload := decodeFrame f }

/-- A stream's frames are all events. -/
theorem Tagged.eventsOf_stream (h : Tagged w) {t : Transport} (ht : t ≠ .network) :
    w.eventsOf t = (w.deliveredBy t).map fun c => frameOf t c.frame := by
  rw [World.eventsOf, ← List.filterMap_eq_map]
  refine List.filterMap_congr fun c hc => ?_
  obtain ⟨hsource, hwf⟩ := h.delivered t c hc
  rw [frameEvent_wellFormed (hwf ht), hsource]
  rfl

/-- Those of the serial port are what the parser finds in the bytes fed to it. -/
theorem Tagged.eventsOf_serial (h : Tagged w) {s : Serial.SerialWorld cfg FrameCallback}
    (hs : w.serial = some s) :
    w.eventsOf .serial = (outputs (framerStep cfg) [] s.fed).map (frameOf .serial) := by
  have hby : w.deliveredBy .serial = s.delivered := by
    unfold World.deliveredBy
    rw [hs]
  rw [h.eventsOf_stream (by nofun), hby, (h.serial s hs).frames, List.map_map]
  rfl

/-- What came of a transport, in the order in which it is handled. -/
theorem Relays.split (h : Relays w) (t : Transport) :
    w.handledFrom t ++ w.unhandled t ++ w.undispatched t = w.eventsOf t := by
  rw [List.append_assoc]
  exact (h.dispatched.trans h.handled).split t

/-- **Every frame is handled once, in order, under its own source.** In every run
of the firmware, with any interleaving of its tasks: for each transport, the
events handled, the one that its task has in the handler and those that it has not
dispatched are together the events among the frames it has delivered, in this order;
a stream's frames are all events, for the serial port the frames that the parser
finds in the bytes fed to it. What is handled was given to the handler, and what is
given to it is from a transport. -/
theorem frames_relayed (cfg : Config) (net : NetworkConfig) (pol : GrantPolicy UInt8)
    (env : Answers) (backlight : Stream' Int) (buffer : UdpBuffer cfg) (ops : List FirmwareOp) :
    let w := runSteps (firmwareStep net pol) (boot cfg env backlight buffer) ops
    (∀ t, w.handledFrom t ++ w.unhandled t ++ w.undispatched t = w.eventsOf t ∧
      w.handledFrom t ++ w.unhandled t = w.dispatchedFrom t) ∧
    (∀ t, t ≠ .network →
      w.eventsOf t = (w.deliveredBy t).map fun c => frameOf t c.frame) ∧
    (∀ s, w.serial = some s →
      w.eventsOf .serial = (outputs (framerStep cfg) [] s.fed).map (frameOf .serial)) ∧
    (∀ e ∈ w.dispatched, ∃ t : Transport, e.source = t.source) ∧
    ∀ e ∈ w.handled, ∃ t : Transport, e.source = t.source := by
  intro w
  obtain ⟨-, -, ht, h⟩ := relays_run cfg net pol env backlight buffer ops
  change Tagged w at ht
  change Relays w at h
  exact ⟨fun t => ⟨h.split t, h.handled.split t⟩, fun t hne => ht.eventsOf_stream hne,
    fun s hs => ht.eventsOf_serial hs, h.dispatched.known, h.handled.known⟩

end CaptureKVMBridge.Firmware
