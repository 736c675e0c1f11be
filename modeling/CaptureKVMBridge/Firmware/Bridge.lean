import CaptureKVMBridge.Firmware.Relay
import CaptureKVMBridge.Usb.Provenance
import CaptureKVMBridge.Usb.Wakeup

/-!
# From the handlers to the host

What the HID half does in a run of the firmware. `entry` is the entry that a step
makes into it, if any; so the results about its entries apply to the firmware.

`reports_from_frames`: what the host has accepted and what is parked are reports
of frames that the transports have delivered, each at most once. With a host that
always accepts, `reports_pass_through`: it gets what was handled while the device
was ready, in this order over all kinds and transports, and nothing is parked.

Both are about entries that do not overlap, as steps of `Firmware.Main` do not. What
the handlers and the poll do access by access is in `Usb.Race`; `race_reaches_iff`
says that tasks that take turns come to what the entries here come to.
-/

namespace CaptureKVMBridge.Firmware

open CaptureKVMBridge.Machine CaptureKVMBridge.Tlv CaptureKVMBridge.Usb
open Net (NetworkConfig UdpBuffer smallAudio)

variable {cfg : Config} {net : NetworkConfig} {w : World cfg}

/-! ## Entries -/

/-- The report that a payload is handed in as, if it is one. -/
def asReport : ProtocolPayload → Option UsbReport
  | .keyboard report => some (.keyboard report)
  | .mouse report => some (.mouse report)
  | .mouseAbs report => some (.mouseAbs report)
  | .microphone _ => none

/-- The HID half. -/
def World.hid (w : World cfg) : UsbWorld := w.usb.device.hid

/-- The entry into the HID half that a step makes, if the firmware runs. -/
def enters (w : World cfg) : FirmwareOp → Option UsbOp
  | .bus e => if w.usb.driverInstalled then some e.entry else none
  | .poll => if w.coreServiceTask then some .poll else none
  | .callback t => (w.unhandled t).head?.bind fun e => (asReport e.payload).map .handle
  | .main _ | .request _ _ | .display _ _ | .network _ | .serial _ | .uart _ => none

/-- The entry into the HID half that a step makes. -/
def entry (w : World cfg) (op : FirmwareOp) : Option UsbOp :=
  if w.main = .aborted then none else enters w op

/-- What the HID half has for the reports is as it was. -/
structure SameHid (h h' : UsbWorld) : Prop where
  usb : h'.usb = h.usb
  out : h'.out = h.out
  hidReady : h'.env.hidReady = h.env.hidReady
  hidReport : h'.env.hidReport = h.env.hidReport

/-- A step of the HID half: an entry, or nothing. -/
def HidStep (cfg : Config) (h h' : UsbWorld) : Option UsbOp → Prop
  | none => SameHid h h'
  | some op => h' = exec cfg h op

theorem SameHid.refl (h : UsbWorld) : SameHid h h := ⟨rfl, rfl, rfl, rfl⟩

theorem usbHsDeviceInit_hid (cfg : Config) (err : Int) (u : InitWorld) :
    SameHid u.device.hid (usbHsDeviceInit cfg err u).device.hid := by
  unfold usbHsDeviceInit
  split
  · split <;> exact SameHid.refl _
  · split <;> exact SameHid.refl _
  · split <;> exact SameHid.refl _
  · exact ⟨rfl, rfl, rfl, rfl⟩
  · exact SameHid.refl _

theorem deviceInput_hid (pol : GrantPolicy UInt8) (len : Nat) (buf : Memory) (d : DeviceWorld) :
    SameHid d.hid (deviceInput pol len buf d).hid := by
  unfold deviceInput
  split
  · exact ⟨rfl, rfl, rfl, rfl⟩
  · exact SameHid.refl _

theorem appMain_hid (net : NetworkConfig) (a : MainAnswer) (w : World cfg) :
    SameHid w.hid (appMain net a w).hid := by
  unfold appMain
  cases w.main with
  | nvsFlashInit =>
    dsimp only
    split <;> exact SameHid.refl _
  | usbHsDeviceInit => exact usbHsDeviceInit_hid cfg a.err w.usb
  | serialTransportStart =>
    dsimp only
    split <;> exact SameHid.refl _
  | uartTransportStart =>
    dsimp only
    split <;> exact SameHid.refl _
  | nvsFlashErase | nvsFlashInitAgain | bspSpiffsMount | appStateInit | displayUiInit
  | protocolTlvInit | networkTransportStart | createCoreService | createDisplay | returned
  | aborted => exact ⟨rfl, rfl, rfl, rfl⟩

/-- The handler's call of `usb_hs_handle_*` is an entry if the event is a report. -/
theorem usbHsHandle_hid (pol : GrantPolicy UInt8) (u : InitWorld) (payload : ProtocolPayload) :
    HidStep cfg u.device.hid (initExec cfg pol u (.device (usbHsHandle payload))).device.hid
      ((asReport payload).map .handle) := by
  cases payload with
  | keyboard report => rfl
  | mouse report => rfl
  | mouseAbs report => rfl
  | microphone frame =>
    unfold initExec usbHsHandle
    dsimp only
    split
    · exact ⟨rfl, rfl, rfl, rfl⟩
    · exact SameHid.refl _

theorem unhandled_usbHsHandle {t : Transport} {e : ProtocolEvent}
    (h : (w.courier t).handler = some (.usbHsHandle e)) : w.unhandled t = [e] := by
  rw [World.unhandled, Courier.unhandled, h]

theorem unhandled_dispatchEvent {t : Transport} {e : ProtocolEvent}
    (h : (w.courier t).handler = some (.dispatchEvent e)) : w.unhandled t = [] := by
  rw [World.unhandled, Courier.unhandled, h]

theorem unhandled_markFeatureUsage {t : Transport} {e : ProtocolEvent}
    (h : (w.courier t).handler = some (.markFeatureUsage e)) : w.unhandled t = [] := by
  rw [World.unhandled, Courier.unhandled, h]

theorem unhandled_none {t : Transport} (h : (w.courier t).handler = none) :
    w.unhandled t = [] := by
  rw [World.unhandled, Courier.unhandled, h]

/-- **What a step does to the HID half.** -/
theorem firmwareStep_hid (net : NetworkConfig) (pol : GrantPolicy UInt8) (w : World cfg)
    (op : FirmwareOp) : HidStep cfg w.hid (firmwareStep net pol w op).hid (entry w op) := by
  unfold firmwareStep entry
  split
  next => exact SameHid.refl _
  next =>
    cases op with
    | main a => exact appMain_hid net a w
    | bus e =>
      show HidStep cfg w.hid (initExec cfg pol w.usb (.device (.hid e.entry))).device.hid
        (if w.usb.driverInstalled then some e.entry else none)
      -- TinyUSB calls once its driver is installed
      have hadmits : w.usb.admits (.hid e.entry) = w.usb.driverInstalled := by
        cases e <;> rfl
      unfold initExec
      dsimp only
      rw [hadmits]
      split
      · rfl
      · exact SameHid.refl _
    | request len buf =>
      show SameHid w.hid (initExec cfg pol w.usb (.input len buf)).device.hid
      unfold initExec
      dsimp only
      split
      · exact deviceInput_hid pol len buf w.usb.device
      · exact SameHid.refl _
    | poll =>
      unfold firmwareExec enters
      dsimp only
      split
      · rfl
      · exact SameHid.refl _
    | display touch lock =>
      unfold firmwareExec
      dsimp only
      split
      · exact ⟨rfl, rfl, rfl, rfl⟩
      · exact SameHid.refl _
    | network a =>
      show SameHid w.hid (networkStep a w).hid
      unfold networkStep
      split <;> exact SameHid.refl _
    | serial op =>
      show SameHid w.hid (serialStep op w).hid
      unfold serialStep
      split
      · exact SameHid.refl _
      · exact SameHid.refl _
      · split <;> exact SameHid.refl _
    | uart op =>
      show SameHid w.hid (uartStep op w).hid
      unfold uartStep
      split
      · exact SameHid.refl _
      · split <;> exact SameHid.refl _
      · exact SameHid.refl _
    | callback t =>
      -- of the four places in a callback only the call of `usb_hs_handle_*` is an entry
      show HidStep cfg w.hid (callback pol t w).hid
        ((w.unhandled t).head?.bind fun e => (asReport e.payload).map .handle)
      unfold callback
      split
      next hpc =>
        rw [unhandled_dispatchEvent hpc]
        exact SameHid.refl _
      next event hpc =>
        rw [unhandled_usbHsHandle hpc]
        exact usbHsHandle_hid pol w.usb event.payload
      next hpc =>
        rw [unhandled_markFeatureUsage hpc]
        exact ⟨rfl, rfl, rfl, rfl⟩
      next hpc =>
        rw [unhandled_none hpc]
        split
        next => exact SameHid.refl _
        next c calls _ =>
          cases c.callback with
          | protocolTlvReceiveFrame => exact ⟨rfl, rfl, rfl, rfl⟩

/-! ## What was handed in -/

/-- The report that an entry hands in. -/
def handed : UsbOp → Option UsbReport
  | .handle report => some report
  | .poll | .onSuspend _ | .onResume | .event _ => none

/-- The report that a line of the log hands in. -/
def handedBy : UsbEvent → Option UsbReport
  | .called op _ => handed op
  | .hidReport _ _ | .remoteWakeup _ _ => none

/-- The reports that were handed in, oldest first. -/
def handedIn (out : List UsbEvent) : List UsbReport := out.filterMap handedBy

/-- The reports among the events that were handled, oldest first. -/
def World.reports (w : World cfg) : List UsbReport :=
  w.handled.filterMap fun e => asReport e.payload

theorem handedIn_onlyReports {es : List UsbEvent} (h : OnlyReports es) : handedIn es = [] := by
  refine List.filterMap_eq_nil_iff.mpr fun e he => ?_
  obtain ⟨report, ok, rfl⟩ := h e he
  rfl

/-- An entry hands in what it is given. -/
theorem exec_handedIn (cfg : Config) (h : UsbWorld) (op : UsbOp) :
    handedIn (exec cfg h op).out = handedIn h.out ++ (handed op).toList := by
  have hlines : handedIn (wakeLines h op) = (handed op).toList := by
    unfold handedIn wakeLines
    split
    · cases op <;> rfl
    · cases op <;> rfl
  obtain ⟨⟨es, hout, hes⟩, -⟩ := exec_lines cfg h op
  rw [hout, handedIn, List.filterMap_append, List.filterMap_append]
  show handedIn h.out ++ handedIn (wakeLines h op) ++ handedIn es = _
  rw [hlines, handedIn_onlyReports hes, List.append_nil]

/-- Nothing is handled but in a callback. -/
theorem firmwareExec_handled (pol : GrantPolicy UInt8) (w : World cfg) {op : FirmwareOp}
    (hop : ∀ t, op ≠ .callback t) : (firmwareExec net pol w op).handled = w.handled := by
  unfold firmwareExec
  cases op with
  | main a => exact (appMain_leaves net a w).2.2.1
  | bus e => rfl
  | request len buf => rfl
  | poll =>
    dsimp only
    split <;> rfl
  | display touch lock =>
    dsimp only
    split <;> rfl
  | network a =>
    unfold networkStep
    dsimp only
    split <;> rfl
  | serial op =>
    unfold serialStep
    dsimp only
    split
    · rfl
    · rfl
    · split <;> rfl
  | uart op =>
    unfold uartStep
    dsimp only
    split
    · rfl
    · split <;> rfl
    · rfl
  | callback t => exact absurd rfl (hop t)

/-- Nothing is handed in but in a callback. -/
theorem enters_handed (w : World cfg) {op : FirmwareOp} (hop : ∀ t, op ≠ .callback t) :
    (enters w op).bind handed = none := by
  cases op with
  | bus e =>
    show (if w.usb.driverInstalled then some e.entry else none).bind handed = none
    split
    · cases e <;> rfl
    · rfl
  | poll =>
    show (if w.coreServiceTask then some UsbOp.poll else none).bind handed = none
    split <;> rfl
  | callback t => exact absurd rfl (hop t)
  | main | request | display | network | serial | uart => rfl

/-- What a callback hands in is the report that it handles. -/
theorem callback_reports (pol : GrantPolicy UInt8) (t : Transport) (w : World cfg) :
    (callback pol t w).reports
      = w.reports ++ ((enters w (.callback t)).bind handed).toList := by
  have hnone : ∀ w' : World cfg, w'.handled = w.handled → w'.reports = w.reports ++ [] := by
    intro w' h
    rw [World.reports, h, List.append_nil]
    rfl
  show _ = w.reports
    ++ (((w.unhandled t).head?.bind fun e => (asReport e.payload).map .handle).bind handed).toList
  unfold callback
  split
  next hpc =>
    rw [unhandled_dispatchEvent hpc]
    exact hnone _ rfl
  next event hpc =>
    rw [unhandled_usbHsHandle hpc]
    show (w.handled ++ [event]).filterMap (fun e => asReport e.payload) = _
    rw [List.filterMap_append]
    cases hpayload : event.payload <;> simp [World.reports, asReport, handed, hpayload]
  next hpc =>
    rw [unhandled_markFeatureUsage hpc]
    exact hnone _ rfl
  next hpc =>
    rw [unhandled_none hpc]
    split
    next => exact hnone w rfl
    next c calls _ =>
      cases c.callback with
      | protocolTlvReceiveFrame => exact hnone _ rfl

/-- **What a step hands in is the report that it handles.** -/
theorem firmwareStep_reports (net : NetworkConfig) (pol : GrantPolicy UInt8) (w : World cfg)
    (op : FirmwareOp) :
    (firmwareStep net pol w op).reports = w.reports ++ ((entry w op).bind handed).toList := by
  unfold firmwareStep entry
  split
  next => exact (List.append_nil _).symm
  next =>
    by_cases hop : ∃ t, op = .callback t
    · obtain ⟨t, rfl⟩ := hop
      exact callback_reports pol t w
    · have hother : ∀ t, op ≠ .callback t := fun t ht => hop ⟨t, ht⟩
      rw [enters_handed w hother, World.reports, firmwareExec_handled pol w hother]
      exact (List.append_nil _).symm

/-! ## The books -/

/-- The handlers were called with the reports of the events handled, and the books
of every kind are kept. -/
structure Bridges (w : World cfg) : Prop where
  reports : handedIn w.hid.out = w.reports
  books : ∀ k, ∃ L, Books cfg k w.hid L

theorem Bridges.step (net : NetworkConfig) (pol : GrantPolicy UInt8) (h : Bridges w)
    (op : FirmwareOp) : Bridges (firmwareStep net pol w op) := by
  have hhid := firmwareStep_hid net pol w op
  have hreports := firmwareStep_reports net pol w op
  cases hentry : entry w op with
  | none =>
    rw [hentry] at hhid hreports
    refine ⟨?_, fun k => ?_⟩
    · rw [hreports, hhid.out, h.reports]
      exact (List.append_nil _).symm
    · obtain ⟨L, hb⟩ := h.books k
      exact ⟨L, by rw [hhid.out]; exact hb.tracks, by rw [hhid.usb]; exact hb.slot, hb.hand⟩
  | some o =>
    rw [hentry] at hhid hreports
    have hexec : (firmwareStep net pol w op).hid = exec cfg w.hid o := hhid
    refine ⟨?_, fun k => ?_⟩
    · rw [hreports, hexec, exec_handedIn, h.reports]
      rfl
    · obtain ⟨L, hb⟩ := h.books k
      obtain ⟨L', hb', -⟩ := exec_books hb o
      exact ⟨L', by rw [hexec]; exact hb'⟩

theorem bridges_boot (cfg : Config) (env : Answers) (backlight : Stream' Int)
    (buffer : UdpBuffer cfg) : Bridges (boot cfg env backlight buffer) where
  reports := rfl
  books k := ⟨.empty, books_start cfg rfl (by cases k <;> rfl)⟩

/-! ## At most once -/

/-- The report of an event, as it is sent, if it is of this kind. -/
def reportOf (cfg : Config) (k : ReportKind) (e : ProtocolEvent) : Option HidReport :=
  (asReport e.payload).bind fun r => if r.kind = k then some (r.toHid cfg) else none

/-- The report parked in the slot of a kind, as it is sent. -/
def waiting (cfg : Config) (k : ReportKind) (h : UsbWorld) : List HidReport :=
  ((h.usb.parked k).map (UsbReport.toHid cfg)).toList

theorem filterMap_sublist {α β : Type} {f g : α → Option β}
    (h : ∀ a b, f a = some b → g a = some b) (l : List α) :
    (l.filterMap f).Sublist (l.filterMap g) := by
  induction l with
  | nil => exact List.Sublist.refl _
  | cons a l ih =>
    cases hf : f a with
    | some b =>
      rw [List.filterMap_cons_some hf, List.filterMap_cons_some (h a b hf)]
      exact ih.cons_cons b
    | none =>
      rw [List.filterMap_cons_none hf]
      cases hg : g a with
      | none => rwa [List.filterMap_cons_none hg]
      | some b =>
        rw [List.filterMap_cons_some hg]
        exact ih.cons b

/-- What was submitted is among what was handed in. -/
theorem submitted_sublist (cfg : Config) (k : ReportKind) (out : List UsbEvent) :
    (submitted (mark cfg k) out).Sublist
      ((handedIn out).filterMap fun r => if r.kind = k then some (r.toHid cfg) else none) := by
  rw [handedIn, List.filterMap_filterMap]
  refine filterMap_sublist (fun e report hsub => ?_) out
  have hmark : mark cfg k e = some (.submit report) := by
    split at hsub
    next hm =>
      cases hsub
      exact hm
    next => cases hsub
  obtain ⟨r, rfl, hkind, rfl⟩ := mark_submit_iff.mp hmark
  exact if_pos hkind

/-- A list as a sum of its items. -/
theorem sum_map_singleton {α : Type} (l : List α) :
    (l.map fun a => ({a} : Multiset α)).sum = l := by
  have hsum := Multiset.sum_map_singleton (l : Multiset α)
  rwa [Multiset.map_coe, Multiset.sum_coe] at hsum

/-- **Books account for what was sent**: it was submitted, and so was what waits. -/
theorem books_sent_le {k : ReportKind} {h : UsbWorld} {L : Ledger HidReport}
    (hb : Books cfg k h L) :
    (transmitted k h.out : Multiset HidReport) + waiting cfg k h ≤ submitted (mark cfg k) h.out := by
  have hconserved := hb.tracks.conserved fun a => ({a} : Multiset HidReport)
  unfold slotWeight at hconserved
  rw [sum_map_singleton, sum_map_singleton, sum_map_singleton, sum_map_singleton,
    sum_map_singleton, sent_eq_transmitted, hb.slot] at hconserved
  rw [← hconserved, add_assoc]
  exact Multiset.le_add_right _ _

/-- **No report without a frame, and none twice, if entries do not overlap.** In every
run of the firmware, with any host and any interleaving of its tasks in which each
entry into the device is one step, for each kind: the reports that the host has
accepted and the one that is parked are reports of events handled, each of them at
most once; and so they are reports of frames that the transports have delivered, each
at most once. -/
theorem reports_from_frames (cfg : Config) (net : NetworkConfig) (pol : GrantPolicy UInt8)
    (env : Answers) (backlight : Stream' Int) (buffer : UdpBuffer cfg) (ops : List FirmwareOp)
    (k : ReportKind) :
    let w := runSteps (firmwareStep net pol) (boot cfg env backlight buffer) ops
    let sent : Multiset HidReport := transmitted k w.hid.out + waiting cfg k w.hid
    sent ≤ w.handled.filterMap (reportOf cfg k) ∧
    sent ≤ (∑ t, (w.eventsOf t : Multiset ProtocolEvent)).filterMap (reportOf cfg k) := by
  intro w sent
  have hbridges : Bridges w := runSteps_inv (I := fun v : World cfg => Bridges v)
    (fun v op hv => hv.step net pol op) (bridges_boot cfg env backlight buffer) ops
  obtain ⟨-, -, -, hrelays⟩ := relays_run cfg net pol env backlight buffer ops
  change Relays w at hrelays
  have hhandled : sent ≤ w.handled.filterMap (reportOf cfg k) := by
    obtain ⟨L, hb⟩ := hbridges.books k
    have hsub := submitted_sublist cfg k w.hid.out
    rw [hbridges.reports, World.reports, List.filterMap_filterMap] at hsub
    exact (books_sent_le hb).trans (Multiset.coe_le.mpr hsub.subperm)
  -- what was handled is an interleaving of prefixes of what the transports delivered
  have hcame : (w.handled : Multiset ProtocolEvent) ≤ ∑ t, (w.eventsOf t : Multiset ProtocolEvent) :=
    (hrelays.dispatched.trans hrelays.handled).le_sum Transport.source_injective
  refine ⟨hhandled, hhandled.trans ?_⟩
  rw [← Multiset.filterMap_coe]
  exact Multiset.filterMap_le_filterMap _ hcame

/-! ## A host that always accepts -/

/-- The report that a line of the log hands in while the device is ready. -/
def submittedBy : UsbEvent → Option UsbReport
  | .called op true => handed op
  | .called _ false | .hidReport _ _ | .remoteWakeup _ _ => none

/-- The report that a line of the log has the host accept. -/
def acceptedBy : UsbEvent → Option HidReport
  | .hidReport report true => some report
  | .hidReport _ false | .called _ _ | .remoteWakeup _ _ => none

/-- All that `tud_hid_ready` and `tud_hid_report` will answer is yes. -/
def Answers.Accept (env : Answers) : Prop :=
  ∀ n, env.hidReady.get n = true ∧ env.hidReport.get n = true

/-- Nothing is parked, and what was submitted was accepted, in this order. -/
structure Passes (cfg : Config) (h : UsbWorld) : Prop where
  accept : Answers.Accept h.env
  empty : ∀ k, h.usb.parked k = none
  passed : h.out.filterMap acceptedBy = (h.out.filterMap submittedBy).map (UsbReport.toHid cfg)

/-- The answers stay so. -/
def StaysAccepting (h h' : UsbWorld) : Prop := Answers.Accept h.env → Answers.Accept h'.env

theorem accept_tail {ready report : Stream' Bool}
    (h : ∀ n, ready.get n = true ∧ report.get n = true) :
    (∀ n, ready.tail.get n = true ∧ report.get n = true) ∧
      ∀ n, ready.tail.get n = true ∧ report.tail.get n = true :=
  ⟨fun n => ⟨(h (n + 1)).1, (h n).2⟩, fun n => ⟨(h (n + 1)).1, (h (n + 1)).2⟩⟩

theorem sendReportNow_staysAccepting (report : HidReport) (keyboard mouse : Bool) (h : UsbWorld) :
    StaysAccepting h (sendReportNow report keyboard mouse h).1 := by
  intro haccept
  unfold sendReportNow
  dsimp only
  split
  · exact (accept_tail haccept).1
  · split
    · exact (accept_tail haccept).2
    · exact (accept_tail haccept).2

theorem staysAccepting_keptByReports : KeptByReports StaysAccepting where
  refl := fun _ haccept => haccept
  trans := fun h h' haccept => h' (h haccept)
  ready := fun _ haccept => (accept_tail haccept).1
  send := sendReportNow_staysAccepting
  setSlot := fun _ _ haccept => haccept

theorem requestRemoteWakeup_staysAccepting (h : UsbWorld) :
    StaysAccepting h (requestRemoteWakeupIfNeeded h) := by
  intro haccept
  unfold requestRemoteWakeupIfNeeded
  dsimp only
  split
  · exact haccept
  · split
    · exact haccept
    · split
      · exact haccept
      · exact haccept

/-- With nothing parked a poll asks whether the endpoint is ready, and that is all. -/
theorem pollLoop_empty (cfg : Config) (n : Nat) {h : UsbWorld}
    (hempty : ∀ k, h.usb.parked k = none) : pollLoop cfg (n + 1) h = (tudHidReady h).1 := by
  have hflag : ∀ {b : Bool} {r : UsbReport}, (if b then some r else none) = none → b = false := by
    intro b r hnone
    cases b with
    | false => rfl
    | true => cases hnone
  have hk : h.usb.pendingKeyboardReport = false := hflag (hempty .keyboard)
  have hm : h.usb.pendingMouseReport = false := hflag (hempty .mouse)
  have ha : h.usb.pendingMouseAbsReport = false := hflag (hempty .mouseAbs)
  have hnothing : ∀ (flag : Bool) (send : UsbWorld → UsbWorld × Bool) (clear : UsbHs → UsbHs)
      (v : UsbWorld), flag = false → drainPending flag send clear v = (v, false) := by
    intro flag send clear v hfalse
    rw [hfalse]
    rfl
  have hkeyboard : drainKeyboard (tudHidReady h).1 = ((tudHidReady h).1, false) :=
    hnothing _ _ _ _ hk
  have hmouse : drainMouse (tudHidReady h).1 = ((tudHidReady h).1, false) := hnothing _ _ _ _ hm
  have habs : drainMouseAbs cfg (tudHidReady h).1 = ((tudHidReady h).1, false) :=
    hnothing _ _ _ _ ha
  have hbody : pollBody cfg (tudHidReady h).1 = ((tudHidReady h).1, false) := by
    unfold pollBody
    rw [hkeyboard]
    dsimp only
    rw [hmouse, habs]
    rfl
  unfold pollLoop
  dsimp only
  rw [hbody]
  split <;> rfl

/-- A line that neither hands in nor has anything accepted. -/
theorem Passes.line {h h' : UsbWorld} (hp : Passes cfg h) (hout : ∃ e, h'.out = h.out ++ [e] ∧
    acceptedBy e = none ∧ submittedBy e = none) (haccept : Answers.Accept h'.env)
    (hparked : h'.usb.parked = h.usb.parked) : Passes cfg h' where
  accept := haccept
  empty := fun k => by rw [hparked, hp.empty]
  passed := by
    obtain ⟨e, hout, haccepted, hsubmitted⟩ := hout
    rw [hout, List.filterMap_append, List.filterMap_append, hp.passed]
    simp [haccepted, hsubmitted]

/-- **Each entry passes on what it submits.** -/
theorem Passes.exec {h : UsbWorld} (hp : Passes cfg h) (op : UsbOp) :
    Passes cfg (exec cfg h op) := by
  cases op with
  | handle r =>
    cases hready : h.usb.usbReady with
    | false =>
      have hexec : Usb.exec cfg h (.handle r)
          = { h with out := h.out ++ [.called (.handle r) false] } := by
        rw [exec_handle, handleReport, if_pos hready, hready]
      rw [hexec]
      exact hp.line ⟨_, rfl, rfl, rfl⟩ hp.accept rfl
    | true =>
      set h₀ : UsbWorld := { h with out := h.out ++ [.called (.handle r) true] } with hh₀
      -- the endpoint says yes twice, so the report is not parked
      have hsends : h.sendsNow = true :=
        Bool.and_eq_true_iff.mpr ⟨(hp.accept 0).1, (hp.accept 0).2⟩
      have hlogged : Usb.exec cfg h (.handle r) = handleReport (sendReportNow (r.toHid cfg)
          (r.kind == .keyboard) (r.kind != .keyboard)) r.park h₀ := by
        rw [exec_handle, hready]
      obtain ⟨⟨wakes, hwout, hwakes⟩, -⟩ := requestRemoteWakeup_spec h₀
      obtain ⟨es, hout, hcase⟩ := handleReport_spec (r.toHid cfg) (r.kind == .keyboard)
        (r.kind != .keyboard) r.park (w := h₀) hready
      have hkept := staysAccepting_keptByReports.handle (r.toHid cfg) (r.kind == .keyboard)
        (r.kind != .keyboard) (park_sets r) (w := h₀) hready
      rcases hcase with ⟨-, rfl, hparked, -⟩ | ⟨hnot, -⟩
      · have hsilent : wakes.filterMap acceptedBy = [] ∧ wakes.filterMap submittedBy = [] := by
          refine ⟨List.filterMap_eq_nil_iff.mpr fun e he => ?_,
            List.filterMap_eq_nil_iff.mpr fun e he => ?_⟩
          · obtain ⟨now, ok, rfl⟩ := hwakes e he
            rfl
          · obtain ⟨now, ok, rfl⟩ := hwakes e he
            rfl
        rw [hlogged]
        refine ⟨hkept (requestRemoteWakeup_staysAccepting h₀ hp.accept), fun k => ?_, ?_⟩
        · rw [hparked]
          exact hp.empty k
        · have haccepts : (h₀.out ++ wakes ++ [UsbEvent.hidReport (r.toHid cfg) true]).filterMap acceptedBy
              = h.out.filterMap acceptedBy ++ [r.toHid cfg] := by
            rw [List.filterMap_append, List.filterMap_append, hsilent.1, List.append_nil, hh₀,
              List.filterMap_append]
            exact congrArg (· ++ [r.toHid cfg]) (List.append_nil _)
          have hsubmits : (h₀.out ++ wakes ++ [UsbEvent.hidReport (r.toHid cfg) true]).filterMap submittedBy
              = h.out.filterMap submittedBy ++ [r] := by
            rw [List.filterMap_append, List.filterMap_append, hsilent.2, List.append_nil, hh₀,
              List.filterMap_append]
            exact List.append_nil _
          rw [hout, hwout, haccepts, hsubmits, hp.passed, List.map_append]
          rfl
      · exact absurd (hsends.symm.trans hnot) (by decide)
  | poll =>
    set h₀ : UsbWorld := { h with out := h.out ++ [.called .poll h.usb.usbReady] }
    have hcalled : Passes cfg h₀ :=
      hp.line ⟨_, rfl, by cases h.usb.usbReady <;> exact ⟨rfl, rfl⟩⟩ hp.accept rfl
    show Passes cfg (usbHsPoll cfg h₀)
    unfold usbHsPoll
    split
    · exact hcalled
    -- nothing is parked, so the poll has only asked
    · rw [pollLoop_empty cfg _ hcalled.empty]
      exact ⟨(accept_tail hcalled.accept).1, hcalled.empty, hcalled.passed⟩
  | onSuspend enabled =>
    refine hp.line ⟨_, rfl, by cases h.usb.usbReady <;> exact ⟨rfl, rfl⟩⟩ hp.accept ?_
    funext k
    cases k <;> rfl
  | onResume =>
    refine hp.line ⟨_, rfl, by cases h.usb.usbReady <;> exact ⟨rfl, rfl⟩⟩ hp.accept ?_
    funext k
    cases k <;> rfl
  | event id =>
    refine hp.line ⟨.called (.event id) h.usb.usbReady, ?_, by
      cases h.usb.usbReady <;> exact ⟨rfl, rfl⟩⟩ ?_ ?_
    · cases id <;> rfl
    · cases id <;> exact hp.accept
    · funext k
      cases id <;> cases k <;> rfl

/-- A report is handed in only while the device is ready. -/
def HandedReady (w : World cfg) (op : FirmwareOp) : Prop :=
  ((entry w op).bind handed).isSome = true → w.hid.usb.usbReady = true

instance (w : World cfg) (op : FirmwareOp) : Decidable (HandedReady w op) :=
  inferInstanceAs (Decidable (_ → _))

/-- Every report that was handed in was submitted. -/
def AllSubmitted (w : World cfg) : Prop := w.hid.out.filterMap submittedBy = handedIn w.hid.out

theorem AllSubmitted.step (net : NetworkConfig) (pol : GrantPolicy UInt8) (h : AllSubmitted w)
    {op : FirmwareOp} (hop : HandedReady w op) : AllSubmitted (firmwareStep net pol w op) := by
  have hhid := firmwareStep_hid net pol w op
  unfold AllSubmitted HandedReady at *
  cases hentry : entry w op with
  | none =>
    rw [hentry] at hhid
    rw [hhid.out]
    exact h
  | some o =>
    rw [hentry] at hhid hop
    have hexec : (firmwareStep net pol w op).hid = exec cfg w.hid o := hhid
    obtain ⟨⟨es, hout, hes⟩, -⟩ := exec_lines cfg w.hid o
    have hreports : es.filterMap submittedBy = [] := by
      refine List.filterMap_eq_nil_iff.mpr fun e he => ?_
      obtain ⟨report, ok, rfl⟩ := hes e he
      rfl
    have hlines : (wakeLines w.hid o).filterMap submittedBy = (handed o).toList := by
      unfold wakeLines
      cases hready : w.hid.usb.usbReady with
      | true =>
        split
        · cases o <;> rfl
        · cases o <;> rfl
      | false =>
        -- the device is not ready, so the step hands nothing in
        have hnone : handed o = none :=
          Option.not_isSome_iff_eq_none.mp fun hsome => by rw [hop hsome] at hready; cases hready
        rw [hnone]
        split
        · rfl
        · rfl
    rw [hexec, exec_handedIn, ← h, hout, List.filterMap_append, List.filterMap_append, hreports,
      hlines, List.append_nil]

/-- What every run keeps with a host that always accepts. -/
theorem Passes.step (net : NetworkConfig) (pol : GrantPolicy UInt8) (h : Passes cfg w.hid)
    (op : FirmwareOp) : Passes cfg (firmwareStep net pol w op).hid := by
  have hhid := firmwareStep_hid net pol w op
  cases hentry : entry w op with
  | none =>
    rw [hentry] at hhid
    refine ⟨fun n => ?_, ?_, ?_⟩
    · rw [hhid.hidReady, hhid.hidReport]
      exact h.accept n
    · rw [hhid.usb]
      exact h.empty
    · rw [hhid.out]
      exact h.passed
  | some o =>
    rw [hentry] at hhid
    have hexec : (firmwareStep net pol w op).hid = Usb.exec cfg w.hid o := hhid
    rw [hexec]
    exact h.exec o

theorem passes_boot (cfg : Config) {env : Answers} (haccept : Answers.Accept env)
    (backlight : Stream' Int) (buffer : UdpBuffer cfg) :
    Passes cfg (boot cfg env backlight buffer).hid where
  accept := haccept
  empty := fun k => by cases k <;> rfl
  passed := rfl

/-- **The bridge is transparent to a host that always accepts, if entries do not
overlap.** In every run of the firmware, with any interleaving of its tasks in which
each entry into the device is one step, and any events on the bus, if `tud_hid_ready`
and `tud_hid_report` always say yes: the host has accepted what was handed in while
the device was ready, converted, in this order over all kinds and transports, and
nothing is parked. So if no event is handled while the device is not ready, the host
has accepted the reports of all events handled. -/
theorem reports_pass_through (cfg : Config) (net : NetworkConfig) (pol : GrantPolicy UInt8)
    (env : Answers) (haccept : Answers.Accept env) (backlight : Stream' Int)
    (buffer : UdpBuffer cfg) (ops : List FirmwareOp) :
    let w := runSteps (firmwareStep net pol) (boot cfg env backlight buffer) ops
    let accepted := w.hid.out.filterMap acceptedBy
    accepted = (w.hid.out.filterMap submittedBy).map (UsbReport.toHid cfg) ∧
    (∀ k, w.hid.usb.parked k = none) ∧
    (AllSteps (firmwareStep net pol) HandedReady (boot cfg env backlight buffer) ops →
      accepted = w.reports.map (UsbReport.toHid cfg)) := by
  intro w accepted
  have hpasses : Passes cfg w.hid :=
    runSteps_inv (I := fun v : World cfg => Passes cfg v.hid) (fun v op hv => hv.step net pol op)
      (passes_boot cfg haccept backlight buffer) ops
  refine ⟨hpasses.passed, hpasses.empty, fun hready => ?_⟩
  have hall : AllSubmitted w :=
    AllSteps.inv (I := fun v : World cfg => AllSubmitted v)
      (fun v op hv hop => hv.step net pol hop) rfl hready
  have hbridges : Bridges w := runSteps_inv (I := fun v : World cfg => Bridges v)
    (fun v op hv => hv.step net pol op) (bridges_boot cfg env backlight buffer) ops
  show w.hid.out.filterMap acceptedBy = _
  rw [hpasses.passed, hall, hbridges.reports]

/-- A call of `app_main` that goes well; the serial port holds a key press. -/
def goesWell : MainAnswer where
  err := 0
  taskCreated := true
  display := ⟨0, 0, 0, true, 0, 0, true⟩
  wifi := ⟨0, 0, true, 0, 0, 0, 0⟩
  installed := true
  held := encode pressEvent

/-- A host that accepts whatever it is sent. -/
def accepting : Answers where
  hidReady := Stream'.const true
  hidReport := Stream'.const true
  remoteWakeup := Stream'.const true
  timer := Stream'.const 0

/-- A build without Wi-Fi. -/
def offline : NetworkConfig := ⟨false, [], [], 1, by decide, by decide⟩

/-- A start, a host that attaches, and the key press read, fed, received and
dispatched. -/
def pressRun : List FirmwareOp :=
  List.replicate 14 (.main goesWell) ++ [.bus (.event .attached), .serial (.task 1),
    .serial (.task 2047), .serial (.task 0), .callback .serial, .callback .serial]

/-- Then it is handled. -/
theorem reports_pass_through_press :
    let w := runSteps (firmwareStep offline .full)
      (boot smallAudio accepting (Stream'.const 0) (Vector.replicate _ 0))
      (pressRun ++ [.callback .serial])
    w.hid.out.filterMap acceptedBy = [.keyboard ⟨2, 0, #v[4, 0, 0, 0, 0, 0]⟩] := by
  intro w
  have hrun := reports_pass_through smallAudio offline .full accepting
    (fun _ => ⟨rfl, rfl⟩) (Stream'.const 0) (Vector.replicate _ 0) (pressRun ++ [.callback .serial])
  exact (hrun.2.2 (by decide +kernel)).trans (by decide +kernel)

end CaptureKVMBridge.Firmware
