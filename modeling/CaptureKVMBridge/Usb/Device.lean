import Mathlib.Data.Stream.Init
import CaptureKVMBridge.Tlv.Protocol

/-!
# `usb_hs_device.c`: the HID half

The report handlers, the poll loop, the suspend callbacks and the attach events
over the statics of the file, field by field.

Mirroring notes:
- What TinyUSB and the timer answer is in `Answers`, one stream per function:
  each call takes the next value, so every pattern of answers is a value.
- `out` is a ghost log: the calls of `tud_hid_report` and `tud_remote_wakeup`
  with their answers, and every entry into the module.
- A report's ID is the constructor of `HidReport`. A null report is `none`.
- The three report kinds are one definition with the kind's own send function,
  flag and slot; each function of the source is that definition applied.
- The microphone ring and the descriptors are not here: nothing below reads them.
-/

namespace CaptureKVMBridge.Usb

open CaptureKVMBridge.Tlv

/-! ## Reports -/

/-- `hid_mouse_report_t`. -/
structure HidMouseReport where
  buttons : UInt8
  x : Int8
  y : Int8
  wheel : Int8
  pan : Int8
  deriving DecidableEq, Repr

/-- `hid_abs_mouse_report_t`. -/
structure HidAbsMouseReport where
  buttons : UInt8
  x : Int16
  y : Int16
  wheel : Int8
  pan : Int8
  deriving DecidableEq, Repr

/-- What `tud_hid_report` is given; the constructor is the report ID. -/
inductive HidReport where
  | keyboard (report : UsbKeyboardReport)
  | mouseRel (report : HidMouseReport)
  | mouseAbs (report : HidAbsMouseReport)
  deriving DecidableEq, Repr

/-- What a report handler is given. -/
inductive UsbReport where
  | keyboard (report : UsbKeyboardReport)
  | mouse (report : UsbMouseReport)
  | mouseAbs (report : UsbMouseAbsoluteReport)
  deriving DecidableEq, Repr

/-- The three kinds of report, each with a handler and a slot. -/
inductive ReportKind where
  | keyboard
  | mouse
  | mouseAbs
  deriving DecidableEq, Repr

def HidReport.kind : HidReport → ReportKind
  | .keyboard _ => .keyboard
  | .mouseRel _ => .mouse
  | .mouseAbs _ => .mouseAbs

def UsbReport.kind : UsbReport → ReportKind
  | .keyboard _ => .keyboard
  | .mouse _ => .mouse
  | .mouseAbs _ => .mouseAbs

/-- `scale_abs_axis`, in the 32-bit arithmetic of the source. -/
def scaleAbsAxis (value maxCfg : UInt32) : Int16 :=
  if maxCfg ≤ 1 then (if value ≠ 0 then 32767 else 0)
  else
    let value := if value ≥ maxCfg then maxCfg - 1 else value
    let scaled : Int32 := value.toInt32 * 32767 / (maxCfg - 1).toInt32
    scaled.toInt16

/-- The `hid_report` of `send_mouse_report_now`. -/
def hidMouseReport (report : UsbMouseReport) : HidMouseReport where
  buttons := report.buttons &&& 0x1F
  x := report.x
  y := report.y
  wheel := report.wheel
  pan := report.pan

/-- The `hid_report` of `send_mouse_abs_report_now`. -/
def hidAbsMouseReport (cfg : Config) (report : UsbMouseAbsoluteReport) : HidAbsMouseReport where
  buttons := report.buttons &&& 0x1F
  x := scaleAbsAxis report.x.toUInt32 (UInt32.ofNat cfg.appAbsMouseMaxX)
  y := scaleAbsAxis report.y.toUInt32 (UInt32.ofNat cfg.appAbsMouseMaxY)
  wheel := report.wheel
  pan := report.pan

/-- The conversion of each kind. -/
def UsbReport.toHid (cfg : Config) : UsbReport → HidReport
  | .keyboard report => .keyboard report
  | .mouse report => .mouseRel (hidMouseReport report)
  | .mouseAbs report => .mouseAbs (hidAbsMouseReport cfg report)

@[simp] theorem UsbReport.kind_toHid (cfg : Config) (r : UsbReport) :
    (r.toHid cfg).kind = r.kind := by
  cases r <;> rfl

/-! ## State -/

/-- The statics of the HID half. -/
structure UsbHs where
  usbReady : Bool
  usbSuspended : Bool
  remoteWakeupEnabled : Bool
  lastRemoteWakeupUs : Int
  pendingKeyboardReport : Bool
  pendingKeyboard : UsbKeyboardReport
  pendingMouseReport : Bool
  pendingMouse : UsbMouseReport
  pendingMouseAbsReport : Bool
  pendingMouseAbs : UsbMouseAbsoluteReport

/-- The statics at start-up: all zero. -/
def UsbHs.boot : UsbHs where
  usbReady := false
  usbSuspended := false
  remoteWakeupEnabled := false
  lastRemoteWakeupUs := 0
  pendingKeyboardReport := false
  pendingKeyboard := ⟨0, 0, Vector.replicate 6 0⟩
  pendingMouseReport := false
  pendingMouse := ⟨0, 0, 0, 0, 0⟩
  pendingMouseAbsReport := false
  pendingMouseAbs := ⟨0, 0, 0, 0, 0⟩

/-- The report parked in the slot of a kind, if its flag is set. -/
def UsbHs.parked (u : UsbHs) : ReportKind → Option UsbReport
  | .keyboard => if u.pendingKeyboardReport then some (.keyboard u.pendingKeyboard) else none
  | .mouse => if u.pendingMouseReport then some (.mouse u.pendingMouse) else none
  | .mouseAbs => if u.pendingMouseAbsReport then some (.mouseAbs u.pendingMouseAbs) else none

/-- `s_pending_keyboard = *report; s_pending_keyboard_report = true;` -/
def UsbHs.parkKeyboard (report : UsbKeyboardReport) (u : UsbHs) : UsbHs :=
  { u with pendingKeyboard := report, pendingKeyboardReport := true }

/-- `s_pending_mouse = *report; s_pending_mouse_report = true;` -/
def UsbHs.parkMouse (report : UsbMouseReport) (u : UsbHs) : UsbHs :=
  { u with pendingMouse := report, pendingMouseReport := true }

/-- `s_pending_mouse_abs = *report; s_pending_mouse_abs_report = true;` -/
def UsbHs.parkMouseAbs (report : UsbMouseAbsoluteReport) (u : UsbHs) : UsbHs :=
  { u with pendingMouseAbs := report, pendingMouseAbsReport := true }

/-- `s_pending_keyboard_report = false;` -/
def UsbHs.clearKeyboard (u : UsbHs) : UsbHs := { u with pendingKeyboardReport := false }

/-- `s_pending_mouse_report = false;` -/
def UsbHs.clearMouse (u : UsbHs) : UsbHs := { u with pendingMouseReport := false }

/-- `s_pending_mouse_abs_report = false;` -/
def UsbHs.clearMouseAbs (u : UsbHs) : UsbHs := { u with pendingMouseAbsReport := false }

/-- Park a report in the slot of its kind. -/
def UsbReport.park : UsbReport → UsbHs → UsbHs
  | .keyboard report => UsbHs.parkKeyboard report
  | .mouse report => UsbHs.parkMouse report
  | .mouseAbs report => UsbHs.parkMouseAbs report

/-- The function sets the slot of one kind and no other static. -/
structure SetsSlot (k : ReportKind) (o : Option UsbReport) (f : UsbHs → UsbHs) : Prop where
  self : ∀ u, (f u).parked k = o
  other : ∀ u j, j ≠ k → (f u).parked j = u.parked j
  ready : ∀ u, (f u).usbReady = u.usbReady
  wake : ∀ u, (f u).usbSuspended = u.usbSuspended ∧
    (f u).remoteWakeupEnabled = u.remoteWakeupEnabled ∧
    (f u).lastRemoteWakeupUs = u.lastRemoteWakeupUs

theorem park_sets (r : UsbReport) : SetsSlot r.kind (some r) r.park := by
  refine ⟨fun u => ?_, fun u j hj => ?_, fun u => ?_, fun u => ?_⟩
  · cases r <;> rfl
  · cases r <;> cases j <;> first | rfl | exact absurd rfl hj
  · cases r <;> rfl
  · cases r <;> exact ⟨rfl, rfl, rfl⟩

theorem clearKeyboard_sets : SetsSlot .keyboard none UsbHs.clearKeyboard := by
  refine ⟨fun _ => rfl, fun u j hj => ?_, fun _ => rfl, fun _ => ⟨rfl, rfl, rfl⟩⟩
  cases j <;> first | rfl | exact absurd rfl hj

theorem clearMouse_sets : SetsSlot .mouse none UsbHs.clearMouse := by
  refine ⟨fun _ => rfl, fun u j hj => ?_, fun _ => rfl, fun _ => ⟨rfl, rfl, rfl⟩⟩
  cases j <;> first | rfl | exact absurd rfl hj

theorem clearMouseAbs_sets : SetsSlot .mouseAbs none UsbHs.clearMouseAbs := by
  refine ⟨fun _ => rfl, fun u j hj => ?_, fun _ => rfl, fun _ => ⟨rfl, rfl, rfl⟩⟩
  cases j <;> first | rfl | exact absurd rfl hj

/-- `tinyusb_event_t.id`. -/
inductive TinyusbEvent where
  | attached
  | detached
  | other
  deriving DecidableEq, Repr

/-- The entries into the module. -/
inductive UsbOp where
  | handle (report : UsbReport)
  | poll
  | onSuspend (remoteWakeupEnabled : Bool)
  | onResume
  | event (id : TinyusbEvent)
  deriving DecidableEq, Repr

/-- A line of the ghost log. -/
inductive UsbEvent where
  /-- an entry into the module, with `s_usb_ready` at that time -/
  | called (op : UsbOp) (ready : Bool)
  /-- `tud_hid_report(report)` answered `ok` -/
  | hidReport (report : HidReport) (ok : Bool)
  /-- `tud_remote_wakeup()` answered `ok`; the clock read before it -/
  | remoteWakeup (now : Int) (ok : Bool)
  deriving DecidableEq, Repr

/-- The answers still to come. -/
structure Answers where
  hidReady : Stream' Bool
  hidReport : Stream' Bool
  remoteWakeup : Stream' Bool
  timer : Stream' Int

structure UsbWorld where
  usb : UsbHs
  app : AppState
  env : Answers
  out : List UsbEvent

/-! ## Calls out of the module -/

/-- `tud_hid_ready()`. -/
def tudHidReady (w : UsbWorld) : UsbWorld × Bool :=
  ({ w with env := { w.env with hidReady := w.env.hidReady.tail } }, w.env.hidReady.head)

/-- `tud_hid_report(id, report, sizeof report)`. -/
def tudHidReport (report : HidReport) (w : UsbWorld) : UsbWorld × Bool :=
  ({ w with
      env := { w.env with hidReport := w.env.hidReport.tail }
      out := w.out ++ [.hidReport report w.env.hidReport.head] },
    w.env.hidReport.head)

/-- `tud_remote_wakeup()`, after the clock was read as `now`. -/
def tudRemoteWakeup (now : Int) (w : UsbWorld) : UsbWorld × Bool :=
  ({ w with
      env := { w.env with remoteWakeup := w.env.remoteWakeup.tail }
      out := w.out ++ [.remoteWakeup now w.env.remoteWakeup.head] },
    w.env.remoteWakeup.head)

/-- `esp_timer_get_time()`. -/
def espTimerGetTime (w : UsbWorld) : UsbWorld × Int :=
  ({ w with env := { w.env with timer := w.env.timer.tail } }, w.env.timer.head)

/-! ## Helpers of the source -/

/-- `update_hid_activity`. -/
def updateHidActivity (keyboard mouse : Bool) (w : UsbWorld) : UsbWorld :=
  let t := espTimerGetTime w
  { t.1 with app := appStateMarkFeatureUsage t.1.app t.2 keyboard mouse false }

/-- `request_remote_wakeup_if_needed`. -/
def requestRemoteWakeupIfNeeded (w : UsbWorld) : UsbWorld :=
  if w.usb.usbSuspended = false ∨ w.usb.remoteWakeupEnabled = false then w
  else
    let t := espTimerGetTime w
    if t.2 - t.1.usb.lastRemoteWakeupUs < 20000 then t.1
    else
      let r := tudRemoteWakeup t.2 t.1
      if r.2 then
        { r.1 with usb := { r.1.usb with lastRemoteWakeupUs := t.2, remoteWakeupEnabled := false } }
      else r.1

/-- The common body of the three `send_*_report_now`. -/
def sendReportNow (report : HidReport) (keyboard mouse : Bool) (w : UsbWorld) : UsbWorld × Bool :=
  let ready := tudHidReady w
  if ready.2 = false then (ready.1, false)
  else
    let r := tudHidReport report ready.1
    if r.2 then (updateHidActivity keyboard mouse r.1, true) else (r.1, false)

/-- `send_keyboard_report_now`. -/
def sendKeyboardReportNow (report : UsbKeyboardReport) : UsbWorld → UsbWorld × Bool :=
  sendReportNow (.keyboard report) true false

/-- `send_mouse_report_now`. -/
def sendMouseReportNow (report : UsbMouseReport) : UsbWorld → UsbWorld × Bool :=
  sendReportNow (.mouseRel (hidMouseReport report)) false true

/-- `send_mouse_abs_report_now`. -/
def sendMouseAbsReportNow (cfg : Config) (report : UsbMouseAbsoluteReport) :
    UsbWorld → UsbWorld × Bool :=
  sendReportNow (.mouseAbs (hidAbsMouseReport cfg report)) false true

/-! ## Handlers -/

/-- The common body of the three `usb_hs_handle_*`: `park` fills the slot. -/
def handleReport (send : UsbWorld → UsbWorld × Bool) (park : UsbHs → UsbHs) (w : UsbWorld) :
    UsbWorld :=
  if w.usb.usbReady = false then w
  else
    let r := send (requestRemoteWakeupIfNeeded w)
    if r.2 then r.1 else { r.1 with usb := park r.1.usb }

/-- `usb_hs_handle_keyboard`. -/
def usbHsHandleKeyboard (report : Option UsbKeyboardReport) (w : UsbWorld) : UsbWorld :=
  match report with
  | none => w
  | some report =>
    handleReport (sendKeyboardReportNow report) (UsbHs.parkKeyboard report) w

/-- `usb_hs_handle_mouse`. -/
def usbHsHandleMouse (report : Option UsbMouseReport) (w : UsbWorld) : UsbWorld :=
  match report with
  | none => w
  | some report =>
    handleReport (sendMouseReportNow report) (UsbHs.parkMouse report) w

/-- `usb_hs_handle_mouse_absolute`. -/
def usbHsHandleMouseAbsolute (cfg : Config) (report : Option UsbMouseAbsoluteReport)
    (w : UsbWorld) : UsbWorld :=
  match report with
  | none => w
  | some report =>
    handleReport (sendMouseAbsReportNow cfg report) (UsbHs.parkMouseAbs report) w

/-! ## Poll -/

/-- `if (s_pending_x_report && send_x_report_now(&s_pending_x))`, the flag
cleared where it holds. -/
def drainPending (flag : Bool) (send : UsbWorld → UsbWorld × Bool) (clear : UsbHs → UsbHs)
    (w : UsbWorld) : UsbWorld × Bool :=
  if flag then
    let r := send w
    if r.2 then ({ r.1 with usb := clear r.1.usb }, true) else (r.1, false)
  else (w, false)

def drainKeyboard (w : UsbWorld) : UsbWorld × Bool :=
  drainPending w.usb.pendingKeyboardReport (sendKeyboardReportNow w.usb.pendingKeyboard)
    UsbHs.clearKeyboard w

def drainMouse (w : UsbWorld) : UsbWorld × Bool :=
  drainPending w.usb.pendingMouseReport (sendMouseReportNow w.usb.pendingMouse)
    UsbHs.clearMouse w

def drainMouseAbs (cfg : Config) (w : UsbWorld) : UsbWorld × Bool :=
  drainPending w.usb.pendingMouseAbsReport (sendMouseAbsReportNow cfg w.usb.pendingMouseAbs)
    UsbHs.clearMouseAbs w

/-- The body of the loop of `usb_hs_poll`; the second component is `progress`. -/
def pollBody (cfg : Config) (w : UsbWorld) : UsbWorld × Bool :=
  let k := drainKeyboard w
  if k.2 then k
  else
    let m := drainMouse k.1
    if m.2 then m else drainMouseAbs cfg m.1

/-- `while (progress && tud_hid_ready())`, at most `fuel` times. -/
def pollLoop (cfg : Config) : Nat → UsbWorld → UsbWorld
  | 0, w => w
  | fuel + 1, w =>
    let ready := tudHidReady w
    if ready.2 = false then ready.1
    else
      let r := pollBody cfg ready.1
      if r.2 then pollLoop cfg fuel r.1 else r.1

/-- The number of occupied slots. -/
def UsbHs.pendingCount (u : UsbHs) : Nat :=
  u.pendingKeyboardReport.toNat + u.pendingMouseReport.toNat + u.pendingMouseAbsReport.toNat

/-- `usb_hs_poll`. -/
def usbHsPoll (cfg : Config) (w : UsbWorld) : UsbWorld :=
  if w.usb.usbReady = false then w else pollLoop cfg (w.usb.pendingCount + 1) w

/-! ## Callbacks -/

/-- `usb_hs_on_suspend`. -/
def usbHsOnSuspend (remoteWakeupEnabled : Bool) (w : UsbWorld) : UsbWorld :=
  { w with
    usb := { w.usb with
      usbSuspended := true
      remoteWakeupEnabled := remoteWakeupEnabled
      lastRemoteWakeupUs := 0 } }

/-- `usb_hs_on_resume`. -/
def usbHsOnResume (w : UsbWorld) : UsbWorld :=
  { w with
    usb := { w.usb with
      usbSuspended := false
      remoteWakeupEnabled := false
      lastRemoteWakeupUs := 0 } }

/-- `tinyusb_event_handler`. -/
def tinyusbEventHandler (w : UsbWorld) : TinyusbEvent → UsbWorld
  | .attached =>
    { w with
      usb := { w.usb with usbReady := true }
      app := appStateUpdateUsbState w.app .mounted }
  | .detached =>
    { w with
      usb := { w.usb with usbReady := false }
      app := appStateUpdateUsbState w.app .disconnected }
  | .other => w

/-! ## Runs -/

/-- The function that an entry calls. -/
def UsbOp.call (cfg : Config) (op : UsbOp) (w : UsbWorld) : UsbWorld :=
  match op with
  | .handle (.keyboard report) => usbHsHandleKeyboard (some report) w
  | .handle (.mouse report) => usbHsHandleMouse (some report) w
  | .handle (.mouseAbs report) => usbHsHandleMouseAbsolute cfg (some report) w
  | .poll => usbHsPoll cfg w
  | .onSuspend enabled => usbHsOnSuspend enabled w
  | .onResume => usbHsOnResume w
  | .event id => tinyusbEventHandler w id

/-- One entry, noted in the log. -/
def exec (cfg : Config) (w : UsbWorld) (op : UsbOp) : UsbWorld :=
  op.call cfg { w with out := w.out ++ [.called op w.usb.usbReady] }

/-! ## What each function can do -/

/-- The next `tud_hid_ready` and `tud_hid_report` both say yes. -/
def UsbWorld.sendsNow (w : UsbWorld) : Bool := w.env.hidReady.head && w.env.hidReport.head

/-- A wakeup may be requested: suspended, with the host's permission. -/
def UsbHs.mayWake (u : UsbHs) : Prop := u.usbSuspended = true ∧ u.remoteWakeupEnabled = true

instance (u : UsbHs) : Decidable u.mayWake := inferInstanceAs (Decidable (_ ∧ _))

section Wakeup

variable {w : UsbWorld}

theorem requestRemoteWakeup_idle (h : ¬w.usb.mayWake) : requestRemoteWakeupIfNeeded w = w := by
  rw [UsbHs.mayWake, not_and_or, Bool.not_eq_true, Bool.not_eq_true] at h
  exact if_pos h

/-- Less than 20 ms after the last wakeup only the clock is read. -/
theorem requestRemoteWakeup_early (h : w.usb.mayWake)
    (ht : w.env.timer.head - w.usb.lastRemoteWakeupUs < 20000) :
    requestRemoteWakeupIfNeeded w = (espTimerGetTime w).1 := by
  unfold requestRemoteWakeupIfNeeded
  rw [if_neg (by rw [h.1, h.2]; decide)]
  exact if_pos ht

/-- After that the host is asked, and the permission is used up if it agrees. -/
theorem requestRemoteWakeup_late (h : w.usb.mayWake)
    (ht : 20000 ≤ w.env.timer.head - w.usb.lastRemoteWakeupUs) :
    requestRemoteWakeupIfNeeded w
      = if w.env.remoteWakeup.head = true then
          { (tudRemoteWakeup w.env.timer.head (espTimerGetTime w).1).1 with
            usb := { w.usb with
              lastRemoteWakeupUs := w.env.timer.head
              remoteWakeupEnabled := false } }
        else (tudRemoteWakeup w.env.timer.head (espTimerGetTime w).1).1 := by
  have hlate : ¬(espTimerGetTime w).2 - (espTimerGetTime w).1.usb.lastRemoteWakeupUs < 20000 := by
    show ¬w.env.timer.head - w.usb.lastRemoteWakeupUs < 20000
    omega
  unfold requestRemoteWakeupIfNeeded
  rw [if_neg (by rw [h.1, h.2]; decide)]
  exact if_neg hlate

theorem requestRemoteWakeup_late_out (h : w.usb.mayWake)
    (ht : 20000 ≤ w.env.timer.head - w.usb.lastRemoteWakeupUs) :
    (requestRemoteWakeupIfNeeded w).out
      = w.out ++ [.remoteWakeup w.env.timer.head w.env.remoteWakeup.head] := by
  rw [requestRemoteWakeup_late h ht]
  split <;> rfl

/-- A wakeup request is a call of `tud_remote_wakeup` or nothing: reports, the
readiness and the answers about reports stay as they are. -/
theorem requestRemoteWakeup_spec (w : UsbWorld) :
    (∃ es, (requestRemoteWakeupIfNeeded w).out = w.out ++ es ∧
      ∀ e ∈ es, ∃ now ok, e = .remoteWakeup now ok) ∧
    (requestRemoteWakeupIfNeeded w).usb.parked = w.usb.parked ∧
    (requestRemoteWakeupIfNeeded w).usb.usbReady = w.usb.usbReady ∧
    (requestRemoteWakeupIfNeeded w).sendsNow = w.sendsNow := by
  have hnone : ∃ es, w.out = w.out ++ es ∧ ∀ e ∈ es, ∃ now ok, e = UsbEvent.remoteWakeup now ok :=
    ⟨[], by simp, by simp⟩
  by_cases hmay : w.usb.mayWake
  · by_cases ht : w.env.timer.head - w.usb.lastRemoteWakeupUs < 20000
    · rw [requestRemoteWakeup_early hmay ht]
      exact ⟨hnone, rfl, rfl, rfl⟩
    · refine ⟨⟨_, requestRemoteWakeup_late_out hmay (by omega), ?_⟩, ?_⟩
      · exact fun e he => ⟨_, _, List.mem_singleton.mp he⟩
      · rw [requestRemoteWakeup_late hmay (by omega)]
        split
        · refine ⟨?_, rfl, rfl⟩
          funext k
          cases k <;> rfl
        · exact ⟨rfl, rfl, rfl⟩
  · rw [requestRemoteWakeup_idle hmay]
    exact ⟨hnone, rfl, rfl, rfl⟩

end Wakeup

section Send

variable (report : HidReport) (keyboard mouse : Bool) (w : UsbWorld)

/-- The endpoint is not ready. -/
theorem sendReportNow_busy (h : w.env.hidReady.head = false) :
    sendReportNow report keyboard mouse w = ((tudHidReady w).1, false) := by
  unfold sendReportNow
  exact if_pos h

/-- The endpoint is ready and does not take the report. -/
theorem sendReportNow_refused (h : w.env.hidReady.head = true) (h' : w.env.hidReport.head = false) :
    sendReportNow report keyboard mouse w
      = ((tudHidReport report (tudHidReady w).1).1, false) := by
  have hready : ¬(tudHidReady w).2 = false := by
    show ¬w.env.hidReady.head = false
    rw [h]
    decide
  have hrefused : ¬(tudHidReport report (tudHidReady w).1).2 = true := by
    show ¬w.env.hidReport.head = true
    rw [h']
    decide
  unfold sendReportNow
  dsimp only
  rw [if_neg hready, if_neg hrefused]

/-- The report goes out. -/
theorem sendReportNow_sent (h : w.env.hidReady.head = true) (h' : w.env.hidReport.head = true) :
    sendReportNow report keyboard mouse w
      = (updateHidActivity keyboard mouse (tudHidReport report (tudHidReady w).1).1, true) := by
  have hready : ¬(tudHidReady w).2 = false := by
    show ¬w.env.hidReady.head = false
    rw [h]
    decide
  have hsent : (tudHidReport report (tudHidReady w).1).2 = true := h'
  unfold sendReportNow
  dsimp only
  rw [if_neg hready, if_pos hsent]

/-- Sending changes no static. -/
@[simp] theorem sendReportNow_usb : (sendReportNow report keyboard mouse w).1.usb = w.usb := by
  unfold sendReportNow
  dsimp only
  split
  · rfl
  · split <;> rfl

/-- It succeeds when both answers are yes. -/
theorem sendReportNow_ok : (sendReportNow report keyboard mouse w).2 = w.sendsNow := by
  unfold UsbWorld.sendsNow
  cases h : w.env.hidReady.head with
  | false =>
    rw [sendReportNow_busy _ _ _ _ h]
    rfl
  | true =>
    cases h' : w.env.hidReport.head with
    | false =>
      rw [sendReportNow_refused _ _ _ _ h h']
      rfl
    | true =>
      rw [sendReportNow_sent _ _ _ _ h h']
      rfl

theorem sendReportNow_out_ok (h : w.sendsNow = true) :
    (sendReportNow report keyboard mouse w).1.out = w.out ++ [.hidReport report true] := by
  obtain ⟨hready, hreport⟩ := Bool.and_eq_true_iff.mp h
  rw [sendReportNow_sent _ _ _ _ hready hreport]
  show w.out ++ [UsbEvent.hidReport report w.env.hidReport.head] = _
  rw [hreport]

/-- A failed attempt leaves at most a refused report in the log. -/
theorem sendReportNow_out_fail (h : w.sendsNow = false) :
    ∃ es, (sendReportNow report keyboard mouse w).1.out = w.out ++ es ∧
      ∀ e ∈ es, e = .hidReport report false := by
  unfold UsbWorld.sendsNow at h
  cases hready : w.env.hidReady.head with
  | false =>
    rw [sendReportNow_busy _ _ _ _ hready]
    exact ⟨[], (List.append_nil _).symm, by simp⟩
  | true =>
    have hreport : w.env.hidReport.head = false := by simpa [hready] using h
    rw [sendReportNow_refused _ _ _ _ hready hreport]
    refine ⟨[.hidReport report false], ?_, by simp⟩
    show w.out ++ [UsbEvent.hidReport report w.env.hidReport.head] = _
    rw [hreport]

end Send

/-- **What a handler can do while ready**: after the wakeup request the report
goes out at once, or it is parked. -/
theorem handleReport_spec (report : HidReport) (keyboard mouse : Bool) (park : UsbHs → UsbHs)
    {w : UsbWorld} (hready : w.usb.usbReady = true) :
    let w' := handleReport (sendReportNow report keyboard mouse) park w
    ∃ es, w'.out = (requestRemoteWakeupIfNeeded w).out ++ es ∧
      ((w.sendsNow = true ∧ es = [.hidReport report true] ∧ w'.usb.parked = w.usb.parked ∧
          w'.usb.usbReady = true) ∨
        (w.sendsNow = false ∧ (∀ e ∈ es, e = .hidReport report false) ∧
          ∃ u, u.parked = w.usb.parked ∧ u.usbReady = true ∧ w'.usb = park u)) := by
  obtain ⟨-, hparked, hrdy, hsends⟩ := requestRemoteWakeup_spec w
  set w₁ := requestRemoteWakeupIfNeeded w with hw₁
  intro w'
  -- the wakeup request does not change whether the report goes out
  have hw' : w' = if w.sendsNow then (sendReportNow report keyboard mouse w₁).1
      else { (sendReportNow report keyboard mouse w₁).1 with
        usb := park (sendReportNow report keyboard mouse w₁).1.usb } := by
    show handleReport _ _ w = _
    unfold handleReport
    rw [if_neg (by rw [hready]; decide)]
    dsimp only
    rw [sendReportNow_ok, hsends]
  cases hs : w.sendsNow with
  | true =>
    rw [hs, if_pos rfl] at hw'
    refine ⟨_, ?_, Or.inl ⟨rfl, rfl, ?_, ?_⟩⟩
    · rw [hw', sendReportNow_out_ok _ _ _ _ (hsends.trans hs)]
    · rw [hw', sendReportNow_usb, hparked]
    · rw [hw', sendReportNow_usb, hrdy, hready]
  | false =>
    rw [hs, if_neg Bool.false_ne_true] at hw'
    obtain ⟨es, hes, hfail⟩ := sendReportNow_out_fail report keyboard mouse w₁ (hsends.trans hs)
    refine ⟨es, ?_, Or.inr ⟨rfl, hfail, w₁.usb, hparked, hrdy.trans hready, ?_⟩⟩
    · rw [hw']
      exact hes
    · rw [hw']
      exact congrArg park (sendReportNow_usb ..)

/-- A drain that succeeds empties its slot; one that fails changes no static. -/
theorem drainPending_usb (flag : Bool) (report : HidReport) (keyboard mouse : Bool)
    (clear : UsbHs → UsbHs) (w : UsbWorld) :
    (drainPending flag (sendReportNow report keyboard mouse) clear w).1.usb
      = if (drainPending flag (sendReportNow report keyboard mouse) clear w).2 then clear w.usb
        else w.usb := by
  unfold drainPending
  cases flag with
  | false => rfl
  | true =>
    dsimp only
    rw [if_pos rfl]
    split <;> simp

theorem drainPending_flag {flag : Bool} {send : UsbWorld → UsbWorld × Bool}
    {clear : UsbHs → UsbHs} {w : UsbWorld} (h : (drainPending flag send clear w).2 = true) :
    flag = true := by
  cases flag with
  | false => cases h
  | true => rfl

/-- **Progress of the poll loop is a slot that was emptied.** -/
theorem pollBody_progress {cfg : Config} {w : UsbWorld} (h : (pollBody cfg w).2 = true) :
    (pollBody cfg w).1.usb.pendingCount < w.usb.pendingCount := by
  have husbk : (drainKeyboard w).1.usb
      = if (drainKeyboard w).2 then w.usb.clearKeyboard else w.usb := drainPending_usb ..
  have husbm : ∀ v, (drainMouse v).1.usb
      = if (drainMouse v).2 then v.usb.clearMouse else v.usb := fun _ => drainPending_usb ..
  have husba : ∀ v, (drainMouseAbs cfg v).1.usb
      = if (drainMouseAbs cfg v).2 then v.usb.clearMouseAbs else v.usb := fun _ => drainPending_usb ..
  unfold pollBody at h ⊢
  dsimp only at h ⊢
  cases hk : (drainKeyboard w).2 with
  | true =>
    have hflag : w.usb.pendingKeyboardReport = true := drainPending_flag hk
    rw [if_pos rfl, husbk, hk, if_pos rfl]
    simp [UsbHs.pendingCount, UsbHs.clearKeyboard, hflag]
  -- the keyboard has nothing or was refused: its slot is as it was
  | false =>
    rw [hk, if_neg Bool.false_ne_true] at husbk
    rw [hk, if_neg Bool.false_ne_true] at h
    rw [if_neg Bool.false_ne_true]
    cases hm : (drainMouse (drainKeyboard w).1).2 with
    | true =>
      have hflag : (drainKeyboard w).1.usb.pendingMouseReport = true := drainPending_flag hm
      rw [if_pos rfl, husbm, hm, if_pos rfl]
      rw [husbk] at hflag ⊢
      simp [UsbHs.pendingCount, UsbHs.clearMouse, hflag]
    | false =>
      have husb := husbm (drainKeyboard w).1
      rw [hm, if_neg Bool.false_ne_true, husbk] at husb
      rw [hm, if_neg Bool.false_ne_true] at h
      have hflag : (drainMouse (drainKeyboard w).1).1.usb.pendingMouseAbsReport = true :=
        drainPending_flag h
      rw [if_neg Bool.false_ne_true, husba, h, if_pos rfl]
      rw [husb] at hflag ⊢
      simp [UsbHs.pendingCount, UsbHs.clearMouseAbs, hflag]

/-- **The poll loop ends by itself**: with one round for each occupied slot and
one more, the bound on the rounds is never what stops it. -/
theorem pollLoop_fuel (cfg : Config) :
    ∀ (n m : Nat) (w : UsbWorld), w.usb.pendingCount < n → w.usb.pendingCount < m →
      pollLoop cfg n w = pollLoop cfg m w := by
  intro n
  induction n with
  | zero => intro m w hn; exact absurd hn (Nat.not_lt_zero _)
  | succ n ih =>
    intro m w hn hm
    cases m with
    | zero => exact absurd hm (Nat.not_lt_zero _)
    | succ m =>
      unfold pollLoop
      dsimp only
      split
      · rfl
      · split
        · next hprog =>
          have hlt := pollBody_progress hprog
          change _ < w.usb.pendingCount at hlt
          exact ih m _ (by omega) (by omega)
        · rfl

/-- A relation between what was and what is that survives the handling of
reports: asking for the endpoint, sending, and setting a slot. -/
structure KeptByReports (R : UsbWorld → UsbWorld → Prop) : Prop where
  refl : ∀ w, R w w
  trans : ∀ {w₁ w₂ w₃}, R w₁ w₂ → R w₂ w₃ → R w₁ w₃
  ready : ∀ w, R w (tudHidReady w).1
  send : ∀ (report : HidReport) (keyboard mouse : Bool) (w : UsbWorld),
    R w (sendReportNow report keyboard mouse w).1
  setSlot : ∀ {k : ReportKind} {o : Option UsbReport} {f : UsbHs → UsbHs}, SetsSlot k o f →
    ∀ w : UsbWorld, R w { w with usb := f w.usb }

section KeptByReports

variable {R : UsbWorld → UsbWorld → Prop}

theorem KeptByReports.drain (h : KeptByReports R) (flag : Bool) (report : HidReport)
    (keyboard mouse : Bool) {k : ReportKind} {o : Option UsbReport} {clear : UsbHs → UsbHs}
    (hclear : SetsSlot k o clear) (w : UsbWorld) :
    R w (drainPending flag (sendReportNow report keyboard mouse) clear w).1 := by
  have hsend := h.send report keyboard mouse w
  unfold drainPending
  cases flag with
  | false => exact h.refl w
  | true =>
    dsimp only
    rw [if_pos rfl]
    split
    · exact h.trans hsend (h.setSlot hclear _)
    · exact hsend

theorem KeptByReports.body (h : KeptByReports R) (cfg : Config) (w : UsbWorld) :
    R w (pollBody cfg w).1 := by
  have hk : R w (drainKeyboard w).1 := h.drain _ _ _ _ clearKeyboard_sets w
  have hm : ∀ v, R v (drainMouse v).1 := fun v => h.drain _ _ _ _ clearMouse_sets v
  have ha : ∀ v, R v (drainMouseAbs cfg v).1 := fun v => h.drain _ _ _ _ clearMouseAbs_sets v
  unfold pollBody
  dsimp only
  split
  · exact hk
  · split
    · exact h.trans hk (hm _)
    · exact h.trans (h.trans hk (hm _)) (ha _)

/-- By induction on the rounds. -/
theorem KeptByReports.loop (h : KeptByReports R) (cfg : Config) : ∀ (fuel : Nat) (w : UsbWorld),
    R w (pollLoop cfg fuel w) := by
  intro fuel
  induction fuel with
  | zero => exact h.refl
  | succ fuel ih =>
    intro w
    unfold pollLoop
    dsimp only
    split
    · exact h.ready w
    · have hround := h.trans (h.ready w) (h.body cfg (tudHidReady w).1)
      split
      · exact h.trans hround (ih _)
      · exact hround

/-- A handler that has dealt with the wakeup. -/
theorem KeptByReports.handle (h : KeptByReports R) (report : HidReport) (keyboard mouse : Bool)
    {k : ReportKind} {o : Option UsbReport} {park : UsbHs → UsbHs} (hpark : SetsSlot k o park)
    {w : UsbWorld} (hready : w.usb.usbReady = true) :
    R (requestRemoteWakeupIfNeeded w)
      (handleReport (sendReportNow report keyboard mouse) park w) := by
  have hsend := h.send report keyboard mouse (requestRemoteWakeupIfNeeded w)
  unfold handleReport
  rw [if_neg (by rw [hready]; decide)]
  dsimp only
  split
  · exact hsend
  · exact h.trans hsend (h.setSlot hpark _)

end KeptByReports

end CaptureKVMBridge.Usb
