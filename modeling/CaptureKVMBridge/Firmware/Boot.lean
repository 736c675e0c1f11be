import CaptureKVMBridge.Display.Power
import CaptureKVMBridge.Firmware.Main

/-!
# The order of the start

`app_main` starts what produces events behind what consumes them. `boot_order`
says what that is good for, in every state of every run, wherever the start is
and whichever of its calls has failed: if a transport is started, or another task of
the firmware, then the handler is installed and the device is initialised, its
microphone ring included. So no frame is received without a handler, and no
microphone frame is handled without a ring.

A transport that is started need not live on: its task deletes itself if it gets no
socket or no buffer, and nobody is told (`World.Alive`).

Most steps leave alone what this is about. `World.parts` is what is left of a
state if only that is kept; `firmwareExec_parts` says that only `app_main` changes
it, and the invariant `Boots` is about it.
-/

namespace CaptureKVMBridge.Firmware

open CaptureKVMBridge.Machine CaptureKVMBridge.Tlv CaptureKVMBridge.Usb CaptureKVMBridge.Display
open Net (NetworkConfig UdpBuffer UdpTask)

variable {cfg : Config} {net : NetworkConfig} {w : World cfg}

/-! ## What is there of a start -/

/-- What is there of the parts that a start installs. -/
structure Parts where
  main : AppMain
  handler : Option EventHandler
  pc : InitPc
  ringCreated : Bool
  driverInstalled : Bool
  uacInitialised : Bool
  /-- the transports' tasks were created -/
  network : Bool
  serial : Bool
  uart : Bool
  coreServiceTask : Bool
  displayTask : Bool
  displayEnabled : Bool
  /-- `s_display` is set -/
  display : Bool

def World.parts (w : World cfg) : Parts where
  main := w.main
  handler := w.tlv.handler
  pc := w.usb.pc
  ringCreated := w.usb.ringCreated
  driverInstalled := w.usb.driverInstalled
  uacInitialised := w.usb.uacInitialised
  network := w.network.udpTask.isSome
  serial := w.serial.isSome
  uart := w.uart.isSome
  coreServiceTask := w.coreServiceTask
  displayTask := w.displayTask
  displayEnabled := w.displayEnabled
  display := w.display.ui.display

/-- An entry into the device or a request does not concern its initialisation. -/
theorem initExec_parts (cfg : Config) (pol : GrantPolicy UInt8) (u : InitWorld) {op : InitOp}
    (hop : ∀ err, op ≠ .init err) :
    (initExec cfg pol u op).pc = u.pc ∧
    (initExec cfg pol u op).ringCreated = u.ringCreated ∧
    (initExec cfg pol u op).driverInstalled = u.driverInstalled ∧
    (initExec cfg pol u op).uacInitialised = u.uacInitialised := by
  -- a device or an input that is not admitted does nothing
  cases op with
  | init err => exact absurd rfl (hop err)
  | device op =>
    unfold initExec
    dsimp only
    split
    · exact ⟨rfl, rfl, rfl, rfl⟩
    · exact ⟨rfl, rfl, rfl, rfl⟩
  | input len buf =>
    unfold initExec
    dsimp only
    split
    · exact ⟨rfl, rfl, rfl, rfl⟩
    · exact ⟨rfl, rfl, rfl, rfl⟩

/-- So it is for a state in which only the device has gone on. -/
theorem parts_device (pol : GrantPolicy UInt8) (w : World cfg) {op : InitOp}
    (hop : ∀ err, op ≠ .init err) :
    World.parts { w with usb := initExec cfg pol w.usb op } = w.parts := by
  obtain ⟨hpc, hring, hdriver, huac⟩ := initExec_parts cfg pol w.usb hop
  simp only [World.parts, hpc, hring, hdriver, huac]

/-- Receiving a frame leaves the handler. -/
theorem receiveFrame_handler (cfg : Config) (p : ProtocolTlv EventHandler) (src : AppInputSource)
    (data : List UInt8) : (protocolTlvReceiveFrame cfg p src data).1.handler = p.handler := by
  match data with
  | t :: m :: l :: pl =>
    by_cases hd : DecodesLength cfg t (be16 m l) ∧ pl.length = (be16 m l).toNat
    · exact (receiveFrame_accepts hd.1 hd.2 p src).handler
    · exact (receiveFrame_refuses hd p src).handler
  | [] | [_] | [_, _] => rfl

/-- An update leaves the display where it is. -/
theorem displayUiUpdate_display (d : DisplayWorld) (u : Update) :
    (displayUiUpdate d u).ui.display = d.ui.display := by
  cases hdisplay : d.ui.display with
  | false =>
    have hsame : displayUiUpdate d u = d := if_pos hdisplay
    rw [hsame, hdisplay]
  | true =>
    rw [displayUiUpdate_power hdisplay]
    dsimp only
    split
    · show (setAwake _ _).ui.display = true
      rw [setAwake_ui]
      exact hdisplay
    · rw [setAwake_ui]
      exact hdisplay

/-- A call of the listener does not start or end its task. -/
theorem udpListenerTask_isSome {κ : Type} (n : Net.NetworkWorld cfg κ) (a : Net.UdpAnswer) :
    (Net.udpListenerTask n a).udpTask.isSome = n.udpTask.isSome := by
  unfold Net.udpListenerTask
  split
  next h => rw [h]
  next h => rw [h]
  next h => rw [h]; rfl
  next h => rw [h]; rfl
  next h => rw [h]

theorem callback_parts (pol : GrantPolicy UInt8) (t : Transport) (w : World cfg) :
    (callback pol t w).parts = w.parts := by
  unfold callback
  split
  next => rfl
  next event _ => exact parts_device pol w (by nofun)
  next => rfl
  next =>
    split
    next => rfl
    next c calls _ =>
      cases c.callback with
      | protocolTlvReceiveFrame =>
        have hhandler := receiveFrame_handler cfg w.protocol c.source c.frame
        show Parts.mk _ (protocolTlvReceiveFrame cfg w.protocol c.source c.frame).1.handler
          _ _ _ _ _ _ _ _ _ _ _ = _
        rw [hhandler]
        rfl

/-- **Only `app_main` starts anything.** -/
theorem firmwareExec_parts (pol : GrantPolicy UInt8) (w : World cfg) {op : FirmwareOp}
    (hop : ∀ a, op ≠ .main a) : (firmwareExec net pol w op).parts = w.parts := by
  cases op with
  | main a => exact absurd rfl (hop a)
  | bus e => exact parts_device pol w (by nofun)
  | request len buf => exact parts_device pol w (by nofun)
  | poll =>
    unfold firmwareExec
    dsimp only
    split
    · exact parts_device pol w (by nofun)
    · rfl
  | display touch lock =>
    unfold firmwareExec
    dsimp only
    split
    · unfold displayStep World.parts
      dsimp only
      rw [displayUiUpdate_display]
      rfl
    · rfl
  | network a =>
    show (networkStep a w).parts = _
    unfold networkStep
    split
    · have hsome := udpListenerTask_isSome w.network a
      unfold World.parts
      dsimp only
      rw [hsome]
      rfl
    · rfl
  | serial op =>
    show (serialStep op w).parts = _
    unfold serialStep
    split
    next => rfl
    next s bs hs =>
      unfold World.parts
      rw [hs]
      rfl
    next s answer hs =>
      split
      · unfold World.parts
        rw [hs]
        rfl
      · rfl
  | uart op =>
    show (uartStep op w).parts = _
    unfold uartStep
    split
    next => rfl
    next u hu =>
      split
      · unfold World.parts
        rw [hu]
        rfl
      · rfl
    next u op hu _ =>
      unfold World.parts
      rw [hu]
      rfl
  | callback t => exact callback_parts pol t w

/-! ## The invariant -/

/-- How far `app_main` has come: the number of calls behind it, counted from the
installation of the handler. -/
def AppMain.rank : AppMain → Nat
  | .nvsFlashInit | .nvsFlashErase | .nvsFlashInitAgain | .bspSpiffsMount | .appStateInit => 0
  | .displayUiInit | .usbHsDeviceInit => 0
  | .protocolTlvInit => 1
  | .networkTransportStart => 2
  | .serialTransportStart => 3
  | .uartTransportStart => 4
  | .createCoreService => 5
  | .createDisplay => 6
  | .returned => 7
  | .aborted => 0

/-- What the device has got by now. -/
def DeviceBoots (cfg : Config) (p : Parts) : Prop :=
  match p.pc with
  | .ringbufferCreate => cfg.appEnableUsbAudio = true ∧ p.uacInitialised = false
  | .driverInstall => p.ringCreated = cfg.appEnableUsbAudio ∧ p.uacInitialised = false
  | .uacDeviceInit =>
    p.ringCreated = cfg.appEnableUsbAudio ∧ p.driverInstalled = true ∧ cfg.appEnableUsbAudio = true
  | .updateUsbState =>
    p.ringCreated = cfg.appEnableUsbAudio ∧ p.driverInstalled = true ∧
      p.uacInitialised = cfg.appEnableUsbAudio
  | .returned err => err = espOk →
    p.ringCreated = cfg.appEnableUsbAudio ∧ p.driverInstalled = true ∧
      p.uacInitialised = cfg.appEnableUsbAudio

/-- What consumes events is there. -/
structure Ready (cfg : Config) (p : Parts) : Prop where
  handler : p.handler = some .handleProtocolEvent
  returned : p.pc = .returned espOk
  ring : p.ringCreated = cfg.appEnableUsbAudio
  driver : p.driverInstalled = true
  uac : p.uacInitialised = cfg.appEnableUsbAudio

/-- The transport's task was created. -/
def Parts.started (p : Parts) : Transport → Bool
  | .network => p.network
  | .serial => p.serial
  | .uart => p.uart

/-- Some task of the firmware was created beside `app_main`. -/
def Parts.Runs (p : Parts) : Prop :=
  (∃ t, p.started t = true) ∨ p.coreServiceTask = true ∨ p.displayTask = true

/-- The invariant of the start. -/
structure Boots (cfg : Config) (net : NetworkConfig) (p : Parts) : Prop where
  device : DeviceBoots cfg p
  ready : p.Runs → Ready cfg p
  display : p.displayEnabled = true → p.display = true
  shown : p.displayTask = true → p.display = true
  usb : 1 ≤ p.main.rank → p.pc = .returned espOk
  handler : 2 ≤ p.main.rank → p.handler = some .handleProtocolEvent
  early : p.main ≠ .aborted → p.main.rank ≤ 2 → p.network = false
  earlySerial : p.main ≠ .aborted → p.main.rank ≤ 3 → p.serial = false
  earlyUart : p.main ≠ .aborted → p.main.rank ≤ 4 → p.uart = false
  network : 3 ≤ p.main.rank → p.network = net.appWifiEnable
  serial : 4 ≤ p.main.rank → p.serial = true
  uart : 5 ≤ p.main.rank → p.uart = true

theorem boots_boot (cfg : Config) (net : NetworkConfig) (env : Answers) (backlight : Stream' Int)
    (buffer : UdpBuffer cfg) : Boots cfg net (boot cfg env backlight buffer).parts := by
  refine ⟨?_, ?_, by nofun, by nofun, by nofun, by nofun, fun _ _ => rfl,
    fun _ _ => rfl, fun _ _ => rfl, by nofun, by nofun, by nofun⟩
  · unfold DeviceBoots World.parts boot initBoot
    dsimp only
    cases h : cfg.appEnableUsbAudio with
    | false => exact ⟨rfl, rfl⟩
    | true => exact ⟨rfl, rfl⟩
  · intro hruns
    rcases hruns with ⟨t, ht⟩ | h | h
    · cases t <;> cases ht
    · cases h
    · cases h

/-- Once the device is initialised and the handler installed, all is ready. -/
theorem Boots.isReady {p : Parts} (h : Boots cfg net p) (hrank : 2 ≤ p.main.rank) :
    Ready cfg p := by
  have hpc := h.usb (by omega)
  have hdevice := h.device
  unfold DeviceBoots at hdevice
  rw [hpc] at hdevice
  obtain ⟨hring, hdriver, huac⟩ := hdevice rfl
  exact ⟨h.handler hrank, hpc, hring, hdriver, huac⟩

/-- `app_main` has gone on from one call to the next, or has failed; nothing else
is different. -/
theorem Boots.next {p : Parts} (h : Boots cfg net p) (main : AppMain)
    (hrank : main.rank ≤ p.main.rank) (hmain : p.main ≠ .aborted) (hnext : p.main.rank ≤ 2) :
    Boots cfg net { p with main := main } where
  device := h.device
  ready := fun hruns => ⟨(h.ready hruns).handler, (h.ready hruns).returned, (h.ready hruns).ring,
    (h.ready hruns).driver, (h.ready hruns).uac⟩
  display := h.display
  shown := h.shown
  usb := fun hr => h.usb (hr.trans hrank)
  handler := fun hr => h.handler (hr.trans hrank)
  early := fun _ _ => h.early hmain hnext
  earlySerial := fun _ _ => h.earlySerial hmain (by omega)
  earlyUart := fun _ _ => h.earlyUart hmain (by omega)
  network := fun hr => h.network (hr.trans hrank)
  serial := fun hr => h.serial (hr.trans hrank)
  uart := fun hr => h.uart (hr.trans hrank)

theorem espErrorCheck_rank (err : Int) {next : AppMain} {n : Nat} (h : next.rank ≤ n) :
    (espErrorCheck err next).rank ≤ n := by
  unfold espErrorCheck
  split
  · exact h
  · exact Nat.zero_le _

/-- A step of the initialisation of the device. -/
theorem usbHsDeviceInit_boots (cfg : Config) (err : Int) {w : World cfg}
    (h : DeviceBoots cfg w.parts) :
    DeviceBoots cfg (World.parts { w with usb := usbHsDeviceInit cfg err w.usb }) := by
  unfold DeviceBoots World.parts at h
  have hfails : ∀ u e, e ≠ espOk → u.pc = .returned e →
      DeviceBoots cfg (World.parts { w with usb := u }) := by
    intro u e he hpc
    unfold DeviceBoots World.parts
    dsimp only
    rw [hpc]
    exact fun hok => absurd hok he
  unfold usbHsDeviceInit
  cases hpc : w.usb.pc with
  | ringbufferCreate =>
    rw [hpc] at h
    dsimp only
    by_cases herr : err = espOk
    · rw [if_pos herr]
      exact ⟨h.1.symm, h.2⟩
    · rw [if_neg herr]
      exact hfails _ espErrNoMem (by decide) rfl
  | driverInstall =>
    rw [hpc] at h
    dsimp only
    by_cases herr : err = espOk
    · rw [if_pos herr]
      cases haudio : cfg.appEnableUsbAudio with
      | true => exact ⟨h.1, rfl, haudio⟩
      | false => exact ⟨h.1, rfl, h.2.trans haudio.symm⟩
    · rw [if_neg herr]
      exact hfails _ err herr rfl
  | uacDeviceInit =>
    rw [hpc] at h
    dsimp only
    by_cases herr : err = espOk
    · rw [if_pos herr]
      exact ⟨h.1, h.2.1, h.2.2.symm⟩
    · rw [if_neg herr]
      exact hfails _ err herr rfl
  | updateUsbState =>
    rw [hpc] at h
    exact fun _ => h
  | returned err' =>
    unfold DeviceBoots World.parts
    rw [hpc] at h ⊢
    exact h

/-- A display that there is stays, and one is there after a start that worked. -/
theorem displayUiInit_display (a : InitAnswers) (d : DisplayWorld) :
    (d.ui.display = true → (displayUiInit a d).1.ui.display = true) ∧
    ((displayUiInit a d).2 = espOk → (displayUiInit a d).1.ui.display = true) := by
  rcases displayUiInit_cases a d with ⟨hdisplay, heq⟩ | ⟨hnone, _, _, err, herr, heq⟩ | ⟨hnone, heq⟩
  · rw [heq]
    exact ⟨id, fun _ => hdisplay⟩
  · rw [hnone, heq]
    exact ⟨by nofun, fun hok => absurd hok herr⟩
  · have hstarted : (displayUiStart a { d with
        ui := { d.ui with lvglInitialized := true, lcdReady := true } }).1.ui.display = true := by
      unfold displayUiStart
      dsimp only
      split
      · rfl
      · rfl
    rw [heq]
    exact ⟨fun _ => hstarted, fun _ => hstarted⟩

/-- A start of the network that works leaves a listener exactly if there is Wi-Fi. -/
theorem networkTransportStart_isSome {κ : Type} {n : Net.NetworkWorld cfg κ} {cb : Option κ}
    {a : Net.WifiAnswers} {taskCreated : Bool} (hnone : n.udpTask.isSome = false)
    (hok : (Net.networkTransportStart net cb a taskCreated n).2 = espOk) :
    (Net.networkTransportStart net cb a taskCreated n).1.udpTask.isSome = net.appWifiEnable := by
  unfold Net.networkTransportStart at hok ⊢
  dsimp only at hok ⊢
  cases henable : net.appWifiEnable with
  | false =>
    rw [if_pos rfl]
    exact hnone
  | true =>
    rw [henable, if_neg (by nofun)] at hok
    rw [if_neg (by nofun)]
    split at hok
    next herr => exact absurd hok herr
    next herr =>
      rw [if_neg herr]
      split at hok
      next hsome => exact absurd hnone (by rw [hsome]; nofun)
      next hsome =>
        rw [if_neg hsome]
        split at hok
        next => exact absurd hok (show ¬(-1 : Int) = 0 by decide)
        next hcreated =>
          rw [if_neg hcreated]
          rfl

/-- A step of `app_main` behind the handler's installation: what consumes events
is left alone, so anything may be started. -/
structure Starts (p p' : Parts) : Prop where
  rank : 2 ≤ p.main.rank
  handler : p'.handler = p.handler
  pc : p'.pc = p.pc
  ring : p'.ringCreated = p.ringCreated
  driver : p'.driverInstalled = p.driverInstalled
  uac : p'.uacInitialised = p.uacInitialised
  display : p'.display = p.display
  enabled : p'.displayEnabled = p.displayEnabled
  shown : p'.displayTask = true → p.displayTask = true ∨ p.displayEnabled = true
  later : p'.main ≠ .aborted → 3 ≤ p'.main.rank

theorem Boots.starts {p p' : Parts} (h : Boots cfg net p) (hs : Starts p p')
    (hearly : p'.main ≠ .aborted → (p'.main.rank ≤ 3 → p'.serial = false) ∧
      (p'.main.rank ≤ 4 → p'.uart = false))
    (hnetwork : 3 ≤ p'.main.rank → p'.network = net.appWifiEnable)
    (hserial : 4 ≤ p'.main.rank → p'.serial = true) (huart : 5 ≤ p'.main.rank → p'.uart = true) :
    Boots cfg net p' where
  device := by
    have hdevice := h.device
    unfold DeviceBoots at hdevice ⊢
    rw [hs.pc, hs.ring, hs.driver, hs.uac]
    exact hdevice
  ready := fun _ => by
    obtain ⟨hhandler, hpc, hring, hdriver, huac⟩ := h.isReady hs.rank
    exact ⟨hs.handler.trans hhandler, hs.pc.trans hpc, hs.ring.trans hring,
      hs.driver.trans hdriver, hs.uac.trans huac⟩
  display := fun henabled => hs.display.trans (h.display (hs.enabled.symm.trans henabled))
  shown := fun htask => hs.display.trans ((hs.shown htask).elim h.shown h.display)
  usb := fun _ => hs.pc.trans (h.isReady hs.rank).returned
  handler := fun _ => hs.handler.trans (h.isReady hs.rank).handler
  early := fun hmain hrank => absurd (hs.later hmain) (by omega)
  earlySerial := fun hmain => (hearly hmain).1
  earlyUart := fun hmain => (hearly hmain).2
  network := hnetwork
  serial := hserial
  uart := huart

/-- The rank of a call that was not checked, or has succeeded. -/
theorem rank_espErrorCheck {err : Int} {next : AppMain} {n : Nat}
    (h : n + 1 ≤ (espErrorCheck err next).rank) : err = espOk ∧ n + 1 ≤ next.rank := by
  unfold espErrorCheck at h
  split at h
  next hok => exact ⟨hok, h⟩
  next => exact absurd h (Nat.not_succ_le_zero n)

theorem espErrorCheck_later {err : Int} {next : AppMain} {n : Nat} (h : n ≤ next.rank)
    (hmain : espErrorCheck err next ≠ .aborted) : n ≤ (espErrorCheck err next).rank := by
  unfold espErrorCheck at hmain ⊢
  split
  · exact h
  next herr => exact absurd (if_neg herr) hmain

theorem afterDeviceInit_rank (pc : InitPc) : (afterDeviceInit pc).rank ≤ 1 := by
  cases pc with
  | returned err => exact espErrorCheck_rank err (Nat.le_refl 1)
  | ringbufferCreate | driverInstall | uacDeviceInit | updateUsbState => exact Nat.zero_le 1

/-- `app_main` is past the initialisation of the device only if that has worked. -/
theorem afterDeviceInit_pos {pc : InitPc} (h : 1 ≤ (afterDeviceInit pc).rank) :
    pc = .returned espOk := by
  cases pc with
  | returned err => rw [(rank_espErrorCheck h).1]
  | ringbufferCreate | driverInstall | uacDeviceInit | updateUsbState =>
    exact absurd h (Nat.not_succ_le_zero 0)

/-- **Each call of `app_main` keeps the invariant.** -/
theorem appMain_boots (a : MainAnswer) (h : Boots cfg net w.parts) (hmain : w.main ≠ .aborted) :
    Boots cfg net (appMain net a w).parts := by
  have hrank : ∀ {n main}, w.main = main → main.rank = n → w.parts.main.rank = n := by
    intro n main hpc hn
    rw [← hn, ← hpc]
    rfl
  unfold appMain
  cases hpc : w.main with
  | nvsFlashInit =>
    have hzero : w.parts.main.rank = 0 := hrank hpc rfl
    dsimp only
    split
    · exact h.next _ (Nat.zero_le _) hmain (by omega)
    · exact h.next _ (espErrorCheck_rank _ (Nat.zero_le _)) hmain (by omega)
  | nvsFlashErase | nvsFlashInitAgain | bspSpiffsMount =>
    have hzero : w.parts.main.rank = 0 := hrank hpc rfl
    exact h.next _ (espErrorCheck_rank _ (Nat.zero_le _)) hmain (by omega)
  | appStateInit =>
    have hzero : w.parts.main.rank = 0 := hrank hpc rfl
    exact h.next .displayUiInit (Nat.zero_le _) hmain (by omega)
  -- `ESP_ERR_NO_MEM` is let pass: the firmware goes on without a display
  | displayUiInit =>
    have hzero : w.parts.main.rank = 0 := hrank hpc rfl
    obtain ⟨hstays, hstarts⟩ := displayUiInit_display { a.display with now := w.timer.head } w.display
    have hnext : ∀ main : AppMain, main.rank ≤ 0 → Boots cfg net { w.parts with main := main } :=
      fun main hle => h.next main (by omega) hmain (by omega)
    have hmain' : (if (displayUiInit { a.display with now := w.timer.head } w.display).2
        = espErrNoMem then AppMain.usbHsDeviceInit
        else espErrorCheck (displayUiInit { a.display with now := w.timer.head } w.display).2
          .usbHsDeviceInit).rank ≤ 0 := by
      split
      · exact Nat.le_refl 0
      · exact espErrorCheck_rank _ (Nat.le_refl 0)
    have hkept := hnext _ hmain'
    exact
      { device := hkept.device
        ready := fun hruns => ⟨(hkept.ready hruns).handler, (hkept.ready hruns).returned,
          (hkept.ready hruns).ring, (hkept.ready hruns).driver, (hkept.ready hruns).uac⟩
        display := fun henabled => hstarts (of_decide_eq_true henabled)
        shown := fun htask => hstays (h.shown htask)
        usb := hkept.usb
        handler := hkept.handler
        early := hkept.early
        earlySerial := hkept.earlySerial
        earlyUart := hkept.earlyUart
        network := hkept.network
        serial := hkept.serial
        uart := hkept.uart }
  | usbHsDeviceInit =>
    have hzero : w.parts.main.rank = 0 := hrank hpc rfl
    have hdevice := usbHsDeviceInit_boots cfg a.err h.device
    set u := usbHsDeviceInit cfg a.err w.usb with hu
    -- whoever runs was started behind the device, which is not initialised again
    have hready : w.parts.Runs → u = w.usb := by
      intro hruns
      have hpc : w.usb.pc = .returned espOk := (h.ready hruns).returned
      rw [hu]
      unfold usbHsDeviceInit
      rw [hpc]
    have hle : (afterDeviceInit u.pc).rank ≤ 1 := afterDeviceInit_rank u.pc
    exact
      { device := hdevice
        ready := fun hruns => by
          obtain ⟨hhandler, hret, hring, hdriver, huac⟩ := h.ready hruns
          have hsame : u = w.usb := hready hruns
          dsimp only
          rw [hsame]
          exact ⟨hhandler, hret, hring, hdriver, huac⟩
        display := h.display
        shown := h.shown
        usb := fun hone => afterDeviceInit_pos hone
        handler := fun htwo => absurd (Nat.le_trans htwo hle) (Nat.not_succ_le_self 1)
        early := fun _ _ => h.early hmain (by omega)
        earlySerial := fun _ _ => h.earlySerial hmain (by omega)
        earlyUart := fun _ _ => h.earlyUart hmain (by omega)
        network := fun hr => absurd (Nat.le_trans hr hle) (show ¬3 ≤ 1 by omega)
        serial := fun hr => absurd (Nat.le_trans hr hle) (show ¬4 ≤ 1 by omega)
        uart := fun hr => absurd (Nat.le_trans hr hle) (show ¬5 ≤ 1 by omega) }
  | protocolTlvInit =>
    have hone : w.parts.main.rank = 1 := hrank hpc rfl
    exact
      { device := h.device
        ready := fun hruns => by
          obtain ⟨-, hret, hring, hdriver, huac⟩ := h.ready hruns
          exact ⟨rfl, hret, hring, hdriver, huac⟩
        display := h.display
        shown := h.shown
        usb := fun _ => h.usb (by omega)
        handler := fun _ => rfl
        early := fun _ _ => h.early hmain (by omega)
        earlySerial := fun _ _ => h.earlySerial hmain (by omega)
        earlyUart := fun _ _ => h.earlyUart hmain (by omega)
        network := fun hr => absurd hr (show ¬3 ≤ 2 by omega)
        serial := fun hr => absurd hr (show ¬4 ≤ 2 by omega)
        uart := fun hr => absurd hr (show ¬5 ≤ 2 by omega) }
  | networkTransportStart =>
    have htwo : w.parts.main.rank = 2 := hrank hpc rfl
    -- no listener so far, so a start that works decides whether there is one
    have hnone : w.network.udpTask.isSome = false := h.early hmain (by omega)
    refine h.starts ⟨by omega, rfl, rfl, rfl, rfl, rfl, rfl, rfl, Or.inl,
      espErrorCheck_later (by decide)⟩ (fun _ => ⟨fun _ => h.earlySerial hmain (by omega),
        fun _ => h.earlyUart hmain (by omega)⟩) ?_ ?_ ?_
    · intro hr
      exact networkTransportStart_isSome hnone (rank_espErrorCheck hr).1
    · intro hr
      exact absurd (rank_espErrorCheck hr).2 (show ¬4 ≤ 3 by omega)
    · intro hr
      exact absurd (rank_espErrorCheck hr).2 (show ¬5 ≤ 3 by omega)
  | serialTransportStart =>
    have hthree : w.parts.main.rank = 3 := hrank hpc rfl
    dsimp only
    split
    next err herr =>
      -- the start returns an error only after a call that has failed
      have hfails : err ≠ espOk := by
        intro hok
        unfold Serial.serialTransportStart at herr
        split at herr
        next hdriver =>
          cases herr
          exact hdriver.2 hok
        next =>
          split at herr
          · cases herr
            exact absurd hok (by decide)
          · cases herr
      refine h.starts ⟨by omega, rfl, rfl, rfl, rfl, rfl, rfl, rfl, Or.inl,
        espErrorCheck_later (by decide)⟩ (fun hrun => absurd (if_neg hfails) hrun) ?_ ?_ ?_
      · intro hr
        exact absurd (rank_espErrorCheck hr).1 hfails
      · intro hr
        exact absurd (rank_espErrorCheck hr).1 hfails
      · intro hr
        exact absurd (rank_espErrorCheck hr).1 hfails
    next s _ =>
      exact h.starts ⟨by omega, rfl, rfl, rfl, rfl, rfl, rfl, rfl, Or.inl, fun _ => show 3 ≤ 4 by omega⟩
        (fun _ => ⟨fun hr => absurd hr (show ¬4 ≤ 3 by omega),
          fun _ => h.earlyUart hmain (by omega)⟩)
        (fun _ => h.network (by omega)) (fun _ => rfl) (fun hr => absurd hr (show ¬5 ≤ 4 by omega))
  | uartTransportStart =>
    have hfour : w.parts.main.rank = 4 := hrank hpc rfl
    dsimp only
    split
    · exact h.starts ⟨by omega, rfl, rfl, rfl, rfl, rfl, rfl, rfl, Or.inl, fun _ => show 3 ≤ 5 by omega⟩
        (fun _ => ⟨fun hr => absurd hr (show ¬5 ≤ 3 by omega),
          fun hr => absurd hr (show ¬5 ≤ 4 by omega)⟩)
        (fun _ => h.network (by omega)) (fun _ => h.serial (by omega)) (fun _ => rfl)
    · exact h.starts ⟨by omega, rfl, rfl, rfl, rfl, rfl, rfl, rfl, Or.inl,
        fun hmain => absurd rfl hmain⟩ (fun hmain => absurd rfl hmain)
        (fun hr => absurd hr (Nat.not_succ_le_zero 2))
        (fun hr => absurd hr (Nat.not_succ_le_zero 3))
        (fun hr => absurd hr (Nat.not_succ_le_zero 4))
  | createCoreService =>
    have hfive : w.parts.main.rank = 5 := hrank hpc rfl
    exact h.starts ⟨by omega, rfl, rfl, rfl, rfl, rfl, rfl, rfl, Or.inl, fun _ => show 3 ≤ 6 by omega⟩
      (fun _ => ⟨fun hr => absurd hr (show ¬6 ≤ 3 by omega),
        fun hr => absurd hr (show ¬6 ≤ 4 by omega)⟩)
      (fun _ => h.network (by omega)) (fun _ => h.serial (by omega)) (fun _ => h.uart (by omega))
  | createDisplay =>
    have hsix : w.parts.main.rank = 6 := hrank hpc rfl
    exact h.starts ⟨by omega, rfl, rfl, rfl, rfl, rfl, rfl, rfl,
      fun htask => Or.inr (Bool.and_eq_true_iff.mp htask).1, fun _ => show 3 ≤ 7 by omega⟩
      (fun _ => ⟨fun hr => absurd hr (show ¬7 ≤ 3 by omega),
        fun hr => absurd hr (show ¬7 ≤ 4 by omega)⟩)
      (fun _ => h.network (by omega)) (fun _ => h.serial (by omega)) (fun _ => h.uart (by omega))
  | returned | aborted => exact h

/-- **Each step keeps the invariant.** -/
theorem Boots.step (pol : GrantPolicy UInt8) (h : Boots cfg net w.parts) (op : FirmwareOp) :
    Boots cfg net (firmwareStep net pol w op).parts := by
  unfold firmwareStep
  split
  · exact h
  next hmain =>
    by_cases hop : ∃ a, op = .main a
    · obtain ⟨a, rfl⟩ := hop
      exact appMain_boots a h hmain
    · rw [firmwareExec_parts pol w fun a ha => hop ⟨a, ha⟩]
      exact h

/-! ## Who calls back -/

/-- The transport's task is there: it was created, and has not deleted itself. -/
def World.Alive (w : World cfg) : Transport → Prop
  | .network => ∃ task, w.network.udpTask = some task ∧ task ≠ .deleted
  | .serial => ∃ s, w.serial = some s ∧ s.task ≠ .deleted
  | .uart => ∃ u, w.uart = some u

theorem World.Alive.started {t : Transport} (h : w.Alive t) : w.parts.started t = true := by
  cases t with
  | network =>
    obtain ⟨task, htask, -⟩ := h
    show w.network.udpTask.isSome = true
    rw [htask]
    rfl
  | serial =>
    obtain ⟨s, hs, -⟩ := h
    show w.serial.isSome = true
    rw [hs]
    rfl
  | uart =>
    obtain ⟨u, hu⟩ := h
    show w.uart.isSome = true
    rw [hu]
    rfl

/-- A task that is in its callback is there. -/
def Attended (w : World cfg) : Prop := ∀ t, w.courier t ≠ .idle → w.Alive t

@[simp] theorem setCourier_self (w : World cfg) (t : Transport) (c : Courier) :
    (w.setCourier t c).courier t = c := Function.update_self ..

theorem setCourier_other (w : World cfg) {t u : Transport} (h : u ≠ t) (c : Courier) :
    (w.setCourier t c).courier u = w.courier u := Function.update_of_ne h ..

@[simp] theorem newCalls_self (calls : List (CallbackCall FrameCallback)) :
    newCalls calls calls = [] := List.drop_length

/-- A call of `app_main` starts tasks, and ends none. -/
theorem networkTransportStart_stays {κ : Type} {n : Net.NetworkWorld cfg κ} {task : UdpTask}
    (cb : Option κ) (a : Net.WifiAnswers) (taskCreated : Bool) (h : n.udpTask = some task) :
    (Net.networkTransportStart net cb a taskCreated n).1.udpTask = some task := by
  unfold Net.networkTransportStart
  dsimp only
  split
  · exact h
  · split
    · exact h
    · rw [if_pos (by rw [h]; rfl)]
      exact h

/-- What `app_main` leaves alone: the callbacks under way, and the tasks there are. -/
theorem appMain_leaves (net : NetworkConfig) (a : MainAnswer) (w : World cfg) :
    (appMain net a w).courier = w.courier ∧ (appMain net a w).dispatched = w.dispatched ∧
      (appMain net a w).handled = w.handled ∧ ∀ t, w.Alive t → (appMain net a w).Alive t := by
  unfold appMain
  cases w.main with
  | nvsFlashInit =>
    dsimp only
    split
    · exact ⟨rfl, rfl, rfl, fun _ h => h⟩
    · exact ⟨rfl, rfl, rfl, fun _ h => h⟩
  | networkTransportStart =>
    refine ⟨rfl, rfl, rfl, fun t h => ?_⟩
    cases t with
    | network =>
      obtain ⟨task, htask, hne⟩ := h
      exact ⟨task, networkTransportStart_stays _ _ _ htask, hne⟩
    | serial => exact h
    | uart => exact h
  | serialTransportStart =>
    dsimp only
    split
    next => exact ⟨rfl, rfl, rfl, fun _ h => h⟩
    next s hs =>
      refine ⟨rfl, rfl, rfl, fun t h => ?_⟩
      cases t with
      | network => exact h
      | serial => exact ⟨s, rfl, Serial.serialTransportStart_task hs⟩
      | uart => exact h
  | uartTransportStart =>
    dsimp only
    split
    · refine ⟨rfl, rfl, rfl, fun t h => ?_⟩
      cases t with
      | network => exact h
      | serial => exact h
      | uart => exact ⟨_, rfl⟩
    · exact ⟨rfl, rfl, rfl, fun _ h => h⟩
  | nvsFlashErase | nvsFlashInitAgain | bspSpiffsMount | appStateInit | displayUiInit
  | usbHsDeviceInit | protocolTlvInit | createCoreService | createDisplay | returned | aborted =>
    exact ⟨rfl, rfl, rfl, fun _ h => h⟩

/-- The tasks of the transports are as they were. -/
theorem World.Alive.same {w' : World cfg} {t : Transport} (h : w.Alive t)
    (hnetwork : w'.network = w.network) (hserial : w'.serial = w.serial)
    (huart : w'.uart = w.uart) : w'.Alive t := by
  cases t with
  | network =>
    obtain ⟨task, htask, hne⟩ := h
    exact ⟨task, by rw [hnetwork, htask], hne⟩
  | serial =>
    obtain ⟨s, hs, hne⟩ := h
    exact ⟨s, by rw [hserial, hs], hne⟩
  | uart =>
    obtain ⟨u, hu⟩ := h
    exact ⟨u, by rw [huart, hu]⟩

/-- A task that has made calls of its callback goes on with the loop. -/
theorem udpListenerTask_calls {κ : Type} {n : Net.NetworkWorld cfg κ} {a : Net.UdpAnswer}
    (h : (Net.udpListenerTask n a).delivered ≠ n.delivered) :
    (Net.udpListenerTask n a).udpTask = some .recvfrom := by
  revert h
  unfold Net.udpListenerTask
  split
  next => exact fun h => absurd rfl h
  next => exact fun h => absurd rfl h
  next => exact fun h => absurd rfl h
  next => exact fun h => absurd rfl h
  next htask => exact fun _ => htask

/-- So does the one of the serial port. -/
theorem serialRxTask_calls {κ : Type} {s : Serial.SerialWorld cfg κ} {answer : Nat}
    (h : (Serial.serialRxTask answer s).delivered ≠ s.delivered) :
    (Serial.serialRxTask answer s).task ≠ .deleted := by
  have hcalled := Serial.serialRxTask_called answer s
  generalize Serial.serialRxTask answer s = s' at h hcalled ⊢
  cases hcalled with
  | stays | allocates | reads | empties => exact absurd rfl h
  | feeds chunk => exact Serial.SerialRxTask.noConfusion

/-- A step of another task, or of the bus. -/
theorem Attended.kept {w' : World cfg} (h : Attended w) (hcourier : w'.courier = w.courier)
    (halive : ∀ t, w.Alive t → w'.Alive t) : Attended w' := fun t hcalls =>
  halive t (h t (by rwa [hcourier] at hcalls))

/-- A task that was not in its callback has gone on. -/
theorem Attended.goes {w' : World cfg} {t : Transport}
    {before after : List (CallbackCall FrameCallback)} (h : Attended w)
    (hcourier : w'.courier
      = Function.update w.courier t { calls := newCalls before after, handler := none })
    (hself : after ≠ before → w'.Alive t) (hother : ∀ u, u ≠ t → w.Alive u → w'.Alive u) :
    Attended w' := by
  intro u hcalls
  rw [hcourier] at hcalls
  by_cases hut : u = t
  · subst hut
    rw [Function.update_self] at hcalls
    refine hself fun heq => hcalls ?_
    rw [heq, newCalls_self]
    rfl
  · rw [Function.update_of_ne hut] at hcalls
    exact hother u hut (h u hcalls)

/-- A callback concerns the task whose callback it is. -/
theorem callback_courier (pol : GrantPolicy UInt8) (w : World cfg) {t u : Transport} (h : u ≠ t) :
    (callback pol t w).courier u = w.courier u := by
  unfold callback
  split
  next => exact setCourier_other w h _
  next => exact setCourier_other w h _
  next => exact setCourier_other w h _
  next =>
    split
    next => rfl
    next c calls _ =>
      cases c.callback with
      | protocolTlvReceiveFrame => exact setCourier_other _ h _

/-- A task that is not in its callback has no call to make in it. -/
theorem callback_idle (pol : GrantPolicy UInt8) {t : Transport} (h : w.courier t = .idle) :
    callback pol t w = w := by
  unfold callback
  rw [h]
  rfl

/-- What a callback leaves of the transports. -/
theorem callback_transports (pol : GrantPolicy UInt8) (t : Transport) (w : World cfg) :
    (callback pol t w).network = w.network ∧ (callback pol t w).serial = w.serial ∧
      (callback pol t w).uart = w.uart := by
  unfold callback
  split
  next => exact ⟨rfl, rfl, rfl⟩
  next => exact ⟨rfl, rfl, rfl⟩
  next => exact ⟨rfl, rfl, rfl⟩
  next =>
    split
    next => exact ⟨rfl, rfl, rfl⟩
    next c calls _ =>
      cases c.callback with
      | protocolTlvReceiveFrame => exact ⟨rfl, rfl, rfl⟩

/-- **Only a task that is there enters its callback**, and it stays until it is out. -/
theorem Attended.exec (pol : GrantPolicy UInt8) (h : Attended w) (op : FirmwareOp) :
    Attended (firmwareExec net pol w op) := by
  cases op with
  | main a =>
    obtain ⟨hcourier, -, -, halive⟩ := appMain_leaves net a w
    exact h.kept hcourier halive
  | bus e => exact h.kept rfl fun _ ht => ht.same rfl rfl rfl
  | request len buf => exact h.kept rfl fun _ ht => ht.same rfl rfl rfl
  | poll =>
    unfold firmwareExec
    dsimp only
    split
    · exact h.kept rfl fun _ ht => ht.same rfl rfl rfl
    · exact h
  | display touch lock =>
    unfold firmwareExec
    dsimp only
    split
    · exact h.kept rfl fun _ ht => ht.same rfl rfl rfl
    · exact h
  | network a =>
    unfold firmwareExec networkStep
    dsimp only
    split
    -- the listener calls back only from its loop
    · refine h.goes rfl (fun hcalls => ?_) fun u hu ht => ?_
      · exact ⟨.recvfrom, udpListenerTask_calls hcalls, UdpTask.noConfusion⟩
      · cases u with
        | network => exact absurd rfl hu
        | serial => exact ht
        | uart => exact ht
    · exact h
  | serial op =>
    unfold firmwareExec serialStep
    dsimp only
    split
    next => exact h
    next s bs hs =>
      refine h.kept rfl fun t ht => ?_
      cases t with
      | network => exact ht
      | serial =>
        obtain ⟨s', hs', hne⟩ := ht
        rw [hs] at hs'
        cases hs'
        exact ⟨_, rfl, hne⟩
      | uart => exact ht
    next s answer hs =>
      split
      · refine h.goes rfl (fun hcalls => ?_) fun u hu ht => ?_
        · exact ⟨_, rfl, serialRxTask_calls hcalls⟩
        · cases u with
          | network => exact ht
          | serial => exact absurd rfl hu
          | uart => exact ht
      · exact h
  | uart op =>
    unfold firmwareExec uartStep
    dsimp only
    split
    next => exact h
    next u hu =>
      split
      · refine h.goes rfl (fun _ => ⟨_, rfl⟩) fun v hv ht => ?_
        cases v with
        | network => exact ht
        | serial => exact ht
        | uart => exact absurd rfl hv
      · exact h
    next =>
      refine h.kept rfl fun t ht => ?_
      cases t with
      | network => exact ht
      | serial => exact ht
      | uart => exact ⟨_, rfl⟩
  | callback u =>
    intro t hcalls
    -- a callback is left, never entered, by its own steps
    change (callback pol u w).courier t ≠ .idle at hcalls
    obtain ⟨hnetwork, hserial, huart⟩ := callback_transports pol u w
    have hbusy : w.courier t ≠ .idle := by
      by_cases htu : t = u
      · subst htu
        intro hidle
        rw [callback_idle pol hidle] at hcalls
        exact hcalls hidle
      · rwa [callback_courier pol w htu] at hcalls
    exact (h t hbusy).same hnetwork hserial huart

theorem Attended.step (pol : GrantPolicy UInt8) (h : Attended w) (op : FirmwareOp) :
    Attended (firmwareStep net pol w op) := by
  unfold firmwareStep
  split
  · exact h
  · exact h.exec pol op

/-! ## Runs -/

/-- **What produces events is started behind what consumes them.** In every run
from the beginning of `app_main`, with any answers and anything going on around
it: if a transport or another task of the firmware was started, the handler is
installed and the device initialised, with a ring exactly in a build with audio;
whoever is in a callback is a transport whose task is there, so what it handles is
never refused for want of a ring; the display task has a display; and when `app_main`
has returned all transports were started, the network if there is Wi-Fi. -/
theorem boot_order (cfg : Config) (net : NetworkConfig) (pol : GrantPolicy UInt8) (env : Answers)
    (backlight : Stream' Int) (buffer : UdpBuffer cfg) (ops : List FirmwareOp) :
    let w := runSteps (firmwareStep net pol) (boot cfg env backlight buffer) ops
    (w.parts.Runs → Ready cfg w.parts) ∧
    (∀ t, w.courier t ≠ .idle → w.Alive t) ∧
    (∀ t event, (w.courier t).handler = some (.usbHsHandle event) → cfg.appEnableUsbAudio = true →
      w.usb.admits (usbHsHandle event.payload) = true) ∧
    (w.displayTask = true → w.display.ui.display = true) ∧
    (w.main = .returned →
      ∀ t, w.parts.started t = true ↔ t ≠ .network ∨ net.appWifiEnable = true) := by
  intro w
  have hboots : Boots cfg net w.parts :=
    runSteps_inv (I := fun v : World cfg => Boots cfg net v.parts) (fun v op hv => hv.step pol op)
      (boots_boot cfg net env backlight buffer) ops
  have hattended : Attended w :=
    runSteps_inv (fun v op hv => hv.step pol op) (fun _ hcalls => absurd rfl hcalls) ops
  refine ⟨hboots.ready, hattended, fun t event hhandler haudio => ?_, hboots.shown,
    fun hmain t => ?_⟩
  · have halive : w.Alive t := by
      refine hattended t fun hidle => ?_
      rw [hidle] at hhandler
      cases hhandler
    -- who has an event is a task that was started, so the device was ready for it
    have hring : w.usb.ringCreated = true :=
      (hboots.ready (Or.inl ⟨t, halive.started⟩)).ring.trans haudio
    cases event.payload with
    | microphone frame => exact hring
    | keyboard report => rfl
    | mouse report => rfl
    | mouseAbs report => rfl
  · have hrank : w.parts.main.rank = 7 := by
      show w.main.rank = 7
      rw [hmain]
      rfl
    cases t with
    | network =>
      show w.parts.network = true ↔ _
      rw [hboots.network (by omega)]
      exact ⟨Or.inr, fun h => h.elim (absurd rfl) id⟩
    | serial => exact iff_of_true (hboots.serial (by omega)) (Or.inl (by nofun))
    | uart => exact iff_of_true (hboots.uart (by omega)) (Or.inl (by nofun))

end CaptureKVMBridge.Firmware
