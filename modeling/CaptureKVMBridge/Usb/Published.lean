import CaptureKVMBridge.Usb.Wakeup

/-!
# The published state

The display shows `hs_state`, the module acts on `s_usb_ready`. Three places
write the former: the event handler together with the latter, and without a look
at it the last step of `usb_hs_device_init` and `uac_input_cb`. Here the steps of
the initialisation are interleaved with all that may happen meanwhile and later.

`published_agrees_iff`: the two agree in every state after a successful
initialisation exactly if its last step finds no device attached and no request
is served from the ring while none is. Both can fail (`published_disagrees`).

Mirroring notes:
- A step of the initialisation is one call, and its answer is an input. The
  serial number and the descriptors are left out.
- The ring's memory is there from the start; `ringCreated` says since when the
  handler may use it.
- An event, a request and an entry into the module each run to their end before
  the next step.
-/

namespace CaptureKVMBridge.Usb

open CaptureKVMBridge.Machine CaptureKVMBridge.Tlv

/-! ## Initialisation -/

/-- Where `usb_hs_device_init` is, before the call named. -/
inductive InitPc where
  | ringbufferCreate
  | driverInstall
  | uacDeviceInit
  | updateUsbState
  | returned (err : Int)
  deriving DecidableEq, Repr

/-- `ESP_OK`. -/
def espOk : Int := 0

/-- `ESP_ERR_NO_MEM`. -/
def espErrNoMem : Int := 0x101

/-- The device and the task that initialises it. -/
structure InitWorld where
  pc : InitPc
  device : DeviceWorld
  /-- `s_mic_ring` is set -/
  ringCreated : Bool
  /-- the TinyUSB task delivers events -/
  driverInstalled : Bool
  /-- the audio task makes requests -/
  uacInitialised : Bool

/-- At the beginning of `usb_hs_device_init`. -/
def initBoot (cfg : Config) (app : AppState) (env : Answers) : InitWorld where
  pc := if cfg.appEnableUsbAudio then .ringbufferCreate else .driverInstall
  device := deviceBoot cfg app env
  ringCreated := false
  driverInstalled := false
  uacInitialised := false

/-- The next call of `usb_hs_device_init`, which answers `err`; for the ring
anything but `ESP_OK` is `NULL`. -/
def usbHsDeviceInit (cfg : Config) (err : Int) (w : InitWorld) : InitWorld :=
  match w.pc with
  | .ringbufferCreate =>
    if err = espOk then { w with ringCreated := true, pc := .driverInstall }
    else { w with pc := .returned espErrNoMem }
  | .driverInstall =>
    if err = espOk then
      { w with
        driverInstalled := true
        pc := if cfg.appEnableUsbAudio then .uacDeviceInit else .updateUsbState }
    else { w with pc := .returned err }
  | .uacDeviceInit =>
    if err = espOk then { w with uacInitialised := true, pc := .updateUsbState }
    else { w with pc := .returned err }
  | .updateUsbState =>
    { w with
      device := { w.device with
        hid := { w.device.hid with
          app := appStateUpdateUsbState w.device.hid.app .disconnected } }
      pc := .returned espOk }
  | .returned _ => w

/-- A request of the audio task, with fuel for every byte in the ring. -/
def deviceInput (pol : GrantPolicy UInt8) (len : Nat) (buf : Memory) (w : DeviceWorld) :
    DeviceWorld :=
  match uacInputCb pol (w.ring.content.length + 1) len buf w.mic with
  | some (m, _, _) => w.setMic m
  | none => w

/-- A step of the initialisation, an entry into the module, or a request. -/
inductive InitOp where
  | init (err : Int)
  | device (op : DeviceOp)
  | input (len : Nat) (buf : Memory)

/-- Events and bus changes come from the TinyUSB task, frames need the ring. -/
def InitWorld.admits (w : InitWorld) : DeviceOp → Bool
  | .hid (.event _) | .hid (.onSuspend _) | .hid .onResume => w.driverInstalled
  | .hid (.handle _) | .hid .poll => true
  | .microphone _ => w.ringCreated

def initExec (cfg : Config) (pol : GrantPolicy UInt8) (w : InitWorld) : InitOp → InitWorld
  | .init err => usbHsDeviceInit cfg err w
  | .device op => if w.admits op then { w with device := deviceExec cfg pol w.device op } else w
  | .input len buf =>
    if w.uacInitialised then { w with device := deviceInput pol len buf w.device } else w

/-! ## What is published -/

/-- `hs_state` of the snapshot. -/
def DeviceWorld.hsState (w : DeviceWorld) : AppUsbState := w.hid.app.snapshot.hsState

/-- `s_usb_ready`. -/
def DeviceWorld.usbReady (w : DeviceWorld) : Bool := w.hid.usb.usbReady

/-- The display shows a device as disconnected exactly if it is not ready. -/
def Agree (w : DeviceWorld) : Prop := w.hsState = .disconnected ↔ w.usbReady = false

instance : DecidablePred Agree := fun _ => inferInstanceAs (Decidable (_ ↔ _))

/-- Neither side of the agreement has changed. -/
structure SamePublished (w w' : UsbWorld) : Prop where
  hsState : w'.app.snapshot.hsState = w.app.snapshot.hsState
  ready : w'.usb.usbReady = w.usb.usbReady

theorem SamePublished.refl (w : UsbWorld) : SamePublished w w := ⟨rfl, rfl⟩

theorem SamePublished.trans {w₁ w₂ w₃ : UsbWorld} (h : SamePublished w₁ w₂)
    (h' : SamePublished w₂ w₃) : SamePublished w₁ w₃ :=
  ⟨h'.hsState.trans h.hsState, h'.ready.trans h.ready⟩

/-- Sending marks an activity and publishes nothing. -/
theorem sendReportNow_samePublished (report : HidReport) (keyboard mouse : Bool) (w : UsbWorld) :
    SamePublished w (sendReportNow report keyboard mouse w).1 := by
  unfold sendReportNow
  dsimp only
  split
  · exact ⟨rfl, rfl⟩
  · split
    · exact ⟨rfl, rfl⟩
    · exact ⟨rfl, rfl⟩

theorem samePublished_keptByReports : KeptByReports SamePublished where
  refl := SamePublished.refl
  trans := SamePublished.trans
  ready := fun _ => ⟨rfl, rfl⟩
  send := sendReportNow_samePublished
  setSlot := fun hf w => ⟨rfl, hf.ready w.usb⟩

theorem requestRemoteWakeup_samePublished (w : UsbWorld) :
    SamePublished w (requestRemoteWakeupIfNeeded w) := by
  unfold requestRemoteWakeupIfNeeded
  dsimp only
  split
  · exact SamePublished.refl w
  · split
    · exact ⟨rfl, rfl⟩
    · split
      · exact ⟨rfl, rfl⟩
      · exact ⟨rfl, rfl⟩

/-- **An entry into the HID half** publishes what it makes of the readiness, or
publishes nothing and leaves the readiness. -/
theorem exec_published (cfg : Config) (w : UsbWorld) (op : UsbOp) :
    SamePublished w (exec cfg w op) ∨
      ((exec cfg w op).app.snapshot.hsState = .disconnected ↔
        (exec cfg w op).usb.usbReady = false) := by
  have hcalled : SamePublished w { w with out := w.out ++ [.called op w.usb.usbReady] } :=
    ⟨rfl, rfl⟩
  cases op with
  | handle r =>
    left
    rw [exec_handle]
    cases hready : w.usb.usbReady with
    | false =>
      unfold handleReport
      rw [if_pos hready]
      exact ⟨rfl, rfl⟩
    | true =>
      have hlogged : SamePublished w { w with out := w.out ++ [.called (.handle r) true] } :=
        ⟨rfl, rfl⟩
      exact (hlogged.trans (requestRemoteWakeup_samePublished _)).trans
        (samePublished_keptByReports.handle _ _ _ (park_sets r) hready)
  | poll =>
    left
    unfold exec UsbOp.call usbHsPoll
    dsimp only
    split
    · exact hcalled
    · exact hcalled.trans (samePublished_keptByReports.loop cfg _ _)
  | onSuspend enabled => exact Or.inl ⟨rfl, rfl⟩
  | onResume => exact Or.inl ⟨rfl, rfl⟩
  | event id =>
    -- the event handler writes both, the readiness and the state
    cases id with
    | attached => exact Or.inr (iff_of_false (by nofun) (by nofun))
    | detached => exact Or.inr (iff_of_true rfl rfl)
    | other => exact Or.inl ⟨rfl, rfl⟩

/-- An entry into the device keeps the agreement, and nothing checked out. -/
theorem deviceExec_agree (cfg : Config) (pol : GrantPolicy UInt8) {w : DeviceWorld} (h : Agree w)
    (op : DeviceOp) : Agree (deviceExec cfg pol w op) := by
  unfold Agree at h ⊢
  cases op with
  | hid op =>
    rcases exec_published cfg w.hid op with hsame | hagree
    · have hstate : (deviceExec cfg pol w (.hid op)).hsState = w.hsState := hsame.hsState
      have hready : (deviceExec cfg pol w (.hid op)).usbReady = w.usbReady := hsame.ready
      rw [hstate, hready]
      exact h
    · exact hagree
  | microphone frame =>
    have hstate : (deviceExec cfg pol w (.microphone frame)).hsState = w.hsState :=
      (handleMicrophoneFrame_frame pol frame w.mic).1
    rw [hstate]
    exact h

theorem deviceExec_out_zero (cfg : Config) (pol : GrantPolicy UInt8) {w : DeviceWorld}
    (h : w.ring.out = 0) (op : DeviceOp) : (deviceExec cfg pol w op).ring.out = 0 := by
  cases op with
  | hid op => exact h
  | microphone frame => exact (handleMicrophoneFrame_frame pol frame w.mic).2 h

/-- **A request** publishes `STREAMING` if the ring can serve it, ready or not. -/
theorem deviceInput_spec (pol : GrantPolicy UInt8) (len : Nat) (buf : Memory) {w : DeviceWorld}
    (h : w.ring.out = 0) :
    (deviceInput pol len buf w).hsState
        = (if len ≤ w.ring.content.length then .streaming else w.hsState) ∧
      (deviceInput pol len buf w).usbReady = w.usbReady ∧
      (deviceInput pol len buf w).ring.out = 0 := by
  obtain ⟨ring', hrun, -, -, hout, -⟩ := uacInputCb_run pol w.mic h buf len
    (w.ring.content.length + 1) (Nat.lt_succ_self _)
  have hinput : deviceInput pol len buf w
      = w.setMic { w.mic with
          ring := ring'
          app := if len ≤ w.ring.content.length then appStateUpdateUsbState w.hid.app .streaming
            else w.hid.app } := by
    unfold deviceInput
    rw [hrun]
    rfl
  rw [hinput]
  refine ⟨?_, rfl, hout⟩
  show AppStatusSnapshot.hsState (AppState.snapshot (if _ then _ else _)) = _
  split
  · rfl
  · rfl

/-! ## Agreement -/

/-- After a successful initialisation the display agrees with the readiness. -/
def InitWorld.Agrees (w : InitWorld) : Prop := w.pc = .returned espOk → Agree w.device

/-- The last step of the initialisation finds no device attached; after it, a
request that the ring can serve finds one. -/
def KeepsAgreement (w : InitWorld) : InitOp → Prop
  | .init _ => w.pc = .updateUsbState → w.device.usbReady = false
  | .device _ => True
  | .input len _ => w.pc = .returned espOk → w.uacInitialised = true →
      len ≤ w.device.ring.content.length → w.device.usbReady = true

/-- A step of the initialisation can only end the agreement where it publishes. -/
theorem usbHsDeviceInit_agrees (cfg : Config) (err : Int) {w : InitWorld} (h : w.Agrees) :
    (usbHsDeviceInit cfg err w).Agrees ↔ (w.pc = .updateUsbState → w.device.usbReady = false) := by
  unfold usbHsDeviceInit
  split
  next hpc =>
    refine iff_of_true ?_ (by rw [hpc]; nofun)
    split
    · exact fun hret => by cases hret
    · exact fun hret => by cases hret
  next hpc =>
    refine iff_of_true ?_ (by rw [hpc]; nofun)
    split
    · dsimp only [InitWorld.Agrees]
      split
      · nofun
      · nofun
    next herr => exact fun hret => absurd (InitPc.returned.inj hret) herr
  next hpc =>
    refine iff_of_true ?_ (by rw [hpc]; nofun)
    split
    · exact fun hret => by cases hret
    next herr => exact fun hret => absurd (InitPc.returned.inj hret) herr
  next hpc =>
    -- the last step publishes `DISCONNECTED` whatever the readiness is
    constructor
    · intro hagrees _
      exact (hagrees rfl).mp rfl
    · intro hready _
      exact iff_of_true rfl (hready hpc)
  next err' hpc => exact iff_of_true h (by rw [hpc]; nofun)

/-- A request keeps the agreement if it finds the device ready, or is not served. -/
theorem deviceInput_agree (pol : GrantPolicy UInt8) (len : Nat) (buf : Memory) {w : DeviceWorld}
    (hout : w.ring.out = 0) (h : Agree w) :
    Agree (deviceInput pol len buf w) ↔
      (len ≤ w.ring.content.length → w.usbReady = true) := by
  obtain ⟨hstate, hready, -⟩ := deviceInput_spec pol len buf hout
  unfold Agree at h ⊢
  rw [hstate, hready]
  by_cases hlen : len ≤ w.ring.content.length
  · rw [if_pos hlen]
    constructor
    · intro hagree _
      rw [← Bool.not_eq_false]
      exact fun hnot => by cases hagree.mpr hnot
    · intro hkeeps
      rw [hkeeps hlen]
      exact iff_of_false (by nofun) (by nofun)
  · rw [if_neg hlen]
    exact iff_of_true h (fun hle => absurd hle hlen)

/-- **What a step does to the agreement.** -/
theorem agrees_exec (cfg : Config) (pol : GrantPolicy UInt8) {w : InitWorld}
    (hout : w.device.ring.out = 0) (h : w.Agrees) (op : InitOp) :
    (initExec cfg pol w op).Agrees ↔ KeepsAgreement w op := by
  cases op with
  | init err => exact usbHsDeviceInit_agrees cfg err h
  | device op =>
    refine iff_of_true ?_ trivial
    show InitWorld.Agrees (if _ then _ else _)
    split
    · exact fun hret => deviceExec_agree cfg pol (h hret) op
    · exact h
  | input len buf =>
    show InitWorld.Agrees (if _ then _ else _) ↔ _
    split
    next huac =>
      by_cases hret : w.pc = .returned espOk
      · have hinput := deviceInput_agree pol len buf hout (h hret)
        constructor
        · exact fun hagrees _ _ => hinput.mp (hagrees hret)
        · exact fun hkeeps _ => hinput.mpr (hkeeps hret huac)
      · exact iff_of_true (fun h => absurd h hret) (fun h => absurd h hret)
    next huac => exact iff_of_true h (fun _ hnot => absurd hnot huac)

/-- Nothing is checked out between two steps. -/
theorem initExec_out_zero (cfg : Config) (pol : GrantPolicy UInt8) {w : InitWorld}
    (hout : w.device.ring.out = 0) (op : InitOp) :
    (initExec cfg pol w op).device.ring.out = 0 := by
  cases op with
  | init err =>
    show (usbHsDeviceInit cfg err w).device.ring.out = 0
    unfold usbHsDeviceInit
    split
    · split <;> exact hout
    · split <;> exact hout
    · split <;> exact hout
    · exact hout
    · exact hout
  | device op =>
    show (InitWorld.device (if _ then _ else _)).ring.out = 0
    split
    · exact deviceExec_out_zero cfg pol hout op
    · exact hout
  | input len buf =>
    show (InitWorld.device (if _ then _ else _)).ring.out = 0
    split
    · exact (deviceInput_spec pol len buf hout).2.2
    · exact hout

/-- **When the published state agrees with the readiness**: in every run from the
beginning of `usb_hs_device_init`, with any answers, events, frames, reports and
requests in between, the two agree in every state after a successful return, if
and only if the last step of the initialisation finds no device attached and
every request that is served from the ring later finds one. -/
theorem published_agrees_iff (cfg : Config) (pol : GrantPolicy UInt8) (app : AppState)
    (env : Answers) (ops : List InitOp) :
    (∀ pre, pre <+: ops → (runSteps (initExec cfg pol) (initBoot cfg app env) pre).Agrees) ↔
      AllSteps (initExec cfg pol) KeepsAgreement (initBoot cfg app env) ops := by
  have hstart : (initBoot cfg app env).Agrees := by
    dsimp only [InitWorld.Agrees, initBoot]
    split
    · nofun
    · nofun
  exact prefixes_iff_allSteps (I := fun w : InitWorld => w.device.ring.out = 0)
    (A := fun _ _ => True) (fun w op hout _ => initExec_out_zero cfg pol hout op)
    (fun w op hout _ h => agrees_exec cfg pol hout h op) rfl
    (allSteps_of_mem (fun _ _ => trivial) _) hstart

/-- A build with audio, from the beginning of the initialisation. -/
def initRun (ops : List InitOp) : InitWorld :=
  runSteps (initExec Config.shipped .full)
    (initBoot Config.shipped (appStateInit 0) busyAlways) ops

/-- **The display can disagree in both directions.** A device attached before the
last step of the initialisation is shown as disconnected; and with no device at
all, a request for the two bytes of a forwarded frame makes it show `STREAMING`. -/
theorem published_disagrees :
    ¬(initRun [.init espOk, .init espOk, .device (.hid (.event .attached)), .init espOk,
        .init espOk]).Agrees ∧
    ¬(initRun [.init espOk, .init espOk, .init espOk, .init espOk,
        .device (.microphone (some ⟨[1]⟩)), .input 2 fun _ => 0]).Agrees := by
  constructor
  · intro h
    exact absurd ((h rfl).mp rfl) (by decide)
  · have hidle : (initRun [.init espOk, .init espOk, .init espOk, .init espOk,
        .device (.microphone (some ⟨[1]⟩))]).Agrees := fun _ => iff_of_true rfl rfl
    intro h
    have hkeeps := (agrees_exec Config.shipped .full rfl hidle (.input 2 fun _ => 0)).mp h
    exact absurd (hkeeps rfl rfl (by decide)) (by decide)

end CaptureKVMBridge.Usb
