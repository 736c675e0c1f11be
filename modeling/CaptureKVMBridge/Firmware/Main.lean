import CaptureKVMBridge.Display.Ui
import CaptureKVMBridge.Net.Listener
import CaptureKVMBridge.Serial.Transport
import CaptureKVMBridge.Uart.Transport
import CaptureKVMBridge.Usb.Published

/-!
# `hid_forwarder_main.c`: the firmware

Everything together: `app_main`, which starts the parts one after the other; the
three transports, each with its task; the event handler between them and the USB
device; the poll task and the display task; and what happens outside: bytes,
datagrams, events of the bus, requests for audio. A step is one of these, so a
run is one interleaving of all of them.

Mirroring notes:
- A function pointer is the name of the function it points to.
- The parts share `app_state.c` and the clock: both are in the device, and the
  functions of the other parts get them from there (`World.protocol`).
- A transport's task runs its callback calls before it goes on. `Courier` is where
  it is in them: between any two of the calls inside, other tasks may run. Each of
  those calls is one step, as is each call of the loops of the tasks; what is done
  with a frame before `dispatch_event` is one step with `app_state_note_event`.
- So an entry into the device is one step, and entries do not overlap. Nothing in
  the source sees to that: `Usb.Turns` is about tasks that take turns with theirs,
  `Usb.Parked` about what can happen when they do not.
- What `app_main` is answered by its next call is an input of the step. A failed
  `ESP_ERROR_CHECK` restarts the chip: nothing runs after it.
- A value of the clock that a branch does not read is skipped.
- `dispatched` and `handled` are bookkeeping. The log levels and the log lines are left out.
-/

namespace CaptureKVMBridge.Firmware

open CaptureKVMBridge.Machine CaptureKVMBridge.Tlv CaptureKVMBridge.Usb CaptureKVMBridge.Display
open Net (NetworkConfig NetworkWorld UdpAnswer UdpBuffer WifiAnswers)
open Serial (SerialWorld SerialOp)
open Uart (UartWorld UartOp)

/-! ## State -/

/-- `protocol_event_handler_t`: the one that there is. -/
inductive EventHandler where
  | handleProtocolEvent
  deriving DecidableEq, Repr

/-- `network_tlv_callback_t` and `serial_tlv_callback_t`: the one that there is. -/
inductive FrameCallback where
  | protocolTlvReceiveFrame
  deriving DecidableEq, Repr

/-- The statics of `protocol_tlv.c`. -/
structure TlvStatics where
  handler : Option EventHandler
  unknownTypeWarn : UInt32
  lengthMismatchWarn : UInt32
  keyboardLenWarn : UInt32
  mouseLenWarn : UInt32
  mouseAbsLenWarn : UInt32
  micSizeWarn : UInt32

/-- The statics at start-up: all zero. -/
def TlvStatics.boot : TlvStatics := ⟨none, 0, 0, 0, 0, 0, 0⟩

/-- The three transports. -/
inductive Transport where
  | network
  | serial
  | uart
  deriving DecidableEq, Repr

/-- The source that each of them tags its frames with. -/
def Transport.source : Transport → AppInputSource
  | .network => .network
  | .serial => .usbJtag
  | .uart => .uart

/-- Where a task is with an event that was noted, before the call named. -/
inductive HandlerPc where
  /-- `dispatch_event(&event)` -/
  | dispatchEvent (event : ProtocolEvent)
  /-- `usb_hs_handle_*(&event->payload.*)` -/
  | usbHsHandle (event : ProtocolEvent)
  /-- `app_state_mark_feature_usage(..)` -/
  | markFeatureUsage (event : ProtocolEvent)
  deriving DecidableEq, Repr

/-- What a transport's task has to do before it goes on. -/
structure Courier where
  /-- the calls of the callback that it is still to make -/
  calls : List (CallbackCall FrameCallback)
  /-- where it is with the event of the call under way -/
  handler : Option HandlerPc
  deriving DecidableEq, Repr

/-- The task is not in a callback. -/
def Courier.idle : Courier := ⟨[], none⟩

/-- The call that `app_main` makes next. -/
inductive AppMain where
  | nvsFlashInit
  | nvsFlashErase
  | nvsFlashInitAgain
  | bspSpiffsMount
  | appStateInit
  | displayUiInit
  | usbHsDeviceInit
  | protocolTlvInit
  | networkTransportStart
  | serialTransportStart
  | uartTransportStart
  | createCoreService
  | createDisplay
  | returned
  /-- none: `ESP_ERROR_CHECK` has failed -/
  | aborted
  deriving DecidableEq, Repr

structure World (cfg : Config) where
  main : AppMain
  /-- the local `display_enabled` -/
  displayEnabled : Bool
  tlv : TlvStatics
  usb : InitWorld
  network : NetworkWorld cfg FrameCallback
  serial : Option (SerialWorld cfg FrameCallback)
  uart : Option (UartWorld cfg FrameCallback)
  display : DisplayWorld
  /-- the two tasks are there -/
  coreServiceTask : Bool
  displayTask : Bool
  courier : Transport → Courier
  /-- the events that `dispatch_event` gave to the handler, oldest first -/
  dispatched : List ProtocolEvent
  /-- those for which `usb_hs_handle_*` was called since, oldest first -/
  handled : List ProtocolEvent

variable {cfg : Config}

/-- The statics of `app_state.c` at start-up: all zero. -/
def appBoot : AppState where
  snapshot :=
    { hsState := .disconnected
      hsKeyboardActive := false
      hsMouseActive := false
      hsMicrophoneActive := false
      eventsForwarded := 0
      lastSource := .none
      lastEventTimestampUs := 0 }
  keyboardActiveUntil := 0
  mouseActiveUntil := 0
  micActiveUntil := 0

/-- At the beginning of `app_main`. -/
def boot (cfg : Config) (env : Answers) (backlight : Stream' Int) (buffer : UdpBuffer cfg) :
    World cfg where
  main := .nvsFlashInit
  displayEnabled := false
  tlv := .boot
  usb := initBoot cfg appBoot env
  network := Net.networkBoot buffer
  serial := none
  uart := none
  display := { ui := .boot, backlight := backlight, calls := [] }
  coreServiceTask := false
  displayTask := false
  courier := fun _ => .idle
  dispatched := []
  handled := []

/-- The state of `app_state.c`. -/
def World.app (w : World cfg) : AppState := w.usb.device.hid.app

/-- What the clock will say. -/
def World.timer (w : World cfg) : Stream' Int := w.usb.device.hid.env.timer

/-- After a function that sets these two. -/
def World.setApp (w : World cfg) (app : AppState) (timer : Stream' Int) : World cfg :=
  { w with
    usb := { w.usb with
      device := { w.usb.device with
        hid := { w.usb.device.hid with
          app := app
          env := { w.usb.device.hid.env with timer := timer } } } } }

/-- `protocol_tlv.c`, with the state that its functions act on. -/
def World.protocol (w : World cfg) : ProtocolTlv EventHandler where
  handler := w.tlv.handler
  unknownTypeWarn := w.tlv.unknownTypeWarn
  lengthMismatchWarn := w.tlv.lengthMismatchWarn
  keyboardLenWarn := w.tlv.keyboardLenWarn
  mouseLenWarn := w.tlv.mouseLenWarn
  mouseAbsLenWarn := w.tlv.mouseAbsLenWarn
  micSizeWarn := w.tlv.micSizeWarn
  app := w.app
  timer := w.timer

def World.setProtocol (w : World cfg) (p : ProtocolTlv EventHandler) : World cfg :=
  { w.setApp p.app p.timer with
    tlv :=
      { handler := p.handler
        unknownTypeWarn := p.unknownTypeWarn
        lengthMismatchWarn := p.lengthMismatchWarn
        keyboardLenWarn := p.keyboardLenWarn
        mouseLenWarn := p.mouseLenWarn
        mouseAbsLenWarn := p.mouseAbsLenWarn
        micSizeWarn := p.micSizeWarn } }

def World.setCourier (w : World cfg) (t : Transport) (c : Courier) : World cfg :=
  { w with courier := Function.update w.courier t c }

/-! ## The handler -/

/-- The `usb_hs_handle_*` that the `switch` of `handle_protocol_event` calls. -/
def usbHsHandle : ProtocolPayload → DeviceOp
  | .keyboard report => .hid (.handle (.keyboard report))
  | .mouse report => .hid (.handle (.mouse report))
  | .mouseAbs report => .hid (.handle (.mouseAbs report))
  | .microphone frame => .microphone (some frame)

/-- `app_state_mark_feature_usage`, as the `switch` calls it. -/
def markFeatureUsage (app : AppState) (now : Int) : ProtocolPayload → AppState
  | .keyboard _ => appStateMarkFeatureUsage app now true false false
  | .mouse _ => appStateMarkFeatureUsage app now false true false
  | .mouseAbs _ => appStateMarkFeatureUsage app now false true false
  | .microphone _ => appStateMarkFeatureUsage app now false false true

/-- The next call of a transport's task in its callback. -/
def callback (pol : GrantPolicy UInt8) (t : Transport) (w : World cfg) : World cfg :=
  match (w.courier t).handler with
  | some (.dispatchEvent event) =>
    let d := dispatchEvent w.protocol event
    { w.setCourier t
        { w.courier t with
          handler := d.map fun d => match d.1 with
            | .handleProtocolEvent => .usbHsHandle d.2 } with
      dispatched := w.dispatched ++ (d.map Prod.snd).toList }
  | some (.usbHsHandle event) =>
    { w.setCourier t { w.courier t with handler := some (.markFeatureUsage event) } with
      usb := initExec cfg pol w.usb (.device (usbHsHandle event.payload))
      handled := w.handled ++ [event] }
  | some (.markFeatureUsage event) =>
    (w.setCourier t { w.courier t with handler := none }).setApp
      (markFeatureUsage w.app w.timer.head event.payload) w.timer.tail
  | none =>
    match (w.courier t).calls with
    | [] => w
    | c :: calls =>
      match c.callback with
      | .protocolTlvReceiveFrame =>
        let r := protocolTlvReceiveFrame cfg w.protocol c.source c.frame
        -- without a handler `dispatch_event` would return at once
        (w.setProtocol r.1).setCourier t
          { calls := calls, handler := r.2.map fun d => .dispatchEvent d.2 }

/-! ## `app_main` -/

/-- What the next call of `app_main` is answered. -/
structure MainAnswer where
  /-- what it returns, where nothing else decides about that -/
  err : Int
  /-- `xTaskCreatePinnedToCore` -/
  taskCreated : Bool
  /-- the display's part -/
  display : InitAnswers
  /-- Wi-Fi's part -/
  wifi : WifiAnswers
  /-- the driver of the serial port is installed, and has this in its buffer -/
  installed : Bool
  held : List UInt8

/-- `ESP_ERR_NVS_NO_FREE_PAGES` -/
def espErrNvsNoFreePages : Int := 0x110d

/-- `ESP_ERR_NVS_NEW_VERSION_FOUND` -/
def espErrNvsNewVersionFound : Int := 0x1110

/-- `ESP_ERROR_CHECK(err)`, and what comes next. -/
def espErrorCheck (err : Int) (next : AppMain) : AppMain := if err = espOk then next else .aborted

/-- What comes next in the middle of `usb_hs_device_init`, or behind it. -/
def afterDeviceInit : InitPc → AppMain
  | .returned err => espErrorCheck err .protocolTlvInit
  | .ringbufferCreate | .driverInstall | .uacDeviceInit | .updateUsbState => .usbHsDeviceInit

/-- The next call of `app_main`. -/
def appMain (net : NetworkConfig) (a : MainAnswer) (w : World cfg) : World cfg :=
  match w.main with
  | .nvsFlashInit =>
    if a.err = espErrNvsNoFreePages ∨ a.err = espErrNvsNewVersionFound then
      { w with main := .nvsFlashErase }
    else { w with main := espErrorCheck a.err .bspSpiffsMount }
  | .nvsFlashErase => { w with main := espErrorCheck a.err .nvsFlashInitAgain }
  | .nvsFlashInitAgain => { w with main := espErrorCheck a.err .bspSpiffsMount }
  | .bspSpiffsMount => { w with main := espErrorCheck a.err .appStateInit }
  | .appStateInit =>
    { w.setApp (appStateInit w.timer.head) w.timer.tail with main := .displayUiInit }
  | .displayUiInit =>
    let r := displayUiInit { a.display with now := w.timer.head } w.display
    { w.setApp w.app w.timer.tail with
      display := r.1
      displayEnabled := decide (r.2 = espOk)
      main := if r.2 = espErrNoMem then .usbHsDeviceInit else espErrorCheck r.2 .usbHsDeviceInit }
  | .usbHsDeviceInit =>
    let usb := usbHsDeviceInit cfg a.err w.usb
    { w with
      usb := usb
      main := afterDeviceInit usb.pc }
  | .protocolTlvInit =>
    { w.setProtocol (protocolTlvInit w.protocol (some .handleProtocolEvent)) with
      main := .networkTransportStart }
  | .networkTransportStart =>
    let r := Net.networkTransportStart net (some .protocolTlvReceiveFrame) a.wifi a.taskCreated
      w.network
    { w with network := r.1, main := espErrorCheck r.2 .serialTransportStart }
  | .serialTransportStart =>
    match Serial.serialTransportStart cfg (some .protocolTlvReceiveFrame) a.installed a.held a.err
        a.taskCreated with
    | .error err => { w with main := espErrorCheck err .uartTransportStart }
    | .ok s => { w with serial := some s, main := .uartTransportStart }
  | .uartTransportStart =>
    if a.err = espOk then
      { w with
        uart := some (Uart.uartTransportStart cfg .protocolTlvReceiveFrame)
        main := .createCoreService }
    else { w with main := .aborted }
  -- nobody looks at what the last two return
  | .createCoreService => { w with coreServiceTask := a.taskCreated, main := .createDisplay }
  | .createDisplay => { w with displayTask := w.displayEnabled && a.taskCreated, main := .returned }
  | .returned | .aborted => w

/-! ## Steps -/

/-- What TinyUSB calls. -/
inductive BusEvent where
  | event (id : TinyusbEvent)
  | onSuspend (remoteWakeupEnabled : Bool)
  | onResume
  deriving DecidableEq, Repr

def BusEvent.entry : BusEvent → UsbOp
  | .event id => .event id
  | .onSuspend enabled => .onSuspend enabled
  | .onResume => .onResume

/-- One step of the firmware, or of the world around it. -/
inductive FirmwareOp where
  /-- `app_main` goes on -/
  | main (a : MainAnswer)
  | bus (e : BusEvent)
  /-- the audio task asks for `len` bytes -/
  | request (len : Nat) (buf : Memory)
  /-- the core service task polls -/
  | poll
  /-- the display task updates the display -/
  | display (touch : TouchAnswer) (lock : Bool)
  /-- a call of the listener's task -/
  | network (a : UdpAnswer)
  /-- bytes on the serial port, or a call of its task -/
  | serial (op : SerialOp)
  /-- something on the line of the UART, or a call of its task -/
  | uart (op : UartOp)
  /-- a transport's task goes on in its callback -/
  | callback (t : Transport)

/-- The calls of the callback that a step has added. -/
def newCalls (before after : List (CallbackCall FrameCallback)) :
    List (CallbackCall FrameCallback) :=
  after.drop before.length

/-- A call of the listener's task. -/
def networkStep (a : UdpAnswer) (w : World cfg) : World cfg :=
  if w.courier .network = .idle then
    let n := Net.udpListenerTask w.network a
    { w.setCourier .network
        { calls := newCalls w.network.delivered n.delivered, handler := none } with
      network := n }
  else w

/-- A step of the serial port. -/
def serialStep (op : SerialOp) (w : World cfg) : World cfg :=
  match w.serial, op with
  | none, _ => w
  | some s, .receive bs => { w with serial := some (Serial.serialExec s (.receive bs)) }
  | some s, .task answer =>
    if w.courier .serial = .idle then
      let s' := Serial.serialExec s (.task answer)
      { w.setCourier .serial
          { calls := newCalls s.delivered s'.delivered, handler := none } with
        serial := some s' }
    else w

/-- A step of the UART. -/
def uartStep (op : UartOp) (w : World cfg) : World cfg :=
  match w.uart, op with
  | none, _ => w
  | some u, .task =>
    if w.courier .uart = .idle then
      let u' := Uart.uartExec u .task
      { w.setCourier .uart
          { calls := newCalls (u.delivered.map Uart.Delivery.call)
              (u'.delivered.map Uart.Delivery.call)
            handler := none } with
        uart := some u' }
    else w
  | some u, op => { w with uart := some (Uart.uartExec u op) }

/-- The body of the loop of `display_task`. -/
def displayStep (touch : TouchAnswer) (lock : Bool) (w : World cfg) : World cfg :=
  let r := appStateGetSnapshot w.app w.timer.head
  { w.setApp r.1 w.timer.tail.tail with
    display := displayUiUpdate w.display
      { snapshot := r.2, now := w.timer.tail.head, touch := touch, lock := lock } }

def firmwareExec (net : NetworkConfig) (pol : GrantPolicy UInt8) (w : World cfg) :
    FirmwareOp → World cfg
  | .main a => appMain net a w
  | .bus e => { w with usb := initExec cfg pol w.usb (.device (.hid e.entry)) }
  | .request len buf => { w with usb := initExec cfg pol w.usb (.input len buf) }
  | .poll =>
    if w.coreServiceTask then { w with usb := initExec cfg pol w.usb (.device (.hid .poll)) } else w
  | .display touch lock => if w.displayTask then displayStep touch lock w else w
  | .network a => networkStep a w
  | .serial op => serialStep op w
  | .uart op => uartStep op w
  | .callback t => callback pol t w

/-- A step, unless the chip restarts. -/
def firmwareStep (net : NetworkConfig) (pol : GrantPolicy UInt8) (w : World cfg)
    (op : FirmwareOp) : World cfg :=
  if w.main = .aborted then w else firmwareExec net pol w op

end CaptureKVMBridge.Firmware
