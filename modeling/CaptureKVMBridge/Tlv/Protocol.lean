import Mathlib.Data.Stream.Init
import CaptureKVMBridge.AppState
import CaptureKVMBridge.Config
import CaptureKVMBridge.Machine.Halfword

/-!
# `protocol_tlv.c`: from a frame to an event

The second validator of the ingress path. `protocolTlvReceiveFrame` checks a
raw frame (type, 16-bit big-endian payload length, payload), decodes it, notes
the event in the application state and hands it to the installed handler.

Mirroring notes:
- A function pointer is a value of an arbitrary type `η` that the code only
  compares with `NULL` (`Option η`) and calls. The call is the last thing the
  function does, so it is returned: `some (h, e)` means `h(&e)`.
- `timer` is the sequence of values that `esp_timer_get_time()` will return.
- The warning counters are kept; the throttled log lines they gate are not,
  since nothing reads them.
- The C event is a type tag and a union; here the payload's constructor is the
  tag (`ProtocolPayload.type`).
-/

namespace CaptureKVMBridge.Tlv

open CaptureKVMBridge.Machine

variable {η : Type}

/-! ## `protocol_tlv.h` -/

/-- `PROTOCOL_TLV_SYNC0` -/
def protocolTlvSync0 : UInt8 := 0xD5
/-- `PROTOCOL_TLV_SYNC1` -/
def protocolTlvSync1 : UInt8 := 0xAA

/-- `PROTOCOL_EVENT_KEYBOARD` -/
def protocolEventKeyboard : UInt8 := 1
/-- `PROTOCOL_EVENT_MOUSE` -/
def protocolEventMouse : UInt8 := 2
/-- `PROTOCOL_EVENT_MICROPHONE` -/
def protocolEventMicrophone : UInt8 := 3
/-- `PROTOCOL_EVENT_MOUSE_ABSOLUTE` -/
def protocolEventMouseAbsolute : UInt8 := 4

/-- `PROTOCOL_KEYBOARD_PAYLOAD_LEN` -/
def protocolKeyboardPayloadLen : UInt16 := 8
/-- `PROTOCOL_MOUSE_PAYLOAD_LEN` -/
def protocolMousePayloadLen : UInt16 := 5
/-- `PROTOCOL_MOUSE_ABS_PAYLOAD_LEN` -/
def protocolMouseAbsPayloadLen : UInt16 := 7

/-- `protocol_tlv_type_is_valid`. -/
def protocolTlvTypeIsValid (type : UInt8) : Bool :=
  type == protocolEventKeyboard || type == protocolEventMouse ||
  type == protocolEventMicrophone || type == protocolEventMouseAbsolute

/-- The four types of the enumeration. -/
theorem protocolTlvTypeIsValid_iff {type : UInt8} :
    protocolTlvTypeIsValid type = true ↔
      type = protocolEventKeyboard ∨ type = protocolEventMouse ∨
      type = protocolEventMicrophone ∨ type = protocolEventMouseAbsolute := by
  simp only [protocolTlvTypeIsValid, Bool.or_eq_true, beq_iff_eq, or_assoc]

/-- `usb_keyboard_report_t`. -/
structure UsbKeyboardReport where
  modifiers : UInt8
  reserved : UInt8
  keycodes : Vector UInt8 6
  deriving DecidableEq, Repr

/-- `usb_mouse_report_t`. -/
structure UsbMouseReport where
  x : Int8
  y : Int8
  wheel : Int8
  pan : Int8
  buttons : UInt8
  deriving DecidableEq, Repr

/-- `usb_mouse_absolute_report_t`. -/
structure UsbMouseAbsoluteReport where
  x : UInt16
  y : UInt16
  wheel : Int8
  pan : Int8
  buttons : UInt8
  deriving DecidableEq, Repr

/-- `usb_microphone_frame_t`: the pointer and the count as one list. -/
structure UsbMicrophoneFrame where
  samples : List UInt16
  deriving DecidableEq, Repr

/-- The payload union of `protocol_event_t`. -/
inductive ProtocolPayload where
  | keyboard (report : UsbKeyboardReport)
  | mouse (report : UsbMouseReport)
  | mouseAbs (report : UsbMouseAbsoluteReport)
  | microphone (frame : UsbMicrophoneFrame)
  deriving DecidableEq, Repr

/-- The `type` tag that goes with a payload. -/
def ProtocolPayload.type : ProtocolPayload → UInt8
  | .keyboard _ => protocolEventKeyboard
  | .mouse _ => protocolEventMouse
  | .mouseAbs _ => protocolEventMouseAbsolute
  | .microphone _ => protocolEventMicrophone

/-- `protocol_event_t`. -/
structure ProtocolEvent where
  source : AppInputSource
  payload : ProtocolPayload
  deriving DecidableEq, Repr

/-! ## `protocol_tlv.c` -/

/-- The statics of `protocol_tlv.c` and the state its functions act on. -/
structure ProtocolTlv (η : Type) where
  handler : Option η
  unknownTypeWarn : UInt32
  lengthMismatchWarn : UInt32
  keyboardLenWarn : UInt32
  mouseLenWarn : UInt32
  mouseAbsLenWarn : UInt32
  micSizeWarn : UInt32
  app : AppState
  timer : Stream' Int

/-- The statics at boot, `app_state_init` done. -/
def ProtocolTlv.boot (timer : Stream' Int) : ProtocolTlv η where
  handler := none
  unknownTypeWarn := 0
  lengthMismatchWarn := 0
  keyboardLenWarn := 0
  mouseLenWarn := 0
  mouseAbsLenWarn := 0
  micSizeWarn := 0
  app := appStateInit timer.head
  timer := timer.tail

/-- `warn_should_log`: the verdict and the counter it leaves. -/
def warnShouldLog (counter : UInt32) : Bool × UInt32 :=
  (counter + 1 == 1 || (counter + 1) % 16 == 0, counter + 1)

/-- `protocol_tlv_init`. -/
def protocolTlvInit (p : ProtocolTlv η) (handler : Option η) : ProtocolTlv η :=
  { p with handler := handler }

/-- `dispatch_event`. -/
def dispatchEvent (p : ProtocolTlv η) (event : ProtocolEvent) : Option (η × ProtocolEvent) :=
  p.handler.map (·, event)

/-- The common tail of every accepted frame: `app_state_note_event(source);
dispatch_event(&event);`. -/
def noteAndDispatch (p : ProtocolTlv η) (source : AppInputSource) (payload : ProtocolPayload) :
    ProtocolTlv η × Option (η × ProtocolEvent) :=
  ({ p with app := appStateNoteEvent p.app p.timer.head source, timer := p.timer.tail },
    dispatchEvent p { source := source, payload := payload })

/-- The `memcpy` into `event.payload.keyboard`. -/
def readKeyboard (payload : List UInt8) : UsbKeyboardReport where
  modifiers := payload.getD 0 0
  reserved := payload.getD 1 0
  keycodes := #v[payload.getD 2 0, payload.getD 3 0, payload.getD 4 0, payload.getD 5 0,
    payload.getD 6 0, payload.getD 7 0]

/-- The field assignments of the mouse case. -/
def readMouse (payload : List UInt8) : UsbMouseReport where
  buttons := payload.getD 0 0
  x := (payload.getD 1 0).toInt8
  y := (payload.getD 2 0).toInt8
  wheel := (payload.getD 3 0).toInt8
  pan := (payload.getD 4 0).toInt8

/-- The field assignments of the absolute mouse case. -/
def readMouseAbs (payload : List UInt8) : UsbMouseAbsoluteReport where
  buttons := payload.getD 0 0
  x := be16 (payload.getD 1 0) (payload.getD 2 0)
  y := be16 (payload.getD 3 0) (payload.getD 4 0)
  wheel := (payload.getD 5 0).toInt8
  pan := (payload.getD 6 0).toInt8

/-- The sample pointer and count of the microphone case. -/
def readMicrophone (payload : List UInt8) : UsbMicrophoneFrame where
  samples := halfwordsLE payload

/-- `protocol_tlv_receive_frame`. The list is `data[0 .. length)`. -/
def protocolTlvReceiveFrame (cfg : Config) (p : ProtocolTlv η) (source : AppInputSource)
    (data : List UInt8) : ProtocolTlv η × Option (η × ProtocolEvent) :=
  match data with
  | type :: msb :: lsb :: payload =>
    let payloadLen := be16 msb lsb
    if protocolTlvTypeIsValid type = false then
      ({ p with unknownTypeWarn := (warnShouldLog p.unknownTypeWarn).2 }, none)
    else if payloadLen.toNat ≠ payload.length then
      ({ p with lengthMismatchWarn := (warnShouldLog p.lengthMismatchWarn).2 }, none)
    else if type = protocolEventKeyboard then
      if payloadLen ≠ protocolKeyboardPayloadLen then
        ({ p with keyboardLenWarn := (warnShouldLog p.keyboardLenWarn).2 }, none)
      else
        noteAndDispatch { p with keyboardLenWarn := 0 } source (.keyboard (readKeyboard payload))
    else if type = protocolEventMouse then
      if payloadLen ≠ protocolMousePayloadLen then
        ({ p with mouseLenWarn := (warnShouldLog p.mouseLenWarn).2 }, none)
      else
        noteAndDispatch { p with mouseLenWarn := 0 } source (.mouse (readMouse payload))
    else if type = protocolEventMouseAbsolute then
      if payloadLen ≠ protocolMouseAbsPayloadLen then
        ({ p with mouseAbsLenWarn := (warnShouldLog p.mouseAbsLenWarn).2 }, none)
      else
        noteAndDispatch { p with mouseAbsLenWarn := 0 } source (.mouseAbs (readMouseAbs payload))
    else if type = protocolEventMicrophone then
      if payloadLen = 0 ∨ payloadLen &&& 1 ≠ 0 then
        ({ p with micSizeWarn := (warnShouldLog p.micSizeWarn).2 }, none)
      -- `#if TLV_MIC_MAX_BYTES > 0`; audio being compiled in is not asked here
      else if tlvMicMaxBytes cfg > 0 ∧ payloadLen.toNat > tlvMicMaxBytes cfg then
        ({ p with micSizeWarn := (warnShouldLog p.micSizeWarn).2 }, none)
      else
        noteAndDispatch { p with micSizeWarn := 0 } source (.microphone (readMicrophone payload))
    else (p, none)
  -- `length < 3`
  | _ => (p, none)

end CaptureKVMBridge.Tlv
