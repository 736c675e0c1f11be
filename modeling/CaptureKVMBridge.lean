import CaptureKVMBridge.Machine.Transducer
import CaptureKVMBridge.Machine.Halfword
import CaptureKVMBridge.Config
import CaptureKVMBridge.AppState
import CaptureKVMBridge.Tlv.Protocol
import CaptureKVMBridge.Tlv.Stream
import CaptureKVMBridge.Tlv.Framer
import CaptureKVMBridge.Tlv.Refine
import CaptureKVMBridge.Tlv.Validate
import CaptureKVMBridge.Tlv.RoundTrip
import CaptureKVMBridge.Tlv.Resync
import CaptureKVMBridge.Tlv.Stabilise
import CaptureKVMBridge.Net.Udp
import CaptureKVMBridge.Machine.Outbox
import CaptureKVMBridge.Machine.Run
import CaptureKVMBridge.Usb.Device
import CaptureKVMBridge.Usb.Ledger
import CaptureKVMBridge.Usb.Order
import CaptureKVMBridge.Usb.Motion
import CaptureKVMBridge.Usb.Provenance
import CaptureKVMBridge.Usb.Session
import CaptureKVMBridge.Machine.Gaps
import CaptureKVMBridge.Uart.Transport
import CaptureKVMBridge.Uart.Splice
import CaptureKVMBridge.Tlv.Image
import CaptureKVMBridge.Machine.Rescale
import CaptureKVMBridge.Usb.Axis
import CaptureKVMBridge.Uart.Drain
import CaptureKVMBridge.Uart.Stranded
import CaptureKVMBridge.Machine.ByteRing
import CaptureKVMBridge.Usb.Microphone
import CaptureKVMBridge.Machine.History
import CaptureKVMBridge.Usb.Wakeup
import CaptureKVMBridge.Machine.LossyQueue
import CaptureKVMBridge.Usb.Audio
import CaptureKVMBridge.Usb.Published
import CaptureKVMBridge.Tlv.Actions
import CaptureKVMBridge.Tlv.Invariant
import CaptureKVMBridge.Serial.Transport
import CaptureKVMBridge.Display.Activity
import CaptureKVMBridge.Uart.Delivery
import CaptureKVMBridge.Display.Power
import CaptureKVMBridge.Display.Backlight
import CaptureKVMBridge.Firmware.Main
import CaptureKVMBridge.Firmware.Boot
import CaptureKVMBridge.Firmware.Relay
import CaptureKVMBridge.Firmware.Bridge
import CaptureKVMBridge.Machine.Fair
import CaptureKVMBridge.Firmware.Progress
import CaptureKVMBridge.Machine.Mailbox
import CaptureKVMBridge.Usb.Race
import CaptureKVMBridge.Usb.Parked
import CaptureKVMBridge.Usb.Turns
