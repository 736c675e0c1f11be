/-!
# Build configuration

The `CONFIG_*` symbols the modelled code reads, with the ranges that
`main/Kconfig.projbuild` enforces carried as fields: a configuration outside
them cannot be built, so no theorem below assumes them.

The three `CONFIG_UAC_*` symbols belong to the UAC component. The sources test
them with `defined(..)` all at once, hence one optional record.
-/

namespace CaptureKVMBridge

/-- `CONFIG_UAC_SAMPLE_RATE`, `CONFIG_UAC_MIC_CHANNEL_NUM` and
`CONFIG_UAC_MIC_INTERVAL_MS`. -/
structure UacConfig where
  sampleRate : Nat
  micChannelNum : Nat
  micIntervalMs : Nat

/-- One build of the firmware. -/
structure Config where
  /-- `CONFIG_APP_ENABLE_USB_AUDIO` -/
  appEnableUsbAudio : Bool
  /-- the UAC symbols, when all three are defined -/
  uac : Option UacConfig
  /-- `CONFIG_APP_TLV_MAX_PAYLOAD` -/
  appTlvMaxPayload : Nat
  /-- `CONFIG_APP_ABS_MOUSE_MAX_X` -/
  appAbsMouseMaxX : Nat
  /-- `CONFIG_APP_ABS_MOUSE_MAX_Y` -/
  appAbsMouseMaxY : Nat
  maxPayload_ge : 64 ≤ appTlvMaxPayload := by decide
  maxPayload_le : appTlvMaxPayload ≤ 65535 := by decide
  absMaxX_range : 2 ≤ appAbsMouseMaxX ∧ appAbsMouseMaxX ≤ 65536 := by decide
  absMaxY_range : 2 ≤ appAbsMouseMaxY ∧ appAbsMouseMaxY ≤ 65536 := by decide

/-- `TLV_MIC_MAX_BYTES`, which `tlv_stream.c` and `protocol_tlv.c` both define
by the same preprocessor expression; `0` means that no limit is compiled in. -/
def tlvMicMaxBytes (cfg : Config) : Nat :=
  match cfg.appEnableUsbAudio, cfg.uac with
  | true, some u => (u.sampleRate + 999) / 1000 * u.micChannelNum * 2 * u.micIntervalMs * 8
  | _, _ => 0

/-- The build of `sdkconfig`: 48 kHz mono at 10 ms, the largest payload limit. -/
def Config.shipped : Config where
  appEnableUsbAudio := true
  uac := some { sampleRate := 48000, micChannelNum := 1, micIntervalMs := 10 }
  appTlvMaxPayload := 65535
  appAbsMouseMaxX := 32768
  appAbsMouseMaxY := 32768

/-- The smallest build: no audio, the least payload limit of the Kconfig range. -/
def Config.minimal : Config where
  appEnableUsbAudio := false
  uac := none
  appTlvMaxPayload := 64
  appAbsMouseMaxX := 32768
  appAbsMouseMaxY := 32768

/-- A build with audio whose UAC component has no microphone channel. -/
def Config.noMicChannel : Config where
  appEnableUsbAudio := true
  uac := some { sampleRate := 48000, micChannelNum := 0, micIntervalMs := 10 }
  appTlvMaxPayload := 64
  appAbsMouseMaxX := 32768
  appAbsMouseMaxY := 32768

example : tlvMicMaxBytes Config.shipped = 7680 := by decide

end CaptureKVMBridge
