import Mathlib.Data.Stream.Init
import CaptureKVMBridge.AppState

/-!
# `display_ui.c`: the dashboard

The statics of the display, its initialisation, and the update that the display
task makes five times a second: it looks for a touch, decides whether the
backlight should be on, and shows the snapshot.

Mirroring notes:
- A pointer that is only compared with `NULL` is a `Bool`. A label is its text, or
  its colour where the text never changes; `none` is `NULL`.
- What the board and LVGL answer is an input of the call, but for the backlight:
  its answers come from a stream, since one update may call it twice.
- `calls` is a ghost log of the backlight calls and their answers.
- Fonts, positions, backgrounds and the configuration of the panel are left out,
  and so are the log lines.
-/

namespace CaptureKVMBridge.Display

/-! ## State -/

/-- `lv_color_white()` and `lv_palette_main(LV_PALETTE_GREEN)`. -/
inductive LvColor where
  | white
  | green
  deriving DecidableEq, Repr

/-- The statics of `display_ui.c`. -/
structure DisplayUi where
  lvglInitialized : Bool
  lcdReady : Bool
  /-- `s_display` is set -/
  display : Bool
  /-- `s_touch_handle` is set -/
  touchHandle : Bool
  displayAwake : Bool
  lastTouchTimestampUs : Int
  stateLabel : Option String
  sourceLabel : Option String
  keyboardLabel : Option LvColor
  mouseLabel : Option LvColor
  micLabel : Option LvColor
  deriving DecidableEq, Repr

/-- The statics at start-up: all zero. -/
def DisplayUi.boot : DisplayUi where
  lvglInitialized := false
  lcdReady := false
  display := false
  touchHandle := false
  displayAwake := false
  lastTouchTimestampUs := 0
  stateLabel := none
  sourceLabel := none
  keyboardLabel := none
  mouseLabel := none
  micLabel := none

/-- A call of `bsp_display_backlight_on` or `_off`, and what it returned. -/
structure BacklightCall where
  on : Bool
  err : Int
  deriving DecidableEq, Repr

structure DisplayWorld where
  ui : DisplayUi
  /-- what the backlight will answer -/
  backlight : Stream' Int
  calls : List BacklightCall

/-- `bsp_display_backlight_on()` or `bsp_display_backlight_off()`. -/
def bspDisplayBacklight (on : Bool) (w : DisplayWorld) : DisplayWorld :=
  { w with
    backlight := w.backlight.tail
    calls := w.calls ++ [{ on := on, err := w.backlight.head }] }

/-! ## Texts -/

/-- `snprintf(buffer, size, ..)`: what is in the buffer before the zero. -/
def snprintf (size : Nat) (text : String) : String := String.ofList (text.toList.take (size - 1))

theorem snprintf_eq {size : Nat} {text : String} (h : text.length < size) :
    snprintf size text = text := by
  have hle : text.toList.length ≤ size - 1 := by
    rw [String.length_toList]
    omega
  rw [snprintf, List.take_of_length_le hle, String.ofList_toList]

/-- `state_to_string`; the enumeration has no other values. -/
def stateToString : AppUsbState → String
  | .disconnected => "Disconnected"
  | .mounted => "Ready"
  | .streaming => "Streaming"

/-- `source_to_string`; the enumeration has no other values. -/
def sourceToString : AppInputSource → String
  | .none => "None"
  | .network => "Network"
  | .usbJtag => "USB-JTAG"
  | .uart => "UART"

/-- `"USB: %s"` in the 64 bytes of `buffer`. -/
def stateText (state : AppUsbState) : String := snprintf 64 ("USB: " ++ stateToString state)

/-- `"Last input: %s"` in the 64 bytes of `buffer`. -/
def sourceText (source : AppInputSource) : String :=
  snprintf 64 ("Last input: " ++ sourceToString source)

/-- No text is cut off. -/
theorem stateText_eq (state : AppUsbState) : stateText state = "USB: " ++ stateToString state :=
  snprintf_eq (by cases state <;> decide)

theorem sourceText_eq (source : AppInputSource) :
    sourceText source = "Last input: " ++ sourceToString source :=
  snprintf_eq (by cases source <;> decide)

/-- `set_feature_style`. -/
def setFeatureStyle (label : Option LvColor) (active : Bool) : Option LvColor :=
  label.map fun _ => if active then .green else .white

/-! ## Power -/

/-- `DISPLAY_SLEEP_TIMEOUT_US` -/
def displaySleepTimeoutUs : Int := 30 * 1000000

/-- `display_wake`. -/
def displayWake (w : DisplayWorld) : DisplayWorld :=
  if w.ui.displayAwake then w
  else
    let w := bspDisplayBacklight true w
    { w with ui := { w.ui with displayAwake := true } }

/-- `display_sleep`. -/
def displaySleep (w : DisplayWorld) : DisplayWorld :=
  if w.ui.displayAwake = false then w
  else
    let w := bspDisplayBacklight false w
    { w with ui := { w.ui with displayAwake := false } }

/-- What the touch panel answers. -/
structure TouchAnswer where
  /-- `esp_lcd_touch_read_data` -/
  readData : Int
  /-- `esp_lcd_touch_get_coordinates` -/
  touched : Bool
  touchPoints : UInt8
  deriving DecidableEq, Repr

/-- The answers are those of a finger on the panel. -/
def TouchAnswer.Touches (t : TouchAnswer) : Prop :=
  t.readData = 0 ∧ t.touched = true ∧ t.touchPoints > 0

instance (t : TouchAnswer) : Decidable t.Touches := inferInstanceAs (Decidable (_ ∧ _ ∧ _))

/-- `poll_touch_activity`. -/
def pollTouchActivity (now : Int) (t : TouchAnswer) (w : DisplayWorld) : DisplayWorld :=
  if w.ui.touchHandle = false then w
  else if t.readData ≠ 0 then w
  else if t.touched && decide (t.touchPoints > 0) then
    let w := { w with ui := { w.ui with lastTouchTimestampUs := now } }
    if w.ui.displayAwake = false then displayWake w else w
  else w

/-- `update_display_power_state`. -/
def updateDisplayPowerState (now latestActivity : Int) (w : DisplayWorld) : DisplayWorld :=
  if latestActivity ≤ 0 then displayWake w
  else
    let inactive := if now - latestActivity < 0 then 0 else now - latestActivity
    if inactive ≥ displaySleepTimeoutUs then displaySleep w else displayWake w

/-! ## The update -/

/-- The part of `display_ui_update` behind the lock. -/
def showSnapshot (s : AppStatusSnapshot) (ui : DisplayUi) : DisplayUi :=
  { ui with
    stateLabel := ui.stateLabel.map fun _ => stateText s.hsState
    sourceLabel := ui.sourceLabel.map fun _ => sourceText s.lastSource
    keyboardLabel := setFeatureStyle ui.keyboardLabel s.hsKeyboardActive
    mouseLabel := setFeatureStyle ui.mouseLabel s.hsMouseActive
    micLabel := setFeatureStyle ui.micLabel s.hsMicrophoneActive }

/-- `latest_activity_us`: that of the snapshot, or the touch. -/
def latestActivity (s : AppStatusSnapshot) (lastTouch : Int) : Int :=
  if s.lastEventTimestampUs ≤ 0 ∨ lastTouch > s.lastEventTimestampUs then lastTouch
  else s.lastEventTimestampUs

/-- An update: the snapshot, the time that is read, and what is answered. -/
structure Update where
  snapshot : AppStatusSnapshot
  now : Int
  touch : TouchAnswer
  /-- `bsp_display_lock` -/
  lock : Bool
  deriving DecidableEq, Repr

/-- `display_ui_update`; the caller passes the address of a snapshot. -/
def displayUiUpdate (w : DisplayWorld) (u : Update) : DisplayWorld :=
  if w.ui.display = false then w
  else
    let w := pollTouchActivity u.now u.touch w
    let w := updateDisplayPowerState u.now
      (latestActivity u.snapshot w.ui.lastTouchTimestampUs) w
    if u.lock then { w with ui := showSnapshot u.snapshot w.ui } else w

/-! ## Initialisation -/

/-- What the calls of `display_ui_init` answer. -/
structure InitAnswers where
  lvglPortInit : Int
  brightnessInit : Int
  displayNew : Int
  /-- `lvgl_port_add_disp_dsi` returns a display -/
  addDisp : Bool
  touchNew : Int
  now : Int
  /-- `bsp_display_lock` -/
  lock : Bool
  deriving DecidableEq, Repr

/-- `ESP_ERR_TIMEOUT` -/
def espErrTimeout : Int := 0x107

/-- The labels as `display_ui_init` creates them. -/
def createLabels (ui : DisplayUi) : DisplayUi :=
  { ui with
    stateLabel := some "USB: -"
    sourceLabel := some "Last input: -"
    keyboardLabel := some .white
    mouseLabel := some .white
    micLabel := some .white }

/-- The end of `display_ui_init`, once there is a display. -/
def displayUiStart (a : InitAnswers) (w : DisplayWorld) : DisplayWorld × Int :=
  let ui := { w.ui with
    display := true
    touchHandle := w.ui.touchHandle || decide (a.touchNew = 0) }
  let w := bspDisplayBacklight true { w with ui := ui }
  let w := { w with ui := { w.ui with displayAwake := true, lastTouchTimestampUs := a.now } }
  if a.lock = false then (w, espErrTimeout)
  else ({ w with ui := createLabels w.ui }, 0)

/-- `display_ui_init`: the state it leaves, and the error it returns. -/
def displayUiInit (a : InitAnswers) (w : DisplayWorld) : DisplayWorld × Int :=
  if w.ui.display then (w, 0)
  else if w.ui.lvglInitialized = false ∧ a.lvglPortInit ≠ 0 then (w, a.lvglPortInit)
  else if w.ui.lvglInitialized = false ∧ a.brightnessInit ≠ 0 then (w, a.brightnessInit)
  else
    let w := { w with ui := { w.ui with lvglInitialized := true } }
    if w.ui.lcdReady = false ∧ a.displayNew ≠ 0 then (w, a.displayNew)
    else
      let w := { w with ui := { w.ui with lcdReady := true } }
      -- `ESP_FAIL`
      if a.addDisp = false then (w, -1) else displayUiStart a w

end CaptureKVMBridge.Display
