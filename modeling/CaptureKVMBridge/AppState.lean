/-!
# `app_state.c`: what the display shows

The status snapshot and the three activity deadlines, as the statics of
`app_state.c`. Each function that calls `esp_timer_get_time()` takes the value
read there as `now`.
-/

namespace CaptureKVMBridge

/-- `app_usb_state_t`. -/
inductive AppUsbState where
  | disconnected
  | mounted
  | streaming
  deriving DecidableEq, Repr

/-- `app_input_source_t`. -/
inductive AppInputSource where
  | none
  | network
  | usbJtag
  | uart
  deriving DecidableEq, Repr

/-- `app_status_snapshot_t`. -/
structure AppStatusSnapshot where
  hsState : AppUsbState
  hsKeyboardActive : Bool
  hsMouseActive : Bool
  hsMicrophoneActive : Bool
  eventsForwarded : UInt32
  lastSource : AppInputSource
  lastEventTimestampUs : Int
  deriving DecidableEq, Repr

/-- The statics of `app_state.c`. -/
structure AppState where
  snapshot : AppStatusSnapshot
  keyboardActiveUntil : Int
  mouseActiveUntil : Int
  micActiveUntil : Int
  deriving DecidableEq, Repr

/-- `FEATURE_ACTIVE_US`. -/
def featureActiveUs : Int := 500000

/-- `MIC_ACTIVE_US`. -/
def micActiveUs : Int := 500000

/-- `refresh_feature_activity`. -/
def refreshFeatureActivity (st : AppState) (now : Int) : AppState :=
  { st with
    snapshot := { st.snapshot with
      hsKeyboardActive := decide (st.keyboardActiveUntil > now)
      hsMouseActive := decide (st.mouseActiveUntil > now)
      hsMicrophoneActive := decide (st.micActiveUntil > now) } }

/-- `app_state_init`. -/
def appStateInit (now : Int) : AppState where
  snapshot :=
    { hsState := .disconnected
      hsKeyboardActive := false
      hsMouseActive := false
      hsMicrophoneActive := false
      eventsForwarded := 0
      lastSource := .none
      lastEventTimestampUs := now }
  keyboardActiveUntil := 0
  mouseActiveUntil := 0
  micActiveUntil := 0

/-- `app_state_update_usb_state`. -/
def appStateUpdateUsbState (st : AppState) (newState : AppUsbState) : AppState :=
  { st with snapshot := { st.snapshot with hsState := newState } }

/-- `app_state_mark_feature_usage`. -/
def appStateMarkFeatureUsage (st : AppState) (now : Int) (keyboard mouse microphone : Bool) :
    AppState :=
  refreshFeatureActivity
    { st with
      keyboardActiveUntil := if keyboard then now + featureActiveUs else st.keyboardActiveUntil
      mouseActiveUntil := if mouse then now + featureActiveUs else st.mouseActiveUntil
      micActiveUntil := if microphone then now + micActiveUs else st.micActiveUntil }
    now

/-- `app_state_note_event`. -/
def appStateNoteEvent (st : AppState) (now : Int) (source : AppInputSource) : AppState :=
  refreshFeatureActivity
    { st with
      snapshot := { st.snapshot with
        eventsForwarded := st.snapshot.eventsForwarded + 1
        lastSource := source
        lastEventTimestampUs := now } }
    now

/-- `app_state_get_snapshot`: the statics it leaves, and the copy it returns. -/
def appStateGetSnapshot (st : AppState) (now : Int) : AppState × AppStatusSnapshot :=
  (refreshFeatureActivity st now, (refreshFeatureActivity st now).snapshot)

@[simp] theorem appStateNoteEvent_eventsForwarded (st : AppState) (now : Int)
    (source : AppInputSource) :
    (appStateNoteEvent st now source).snapshot.eventsForwarded = st.snapshot.eventsForwarded + 1 :=
  rfl

end CaptureKVMBridge
