import Mathlib.Algebra.Group.Nat.Defs
import CaptureKVMBridge.AppState
import CaptureKVMBridge.Machine.Register

/-!
# What the snapshot says

`app_state.c` is called by the transports, the USB module and the display task.
Here it is run by any sequence of its calls, each with the time it reads, and the
snapshot that `app_state_get_snapshot` hands out is a function of that history
(`snapshot_of_history`): counts and last values come from `app_state_note_event`
alone, and a feature is shown as active exactly if it was marked in the last half
second.

The flags in the statics are stale between two calls, and the deadlines start at
zero rather than in the past; neither shows, as the snapshot refreshes them and
the clock starts at zero.
-/

namespace CaptureKVMBridge

open CaptureKVMBridge.Machine

/-- A call of a function of `app_state.c`, with the time that it reads. -/
inductive AppOp where
  | updateUsbState (newState : AppUsbState)
  | markFeatureUsage (now : Int) (keyboard mouse microphone : Bool)
  | noteEvent (now : Int) (source : AppInputSource)
  | getSnapshot (now : Int)
  deriving DecidableEq, Repr

/-- The statics after the call. -/
def appExec (st : AppState) : AppOp → AppState
  | .updateUsbState newState => appStateUpdateUsbState st newState
  | .markFeatureUsage now keyboard mouse microphone =>
    appStateMarkFeatureUsage st now keyboard mouse microphone
  | .noteEvent now source => appStateNoteEvent st now source
  | .getSnapshot now => (appStateGetSnapshot st now).1

/-! ## What a call says -/

/-- The features with an activity of their own. -/
inductive Feature where
  | keyboard
  | mouse
  | microphone
  deriving DecidableEq, Repr

/-- `FEATURE_ACTIVE_US` or `MIC_ACTIVE_US`. -/
def Feature.activeUs : Feature → Int
  | .keyboard | .mouse => featureActiveUs
  | .microphone => micActiveUs

def AppState.activeUntil (st : AppState) : Feature → Int
  | .keyboard => st.keyboardActiveUntil
  | .mouse => st.mouseActiveUntil
  | .microphone => st.micActiveUntil

def AppStatusSnapshot.active (s : AppStatusSnapshot) : Feature → Bool
  | .keyboard => s.hsKeyboardActive
  | .mouse => s.hsMouseActive
  | .microphone => s.hsMicrophoneActive

/-- The time that the call reads, if it reads one. -/
def AppOp.time : AppOp → Option Int
  | .updateUsbState _ => none
  | .markFeatureUsage now _ _ _ => some now
  | .noteEvent now _ => some now
  | .getSnapshot now => some now

/-- When the call marks the feature, if it does. -/
def AppOp.marks : Feature → AppOp → Option Int
  | .keyboard, .markFeatureUsage now true _ _ => some now
  | .mouse, .markFeatureUsage now _ true _ => some now
  | .microphone, .markFeatureUsage now _ _ true => some now
  | _, _ => none

/-- When and from where the call notes an event, if it does. -/
def AppOp.notes : AppOp → Option (Int × AppInputSource)
  | .noteEvent now source => some (now, source)
  | .updateUsbState _ | .markFeatureUsage _ _ _ _ | .getSnapshot _ => none

/-- The state that the call publishes, if it does. -/
def AppOp.publishes : AppOp → Option AppUsbState
  | .updateUsbState newState => some newState
  | .markFeatureUsage _ _ _ _ | .noteEvent _ _ | .getSnapshot _ => none

/-- What marks a feature reads the time. -/
theorem AppOp.time_of_marks {f : Feature} {op : AppOp} {t : Int} (h : op.marks f = some t) :
    op.time = some t := by
  cases op with
  | markFeatureUsage now keyboard mouse microphone =>
    cases f with
    | keyboard => cases keyboard <;> simp_all [AppOp.marks, AppOp.time]
    | mouse => cases mouse <;> simp_all [AppOp.marks, AppOp.time]
    | microphone => cases microphone <;> simp_all [AppOp.marks, AppOp.time]
  | updateUsbState | noteEvent | getSnapshot => cases f <;> cases h

/-! ## What the statics keep -/

@[simp] theorem refreshFeatureActivity_active (st : AppState) (now : Int) (f : Feature) :
    (refreshFeatureActivity st now).snapshot.active f = decide (now < st.activeUntil f) := by
  cases f <;> rfl

/-- A deadline is written by the marks of its feature, and by nothing else. -/
theorem appExec_activeUntil (f : Feature) (st : AppState) (op : AppOp) :
    (appExec st op).activeUntil f
      = ((op.marks f).map (· + f.activeUs)).getD (st.activeUntil f) := by
  cases op with
  | markFeatureUsage now keyboard mouse microphone =>
    cases f with
    | keyboard => cases keyboard <;> rfl
    | mouse => cases mouse <;> rfl
    | microphone => cases microphone <;> rfl
  | updateUsbState | noteEvent | getSnapshot => cases f <;> rfl

theorem appExec_eventsForwarded (st : AppState) (op : AppOp) :
    (appExec st op).snapshot.eventsForwarded
      = st.snapshot.eventsForwarded + UInt32.ofNat op.notes.toList.length := by
  cases op with
  | noteEvent now source => rfl
  | updateUsbState | markFeatureUsage | getSnapshot => exact (UInt32.add_zero _).symm

theorem appExec_lastEvent (st : AppState) (op : AppOp) :
    ((appExec st op).snapshot.lastEventTimestampUs, (appExec st op).snapshot.lastSource)
      = op.notes.getD (st.snapshot.lastEventTimestampUs, st.snapshot.lastSource) := by
  cases op <;> rfl

theorem appExec_hsState (st : AppState) (op : AppOp) :
    (appExec st op).snapshot.hsState = op.publishes.getD st.snapshot.hsState := by
  cases op <;> rfl

/-! ## Runs -/

/-- The number of events noted, as the 32-bit counter has it. -/
theorem eventsForwarded_run (st : AppState) (ops : List AppOp) :
    (runSteps appExec st ops).snapshot.eventsForwarded
      = st.snapshot.eventsForwarded + UInt32.ofNat (ops.filterMap AppOp.notes).length := by
  induction ops using List.reverseRecOn with
  | nil => exact (UInt32.add_zero _).symm
  | append_singleton ops op ih =>
    rw [runSteps_snoc, appExec_eventsForwarded, ih, List.filterMap_append, List.length_append,
      UInt32.ofNat_add, UInt32.add_assoc]
    cases op <;> rfl

/-- The deadline of a feature is that of its last mark. -/
theorem activeUntil_run (f : Feature) (st : AppState) (ops : List AppOp) :
    (runSteps appExec st ops).activeUntil f
      = ((ops.filterMap (AppOp.marks f)).getLast?.map (· + f.activeUs)).getD
          (st.activeUntil f) := by
  rw [runSteps_register (f := fun s : AppState => s.activeUntil f) (appExec_activeUntil f),
    ← List.map_filterMap, List.getLast?_map]

/-- The marks of a feature are among the times that were read, in their order. -/
theorem marks_sublist (f : Feature) (ops : List AppOp) :
    (ops.filterMap (AppOp.marks f)).Sublist (ops.filterMap AppOp.time) := by
  induction ops with
  | nil => exact List.Sublist.refl _
  | cons op ops ih =>
    rw [List.filterMap_cons, List.filterMap_cons]
    cases hmarks : op.marks f with
    | some t =>
      rw [AppOp.time_of_marks hmarks]
      exact ih.cons_cons t
    | none =>
      cases op.time with
      | none => exact ih
      | some t => exact ih.cons t

/-- **The snapshot is a function of the history.** For any sequence of calls
after `app_state_init` at `t₀`, under a clock that starts at zero or later and
does not go back: the snapshot shows a feature as active exactly if it was
marked less than its period ago; it counts the events noted, up to the width of
the counter, and shows the source and the time of the last of them (no source,
and the time of the start, if there was none); and it shows the USB state that was
published last. -/
theorem snapshot_of_history (t₀ now : Int) (ops : List AppOp) (hstart : 0 ≤ t₀)
    (hclock : (t₀ :: (ops.filterMap AppOp.time ++ [now])).Pairwise (· ≤ ·)) :
    let s := (appStateGetSnapshot (runSteps appExec (appStateInit t₀) ops) now).2
    let noted := ops.filterMap AppOp.notes
    (∀ f : Feature, s.active f = true ↔
      ∃ t ∈ ops.filterMap (AppOp.marks f), now - t < f.activeUs) ∧
    s.eventsForwarded.toNat = noted.length % 2 ^ 32 ∧
    (s.lastEventTimestampUs, s.lastSource) = noted.getLast?.getD (t₀, .none) ∧
    s.hsState = (ops.filterMap AppOp.publishes).getLast?.getD .disconnected := by
  intro s noted
  have hnow : 0 ≤ now := by
    have hlast : now ∈ ops.filterMap AppOp.time ++ [now] := by simp
    have hle := List.rel_of_pairwise_cons hclock hlast
    omega
  refine ⟨fun f => ?_, ?_, ?_, ?_⟩
  · have hordered : (ops.filterMap (AppOp.marks f)).Pairwise (· ≤ ·) :=
      (List.pairwise_append.mp hclock.of_cons).1.sublist (marks_sublist f ops)
    have hflag : s.active f = true ↔ now < (runSteps appExec (appStateInit t₀) ops).activeUntil f := by
      show ((refreshFeatureActivity _ now).snapshot.active f) = true ↔ _
      rw [refreshFeatureActivity_active, decide_eq_true_eq]
    have hzero : (appStateInit t₀).activeUntil f = 0 := by cases f <;> rfl
    rw [hflag, activeUntil_run, hzero, ← getLast_recent_iff hordered]
    cases (ops.filterMap (AppOp.marks f)).getLast? with
    | none =>
      -- never marked: the deadline is the zero of the start
      refine iff_of_false (Int.not_lt.mpr hnow) ?_
      intro h
      obtain ⟨last, hlast, -⟩ := h
      cases hlast
    | some last =>
      constructor
      · intro h
        refine ⟨last, rfl, ?_⟩
        have h' : now < last + f.activeUs := h
        omega
      · intro h
        obtain ⟨last', hlast, hrecent⟩ := h
        cases hlast
        show now < last + f.activeUs
        omega
  · have hcount := congrArg UInt32.toNat (eventsForwarded_run (appStateInit t₀) ops)
    show (runSteps appExec (appStateInit t₀) ops).snapshot.eventsForwarded.toNat = _
    rw [hcount, UInt32.toNat_add, UInt32.toNat_ofNat']
    show (0 + noted.length % 2 ^ 32) % 2 ^ 32 = _
    rw [Nat.zero_add, Nat.mod_mod]
  · exact runSteps_register
      (f := fun st : AppState => (st.snapshot.lastEventTimestampUs, st.snapshot.lastSource))
      appExec_lastEvent (appStateInit t₀) ops
  · exact runSteps_register (f := fun st : AppState => st.snapshot.hsState) appExec_hsState
      (appStateInit t₀) ops

/-- A key press that is still shown, and a mouse movement that is not. -/
theorem snapshot_of_history_fades :
    let ops : List AppOp :=
      [.noteEvent 100 .uart, .markFeatureUsage 100 false true false, .noteEvent 400000 .usbJtag,
        .markFeatureUsage 400000 true false false]
    let s := (appStateGetSnapshot (runSteps appExec (appStateInit 0) ops) 600000).2
    s.hsKeyboardActive = true ∧ s.hsMouseActive ≠ true ∧ s.eventsForwarded.toNat = 2 := by
  intro ops s
  obtain ⟨hactive, hcount, -, -⟩ := snapshot_of_history 0 600000 ops (by decide) (by decide)
  refine ⟨(hactive .keyboard).mpr ⟨400000, by decide, by decide⟩, fun h => ?_, hcount⟩
  obtain ⟨t, ht, hrecent⟩ := (hactive .mouse).mp h
  obtain rfl : 100 = t := by simpa [ops, AppOp.marks] using ht
  exact absurd hrecent (by decide)

end CaptureKVMBridge
