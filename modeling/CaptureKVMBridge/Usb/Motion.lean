import Mathlib.Algebra.Group.Pi.Basic
import Mathlib.Algebra.BigOperators.Pi
import CaptureKVMBridge.Usb.Ledger

/-!
# Relative motion

The displacement of the relative mouse, axis by axis, in unbounded integers.
While the device stays attached the log, the pending slot and the submissions
balance except for what was overwritten in the slot, so motion is conserved in
every state of a run exactly when no entry erases a displacement
(`motion_conserved_iff`): a handler call that cannot send while a report with a
displacement is already parked.
-/

namespace CaptureKVMBridge.Usb

open CaptureKVMBridge.Machine CaptureKVMBridge.Tlv

variable {cfg : Config} {w : UsbWorld}

/-- The components of a relative report. -/
inductive Axis where
  | x
  | y
  | wheel
  | pan
  deriving DecidableEq, Repr

/-- The displacement that a transmitted report carries. -/
def HidReport.motion : HidReport → Axis → Int
  | .mouseRel r, .x => r.x.toInt
  | .mouseRel r, .y => r.y.toInt
  | .mouseRel r, .wheel => r.wheel.toInt
  | .mouseRel r, .pan => r.pan.toInt
  | _, _ => 0

/-- The displacement that a report is handed in with. -/
def mouseMotion (report : UsbMouseReport) : Axis → Int
  | .x => report.x.toInt
  | .y => report.y.toInt
  | .wheel => report.wheel.toInt
  | .pan => report.pan.toInt

/-- The displacement waiting in the slot. -/
def pendingMotion (w : UsbWorld) (axis : Axis) : Int :=
  if w.usb.pendingMouseReport then mouseMotion w.usb.pendingMouse axis else 0

/-- The relative reports that are handed in along a list of entries. -/
def mouseReports (ops : List UsbOp) : List UsbMouseReport :=
  ops.filterMap fun
    | .handle (.mouse report) => some report
    | _ => none

/-- The displacement that is handed in along a list of entries. -/
def submittedMotion (ops : List UsbOp) (axis : Axis) : Int :=
  ((mouseReports ops).map fun report => mouseMotion report axis).sum

/-- On every axis, what was transmitted and what is pending add up to what was
submitted. -/
def MotionConserved (w : UsbWorld) (submitted : Axis → Int) : Prop :=
  ∀ axis, ((transmitted .mouse w.out).map fun h => h.motion axis).sum + pendingMotion w axis
    = submitted axis

/-- The entry parks a relative report over one that has a displacement. -/
def ErasesMotion (w : UsbWorld) (op : UsbOp) : Prop :=
  submits .mouse w op = true ∧ w.sendsNow = false ∧ ∃ axis, pendingMotion w axis ≠ 0

/-- The conversion leaves the displacement. -/
theorem motion_hidMouseReport (report : UsbMouseReport) :
    (HidReport.mouseRel (hidMouseReport report)).motion = mouseMotion report := by
  funext axis
  cases axis <;> rfl

/-- What is handed in, as it would be sent. -/
theorem submissions_mouse (cfg : Config) (ops : List UsbOp) :
    submissions cfg .mouse ops
      = (mouseReports ops).map fun report => .mouseRel (hidMouseReport report) := by
  rw [mouseReports, List.map_filterMap]
  refine List.filterMap_congr fun op _ => ?_
  match op with
  | .handle (.keyboard _) | .handle (.mouse _) | .handle (.mouseAbs _) => rfl
  | .poll | .onSuspend _ | .onResume | .event _ => rfl

/-- The sum of displacements, axis by axis. -/
theorem sum_motion (hs : List HidReport) (axis : Axis) :
    (hs.map HidReport.motion).sum axis = (hs.map fun h => h.motion axis).sum := by
  induction hs with
  | nil => rfl
  | cons h hs ih => rw [List.map_cons, List.sum_cons, Pi.add_apply, ih, List.map_cons, List.sum_cons]

/-- The slot of the ledger holds the pending displacement. -/
theorem Books.slotWeight_motion {L : Ledger HidReport} (h : Books cfg .mouse w L) :
    slotWeight HidReport.motion L.slot = pendingMotion w := by
  have hparked : w.usb.parked .mouse
      = if w.usb.pendingMouseReport then some (.mouse w.usb.pendingMouse) else none := rfl
  unfold slotWeight pendingMotion
  rw [h.slot, hparked]
  funext axis
  cases w.usb.pendingMouseReport with
  | false => rfl
  | true => simp [UsbReport.toHid, motion_hidMouseReport]

/-- The displacement that was submitted, as the log has it. -/
def loggedMotion (cfg : Config) (w : UsbWorld) (axis : Axis) : Int :=
  ((submitted (mark cfg .mouse) w.out).map fun h => h.motion axis).sum

/-- **Motion is conserved when what was lost adds up to nothing.** -/
theorem motionConserved_iff {L : Ledger HidReport} (h : Books cfg .mouse w L) :
    MotionConserved w (loggedMotion cfg w) ↔ (L.lost.map HidReport.motion).sum = 0 := by
  have hbal := h.tracks.conserved HidReport.motion
  rw [h.hand, h.slotWeight_motion, sent_eq_transmitted] at hbal
  have haxis : ∀ axis, ((transmitted .mouse w.out).map fun h => h.motion axis).sum
        + pendingMotion w axis + (L.lost.map HidReport.motion).sum axis
      = loggedMotion cfg w axis := by
    intro axis
    have hat := congrFun hbal axis
    simp only [Pi.add_apply] at hat
    rw [sum_motion (transmitted .mouse w.out), sum_motion (submitted (mark cfg .mouse) w.out)] at hat
    rw [loggedMotion, ← hat]
    simp [slotWeight]
  constructor
  · intro hcons
    funext axis
    have := haxis axis
    rw [hcons axis] at this
    simpa using this
  · intro hlost axis
    have := haxis axis
    rw [hlost] at this
    simpa using this

/-- In a state in which motion is conserved, an entry keeps it exactly when it
erases nothing. -/
theorem exec_motion {L : Ledger HidReport} (hb : Books cfg .mouse w L)
    (hcons : MotionConserved w (loggedMotion cfg w)) (op : UsbOp) :
    MotionConserved (exec cfg w op) (loggedMotion cfg (exec cfg w op)) ↔ ¬ErasesMotion w op := by
  obtain ⟨L', hb', -, hlost'⟩ := exec_books hb op
  rw [motionConserved_iff hb', hlost', List.map_append, List.sum_append,
    (motionConserved_iff hb).mp hcons, zero_add]
  have hslot : (L.slot.toList.map HidReport.motion).sum = pendingMotion w := hb.slotWeight_motion
  split
  · next hparks =>
    rw [hslot]
    constructor
    · intro hzero herases
      obtain ⟨-, -, axis, hne⟩ := herases
      exact hne (congrFun hzero axis)
    · intro hkeep
      funext axis
      by_contra hne
      exact hkeep ⟨hparks.1, hparks.2, axis, hne⟩
  · next hparks => exact iff_of_true rfl fun he => hparks ⟨he.1, he.2.1⟩

/-- **When relative motion is conserved**: in every state of a run of an
attached device, if and only if no entry of the run parks a relative report
over one that has a displacement. -/
theorem motion_conserved_iff (cfg : Config) {w : UsbWorld} (hready : w.usb.usbReady = true)
    (hparked : w.usb.parked .mouse = none) (hout : w.out = []) {ops : List UsbOp}
    (hops : ∀ op ∈ ops, op.whileAttached) :
    (∀ pre, pre <+: ops →
      MotionConserved (runSteps (exec cfg) w pre) (submittedMotion pre)) ↔
      AllSteps (exec cfg) (fun w op => ¬ErasesMotion w op) w ops := by
  -- on an attached device every report is submitted, so the log adds up to what the entries say
  have hlog : ∀ pre, pre <+: ops →
      loggedMotion cfg (runSteps (exec cfg) w pre) = submittedMotion pre := by
    intro pre hpre
    funext axis
    rw [loggedMotion, submitted_run cfg .mouse pre hready fun op hop => hops op (hpre.subset hop),
      hout, submissions_mouse]
    show (List.map _ (List.map _ (mouseReports pre))).sum = _
    rw [List.map_map, submittedMotion]
    refine congrArg List.sum (List.map_congr_left fun report _ => ?_)
    exact congrFun (motion_hidMouseReport report) axis
  have hstart : MotionConserved w (loggedMotion cfg w) := by
    rw [motionConserved_iff (books_start cfg hout hparked)]
    rfl
  rw [← prefixes_iff_allSteps (A := fun _ op => op.whileAttached)
    (I := fun v => v.usb.usbReady = true ∧ ∃ L, Books cfg .mouse v L)
    (G := fun v => MotionConserved v (loggedMotion cfg v)) ?_ ?_
    ⟨hready, _, books_start cfg hout hparked⟩ (allSteps_of_mem hops w) hstart]
  · refine forall₂_congr fun pre hpre => ?_
    rw [hlog pre hpre]
  · intro v op hinv hop
    obtain ⟨hv, L, hb⟩ := hinv
    obtain ⟨L', hb', -⟩ := exec_books hb op
    exact ⟨exec_ready hop hv, L', hb'⟩
  · intro v op hinv _ hcons
    obtain ⟨-, L, hb⟩ := hinv
    exact exec_motion hb hcons op

/-- A move to the right. -/
def moveRight (dx : Int8) : UsbReport := .mouse ⟨dx, 0, 0, 0, 0⟩

/-- A move that is parked and polled before the next one is not lost. -/
theorem motion_conserved_polled :
    let ops : List UsbOp := [.handle (moveRight 5), .poll, .handle (moveRight 3)]
    MotionConserved (runSteps (exec Config.shipped) (attachedWorld busyOnce) ops)
      (submittedMotion ops) := by
  intro ops
  refine (motion_conserved_iff Config.shipped (w := attachedWorld busyOnce) rfl rfl rfl
    (by decide)).mpr ?_ ops List.prefix_rfl
  refine ⟨?_, ?_, ?_, trivial⟩
  · intro herases
    obtain ⟨-, -, axis, hne⟩ := herases
    exact hne rfl
  · intro herases
    obtain ⟨hsub, -⟩ := herases
    cases hsub
  · intro herases
    obtain ⟨-, hsends, -⟩ := herases
    exact absurd hsends (by decide)

/-- **A busy endpoint loses motion.** Two moves of 5 while nothing can be sent:
5 is pending, 10 was submitted. -/
theorem motion_lost :
    let ops : List UsbOp := [.handle (moveRight 5), .handle (moveRight 5)]
    ¬MotionConserved (runSteps (exec Config.shipped) (attachedWorld busyAlways) ops)
      (submittedMotion ops) := by
  intro ops hcons
  exact absurd (hcons .x) (by decide)

end CaptureKVMBridge.Usb
