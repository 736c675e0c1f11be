import CaptureKVMBridge.Machine.History
import CaptureKVMBridge.Usb.Ledger
import CaptureKVMBridge.Usb.Microphone

/-!
# Waking the host

The host gives the permission to wake it with a suspend, and a wakeup uses it
up. The module keeps this in two flags and a time; here they are read off the
log: `wakeOf` is what the lines of a log leave in them, and `WakeBooks` says that
this is what is in the statics, and that every request stands where the flags
allowed it. With that the results are about logs.

`remoteWakeup_permitted`: every request comes from a report handler, the last
change of the bus before it was a suspend with permission, and no wakeup since
then succeeded. `wakeups_rateLimited_iff`: the interval of 20 ms between two
requests of one suspend is kept exactly if no report comes earlier than that
after a refused one. The limiter does not see refused requests, and after a
granted one the permission is gone, so the time it compares with is always zero
(`WakeStatics.Armed`).
-/

namespace CaptureKVMBridge.Usb

open CaptureKVMBridge.Machine CaptureKVMBridge.Tlv

variable {cfg : Config} {w : UsbWorld} {op : UsbOp} {p es : List UsbEvent}

/-! ## The statics of the wakeup -/

/-- What `request_remote_wakeup_if_needed` decides by. -/
structure WakeStatics where
  usbSuspended : Bool
  remoteWakeupEnabled : Bool
  lastRemoteWakeupUs : Int
  deriving DecidableEq, Repr

def UsbHs.wake (u : UsbHs) : WakeStatics where
  usbSuspended := u.usbSuspended
  remoteWakeupEnabled := u.remoteWakeupEnabled
  lastRemoteWakeupUs := u.lastRemoteWakeupUs

theorem SetsSlot.wake_eq {k : ReportKind} {o : Option UsbReport} {f : UsbHs → UsbHs}
    (h : SetsSlot k o f) (u : UsbHs) : (f u).wake = u.wake := by
  obtain ⟨hs, he, hl⟩ := h.wake u
  rw [UsbHs.wake, hs, he, hl]
  rfl

/-- What a line of the log does to them. -/
def WakeStatics.note (s : WakeStatics) : UsbEvent → WakeStatics
  | .called (.onSuspend enabled) _ => ⟨true, enabled, 0⟩
  | .called .onResume _ => ⟨false, false, 0⟩
  | .remoteWakeup now true => { s with remoteWakeupEnabled := false, lastRemoteWakeupUs := now }
  | _ => s

/-- What a log from start-up leaves in them. -/
def wakeOf (out : List UsbEvent) : WakeStatics :=
  runSteps WakeStatics.note ⟨false, false, 0⟩ out

theorem wakeOf_append (out es : List UsbEvent) :
    wakeOf (out ++ es) = runSteps WakeStatics.note (wakeOf out) es := List.foldl_append ..

/-- Lines about reports. -/
def OnlyReports (es : List UsbEvent) : Prop := ∀ e ∈ es, ∃ h ok, e = .hidReport h ok

theorem OnlyReports.append {es' : List UsbEvent} (h : OnlyReports es) (h' : OnlyReports es') :
    OnlyReports (es ++ es') := List.forall_mem_append.mpr ⟨h, h'⟩

theorem OnlyReports.note (h : OnlyReports es) (s : WakeStatics) :
    runSteps WakeStatics.note s es = s := by
  induction es with
  | nil => rfl
  | cons e es ih =>
    obtain ⟨r, ok, rfl⟩ := h e (List.mem_cons_self ..)
    exact ih fun x hx => h x (List.mem_cons_of_mem _ hx)

/-! ## What an entry does to them -/

/-- `w'` is `w` some calls about reports later. -/
structure Quiet (w w' : UsbWorld) : Prop where
  wake : w'.usb.wake = w.usb.wake
  out : ∃ es, w'.out = w.out ++ es ∧ OnlyReports es
  timer : ∃ n, w'.env.timer = w.env.timer.drop n

theorem Quiet.refl (w : UsbWorld) : Quiet w w :=
  ⟨rfl, ⟨[], (List.append_nil _).symm, fun _ he => absurd he List.not_mem_nil⟩, 0, rfl⟩

theorem Quiet.trans {w₁ w₂ w₃ : UsbWorld} (h : Quiet w₁ w₂) (h' : Quiet w₂ w₃) : Quiet w₁ w₃ := by
  obtain ⟨hwake, ⟨es, hout, hes⟩, n, htimer⟩ := h
  obtain ⟨hwake', ⟨es', hout', hes'⟩, n', htimer'⟩ := h'
  refine ⟨hwake'.trans hwake, ⟨es ++ es', ?_, hes.append hes'⟩, n + n', ?_⟩
  · rw [hout', hout, List.append_assoc]
  · rw [htimer', htimer, Stream'.drop_drop]

theorem sendReportNow_quiet (report : HidReport) (keyboard mouse : Bool) (w : UsbWorld) :
    Quiet w (sendReportNow report keyboard mouse w).1 := by
  have hline : ∀ ok, OnlyReports [.hidReport report ok] := fun ok =>
    List.forall_mem_singleton.mpr ⟨report, ok, rfl⟩
  unfold sendReportNow
  dsimp only
  split
  · exact ⟨rfl, (Quiet.refl w).out, 0, rfl⟩
  · split
    · exact ⟨rfl, ⟨_, rfl, hline _⟩, 1, rfl⟩
    · exact ⟨rfl, ⟨_, rfl, hline _⟩, 0, rfl⟩

/-- The statics of the wakeup are left alone by the handling of reports. -/
theorem quiet_keptByReports : KeptByReports Quiet where
  refl := Quiet.refl
  trans := Quiet.trans
  ready := fun w => ⟨rfl, (Quiet.refl w).out, 0, rfl⟩
  send := sendReportNow_quiet
  setSlot := fun hf w => ⟨hf.wake_eq w.usb, (Quiet.refl w).out, 0, rfl⟩

/-- The entry is a report, and `tud_remote_wakeup` will be called. -/
def asks (w : UsbWorld) : UsbOp → Prop
  | .handle _ => w.usb.usbReady = true ∧ w.usb.mayWake ∧
      20000 ≤ w.env.timer.head - w.usb.lastRemoteWakeupUs
  | _ => False

instance (w : UsbWorld) : DecidablePred (asks w)
  | .handle _ => inferInstanceAs (Decidable (_ ∧ _))
  | .poll | .onSuspend _ | .onResume | .event _ => isFalse id

/-- The lines of an entry that concern the wakeup. -/
def wakeLines (w : UsbWorld) (op : UsbOp) : List UsbEvent :=
  .called op w.usb.usbReady ::
    if asks w op then [.remoteWakeup w.env.timer.head w.env.remoteWakeup.head] else []

/-- Only a report asks, and only while ready and permitted to. -/
theorem asks_handle (h : asks w op) : ∃ r, op = .handle r ∧ w.usb.usbReady = true ∧
    w.usb.mayWake ∧ 20000 ≤ w.env.timer.head - w.usb.lastRemoteWakeupUs := by
  cases op with
  | handle r => exact ⟨r, rfl, h⟩
  | poll | onSuspend | onResume | event => exact h.elim

theorem append_wakeLines (h : asks w op) (out : List UsbEvent) :
    out ++ wakeLines w op = out ++ [.called op w.usb.usbReady]
      ++ [.remoteWakeup w.env.timer.head w.env.remoteWakeup.head] := by
  rw [wakeLines, if_pos h, List.append_assoc]
  rfl

theorem wakeLines_silent (h : ¬asks w op) : wakeLines w op = [.called op w.usb.usbReady] := by
  rw [wakeLines, if_neg h]

/-- `w'` is `w` with lines logged, and the statics are what they make of them. -/
structure Logged (lines : List UsbEvent) (w w' : UsbWorld) : Prop where
  out : w'.out = w.out ++ lines
  wake : w'.usb.wake = runSteps WakeStatics.note w.usb.wake lines
  timer : ∃ n, w'.env.timer = w.env.timer.drop n

/-- What a report handler has done when it has dealt with the wakeup. -/
theorem requestRemoteWakeup_logged (r : UsbReport) (hready : w.usb.usbReady = true) :
    Logged (wakeLines w (.handle r)) w
      (requestRemoteWakeupIfNeeded { w with out := w.out ++ [.called (.handle r) true] }) := by
  set w' := requestRemoteWakeupIfNeeded { w with out := w.out ++ [.called (.handle r) true] }
  have hlines : wakeLines w (.handle r) = .called (.handle r) true ::
      if asks w (.handle r) then [.remoteWakeup w.env.timer.head w.env.remoteWakeup.head]
      else [] := by
    rw [wakeLines, hready]
  rw [hlines]
  by_cases hmay : w.usb.mayWake
  · by_cases htime : w.env.timer.head - w.usb.lastRemoteWakeupUs < 20000
    · -- too early: the clock was read
      have hnot : ¬asks w (.handle r) := fun h => absurd h.2.2 (by omega)
      have hw' : w' = _ := requestRemoteWakeup_early hmay htime
      rw [hw', if_neg hnot]
      exact ⟨rfl, rfl, 1, rfl⟩
    · have hasks : asks w (.handle r) := ⟨hready, hmay, by omega⟩
      have hw' : w' = _ := requestRemoteWakeup_late hmay (by
        show 20000 ≤ w.env.timer.head - w.usb.lastRemoteWakeupUs
        omega)
      have hout : w'.out = _ := requestRemoteWakeup_late_out hmay (by
        show 20000 ≤ w.env.timer.head - w.usb.lastRemoteWakeupUs
        omega)
      rw [if_pos hasks]
      refine ⟨hout.trans (List.append_assoc ..), ?_, ?_⟩
      · rw [hw']
        split
        next hans => rw [show w.env.remoteWakeup.head = true from hans]; rfl
        next hans =>
          rw [show w.env.remoteWakeup.head = false from Bool.eq_false_iff.mpr hans]
          rfl
      · rw [hw']
        split
        · exact ⟨1, rfl⟩
        · exact ⟨1, rfl⟩
  · have hnot : ¬asks w (.handle r) := fun h => hmay h.2.1
    have hw' : w' = _ := requestRemoteWakeup_idle hmay
    rw [hw', if_neg hnot]
    exact ⟨rfl, rfl, 0, rfl⟩

/-- **What an entry does to the wakeup**: it logs its lines, and then it is quiet. -/
theorem exec_logged (cfg : Config) (w : UsbWorld) (op : UsbOp) :
    ∃ w', Logged (wakeLines w op) w w' ∧ Quiet w' (exec cfg w op) := by
  have hcallback : Logged (wakeLines w op) w (exec cfg w op) →
      ∃ w', Logged (wakeLines w op) w w' ∧ Quiet w' (exec cfg w op) :=
    fun h => ⟨_, h, Quiet.refl _⟩
  cases op with
  | handle r =>
    cases hready : w.usb.usbReady with
    | true =>
      refine ⟨_, requestRemoteWakeup_logged r hready, ?_⟩
      rw [exec_handle, hready]
      exact quiet_keptByReports.handle _ _ _ (park_sets r) hready
    | false =>
      have hnot : ¬asks w (.handle r) := fun h => absurd h.1 (by rw [hready]; decide)
      refine ⟨{ w with out := w.out ++ [.called (.handle r) w.usb.usbReady] }, ?_, ?_⟩
      · rw [wakeLines_silent hnot]
        exact ⟨rfl, rfl, 0, rfl⟩
      · rw [exec_handle, handleReport, if_pos hready]
        exact Quiet.refl _
  | poll =>
    refine ⟨{ w with out := w.out ++ [.called .poll w.usb.usbReady] }, ⟨rfl, rfl, 0, rfl⟩, ?_⟩
    unfold exec UsbOp.call usbHsPoll
    dsimp only
    split
    · exact Quiet.refl _
    · exact quiet_keptByReports.loop cfg _ _
  | onSuspend enabled => exact hcallback ⟨rfl, rfl, 0, rfl⟩
  | onResume => exact hcallback ⟨rfl, rfl, 0, rfl⟩
  | event id =>
    cases id with
    | attached => exact hcallback ⟨rfl, rfl, 0, rfl⟩
    | detached => exact hcallback ⟨rfl, rfl, 0, rfl⟩
    | other => exact hcallback ⟨rfl, rfl, 0, rfl⟩

/-- Behind the lines of an entry only reports follow, and the statics are what
the lines make of them. -/
theorem exec_lines (cfg : Config) (w : UsbWorld) (op : UsbOp) :
    (∃ es, (exec cfg w op).out = w.out ++ wakeLines w op ++ es ∧ OnlyReports es) ∧
      (exec cfg w op).usb.wake = runSteps WakeStatics.note w.usb.wake (wakeLines w op) ∧
      ∃ n, (exec cfg w op).env.timer = w.env.timer.drop n := by
  obtain ⟨w', hlogged, hquiet⟩ := exec_logged cfg w op
  obtain ⟨es, hout, hes⟩ := hquiet.out
  obtain ⟨n, htimer⟩ := hlogged.timer
  obtain ⟨n', htimer'⟩ := hquiet.timer
  refine ⟨⟨es, by rw [hout, hlogged.out], hes⟩, hquiet.wake.trans hlogged.wake, n + n', ?_⟩
  rw [htimer', htimer, Stream'.drop_drop]

/-! ## Permission -/

/-- The host suspends or resumes the bus. -/
def UsbEvent.BusChange : UsbEvent → Prop
  | .called (.onSuspend _) _ => True
  | .called .onResume _ => True
  | _ => False

/-- The host suspends the bus and permits the device to wake it. -/
def UsbEvent.Permits (e : UsbEvent) : Prop := ∃ ready, e = .called (.onSuspend true) ready

/-- A wakeup that succeeded. -/
def UsbEvent.Wakes (e : UsbEvent) : Prop := ∃ now, e = .remoteWakeup now true

/-- Of the suspends and resumes the last one permits wakeups, and none has
succeeded since. -/
def Permitted (out : List UsbEvent) : Prop :=
  Since (fun e => ¬e.BusChange ∧ ¬e.Wakes) UsbEvent.Permits out

/-- What a line does to the permission. -/
theorem note_enabled (s : WakeStatics) (e : UsbEvent) :
    (s.note e).remoteWakeupEnabled = true ↔
      e.Permits ∨ (¬e.BusChange ∧ ¬e.Wakes) ∧ s.remoteWakeupEnabled = true := by
  have hkeep : ∀ e : UsbEvent, ¬e.Permits → ¬e.BusChange → ¬e.Wakes →
      (s.remoteWakeupEnabled = true ↔
        e.Permits ∨ (¬e.BusChange ∧ ¬e.Wakes) ∧ s.remoteWakeupEnabled = true) := by
    intro e hp hb hw
    constructor
    · exact fun h => Or.inr ⟨⟨hb, hw⟩, h⟩
    · exact fun h => h.elim (absurd · hp) And.right
  have hnever : ∀ e : UsbEvent, ¬e.Permits → e.BusChange ∨ e.Wakes →
      (false = true ↔ e.Permits ∨ (¬e.BusChange ∧ ¬e.Wakes) ∧ s.remoteWakeupEnabled = true) := by
    intro e hp hor
    refine iff_of_false Bool.false_ne_true fun h => ?_
    rcases h with hperm | ⟨⟨hb, hw⟩, -⟩
    · exact hp hperm
    · exact hor.elim hb hw
  match e with
  | .called (.onSuspend true) ready => exact iff_of_true rfl (Or.inl ⟨ready, rfl⟩)
  | .called (.onSuspend false) ready => exact hnever _ (by nofun) (Or.inl trivial)
  | .called .onResume ready => exact hnever _ (by nofun) (Or.inl trivial)
  | .called (.handle r) ready => exact hkeep _ (by nofun) id (by nofun)
  | .called .poll ready => exact hkeep _ (by nofun) id (by nofun)
  | .called (.event id') ready => exact hkeep _ (by nofun) id (by nofun)
  | .hidReport report ok => exact hkeep _ (by nofun) id (by nofun)
  | .remoteWakeup now true => exact hnever _ (by nofun) (Or.inr ⟨now, rfl⟩)
  | .remoteWakeup now false => exact hkeep _ (by nofun) id (by nofun)

/-- **The flag is the permission.** -/
theorem enabled_iff_permitted (out : List UsbEvent) :
    (wakeOf out).remoteWakeupEnabled = true ↔ Permitted out :=
  runSteps_iff_since (B := fun s : WakeStatics => s.remoteWakeupEnabled = true)
    Bool.false_ne_true note_enabled out

/-- With the permission the bus is suspended, and no wakeup has been timed. -/
def WakeStatics.Armed (s : WakeStatics) : Prop :=
  s.remoteWakeupEnabled = true → s.usbSuspended = true ∧ s.lastRemoteWakeupUs = 0

theorem WakeStatics.Armed.note {s : WakeStatics} (h : s.Armed) (e : UsbEvent) :
    (s.note e).Armed := by
  match e with
  | .called (.onSuspend _) _ => exact fun _ => ⟨rfl, rfl⟩
  | .called .onResume _ => exact fun hen => absurd hen Bool.false_ne_true
  | .remoteWakeup _ true => exact fun hen => absurd hen Bool.false_ne_true
  | .called (.handle _) _ | .called .poll _ | .called (.event _) _ => exact h
  | .hidReport _ _ | .remoteWakeup _ false => exact h

theorem wakeOf_armed (out : List UsbEvent) : (wakeOf out).Armed :=
  runSteps_inv (I := WakeStatics.Armed) (fun _ e h => h.note e)
    (fun hen => absurd hen Bool.false_ne_true) out

/-! ## The books of the wakeup -/

/-- A request comes right after the entry into a report handler, with the
permission, and not before the clock shows 20 ms. -/
def Asked (p : List UsbEvent) (e : UsbEvent) : Prop :=
  ∀ now ok, e = .remoteWakeup now ok →
    (∃ q r, p = q ++ [.called (.handle r) true]) ∧
      (wakeOf p).remoteWakeupEnabled = true ∧ 20000 ≤ now

/-- The statics are what the log says, and the requests in it were in order. -/
structure WakeBooks (w : UsbWorld) : Prop where
  statics : w.usb.wake = wakeOf w.out
  asked : Always Asked w.out

theorem OnlyReports.asked (h : OnlyReports es) : ∀ e ∈ es, ∀ p, Asked p e := by
  intro e he p now ok hnow
  obtain ⟨r, ok', rfl⟩ := h e he
  cases hnow

theorem wakeOf_called_handle (out : List UsbEvent) (r : UsbReport) (ready : Bool) :
    wakeOf (out ++ [.called (.handle r) ready]) = wakeOf out := wakeOf_append ..

/-- With the permission the limiter compares with zero. -/
theorem WakeBooks.limiter_zero (h : WakeBooks w) (hmay : w.usb.mayWake) :
    w.usb.lastRemoteWakeupUs = 0 := by
  have harmed := wakeOf_armed w.out
  rw [← h.statics] at harmed
  exact (harmed hmay.2).2

/-- The lines of an entry are in order. -/
theorem WakeBooks.lines (h : WakeBooks w) (op : UsbOp) :
    Always Asked (w.out ++ wakeLines w op) := by
  have hcalled : Always Asked (w.out ++ [.called op w.usb.usbReady]) :=
    always_snoc.mpr ⟨h.asked, by nofun⟩
  by_cases hasks : asks w op
  · rw [append_wakeLines hasks, always_snoc]
    refine ⟨hcalled, fun now ok hnow => ?_⟩
    obtain ⟨r, rfl, hready, hmay, htime⟩ := asks_handle hasks
    have hzero := h.limiter_zero hmay
    cases hnow
    refine ⟨⟨w.out, r, by rw [hready]⟩, ?_, by omega⟩
    rw [wakeOf_called_handle, ← h.statics]
    exact hmay.2
  · rw [wakeLines_silent hasks]
    exact hcalled

/-- **Every entry keeps the books of the wakeup.** -/
theorem WakeBooks.exec (h : WakeBooks w) (cfg : Config) (op : UsbOp) :
    WakeBooks (exec cfg w op) := by
  obtain ⟨⟨es, hout, hes⟩, hwake, -⟩ := exec_lines cfg w op
  refine ⟨?_, ?_⟩
  · rw [hwake, hout, wakeOf_append, hes.note, wakeOf_append, h.statics]
  · rw [hout]
    exact (h.lines op).quiet hes.asked

theorem wakeBooks_boot (app : AppState) (env : Answers) : WakeBooks (bootWorld app env) :=
  ⟨rfl, always_nil⟩

/-! ## The whole device -/

/-- Both halves of the file. -/
structure DeviceWorld where
  hid : UsbWorld
  ring : ByteRing UInt8
  lastMicDropLogUs : Int

/-- Both halves at start-up. -/
def deviceBoot (cfg : Config) (app : AppState) (env : Answers) : DeviceWorld where
  hid := bootWorld app env
  ring := (micBoot cfg app env.timer).ring
  lastMicDropLogUs := 0

/-- The microphone half, with the clock and the display that both halves use. -/
def DeviceWorld.mic (w : DeviceWorld) : MicWorld where
  ring := w.ring
  lastMicDropLogUs := w.lastMicDropLogUs
  app := w.hid.app
  timer := w.hid.env.timer

def DeviceWorld.setMic (w : DeviceWorld) (m : MicWorld) : DeviceWorld where
  hid := { w.hid with app := m.app, env := { w.hid.env with timer := m.timer } }
  ring := m.ring
  lastMicDropLogUs := m.lastMicDropLogUs

/-- The entries into the module, microphone frames included. -/
inductive DeviceOp where
  | hid (op : UsbOp)
  | microphone (frame : Option UsbMicrophoneFrame)

/-- One entry. -/
def deviceExec (cfg : Config) (pol : GrantPolicy UInt8) (w : DeviceWorld) : DeviceOp → DeviceWorld
  | .hid op => { w with hid := exec cfg w.hid op }
  | .microphone frame => w.setMic (usbHsHandleMicrophoneFrame pol frame w.mic)

/-- The lines that an entry into the device adds. -/
theorem deviceExec_out (cfg : Config) (pol : GrantPolicy UInt8) (w : DeviceWorld) (op : DeviceOp) :
    ∃ es, (deviceExec cfg pol w op).hid.out = w.hid.out ++ es ∧
      ((∃ now ok, .remoteWakeup now ok ∈ es) →
        ∃ r, op = .hid (.handle r) ∧ w.hid.usb.usbReady = true) := by
  cases op with
  | microphone frame =>
    refine ⟨[], (List.append_nil _).symm, fun hmem => ?_⟩
    obtain ⟨now, ok, hmem⟩ := hmem
    exact absurd hmem List.not_mem_nil
  | hid op =>
    obtain ⟨⟨es, hout, hes⟩, -⟩ := exec_lines cfg w.hid op
    refine ⟨wakeLines w.hid op ++ es, hout.trans (List.append_assoc ..), fun hmem => ?_⟩
    obtain ⟨now, ok, hmem⟩ := hmem
    rcases List.mem_append.mp hmem with hline | hreport
    · by_cases hasks : asks w.hid op
      · obtain ⟨r, rfl, hready, -⟩ := asks_handle hasks
        exact ⟨r, rfl, hready⟩
      · rw [wakeLines_silent hasks] at hline
        cases List.mem_singleton.mp hline
    · obtain ⟨report, ok', hreport⟩ := hes _ hreport
      cases hreport

theorem WakeBooks.deviceExec {w : DeviceWorld} (h : WakeBooks w.hid) (cfg : Config)
    (pol : GrantPolicy UInt8) (op : DeviceOp) : WakeBooks (deviceExec cfg pol w op).hid := by
  cases op with
  | hid op => exact h.exec cfg op
  | microphone frame => exact ⟨h.statics, h.asked⟩

/-- **The host is woken only with permission, and once per suspend.** In every
run from start-up, for any clock and any answers: a request is made by a report
handler while ready; of the suspends and resumes before it the last one permits
it, and no wakeup has succeeded since. So between two wakeups that succeed there
is a suspend with permission, and the permission is only there in a suspend. -/
theorem remoteWakeup_permitted (cfg : Config) (pol : GrantPolicy UInt8) (app : AppState)
    (env : Answers) (ops : List DeviceOp) :
    let after := fun pre => (runSteps (deviceExec cfg pol) (deviceBoot cfg app env) pre).hid
    (∀ pre op, ∃ es, (after (pre ++ [op])).out = (after pre).out ++ es ∧
      ((∃ now ok, .remoteWakeup now ok ∈ es) →
        ∃ r, op = .hid (.handle r) ∧ (after pre).usb.usbReady = true)) ∧
    (∀ p now ok q, (after ops).out = p ++ .remoteWakeup now ok :: q → Permitted p) ∧
    (∀ p now q now' s,
      (after ops).out = p ++ .remoteWakeup now true :: (q ++ .remoteWakeup now' true :: s) →
        ∃ ready, .called (.onSuspend true) ready ∈ q) ∧
    ((after ops).usb.remoteWakeupEnabled = true → (after ops).usb.usbSuspended = true) := by
  intro after
  have hbooks : WakeBooks (after ops) :=
    runSteps_inv (I := fun w : DeviceWorld => WakeBooks w.hid)
      (fun w op h => h.deviceExec cfg pol op) (wakeBooks_boot app env) ops
  have hpermitted : ∀ p now ok q, (after ops).out = p ++ .remoteWakeup now ok :: q →
      Permitted p := by
    intro p now ok q hout
    obtain ⟨-, henabled, -⟩ := hbooks.asked p _ q hout now ok rfl
    exact (enabled_iff_permitted p).mp henabled
  refine ⟨fun pre op => ?_, hpermitted, ?_, ?_⟩
  · rw [show after (pre ++ [op]) = (deviceExec cfg pol _ op).hid from
      congrArg DeviceWorld.hid (runSteps_snoc ..)]
    exact deviceExec_out cfg pol _ op
  · intro p now q now' s hout
    have hlater : Permitted (p ++ .remoteWakeup now true :: q) := by
      refine hpermitted _ now' true s ?_
      rw [hout, List.append_assoc, List.cons_append]
    -- the first wakeup ends the permission that it was given under
    have hafter : Permitted q :=
      (since_after (fun h => h.2 ⟨now, rfl⟩) (fun h => by cases h.choose_spec)).mp hlater
    obtain ⟨e, he, ready, rfl⟩ := hafter.exists_mem
    exact ⟨ready, he⟩
  · intro henabled
    have harmed := wakeOf_armed (after ops).out
    rw [← hbooks.statics] at harmed
    exact (harmed henabled).1

/-! ## The rate limit -/

/-- A request is 20 ms later than any earlier one of the same suspend, whatever
that one was answered. -/
def Spaced (p : List UsbEvent) (e : UsbEvent) : Prop :=
  ∀ now ok t ok', e = .remoteWakeup now ok →
    Since (fun x => ¬x.BusChange) (· = .remoteWakeup t ok') p → 20000 ≤ now - t

/-- Any two requests of one suspend are 20 ms apart. -/
def RateLimited (out : List UsbEvent) : Prop := Always Spaced out

theorem OnlyReports.spaced (h : OnlyReports es) : ∀ e ∈ es, ∀ p, Spaced p e := by
  intro e he p now ok t ok' hnow
  obtain ⟨r, ok'', rfl⟩ := h e he
  cases hnow

/-- A report while a wakeup may be requested comes 20 ms after a request that was
refused in this suspend. -/
def WaitsAfterRefusal (w : UsbWorld) : UsbOp → Prop
  | .handle _ => w.usb.usbReady = true → w.usb.mayWake → ∀ t,
      Since (fun x => ¬x.BusChange) (· = .remoteWakeup t false) w.out →
        20000 ≤ w.env.timer.head - t
  | _ => True

/-- The clock does not go back: not in the future, and not behind a request. -/
structure Clock (w : UsbWorld) : Prop where
  ahead : ∀ n, w.env.timer.get n ≤ w.env.timer.get (n + 1)
  past : ∀ t ok, .remoteWakeup t ok ∈ w.out → ∀ n, t ≤ w.env.timer.get n

theorem monotone_get {s : Stream' Int} (h : ∀ n, s.get n ≤ s.get (n + 1)) {m n : Nat}
    (hmn : m ≤ n) : s.get m ≤ s.get n := monotone_nat_of_le_succ h hmn

theorem Clock.exec (h : Clock w) (cfg : Config) (op : UsbOp) : Clock (exec cfg w op) := by
  obtain ⟨⟨es, hout, hes⟩, -, k, htimer⟩ := exec_lines cfg w op
  have hget : ∀ n, (CaptureKVMBridge.Usb.exec cfg w op).env.timer.get n = w.env.timer.get (k + n) :=
    fun n => by rw [htimer, Stream'.get_drop]
  refine ⟨fun n => ?_, fun t ok hmem n => ?_⟩
  · rw [hget, hget]
    exact h.ahead (k + n)
  · rw [hget]
    rw [hout, List.append_assoc] at hmem
    rcases List.mem_append.mp hmem with hold | hnew
    · exact h.past t ok hold (k + n)
    · rcases List.mem_append.mp hnew with hline | hreport
      · unfold wakeLines at hline
        split at hline
        · obtain ⟨rfl, -⟩ : t = w.env.timer.head ∧ ok = w.env.remoteWakeup.head := by
            simpa using hline
          exact monotone_get h.ahead (Nat.zero_le _)
        · simp at hline
      · obtain ⟨report, ok', hreport⟩ := hes _ hreport
        cases hreport

/-- A request of this suspend was refused if the permission is still there, and
it was not made before the clock showed 20 ms. -/
theorem WakeBooks.refused (h : WakeBooks w) (hmay : w.usb.mayWake) {t : Int} {ok : Bool}
    (hsince : Since (fun x => ¬x.BusChange) (· = .remoteWakeup t ok) w.out) :
    ok = false ∧ 20000 ≤ t := by
  have hpermitted : Permitted w.out := by
    rw [← enabled_iff_permitted, ← h.statics]
    exact hmay.2
  obtain ⟨p, e, q, hout, rfl, hq⟩ := hsince
  refine ⟨?_, (h.asked p _ q hout t ok rfl).2.2⟩
  cases ok with
  | false => rfl
  | true =>
    -- a wakeup that succeeded needs a new suspend to permit the next
    rw [hout] at hpermitted
    have hafter := (since_after (fun hk => hk.2 ⟨t, rfl⟩) (fun hp => by cases hp.choose_spec)).mp
      hpermitted
    obtain ⟨e, he, ready, rfl⟩ := hafter.exists_mem
    exact absurd trivial (hq _ he)

/-- **What an entry does to the rate limit.** -/
theorem rateLimited_exec (hb : WakeBooks w) (hclock : Clock w) (hlimited : RateLimited w.out)
    (cfg : Config) (op : UsbOp) :
    RateLimited (exec cfg w op).out ↔ WaitsAfterRefusal w op := by
  obtain ⟨⟨es, hout, hes⟩, -⟩ := exec_lines cfg w op
  have hcalled : Always Spaced (w.out ++ [.called op w.usb.usbReady]) :=
    always_snoc.mpr ⟨hlimited, by nofun⟩
  have hlines : RateLimited (exec cfg w op).out ↔ Always Spaced (w.out ++ wakeLines w op) := by
    rw [RateLimited, hout]
    exact ⟨Always.of_append, fun h => h.quiet hes.spaced⟩
  rw [hlines]
  by_cases hasks : asks w op
  · rw [append_wakeLines hasks, always_snoc]
    obtain ⟨r, rfl, hready, hmay, -⟩ := asks_handle hasks
    have hskip : ∀ t ok, Since (fun x => ¬x.BusChange) (· = .remoteWakeup t ok)
          (w.out ++ [.called (.handle r) w.usb.usbReady]) ↔
        Since (fun x => ¬x.BusChange) (· = .remoteWakeup t ok) w.out := fun t ok =>
      since_append (List.forall_mem_singleton.mpr ⟨id, by nofun⟩)
    constructor
    · intro h _ _ t hsince
      exact h.2 _ _ t false rfl ((hskip t false).mpr hsince)
    · intro h
      refine ⟨hcalled, fun now ok t ok' hnow hsince => ?_⟩
      cases hnow
      have hsince' := (hskip t ok').mp hsince
      obtain ⟨rfl, -⟩ := hb.refused hmay hsince'
      exact h hready hmay t hsince'
  · rw [wakeLines_silent hasks]
    refine iff_of_true hcalled ?_
    cases op with
    | handle r =>
      intro hready hmay t hsince
      -- the clock shows less than 20 ms, so there was no request in this suspend
      have hzero := hb.limiter_zero hmay
      have hearly : w.env.timer.head < 20000 := by
        by_contra hlate
        exact hasks ⟨hready, hmay, by omega⟩
      obtain ⟨-, hfirst⟩ := hb.refused hmay hsince
      obtain ⟨e, he, rfl⟩ := hsince.exists_mem
      have hpast : t ≤ w.env.timer.head := hclock.past t false he 0
      omega
    | poll | onSuspend | onResume | event => trivial

/-- **When wakeup requests are rate limited**: in every run from start-up under
a clock that does not go back, any two requests of one suspend are 20 ms apart,
in every state of the run, if and only if no report handler is called less than
20 ms after a refused request of the same suspend while a wakeup may still be
requested. -/
theorem wakeups_rateLimited_iff (cfg : Config) (app : AppState) (env : Answers)
    (hclock : ∀ n, env.timer.get n ≤ env.timer.get (n + 1)) (ops : List UsbOp) :
    (∀ pre, pre <+: ops → RateLimited (runSteps (exec cfg) (bootWorld app env) pre).out) ↔
      AllSteps (exec cfg) WaitsAfterRefusal (bootWorld app env) ops := by
  have hstart : WakeBooks (bootWorld app env) ∧ Clock (bootWorld app env) :=
    ⟨wakeBooks_boot app env, hclock, fun _ _ hmem => absurd hmem List.not_mem_nil⟩
  refine prefixes_iff_allSteps (I := fun w => WakeBooks w ∧ Clock w)
    (G := fun w => RateLimited w.out) (A := fun _ _ => True) (fun w op h _ => ?_)
    (fun w op h _ hlimited => ?_) hstart (allSteps_of_mem (fun _ _ => trivial) _) always_nil
  · exact ⟨h.1.exec cfg op, h.2.exec cfg op⟩
  · exact rateLimited_exec h.1 h.2 hlimited cfg op

/-- A controller that refuses every wakeup. -/
def refusing (timer : Stream' Int) : Answers where
  hidReady := Stream'.const false
  hidReport := Stream'.const false
  remoteWakeup := Stream'.const false
  timer := timer

/-- An attached device, suspended with permission, and two reports. -/
def twoReports : List UsbOp :=
  [.event .attached, .onSuspend true, .handle (keyReport 4), .handle (keyReport 0)]

/-- Two reports that are 20 ms apart. -/
theorem wakeups_rateLimited_spaced :
    let env := refusing (Stream'.cons 20000 (Stream'.const 40000))
    let out := (runSteps (exec Config.shipped) (bootWorld (appStateInit 0) env) twoReports).out
    RateLimited out ∧ .remoteWakeup 20000 false ∈ out ∧ .remoteWakeup 40000 false ∈ out := by
  intro env out
  have hclock : ∀ n, env.timer.get n ≤ env.timer.get (n + 1) := by
    intro n
    cases n with
    | zero => exact (by decide : (20000 : Int) ≤ 40000)
    | succ n => exact le_rfl
  have hout : out = [.called (.event .attached) false, .called (.onSuspend true) true,
      .called (.handle (keyReport 4)) true, .remoteWakeup 20000 false,
      .called (.handle (keyReport 0)) true, .remoteWakeup 40000 false] := rfl
  refine ⟨?_, by rw [hout]; simp, by rw [hout]; simp⟩
  refine (wakeups_rateLimited_iff Config.shipped (appStateInit 0) env hclock twoReports).mpr
    ⟨trivial, trivial, ?_, ?_, trivial⟩ twoReports List.prefix_rfl
  · intro _ _ t hsince
    obtain ⟨e, he, rfl⟩ := hsince.exists_mem
    have hnone : UsbEvent.remoteWakeup t false
        ∈ [UsbEvent.called (.event .attached) false, .called (.onSuspend true) true] := he
    simp at hnone
  · intro _ _ t hsince
    obtain ⟨e, he, rfl⟩ := hsince.exists_mem
    have hone : UsbEvent.remoteWakeup t false
        ∈ [UsbEvent.called (.event .attached) false, .called (.onSuspend true) true,
          .called (.handle (keyReport 4)) true, .remoteWakeup 20000 false] := he
    obtain rfl : t = 20000 := by simpa using hone
    exact (by decide : (20000 : Int) ≤ 40000 - 20000)

/-- **Refused requests are not limited.** The controller refuses the wakeup for
a key press, and is asked again at once for the release. -/
theorem wakeups_not_rateLimited :
    ¬RateLimited (runSteps (exec Config.shipped)
      (bootWorld (appStateInit 0) (refusing (Stream'.const 20000))) twoReports).out := by
  intro h
  have hout : (runSteps (exec Config.shipped)
        (bootWorld (appStateInit 0) (refusing (Stream'.const 20000))) twoReports).out
      = [.called (.event .attached) false, .called (.onSuspend true) true,
          .called (.handle (keyReport 4)) true, .remoteWakeup 20000 false,
          .called (.handle (keyReport 0)) true] ++ .remoteWakeup 20000 false :: [] := rfl
  have hspaced := h _ _ _ hout 20000 false 20000 false rfl
    ⟨[.called (.event .attached) false, .called (.onSuspend true) true,
        .called (.handle (keyReport 4)) true], _, [.called (.handle (keyReport 0)) true], rfl, rfl,
      List.forall_mem_singleton.mpr id⟩
  exact absurd hspaced (by decide)

end CaptureKVMBridge.Usb
