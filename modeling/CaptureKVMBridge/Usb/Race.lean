import Mathlib.Data.Fintype.Basic
import CaptureKVMBridge.Machine.Mailbox
import CaptureKVMBridge.Usb.Ledger

/-!
# The pending slots under interleaving

The transports call the report handlers from tasks of their own, and
`core_service_task` polls from another one. Nothing in `usb_hs_device.c` is locked,
so between any two accesses to a slot any of the others may run. Here each task is
where it is in its function, and a step is one access to a flag, one assignment of
a report, or one call.

`raceExec_step` says once what a step can do. For the slot of a kind that is a step of
a mailbox, with the handlers as its writers and the poll as its reader
(`RaceStep.mailbox`), so under every schedule the poll takes what was parked in the
order of parking (`race_orderly`).

Mirroring notes:
- The tasks see each other's accesses in one order. `*report` is copied in one step,
  and so is a pending report where the poll reads it.
- `request_remote_wakeup_if_needed`, `update_hid_activity`, and what TinyUSB calls
  are one step each: they do not touch the slots.
- A task that calls has returned from its last call, and there is one that polls.
- `stored` and `accepted` are bookkeeping, as is the number in `PollPc.hidReport`.
-/

namespace CaptureKVMBridge.Usb

open CaptureKVMBridge.Machine CaptureKVMBridge.Tlv

variable {ι : Type} {cfg : Config} {k : ReportKind}

/-! ## The slots, field by field -/

/-- `s_pending_keyboard_report` and so on. -/
def UsbHs.pendingReport (u : UsbHs) : ReportKind → Bool
  | .keyboard => u.pendingKeyboardReport
  | .mouse => u.pendingMouseReport
  | .mouseAbs => u.pendingMouseAbsReport

/-- `s_pending_keyboard` and so on. -/
def UsbHs.pending (u : UsbHs) : ReportKind → UsbReport
  | .keyboard => .keyboard u.pendingKeyboard
  | .mouse => .mouse u.pendingMouse
  | .mouseAbs => .mouseAbs u.pendingMouseAbs

/-- `s_pending_keyboard = *report;` and so on. -/
def UsbReport.setPending : UsbReport → UsbHs → UsbHs
  | .keyboard report, u => { u with pendingKeyboard := report }
  | .mouse report, u => { u with pendingMouse := report }
  | .mouseAbs report, u => { u with pendingMouseAbs := report }

/-- `s_pending_keyboard_report = value;` and so on. -/
def UsbHs.setPendingReport (u : UsbHs) (k : ReportKind) (value : Bool) : UsbHs :=
  match k with
  | .keyboard => { u with pendingKeyboardReport := value }
  | .mouse => { u with pendingMouseReport := value }
  | .mouseAbs => { u with pendingMouseAbsReport := value }

theorem pending_kind (u : UsbHs) (k : ReportKind) : (u.pending k).kind = k := by
  cases k <;> rfl

@[simp] theorem setPending_pendingReport (r : UsbReport) (u : UsbHs) (k : ReportKind) :
    (r.setPending u).pendingReport k = u.pendingReport k := by
  cases r <;> cases k <;> rfl

@[simp] theorem setPending_self (r : UsbReport) (u : UsbHs) :
    (r.setPending u).pending r.kind = r := by
  cases r <;> rfl

theorem setPending_other {r : UsbReport} (h : r.kind ≠ k) (u : UsbHs) :
    (r.setPending u).pending k = u.pending k := by
  cases r <;> cases k <;> first | rfl | exact absurd rfl h

@[simp] theorem setPendingReport_pending (u : UsbHs) (j : ReportKind) (value : Bool)
    (k : ReportKind) : (u.setPendingReport j value).pending k = u.pending k := by
  cases j <;> cases k <;> rfl

@[simp] theorem setPendingReport_self (u : UsbHs) (k : ReportKind) (value : Bool) :
    (u.setPendingReport k value).pendingReport k = value := by
  cases k <;> rfl

theorem setPendingReport_other {j : ReportKind} (h : j ≠ k) (u : UsbHs) (value : Bool) :
    (u.setPendingReport j value).pendingReport k = u.pendingReport k := by
  cases j <;> cases k <;> first | rfl | exact absurd rfl h

/-- A report is parked by the two assignments. -/
theorem park_eq (r : UsbReport) (u : UsbHs) :
    r.park u = (r.setPending u).setPendingReport r.kind true := by
  cases r <;> rfl

/-! ## The machine -/

/-- Where a task is in `usb_hs_handle_*`: before the access or the call named. -/
inductive HandlePc where
  | idle
  /-- `if (!s_usb_ready || ..)` -/
  | usbReady (r : UsbReport)
  /-- `request_remote_wakeup_if_needed()` -/
  | remoteWakeup (r : UsbReport)
  /-- `tud_hid_ready()` -/
  | hidReady (r : UsbReport)
  /-- `tud_hid_report(..)` -/
  | hidReport (r : UsbReport)
  /-- `update_hid_activity(..)` -/
  | hidActivity (r : UsbReport)
  /-- `s_pending_* = *report` -/
  | pending (r : UsbReport)
  /-- `s_pending_*_report = true` -/
  | pendingReport (r : UsbReport)
  deriving DecidableEq, Repr

/-- Where the poll is. -/
inductive PollPc where
  | idle
  /-- `if (!s_usb_ready)` -/
  | usbReady
  /-- `while (progress && tud_hid_ready())` -/
  | loop
  /-- `if (s_pending_*_report && ..)` -/
  | pendingReport (k : ReportKind)
  /-- `tud_hid_ready()` -/
  | hidReady (k : ReportKind)
  /-- the report is read from `s_pending_*` -/
  | pending (k : ReportKind)
  /-- `tud_hid_report(..)` with the `n`-th report parked in its slot -/
  | hidReport (r : UsbReport) (n : Nat)
  /-- `update_hid_activity(..)` -/
  | hidActivity (k : ReportKind)
  /-- `s_pending_*_report = false` -/
  | clear (k : ReportKind)
  deriving DecidableEq, Repr

/-- A report that `tud_hid_report` took: from its handler, or from the poll as the
`n`-th parked in its slot. -/
inductive Acceptance where
  | handler (r : UsbReport)
  | poll (r : UsbReport) (n : Nat)
  deriving DecidableEq, Repr

structure RaceWorld (ι : Type) where
  usb : UsbWorld
  handler : ι → HandlePc
  poll : PollPc
  /-- the reports that were assigned to a slot, oldest first -/
  stored : List UsbReport
  accepted : List Acceptance

def RaceWorld.setHandler [DecidableEq ι] (w : RaceWorld ι) (i : ι) (pc : HandlePc) :
    RaceWorld ι :=
  { w with handler := Function.update w.handler i pc }

@[simp] theorem setHandler_handler [DecidableEq ι] (w : RaceWorld ι) (i : ι) (pc : HandlePc) :
    (w.setHandler i pc).handler i = pc := Function.update_self ..

theorem setHandler_handler_ne [DecidableEq ι] (w : RaceWorld ι) {i j : ι} (hj : j ≠ i)
    (pc : HandlePc) : (w.setHandler i pc).handler j = w.handler j := Function.update_of_ne hj ..

/-- The reports of a kind that were parked. -/
def RaceWorld.storedOf (w : RaceWorld ι) (k : ReportKind) : List UsbReport :=
  w.stored.filter fun r => r.kind = k

/-- `tud_hid_ready()` by a task. -/
def RaceWorld.hidReady (w : RaceWorld ι) : RaceWorld ι × Bool :=
  let r := tudHidReady w.usb
  ({ w with usb := r.1 }, r.2)

/-- `tud_hid_report(..)` by a task. -/
def RaceWorld.hidReport (cfg : Config) (r : UsbReport) (w : RaceWorld ι) : RaceWorld ι × Bool :=
  let t := tudHidReport (r.toHid cfg) w.usb
  ({ w with usb := t.1 }, t.2)

/-- `update_hid_activity` as the three kinds call it. -/
def hidActivity (k : ReportKind) : UsbWorld → UsbWorld :=
  updateHidActivity (k == .keyboard) (k != .keyboard)

/-- The next step of a task in `usb_hs_handle_*`. -/
def handleStep [DecidableEq ι] (cfg : Config) (i : ι) (w : RaceWorld ι) : RaceWorld ι :=
  match w.handler i with
  | .idle => w
  | .usbReady r =>
    -- the call is logged where it is decided, as `exec` logs it
    { w.setHandler i (if w.usb.usb.usbReady then .remoteWakeup r else .idle) with
      usb := { w.usb with out := w.usb.out ++ [.called (.handle r) w.usb.usb.usbReady] } }
  | .remoteWakeup r =>
    { w.setHandler i (.hidReady r) with usb := requestRemoteWakeupIfNeeded w.usb }
  | .hidReady r =>
    let t := w.hidReady
    t.1.setHandler i (if t.2 then .hidReport r else .pending r)
  | .hidReport r =>
    let t := w.hidReport cfg r
    if t.2 then
      { t.1.setHandler i (.hidActivity r) with accepted := w.accepted ++ [.handler r] }
    -- refused: it is parked, as where the endpoint is busy
    else t.1.setHandler i (.pending r)
  | .hidActivity r => { w.setHandler i .idle with usb := hidActivity r.kind w.usb }
  | .pending r =>
    { w.setHandler i (.pendingReport r) with
      usb := { w.usb with usb := r.setPending w.usb.usb }
      stored := w.stored ++ [r] }
  | .pendingReport r =>
    -- between the two assignments the poll may have sent the report
    { w.setHandler i .idle with
      usb := { w.usb with usb := w.usb.usb.setPendingReport r.kind true } }

/-- The poll goes on with the next `if`; behind the last one the loop ends, since
there was no progress. -/
def nextIf : ReportKind → PollPc
  | .keyboard => .pendingReport .mouse
  | .mouse => .pendingReport .mouseAbs
  | .mouseAbs => .idle

/-- The next step of the task in `usb_hs_poll`. -/
def pollStep (cfg : Config) (w : RaceWorld ι) : RaceWorld ι :=
  match w.poll with
  | .idle => w
  | .usbReady =>
    { w with
      usb := { w.usb with out := w.usb.out ++ [.called .poll w.usb.usb.usbReady] }
      poll := if w.usb.usb.usbReady then .loop else .idle }
  | .loop =>
    let t := w.hidReady
    { t.1 with poll := if t.2 then .pendingReport .keyboard else .idle }
  | .pendingReport k =>
    { w with poll := if w.usb.usb.pendingReport k then .hidReady k else nextIf k }
  | .hidReady k =>
    -- `send_*_report_now` asks again, and reads the slot only then
    let t := w.hidReady
    { t.1 with poll := if t.2 then .pending k else nextIf k }
  | .pending k =>
    { w with poll := .hidReport (w.usb.usb.pending k) (w.storedOf k).length }
  | .hidReport r n =>
    let t := w.hidReport cfg r
    if t.2 then
      { t.1 with poll := .hidActivity r.kind, accepted := w.accepted ++ [.poll r n] }
    else { t.1 with poll := nextIf r.kind }
  | .hidActivity k => { w with usb := hidActivity k w.usb, poll := .clear k }
  | .clear k =>
    -- whatever the slot holds by now
    { w with
      usb := { w.usb with usb := w.usb.usb.setPendingReport k false }
      poll := .loop }

/-- A task is called or goes on, or TinyUSB calls. -/
inductive RaceOp (ι : Type) where
  | callHandle (i : ι) (r : UsbReport)
  | handle (i : ι)
  | callPoll
  | poll
  | bus (op : UsbOp) (hbus : ¬op.whileAttached)

def raceExec [DecidableEq ι] (cfg : Config) (w : RaceWorld ι) : RaceOp ι → RaceWorld ι
  | .callHandle i r => if w.handler i = .idle then w.setHandler i (.usbReady r) else w
  | .handle i => handleStep cfg i w
  | .callPoll => if w.poll = .idle then { w with poll := .usbReady } else w
  | .poll => pollStep cfg w
  | .bus op _ => { w with usb := exec cfg w.usb op }

/-- At start-up, with every task outside. -/
def raceBoot (app : AppState) (env : Answers) : RaceWorld ι where
  usb := bootWorld app env
  handler := fun _ => .idle
  poll := .idle
  stored := []
  accepted := []

/-! ## What a step can do -/

/-- What a handler is still to send or to park. -/
def HandlePc.inHand : HandlePc → Option UsbReport
  | .remoteWakeup r | .hidReady r | .hidReport r | .pending r => some r
  | .idle | .usbReady _ | .hidActivity _ | .pendingReport _ => none

/-- It is about to raise the flag of a kind. -/
def HandlePc.raises (k : ReportKind) : HandlePc → Bool
  | .pendingReport r => r.kind = k
  | _ => false

/-- The poll as the reader of the slot of a kind. -/
def PollPc.reader (k : ReportKind) : PollPc → Reader
  | .hidReady j | .pending j => if j = k then .looking else .away
  | .hidReport r n => if r.kind = k then .holding n else .away
  | .hidActivity j | .clear j => if j = k then .emptying else .away
  | .idle | .usbReady | .loop | .pendingReport _ => .away

/-- A call that touches no slot, with lines of the log that are about no report. -/
structure SameSlots (cfg : Config) (u u' : UsbWorld) : Prop where
  pendingReport : ∀ k, u'.usb.pendingReport k = u.usb.pendingReport k
  pending : ∀ k, u'.usb.pending k = u.usb.pending k
  out : ∃ es, u'.out = u.out ++ es ∧ ∀ e ∈ es, ∀ k, mark cfg k e = none

/-- The flag that a step raises or lowers. -/
def raceChange (w : RaceWorld ι) : RaceOp ι → Option (ReportKind × FlagChange)
  | .handle i =>
    match w.handler i with
    | .pendingReport r => some (r.kind, .raise)
    | _ => none
  | .poll =>
    match w.poll with
    | .clear k => some (k, .lower)
    | _ => none
  | .callHandle _ _ | .callPoll | .bus _ _ => none

inductive RaceStep [DecidableEq ι] (cfg : Config) (w : RaceWorld ι) :
    Option (ReportKind × FlagChange) → RaceWorld ι → Prop
  /-- TinyUSB calls, or nothing happens -/
  | bus {u : UsbWorld} (h : SameSlots cfg w.usb u) : RaceStep cfg w none { w with usb := u }
  /-- a handler goes on -/
  | move (i : ι) (pc : HandlePc) {u : UsbWorld} (h : SameSlots cfg w.usb u)
      (hhand : pc.inHand = (w.handler i).inHand)
      (hraises : ∀ k, pc.raises k = (w.handler i).raises k) :
      RaceStep cfg w none { w.setHandler i pc with usb := u }
  /-- a handler takes the report that it was given -/
  | submit (i : ι) (r : UsbReport) (h : w.handler i = .usbReady r) :
      RaceStep cfg w none
        { w.setHandler i (.remoteWakeup r) with
          usb := { w.usb with out := w.usb.out ++ [.called (.handle r) true] } }
  /-- a handler sends it -/
  | direct (i : ι) (r : UsbReport) {u : UsbWorld} (h : w.handler i = .hidReport r)
      (husb : u.usb = w.usb.usb) (hout : u.out = w.usb.out ++ [.hidReport (r.toHid cfg) true]) :
      RaceStep cfg w none
        { w.setHandler i (.hidActivity r) with
          usb := u
          accepted := w.accepted ++ [.handler r] }
  | store (i : ι) (r : UsbReport) (h : w.handler i = .pending r) :
      RaceStep cfg w none
        { w.setHandler i (.pendingReport r) with
          usb := { w.usb with usb := r.setPending w.usb.usb }
          stored := w.stored ++ [r] }
  | raise (i : ι) (r : UsbReport) (h : w.handler i = .pendingReport r) :
      RaceStep cfg w (some (r.kind, .raise))
        { w.setHandler i .idle with
          usb := { w.usb with usb := w.usb.usb.setPendingReport r.kind true } }
  /-- the poll goes on, and away from the slot that it was at -/
  | pollMove (pc : PollPc) {u : UsbWorld} (h : SameSlots cfg w.usb u)
      (hreader : ∀ k, pc.reader k = w.poll.reader k ∨
        pc.reader k = .away ∧ w.poll.reader k ≠ .emptying)
      (hheld : ∀ r n, pc ≠ .hidReport r n) :
      RaceStep cfg w none { w with usb := u, poll := pc }
  | look (k : ReportKind) (h : w.poll = .pendingReport k)
      (hflag : w.usb.usb.pendingReport k = true) :
      RaceStep cfg w none { w with poll := .hidReady k }
  | read (k : ReportKind) (h : w.poll = .pending k) :
      RaceStep cfg w none
        { w with poll := .hidReport (w.usb.usb.pending k) (w.storedOf k).length }
  | take (r : UsbReport) (n : Nat) {u : UsbWorld} (h : w.poll = .hidReport r n)
      (husb : u.usb = w.usb.usb) (hout : u.out = w.usb.out ++ [.hidReport (r.toHid cfg) true]) :
      RaceStep cfg w none
        { w with usb := u, poll := .hidActivity r.kind, accepted := w.accepted ++ [.poll r n] }
  | lower (k : ReportKind) (h : w.poll = .clear k) :
      RaceStep cfg w (some (k, .lower))
        { w with
          usb := { w.usb with usb := w.usb.usb.setPendingReport k false }
          poll := .loop }

section Calls

variable {u : UsbWorld}

theorem SameSlots.of_usb {u' : UsbWorld} (h : u'.usb = u.usb)
    (hout : ∃ es, u'.out = u.out ++ es ∧ ∀ e ∈ es, ∀ k, mark cfg k e = none) :
    SameSlots cfg u u' := by
  refine ⟨fun k => ?_, fun k => ?_, hout⟩
  · rw [h]
  · rw [h]

theorem SameSlots.quiet {u' : UsbWorld} (h : u'.usb = u.usb) (hout : u'.out = u.out) :
    SameSlots cfg u u' :=
  .of_usb h ⟨[], by rw [hout, List.append_nil], nofun⟩

/-- A line about an entry that hands nothing in. -/
theorem SameSlots.called (cfg : Config) (u : UsbWorld) (op : UsbOp) (ready : Bool)
    (h : ∀ k, mark cfg k (.called op ready) = none) :
    SameSlots cfg u { u with out := u.out ++ [.called op ready] } :=
  .of_usb rfl ⟨_, rfl, fun e he => by rw [List.mem_singleton.mp he]; exact h⟩

/-- A report that is refused. -/
theorem SameSlots.refused (r : HidReport) (h : u.env.hidReport.head = false) :
    SameSlots cfg u (tudHidReport r u).1 := by
  refine .of_usb rfl ⟨_, rfl, fun e he => ?_⟩
  rw [List.mem_singleton.mp he, h]
  exact fun _ => rfl

/-- The wakeup statics are not the slots. -/
theorem SameSlots.remoteWakeup (cfg : Config) (u : UsbWorld) :
    SameSlots cfg u (requestRemoteWakeupIfNeeded u) := by
  obtain ⟨⟨es, hout, hes⟩, -⟩ := requestRemoteWakeup_spec u
  have hsilent : ∀ e ∈ es, ∀ k, mark cfg k e = none := by
    intro e he
    obtain ⟨now, ok, rfl⟩ := hes e he
    exact fun _ => rfl
  -- the permission may end, and the time of the request change; the slots are not touched
  have hslots : ∀ k, (requestRemoteWakeupIfNeeded u).usb.pendingReport k = u.usb.pendingReport k ∧
      (requestRemoteWakeupIfNeeded u).usb.pending k = u.usb.pending k := by
    intro k
    unfold requestRemoteWakeupIfNeeded
    dsimp only
    split
    · exact ⟨rfl, rfl⟩
    · split
      · exact ⟨rfl, rfl⟩
      · split
        · cases k <;> exact ⟨rfl, rfl⟩
        · exact ⟨rfl, rfl⟩
  exact ⟨fun k => (hslots k).1, fun k => (hslots k).2, es, hout, hsilent⟩

/-- TinyUSB calls. -/
theorem SameSlots.bus (cfg : Config) (u : UsbWorld) {op : UsbOp} (h : ¬op.whileAttached) :
    SameSlots cfg u (exec cfg u op) := by
  have hout : ∀ ready, ∀ e ∈ [UsbEvent.called op ready], ∀ k, mark cfg k e = none := by
    intro ready e he k
    rw [List.mem_singleton.mp he]
    cases op with
    | handle | poll => exact absurd trivial h
    | onSuspend | onResume | event => rfl
  cases op with
  | handle | poll => exact absurd trivial h
  | onSuspend | onResume =>
    refine ⟨fun k => ?_, fun k => ?_, _, rfl, hout _⟩
    · cases k <;> rfl
    · cases k <;> rfl
  | event id =>
    cases id with
    | attached | detached =>
      refine ⟨fun k => ?_, fun k => ?_, _, rfl, hout _⟩
      · cases k <;> rfl
      · cases k <;> rfl
    | other => exact .of_usb rfl ⟨_, rfl, hout _⟩

end Calls

section Steps

variable [DecidableEq ι]

theorem RaceStep.refl (cfg : Config) (w : RaceWorld ι) : RaceStep cfg w none w :=
  .bus (SameSlots.quiet rfl rfl)

/-- A handler goes on without a line in the log. -/
theorem RaceStep.moveQuiet {w : RaceWorld ι} (i : ι) (pc : HandlePc) {u : UsbWorld}
    (husb : u.usb = w.usb.usb) (hout : u.out = w.usb.out) (hhand : pc.inHand = (w.handler i).inHand)
    (hraises : ∀ k, pc.raises k = (w.handler i).raises k) :
    RaceStep cfg w none { w.setHandler i pc with usb := u } :=
  .move i pc (.quiet husb hout) hhand hraises

/-- The poll leaves the slot of a kind, which it has not drained. -/
theorem reader_nextIf (j k : ReportKind) : (nextIf j).reader k = .away := by
  cases j <;> rfl

theorem nextIf_ne (j : ReportKind) (r : UsbReport) (n : Nat) : nextIf j ≠ .hidReport r n := by
  cases j <;> nofun

theorem handleStep_step (cfg : Config) (i : ι) (w : RaceWorld ι) :
    RaceStep cfg w (raceChange w (.handle i)) (handleStep cfg i w) := by
  unfold handleStep raceChange
  dsimp only
  cases hpc : w.handler i with
  | idle => exact .refl cfg w
  | usbReady r =>
    dsimp only
    cases hready : w.usb.usb.usbReady with
    | true => exact .submit i r hpc
    | false =>
      refine .move i .idle ?_ ?_ ?_
      · exact .called cfg w.usb (.handle r) false fun _ => rfl
      · rw [hpc]
        rfl
      · rw [hpc]
        exact fun _ => rfl
  | remoteWakeup r =>
    refine .move i _ (.remoteWakeup cfg w.usb) ?_ ?_
    · rw [hpc]
      rfl
    · rw [hpc]
      exact fun _ => rfl
  | hidReady r =>
    refine .moveQuiet i (if w.usb.env.hidReady.head then .hidReport r else .pending r) rfl rfl ?_ ?_
    · rw [hpc]
      split <;> rfl
    · rw [hpc]
      split <;> exact fun _ => rfl
  | hidReport r =>
    dsimp only
    split
    next hok =>
      have hhead : w.usb.env.hidReport.head = true := hok
      refine .direct i r hpc rfl ?_
      rw [← hhead]
      rfl
    next hok =>
      refine .move i (.pending r) (.refused _ (Bool.eq_false_of_not_eq_true hok)) ?_ ?_
      · rw [hpc]
        rfl
      · rw [hpc]
        exact fun _ => rfl
  | hidActivity r =>
    refine .moveQuiet i _ rfl rfl ?_ ?_
    · rw [hpc]
      rfl
    · rw [hpc]
      exact fun _ => rfl
  | pending r => exact .store i r hpc
  | pendingReport r => exact .raise i r hpc

theorem pollStep_step (cfg : Config) (w : RaceWorld ι) :
    RaceStep cfg w (raceChange w .poll) (pollStep cfg w) := by
  unfold pollStep raceChange
  dsimp only
  cases hpc : w.poll with
  | idle => exact .refl cfg w
  | usbReady =>
    refine .pollMove _ (.called cfg w.usb .poll _ fun _ => rfl) (fun k => Or.inl ?_) ?_
    · rw [hpc]
      split <;> rfl
    · split <;> nofun
  | loop =>
    refine .pollMove _ (.quiet rfl rfl) (fun k => Or.inl ?_) ?_
    · rw [hpc]
      split <;> rfl
    · split <;> nofun
  | pendingReport j =>
    dsimp only
    cases hflag : w.usb.usb.pendingReport j with
    | true => exact .look j hpc hflag
    | false =>
      refine .pollMove (nextIf j) (.quiet rfl rfl) (fun k => Or.inl ?_) (nextIf_ne j)
      rw [hpc, reader_nextIf]
      rfl
  -- it looked at the slot of `j`, and reads it or leaves it
  | hidReady j =>
    refine .pollMove _ (.quiet rfl rfl) (fun k => ?_) ?_
    · rw [hpc]
      split
      · exact Or.inl rfl
      · refine Or.inr ⟨reader_nextIf j k, ?_⟩
        show (if j = k then Reader.looking else .away) ≠ .emptying
        split <;> nofun
    · split
      · nofun
      · exact nextIf_ne j
  | pending j => exact .read j hpc
  | hidReport r n =>
    dsimp only
    split
    next hok =>
      have hhead : w.usb.env.hidReport.head = true := hok
      refine .take r n hpc rfl ?_
      rw [← hhead]
      rfl
    next hok =>
      refine .pollMove (nextIf r.kind) (.refused _ (Bool.eq_false_of_not_eq_true hok))
        (fun k => Or.inr ?_) (nextIf_ne r.kind)
      rw [hpc]
      refine ⟨reader_nextIf _ k, ?_⟩
      show (if r.kind = k then Reader.holding n else .away) ≠ .emptying
      split <;> nofun
  | hidActivity j =>
    refine .pollMove _ (.quiet rfl rfl) (fun k => Or.inl ?_) nofun
    rw [hpc]
    rfl
  | clear j => exact .lower j hpc

/-- **What a step can do.** -/
theorem raceExec_step (cfg : Config) (w : RaceWorld ι) (op : RaceOp ι) :
    RaceStep cfg w (raceChange w op) (raceExec cfg w op) := by
  cases op with
  | callHandle i r =>
    show RaceStep cfg w none (if _ then _ else _)
    split
    next hidle =>
      refine .moveQuiet i (.usbReady r) rfl rfl ?_ ?_
      · rw [hidle]
        rfl
      · rw [hidle]
        exact fun _ => rfl
    next => exact .refl cfg w
  | handle i => exact handleStep_step cfg i w
  | callPoll =>
    show RaceStep cfg w none (if _ then _ else _)
    split
    next hidle =>
      refine .pollMove .usbReady (.quiet rfl rfl) (fun k => Or.inl ?_) nofun
      rw [hidle]
      rfl
    next => exact .refl cfg w
  | poll => exact pollStep_step cfg w
  | bus op hbus => exact .bus (.bus cfg w.usb hbus)

end Steps

/-! ## The slots as mailboxes -/

/-- The numbers of the parked reports of a kind that the poll sent. -/
def RaceWorld.takenOf (w : RaceWorld ι) (k : ReportKind) : List Nat :=
  w.accepted.filterMap fun
    | .handler _ => none
    | .poll r n => if r.kind = k then some n else none

/-- The slot of a kind, with the handlers as its writers and the poll as its reader. -/
def RaceWorld.mailbox [Fintype ι] (w : RaceWorld ι) (k : ReportKind) : Mailbox ι where
  stored := (w.storedOf k).length
  flag := w.usb.usb.pendingReport k
  raising := Finset.univ.filter fun i => (w.handler i).raises k = true
  reader := w.poll.reader k
  taken := w.takenOf k

/-- What a step does to the flag of a kind. -/
def changeOf (k : ReportKind) (c : Option (ReportKind × FlagChange)) : Option FlagChange :=
  c.bind fun c => if c.1 = k then some c.2 else none

section Mailboxes

variable {w w' : RaceWorld ι} {i : ι} {pc : HandlePc} {c : Option (ReportKind × FlagChange)}

theorem storedOf_append (w : RaceWorld ι) (r : UsbReport) (k : ReportKind) :
    RaceWorld.storedOf { w with stored := w.stored ++ [r] } k
      = w.storedOf k ++ if r.kind = k then [r] else [] := by
  rw [RaceWorld.storedOf, List.filter_append, List.filter_singleton]
  by_cases hk : r.kind = k
  · simp [RaceWorld.storedOf, hk]
  · simp [RaceWorld.storedOf, hk]

theorem takenOf_append (w : RaceWorld ι) (a : Acceptance) (k : ReportKind) :
    RaceWorld.takenOf { w with accepted := w.accepted ++ [a] } k
      = w.takenOf k ++ RaceWorld.takenOf { w with accepted := [a] } k := List.filterMap_append

theorem mem_raising [Fintype ι] : i ∈ (w.mailbox k).raising ↔ (w.handler i).raises k = true := by
  rw [RaceWorld.mailbox, Finset.mem_filter]
  exact and_iff_right (Finset.mem_univ i)

theorem raising_same [Fintype ι] (h : ∀ i, (w'.handler i).raises k = (w.handler i).raises k) :
    (w'.mailbox k).raising = (w.mailbox k).raising := by
  ext i
  rw [mem_raising, mem_raising, h]

/-- With every handler outside nobody is about to raise a flag. -/
theorem raising_idle [Fintype ι] (h : ∀ i, w.handler i = .idle) (k : ReportKind) :
    (w.mailbox k).raising = ∅ := by
  refine Finset.eq_empty_of_forall_notMem fun i hi => ?_
  rw [mem_raising, h i] at hi
  cases hi

theorem reader_idle [Fintype ι] (h : w.poll = .idle) (k : ReportKind) :
    (w.mailbox k).reader = .away := congrArg (PollPc.reader k) h

variable [DecidableEq ι]

theorem raises_setHandler (h : pc.raises k = (w.handler i).raises k) (j : ι) :
    ((w.setHandler i pc).handler j).raises k = (w.handler j).raises k := by
  by_cases hj : j = i
  · subst hj
    rw [setHandler_handler, h]
  · rw [setHandler_handler_ne w hj]

variable [Fintype ι]

theorem raising_insert (h : pc.raises k = true) :
    ((w.setHandler i pc).mailbox k).raising = insert i (w.mailbox k).raising := by
  ext j
  rw [Finset.mem_insert, mem_raising, mem_raising]
  by_cases hj : j = i
  · subst hj
    rw [setHandler_handler]
    exact iff_of_true h (Or.inl rfl)
  · rw [setHandler_handler_ne w hj, or_iff_right hj]

theorem raising_erase (h : pc.raises k = false) :
    ((w.setHandler i pc).mailbox k).raising = (w.mailbox k).raising.erase i := by
  ext j
  rw [Finset.mem_erase, mem_raising, mem_raising]
  by_cases hj : j = i
  · subst hj
    rw [setHandler_handler, h]
    exact iff_of_false Bool.false_ne_true fun hne => hne.1 rfl
  · rw [setHandler_handler_ne w hj, and_iff_right hj]

/-- **A step of the tasks is a step of the mailbox of each kind.** -/
theorem RaceStep.mailbox (h : RaceStep cfg w c w') (k : ReportKind) :
    (w.mailbox k).Step (changeOf k c) (w'.mailbox k) := by
  cases h with
  | bus hs => exact Mailbox.Step.quiet.to_eq (Mailbox.ext rfl (hs.pendingReport k) rfl rfl rfl)
  | move i pc hs hhand hraises =>
    refine Mailbox.Step.quiet.to_eq (Mailbox.ext rfl (hs.pendingReport k) ?_ rfl rfl)
    exact raising_same (raises_setHandler (hraises k))
  | submit i r hpc =>
    refine Mailbox.Step.quiet.to_eq
      (Mailbox.ext rfl rfl (raising_same (raises_setHandler ?_)) rfl rfl)
    rw [hpc]
    rfl
  | direct i r hpc husb hout =>
    refine Mailbox.Step.quiet.to_eq
      (Mailbox.ext rfl ?_ (raising_same (raises_setHandler ?_)) rfl ?_)
    · exact congrArg (UsbHs.pendingReport · k) husb
    · rw [hpc]
      rfl
    · exact (takenOf_append w (.handler r) k).trans (List.append_nil _)
  | store i r hpc =>
    have hstored := storedOf_append w r k
    have hflag := setPending_pendingReport r w.usb.usb k
    -- for the other kinds nothing was stored
    by_cases hk : r.kind = k
    · rw [if_pos hk] at hstored
      refine (Mailbox.Step.store i).to_eq (Mailbox.ext ?_ hflag ?_ rfl rfl)
      · exact (congrArg List.length hstored).trans List.length_append
      · exact raising_insert (decide_eq_true hk)
    · rw [if_neg hk, List.append_nil] at hstored
      refine Mailbox.Step.quiet.to_eq
        (Mailbox.ext ?_ hflag (raising_same (raises_setHandler ?_)) rfl rfl)
      · exact congrArg List.length hstored
      · rw [hpc]
        exact decide_eq_false hk
  | raise i r hpc =>
    by_cases hk : r.kind = k
    · subst hk
      have hmem : i ∈ (w.mailbox r.kind).raising := by
        rw [mem_raising, hpc]
        exact decide_eq_true rfl
      have hchange : changeOf r.kind (some (r.kind, .raise)) = some .raise := if_pos rfl
      rw [hchange]
      exact (Mailbox.Step.raise i hmem).to_eq
        (Mailbox.ext rfl (setPendingReport_self ..) (raising_erase rfl) rfl rfl)
    · have hchange : changeOf k (some (r.kind, .raise)) = none := if_neg hk
      rw [hchange]
      refine Mailbox.Step.quiet.to_eq (Mailbox.ext rfl (setPendingReport_other hk ..)
        (raising_same (raises_setHandler ?_)) rfl rfl)
      rw [hpc]
      exact (decide_eq_false hk).symm
  | pollMove pc hs hreader hheld =>
    -- the poll may leave a slot that it has not drained, and touches no other
    rcases hreader k with hstays | ⟨haway, hleaves⟩
    · exact Mailbox.Step.quiet.to_eq (Mailbox.ext rfl (hs.pendingReport k) rfl hstays rfl)
    · exact (Mailbox.Step.leave hleaves).to_eq
        (Mailbox.ext rfl (hs.pendingReport k) rfl haway rfl)
  | look j hpc hflag =>
    have haway : (w.mailbox k).reader = .away := congrArg (PollPc.reader k) hpc
    by_cases hk : j = k
    · subst hk
      exact (Mailbox.Step.look hflag haway).to_eq (Mailbox.ext rfl rfl rfl (if_pos rfl) rfl)
    · exact Mailbox.Step.quiet.to_eq
        (Mailbox.ext rfl rfl rfl ((if_neg hk).trans haway.symm) rfl)
  | read j hpc =>
    have hreader : (w.mailbox k).reader = if j = k then .looking else .away :=
      congrArg (PollPc.reader k) hpc
    have hkind := pending_kind w.usb.usb j
    by_cases hk : j = k
    · subst hk
      exact (Mailbox.Step.read (hreader.trans (if_pos rfl))).to_eq
        (Mailbox.ext rfl rfl rfl (if_pos hkind) rfl)
    · rw [if_neg hk] at hreader
      refine Mailbox.Step.quiet.to_eq
        (Mailbox.ext rfl rfl rfl ((if_neg ?_).trans hreader.symm) rfl)
      rwa [hkind]
  | take r n hpc husb hout =>
    have hreader : (w.mailbox k).reader = if r.kind = k then .holding n else .away :=
      congrArg (PollPc.reader k) hpc
    have hflag := congrArg (UsbHs.pendingReport · k) husb
    have htaken := takenOf_append w (.poll r n) k
    by_cases hk : r.kind = k
    · refine (Mailbox.Step.take n (hreader.trans (if_pos hk))).to_eq
        (Mailbox.ext rfl hflag rfl (if_pos hk) (htaken.trans (congrArg _ ?_)))
      simp [RaceWorld.takenOf, hk]
    · rw [if_neg hk] at hreader
      refine Mailbox.Step.quiet.to_eq
        (Mailbox.ext rfl hflag rfl ((if_neg hk).trans hreader.symm) (htaken.trans ?_))
      simp [RaceWorld.takenOf, RaceWorld.mailbox, hk]
  | lower j hpc =>
    have hreader : (w.mailbox k).reader = if j = k then .emptying else .away :=
      congrArg (PollPc.reader k) hpc
    by_cases hk : j = k
    · subst hk
      have hchange : changeOf j (some (j, .lower)) = some .lower := if_pos rfl
      rw [hchange]
      exact (Mailbox.Step.lower (hreader.trans (if_pos rfl))).to_eq
        (Mailbox.ext rfl (setPendingReport_self ..) rfl rfl rfl)
    · have hchange : changeOf k (some (j, .lower)) = none := if_neg hk
      rw [if_neg hk] at hreader
      rw [hchange]
      exact Mailbox.Step.quiet.to_eq
        (Mailbox.ext rfl (setPendingReport_other hk ..) rfl hreader.symm rfl)

/-- In every run the slots are used in order. -/
theorem race_orderly (cfg : Config) (app : AppState) (env : Answers) (ops : List (RaceOp ι))
    (k : ReportKind) :
    ((runSteps (raceExec cfg) (raceBoot app env) ops).mailbox k).Orderly := by
  -- nothing is stored at start-up, no flag is up and nobody is about to raise one
  have hboot : ((raceBoot (ι := ι) app env).mailbox k).Orderly := by
    refine ⟨nofun, List.Pairwise.nil, ?_, fun h => absurd rfl h, nofun⟩
    rintro (hflag | hraising)
    · cases k <;> cases hflag
    · rw [raising_idle fun _ => rfl] at hraising
      exact absurd hraising Finset.not_nonempty_empty
  exact runSteps_inv (I := fun w : RaceWorld ι => (w.mailbox k).Orderly)
    (fun w op h => ((raceExec_step cfg w op).mailbox k).orderly h) hboot ops

end Mailboxes

end CaptureKVMBridge.Usb
