import CaptureKVMBridge.Machine.Outbox
import CaptureKVMBridge.Machine.Run
import CaptureKVMBridge.Usb.Device

/-!
# The handlers and the poll loop as three outboxes

`usb_hs_device.c` is an outbox for each kind of report: a handler call submits,
a successful `tud_hid_report` sends, the pending slot is the slot. `Books` ties
a kind's slot to the ledger of the ghost log, and `exec_books` says once what
any entry into the module does to the books of any kind. The results about
order, motion and provenance read off the ledger what they need.

The two entries of the ledger that are not innocent are on record there: a
report sent past an occupied slot (`overtaken`), and a parked report overwritten
by a newer one (`lost`).
-/

namespace CaptureKVMBridge.Usb

open CaptureKVMBridge.Machine CaptureKVMBridge.Tlv

variable {cfg : Config} {k : ReportKind} {w : UsbWorld} {L : Ledger HidReport}

/-- What a line of the log means to the outbox of a kind: a handler call while
ready submits the converted report, an accepted report is sent. -/
def mark (cfg : Config) (k : ReportKind) : UsbEvent → Option (Mark HidReport)
  | .called (.handle r) true => if r.kind = k then some (.submit (r.toHid cfg)) else none
  | .hidReport h true => if h.kind = k then some (.sent h) else none
  | _ => none

/-- The ledger of a kind: it tracks the log, its slot is the pending slot, and
nothing is in hand between two entries. -/
structure Books (cfg : Config) (k : ReportKind) (w : UsbWorld) (L : Ledger HidReport) : Prop where
  tracks : Tracks (mark cfg k) w.out L
  slot : L.slot = (w.usb.parked k).map (UsbReport.toHid cfg)
  hand : L.hand = none

/-- The entry submits a report of this kind. -/
def submits (k : ReportKind) (w : UsbWorld) : UsbOp → Bool
  | .handle r => w.usb.usbReady && decide (r.kind = k)
  | _ => false

/-- Log lines that mean nothing to a kind, and a slot left alone. -/
theorem Books.quiet (h : Books cfg k w L) {w' : UsbWorld} {es : List UsbEvent}
    (hout : w'.out = w.out ++ es) (hes : ∀ e ∈ es, mark cfg k e = none)
    (hslot : w'.usb.parked k = w.usb.parked k) : Books cfg k w' L where
  tracks := by
    rw [hout]
    exact h.tracks.silents hes
  slot := by rw [h.slot, hslot]
  hand := h.hand

/-! ## What a line means -/

theorem mark_hidReport_self {r : UsbReport} (hk : r.kind = k) :
    mark cfg k (.hidReport (r.toHid cfg) true) = some (.sent (r.toHid cfg)) := by
  rw [mark, UsbReport.kind_toHid, if_pos hk]

theorem mark_hidReport_other {r : UsbReport} (hk : r.kind ≠ k) (ok : Bool) :
    mark cfg k (.hidReport (r.toHid cfg) ok) = none := by
  cases ok with
  | false => rfl
  | true => rw [mark, UsbReport.kind_toHid, if_neg hk]

/-- Refused reports mean nothing. -/
theorem mark_refused {h : HidReport} {es : List UsbEvent}
    (hes : ∀ e ∈ es, e = .hidReport h false) : ∀ e ∈ es, mark cfg k e = none := by
  intro e he
  rw [hes e he]
  rfl

/-! ## Handlers -/

/-- A handler call while ready, with its line in the log. -/
def handleLogged (cfg : Config) (keyboard mouse : Bool) (r : UsbReport) (w : UsbWorld) : UsbWorld :=
  handleReport (sendReportNow (r.toHid cfg) keyboard mouse) r.park
    { w with out := w.out ++ [.called (.handle r) true] }

section Handlers

variable (keyboard mouse : Bool) (r : UsbReport)

/-- What is logged by a handler call, and what it does to the slots: behind the
wakeup request the report is sent, or it is refused and parked. -/
theorem handleLogged_spec (cfg : Config) (k : ReportKind) (hready : w.usb.usbReady = true) :
    ∃ wakes es,
      (handleLogged cfg keyboard mouse r w).out
        = w.out ++ [.called (.handle r) true] ++ wakes ++ es ∧
      (∀ e ∈ wakes, mark cfg k e = none) ∧
      ((w.sendsNow = true ∧ es = [.hidReport (r.toHid cfg) true] ∧
          (handleLogged cfg keyboard mouse r w).usb.parked = w.usb.parked) ∨
        (w.sendsNow = false ∧ (∀ e ∈ es, e = .hidReport (r.toHid cfg) false) ∧
          ∃ u, u.parked = w.usb.parked ∧
            (handleLogged cfg keyboard mouse r w).usb = r.park u)) := by
  set w₀ : UsbWorld := { w with out := w.out ++ [.called (.handle r) true] }
  obtain ⟨⟨wakes, hwout, hwakes⟩, -⟩ := requestRemoteWakeup_spec w₀
  obtain ⟨es, hout, hcase⟩ :=
    handleReport_spec (r.toHid cfg) keyboard mouse r.park (w := w₀) hready
  refine ⟨wakes, es, hout.trans (by rw [hwout]), fun e he => ?_, ?_⟩
  · obtain ⟨now, ok, rfl⟩ := hwakes e he
    rfl
  · rcases hcase with ⟨hs, hes, hparked, -⟩ | ⟨hs, hes, u, hparked, -, husb⟩
    · exact Or.inl ⟨hs, hes, hparked⟩
    · exact Or.inr ⟨hs, hes, u, hparked, husb⟩

/-- **A handler of the kind** sends past the slot, or overwrites it. -/
theorem handleLogged_self (h : Books cfg k w L) (hready : w.usb.usbReady = true)
    (hk : r.kind = k) :
    ∃ L', Books cfg k (handleLogged cfg keyboard mouse r w) L' ∧
      L'.overtaken = L.overtaken ++ (if w.sendsNow = true then L.slot.toList else []) ∧
      L'.lost = L.lost ++ (if w.sendsNow = false then L.slot.toList else []) := by
  obtain ⟨wakes, es, hout, hwakes, hcase⟩ :=
    handleLogged_spec keyboard mouse r cfg k hready
  -- the report is taken in hand, and the wakeup request does not concern it
  have hsub : mark cfg k (.called (.handle r) true) = some (.submit (r.toHid cfg)) := if_pos hk
  have hin := (h.tracks.submit hsub h.hand).silents hwakes
  rcases hcase with ⟨hs, rfl, hparked⟩ | ⟨hs, hfail, u, hparked, husb⟩
  · refine ⟨_, ⟨hout ▸ hin.direct (mark_hidReport_self hk) rfl, ?_, rfl⟩, ?_, ?_⟩
    · rw [hparked]
      exact h.slot
    · rw [if_pos hs]
    · rw [if_neg (by rw [hs]; simp), List.append_nil]
  · refine ⟨_, ⟨hout ▸ (hin.silents (mark_refused hfail)).park rfl, ?_, rfl⟩, ?_, ?_⟩
    · rw [husb, ← hk, (park_sets r).self]
      rfl
    · rw [if_neg (by rw [hs]; simp), List.append_nil]
    · rw [if_pos hs]

/-- A handler of another kind leaves the books alone. -/
theorem handleLogged_other (h : Books cfg k w L) (hready : w.usb.usbReady = true)
    (hk : r.kind ≠ k) :
    Books cfg k (handleLogged cfg keyboard mouse r w) L := by
  obtain ⟨wakes, es, hout, hwakes, hcase⟩ :=
    handleLogged_spec keyboard mouse r cfg k hready
  have hcalled : mark cfg k (.called (.handle r) true) = none := if_neg hk
  have hes : ∀ e ∈ es, mark cfg k e = none := by
    rcases hcase with ⟨-, rfl, -⟩ | ⟨-, hfail, -⟩
    · exact List.forall_mem_singleton.mpr (mark_hidReport_other hk true)
    · exact mark_refused hfail
  rw [List.append_assoc, List.append_assoc] at hout
  refine h.quiet hout (List.forall_mem_append.mpr
    ⟨List.forall_mem_singleton.mpr hcalled, List.forall_mem_append.mpr ⟨hwakes, hes⟩⟩) ?_
  rcases hcase with ⟨-, -, hparked⟩ | ⟨-, -, u, hparked, husb⟩
  · rw [hparked]
  · rw [husb, (park_sets r).other u k fun hj => hk hj.symm, hparked]

end Handlers

/-! ## Poll -/

/-- The ledgers agree on what was overtaken and what was lost. -/
def Ledger.SameLosses (L L' : Ledger HidReport) : Prop :=
  L'.overtaken = L.overtaken ∧ L'.lost = L.lost

theorem Ledger.SameLosses.trans {L₁ L₂ L₃ : Ledger HidReport} (h : Ledger.SameLosses L₁ L₂)
    (h' : Ledger.SameLosses L₂ L₃) : Ledger.SameLosses L₁ L₃ :=
  ⟨h'.1.trans h.1, h'.2.trans h.2⟩

/-- Draining a slot sends what is parked in it, or does nothing. -/
theorem drainPending_books (h : Books cfg k w L) {r : UsbReport} {flag : Bool}
    (hflag : flag = true → w.usb.parked r.kind = some r) (keyboard mouse : Bool)
    {clear : UsbHs → UsbHs} (hclear : SetsSlot r.kind none clear) :
    ∃ L', Books cfg k
        (drainPending flag (sendReportNow (r.toHid cfg) keyboard mouse) clear w).1 L' ∧
      Ledger.SameLosses L L' := by
  unfold drainPending
  cases flag with
  | false => exact ⟨L, h, rfl, rfl⟩
  | true =>
    have hparked := hflag rfl
    dsimp only
    rw [if_pos rfl, sendReportNow_ok]
    cases hs : w.sendsNow with
    | true =>
      have hout := sendReportNow_out_ok (r.toHid cfg) keyboard mouse w hs
      rw [if_pos rfl]
      by_cases hk : r.kind = k
      · have hslot : L.slot = some (r.toHid cfg) := by
          rw [h.slot, ← hk, hparked]
          rfl
        refine ⟨{ L with slot := none }, ⟨?_, ?_, h.hand⟩, rfl, rfl⟩
        · exact hout ▸ h.tracks.drain (mark_hidReport_self hk) h.hand hslot
        · rw [← hk, hclear.self]
          rfl
      · refine ⟨L, h.quiet hout ?_ ?_, rfl, rfl⟩
        · exact List.forall_mem_singleton.mpr (mark_hidReport_other hk true)
        · rw [hclear.other _ _ fun hj => hk hj.symm, sendReportNow_usb]
    | false =>
      obtain ⟨es, hout, hfail⟩ := sendReportNow_out_fail (r.toHid cfg) keyboard mouse w hs
      rw [if_neg Bool.false_ne_true]
      refine ⟨L, h.quiet hout (mark_refused hfail) ?_, rfl, rfl⟩
      rw [sendReportNow_usb]

theorem drainKeyboard_books (h : Books cfg k w L) :
    ∃ L', Books cfg k (drainKeyboard w).1 L' ∧ Ledger.SameLosses L L' :=
  drainPending_books (r := .keyboard w.usb.pendingKeyboard) h (fun hf => if_pos hf) true false
    clearKeyboard_sets

theorem drainMouse_books (h : Books cfg k w L) :
    ∃ L', Books cfg k (drainMouse w).1 L' ∧ Ledger.SameLosses L L' :=
  drainPending_books (r := .mouse w.usb.pendingMouse) h (fun hf => if_pos hf) false true
    clearMouse_sets

theorem drainMouseAbs_books (h : Books cfg k w L) :
    ∃ L', Books cfg k (drainMouseAbs cfg w).1 L' ∧ Ledger.SameLosses L L' :=
  drainPending_books (r := .mouseAbs w.usb.pendingMouseAbs) h (fun hf => if_pos hf) false true
    clearMouseAbs_sets

theorem pollBody_books (h : Books cfg k w L) :
    ∃ L', Books cfg k (pollBody cfg w).1 L' ∧ Ledger.SameLosses L L' := by
  obtain ⟨L₁, h₁, hs₁⟩ := drainKeyboard_books h
  obtain ⟨L₂, h₂, hs₂⟩ := drainMouse_books h₁
  obtain ⟨L₃, h₃, hs₃⟩ := drainMouseAbs_books h₂
  unfold pollBody
  dsimp only
  split
  · exact ⟨L₁, h₁, hs₁⟩
  · split
    · exact ⟨L₂, h₂, hs₁.trans hs₂⟩
    · exact ⟨L₃, h₃, (hs₁.trans hs₂).trans hs₃⟩

/-- **The poll loop only drains.** By induction on the rounds. -/
theorem pollLoop_books : ∀ (fuel : Nat) {w : UsbWorld} {L : Ledger HidReport}, Books cfg k w L →
    ∃ L', Books cfg k (pollLoop cfg fuel w) L' ∧ Ledger.SameLosses L L' := by
  intro fuel
  induction fuel with
  | zero => intro w L h; exact ⟨L, h, rfl, rfl⟩
  | succ fuel ih =>
    intro w L h
    have hready : Books cfg k (tudHidReady w).1 L := ⟨h.tracks, h.slot, h.hand⟩
    unfold pollLoop
    dsimp only
    split
    · exact ⟨L, hready, rfl, rfl⟩
    · obtain ⟨L₁, h₁, hs₁⟩ := pollBody_books hready
      split
      · obtain ⟨L₂, h₂, hs₂⟩ := ih h₁
        exact ⟨L₂, h₂, hs₁.trans hs₂⟩
      · exact ⟨L₁, h₁, hs₁⟩

/-! ## Any entry -/

/-- A handler call in the terms of `handleReport`. -/
theorem exec_handle (cfg : Config) (w : UsbWorld) (r : UsbReport) :
    exec cfg w (.handle r)
      = handleReport (sendReportNow (r.toHid cfg) (r.kind == .keyboard) (r.kind != .keyboard)) r.park
          { w with out := w.out ++ [.called (.handle r) w.usb.usbReady] } := by
  cases r <;> rfl

/-- A handler call while ready is `handleLogged`. -/
theorem exec_handle_ready (cfg : Config) (hready : w.usb.usbReady = true) (r : UsbReport) :
    exec cfg w (.handle r)
      = handleLogged cfg (r.kind == .keyboard) (r.kind != .keyboard) r w := by
  rw [exec_handle, hready]
  rfl

/-- **An entry that hands nothing in** is a silent line, and at most a poll
follows: it only drains. -/
theorem exec_drains (h : Books cfg k w L) {op : UsbOp}
    (hop : ¬∃ r, op = .handle r ∧ w.usb.usbReady = true) :
    ∃ L', Books cfg k (exec cfg w op) L' ∧ Ledger.SameLosses L L' := by
  -- a report is dropped if the device is not ready
  have hdropped : ∀ r, op = .handle r → w.usb.usbReady = false := by
    intro r hr
    rw [← Bool.not_eq_true]
    exact fun hready => hop ⟨r, hr, hready⟩
  have hsilent : mark cfg k (.called op w.usb.usbReady) = none := by
    cases op with
    | handle r =>
      rw [hdropped r rfl]
      rfl
    | poll | onSuspend | onResume | event => rfl
  have hcalled : Books cfg k { w with out := w.out ++ [.called op w.usb.usbReady] } L :=
    h.quiet rfl (List.forall_mem_singleton.mpr hsilent) rfl
  cases op with
  | handle r =>
    refine ⟨L, ?_, rfl, rfl⟩
    rw [exec_handle, handleReport, if_pos (hdropped r rfl)]
    exact hcalled
  | poll =>
    unfold exec UsbOp.call usbHsPoll
    dsimp only
    split
    · exact ⟨L, hcalled, rfl, rfl⟩
    · exact pollLoop_books _ hcalled
  | onSuspend enabled => exact ⟨L, ⟨hcalled.tracks, hcalled.slot, hcalled.hand⟩, rfl, rfl⟩
  | onResume => exact ⟨L, ⟨hcalled.tracks, hcalled.slot, hcalled.hand⟩, rfl, rfl⟩
  | event id =>
    cases id with
    | attached => exact ⟨L, ⟨hcalled.tracks, hcalled.slot, hcalled.hand⟩, rfl, rfl⟩
    | detached => exact ⟨L, ⟨hcalled.tracks, hcalled.slot, hcalled.hand⟩, rfl, rfl⟩
    | other => exact ⟨L, hcalled, rfl, rfl⟩

/-- **What one entry into the module does to the books of a kind.** Only a
handler call that submits a report of the kind can overtake or lose one: it
sends past the slot if it can send, and overwrites the slot if not. -/
theorem exec_books (h : Books cfg k w L) (op : UsbOp) :
    ∃ L', Books cfg k (exec cfg w op) L' ∧
      L'.overtaken
        = L.overtaken ++ (if submits k w op ∧ w.sendsNow = true then L.slot.toList else []) ∧
      L'.lost
        = L.lost ++ (if submits k w op ∧ w.sendsNow = false then L.slot.toList else []) := by
  by_cases hsub : submits k w op = true
  · cases op with
    | handle r =>
      obtain ⟨hready, hkind⟩ := Bool.and_eq_true_iff.mp hsub
      obtain ⟨L', hb, ho, hl⟩ := handleLogged_self (r.kind == .keyboard) (r.kind != .keyboard) r h
        hready (of_decide_eq_true hkind)
      rw [exec_handle_ready cfg hready]
      simp only [hsub, true_and]
      exact ⟨L', hb, ho, hl⟩
    | poll | onSuspend | onResume | event => cases hsub
  · have hkeeps : ∃ L', Books cfg k (exec cfg w op) L' ∧ Ledger.SameLosses L L' := by
      by_cases hhanded : ∃ r, op = .handle r ∧ w.usb.usbReady = true
      · obtain ⟨r, rfl, hready⟩ := hhanded
        have hkind : r.kind ≠ k := fun hk =>
          hsub (Bool.and_eq_true_iff.mpr ⟨hready, decide_eq_true hk⟩)
        rw [exec_handle_ready cfg hready]
        exact ⟨L, handleLogged_other _ _ r h hready hkind, rfl, rfl⟩
      · exact exec_drains h hhanded
    obtain ⟨L', hb, ho, hl⟩ := hkeeps
    refine ⟨L', hb, ?_, ?_⟩
    · rw [if_neg fun hc => hsub hc.1, List.append_nil, ho]
    · rw [if_neg fun hc => hsub hc.1, List.append_nil, hl]

/-- The books of a module with nothing parked and nothing logged. -/
theorem books_start (cfg : Config) (hout : w.out = []) (hparked : w.usb.parked k = none) :
    Books cfg k w .empty where
  tracks := by
    rw [hout]
    exact .start
  slot := by
    rw [hparked]
    rfl
  hand := rfl

/-! ## Runs while attached -/

/-- Handler calls and polls: the entries of a device that stays attached. -/
def UsbOp.whileAttached : UsbOp → Prop
  | .handle _ => True
  | .poll => True
  | _ => False

instance : DecidablePred UsbOp.whileAttached
  | .handle _ | .poll => isTrue trivial
  | .onSuspend _ | .onResume | .event _ => isFalse id

/-- `w'` is `w` some calls of TinyUSB later: nothing entered the module, and it
is ready as before. -/
structure Later (w w' : UsbWorld) : Prop where
  out : ∃ es, w'.out = w.out ++ es ∧ ∀ e ∈ es, ∀ op ready, e ≠ .called op ready
  ready : w'.usb.usbReady = w.usb.usbReady

theorem Later.refl (w : UsbWorld) : Later w w := ⟨⟨[], by simp, by simp⟩, rfl⟩

theorem Later.trans {w₁ w₂ w₃ : UsbWorld} (h : Later w₁ w₂) (h' : Later w₂ w₃) : Later w₁ w₃ := by
  obtain ⟨⟨es, hout, hes⟩, hready⟩ := h
  obtain ⟨⟨es', hout', hes'⟩, hready'⟩ := h'
  refine ⟨⟨es ++ es', by rw [hout', hout, List.append_assoc], fun e he => ?_⟩, hready'.trans hready⟩
  exact (List.mem_append.mp he).elim (hes e) (hes' e)

theorem sendReportNow_later (report : HidReport) (keyboard mouse : Bool) (w : UsbWorld) :
    Later w (sendReportNow report keyboard mouse w).1 := by
  refine ⟨?_, by rw [sendReportNow_usb]⟩
  cases hs : w.sendsNow with
  | true =>
    refine ⟨_, sendReportNow_out_ok report keyboard mouse w hs, ?_⟩
    intro e he op ready
    rw [List.mem_singleton.mp he]
    exact fun h => by cases h
  | false =>
    obtain ⟨es, hout, hes⟩ := sendReportNow_out_fail report keyboard mouse w hs
    refine ⟨es, hout, ?_⟩
    intro e he op ready
    rw [hes e he]
    exact fun h => by cases h

theorem later_keptByReports : KeptByReports Later where
  refl := Later.refl
  trans := Later.trans
  ready := fun w => ⟨(Later.refl w).out, rfl⟩
  send := sendReportNow_later
  setSlot := fun hf w => ⟨(Later.refl w).out, hf.ready w.usb⟩

theorem pollLoop_later (cfg : Config) (fuel : Nat) (w : UsbWorld) :
    Later w (pollLoop cfg fuel w) := later_keptByReports.loop cfg fuel w

theorem requestRemoteWakeup_later (w : UsbWorld) : Later w (requestRemoteWakeupIfNeeded w) := by
  obtain ⟨⟨es, hout, hes⟩, -, hready, -⟩ := requestRemoteWakeup_spec w
  refine ⟨⟨es, hout, fun e he op ready => ?_⟩, hready⟩
  obtain ⟨now, ok, rfl⟩ := hes e he
  nofun

/-- An entry of an attached device is one line of the log and some calls. -/
theorem exec_later (cfg : Config) (w : UsbWorld) {op : UsbOp} (hop : op.whileAttached) :
    Later { w with out := w.out ++ [.called op w.usb.usbReady] } (exec cfg w op) := by
  cases op with
  | handle r =>
    rw [exec_handle]
    cases hready : w.usb.usbReady with
    | false =>
      unfold handleReport
      rw [if_pos hready]
      exact Later.refl _
    | true =>
      exact (requestRemoteWakeup_later _).trans
        (later_keptByReports.handle _ _ _ (park_sets r) hready)
  | poll =>
    unfold exec UsbOp.call usbHsPoll
    dsimp only
    split
    · exact Later.refl _
    · exact pollLoop_later cfg _ _
  | onSuspend | onResume | event => exact absurd hop id

theorem exec_ready {op : UsbOp} (hop : op.whileAttached) (hready : w.usb.usbReady = true) :
    (exec cfg w op).usb.usbReady = true := (exec_later cfg w hop).ready.trans hready

/-- The reports of a kind that are handed in along a list of entries, as they
would be sent. -/
def submissions (cfg : Config) (k : ReportKind) (ops : List UsbOp) : List HidReport :=
  ops.filterMap fun
    | .handle r => if r.kind = k then some (r.toHid cfg) else none
    | _ => none

/-- The reports of a kind that `tud_hid_report` took. -/
def transmitted (k : ReportKind) (out : List UsbEvent) : List HidReport :=
  out.filterMap fun
    | .hidReport h true => if h.kind = k then some h else none
    | _ => none

theorem sent_eq_transmitted (cfg : Config) (k : ReportKind) (out : List UsbEvent) :
    sent (mark cfg k) out = transmitted k out := by
  unfold sent transmitted
  congr 1
  funext e
  match e with
  | .called (.handle r) true =>
    simp only [mark]
    split <;> simp_all
  | .called (.handle r) false => rfl
  | .called .poll _ | .called (.onSuspend _) _ | .called .onResume _ | .called (.event _) _ => rfl
  | .hidReport h true =>
    by_cases hk : h.kind = k
    · simp [mark, hk]
    · simp [mark, hk]
  | .hidReport h false => rfl
  | .remoteWakeup _ _ => rfl

/-- While attached, what the log says was submitted is what was handed in. -/
theorem submitted_run (cfg : Config) (k : ReportKind) : ∀ (ops : List UsbOp) {w : UsbWorld},
    w.usb.usbReady = true → (∀ op ∈ ops, op.whileAttached) →
      submitted (mark cfg k) (runSteps (exec cfg) w ops).out
        = submitted (mark cfg k) w.out ++ submissions cfg k ops := by
  intro ops
  induction ops with
  | nil => intro w _ _; simp [submissions]
  | cons op ops ih =>
    intro w hready hops
    have hop := hops op (List.mem_cons_self ..)
    obtain ⟨es, hout, hes⟩ := (exec_later cfg w hop).out
    have hquiet : submitted (mark cfg k) es = [] := by
      refine List.filterMap_eq_nil_iff.mpr fun e he => ?_
      match e with
      | .called op ready => exact absurd rfl (hes _ he op ready)
      | .hidReport h true =>
        by_cases hk : h.kind = k
        · simp [mark, hk]
        · simp [mark, hk]
      | .hidReport h false => rfl
      | .remoteWakeup _ _ => rfl
    rw [runSteps_cons, ih (exec_ready hop hready) fun o ho => hops o (List.mem_cons_of_mem _ ho),
      hout, submitted_append, hquiet, List.append_nil, submitted_append, List.append_assoc]
    congr 1
    rw [hready]
    cases op with
    | handle r =>
      by_cases hk : r.kind = k
      · simp [submitted, submissions, mark, hk]
      · simp [submitted, submissions, mark, hk]
    | poll => rfl
    | onSuspend | onResume | event => exact absurd hop id

/-- The world at start-up. -/
def bootWorld (app : AppState) (env : Answers) : UsbWorld where
  usb := UsbHs.boot
  app := app
  env := env
  out := []

/-- A device just attached, with nothing logged yet. -/
def attachedWorld (env : Answers) : UsbWorld where
  usb := { UsbHs.boot with usbReady := true }
  app := appStateInit 0
  env := env
  out := []

/-- An endpoint that is busy once and then always takes reports. -/
def busyOnce : Answers where
  hidReady := Stream'.cons false (Stream'.const true)
  hidReport := Stream'.const true
  remoteWakeup := Stream'.const true
  timer := Stream'.const 0

/-- An endpoint that never takes a report. -/
def busyAlways : Answers where
  hidReady := Stream'.const false
  hidReport := Stream'.const true
  remoteWakeup := Stream'.const true
  timer := Stream'.const 0

/-- A keyboard report with one key down; usage `0` is no key. -/
def keyReport (usage : UInt8) : UsbReport := .keyboard ⟨0, 0, #v[usage, 0, 0, 0, 0, 0]⟩

end CaptureKVMBridge.Usb
