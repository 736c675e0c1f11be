import CaptureKVMBridge.Usb.Parked

/-!
# Tasks that take turns

The rest of the development treats an entry into the HID half as one step (`exec`).
Here that is tied to the tasks of `Usb.Race`: if every entry is made with all tasks
outside, as under one lock around them, then whenever all are outside again the
module is where the entries as single steps have brought it, and every step was
timely (`race_takes_turns`). And every run of single steps comes about in this way,
since every call returns (`race_reaches_iff`).

The proof follows the one task that is inside. `handleRest` and `pollRest` are what
a task at some place will still do if it is left alone: no step of its changes what
that comes to (`handleRest_step`, `pollRest_step`).
-/

namespace CaptureKVMBridge.Usb

open CaptureKVMBridge.Machine CaptureKVMBridge.Tlv

variable {ι : Type} {cfg : Config} {k : ReportKind}

/-! ## A handler that is left alone -/

/-- `send_*_report_now`, and what a handler does where it fails. -/
def sendOrPark (cfg : Config) (r : UsbReport) (u : UsbWorld) : UsbWorld :=
  let t := sendReportNow (r.toHid cfg) (r.kind == .keyboard) (r.kind != .keyboard) u
  if t.2 then t.1 else { t.1 with usb := r.park t.1.usb }

/-- What a handler at some place will still do. -/
def handleRest (cfg : Config) : HandlePc → UsbWorld → UsbWorld
  | .idle, u => u
  | .usbReady r, u => exec cfg u (.handle r)
  | .remoteWakeup r, u => sendOrPark cfg r (requestRemoteWakeupIfNeeded u)
  | .hidReady r, u => sendOrPark cfg r u
  | .hidReport r, u =>
    let t := tudHidReport (r.toHid cfg) u
    if t.2 then hidActivity r.kind t.1 else { t.1 with usb := r.park t.1.usb }
  | .hidActivity r, u => hidActivity r.kind u
  | .pending r, u => { u with usb := r.park u.usb }
  | .pendingReport r, u => { u with usb := u.usb.setPendingReport r.kind true }

theorem exec_handle_rest (cfg : Config) (u : UsbWorld) (r : UsbReport) :
    exec cfg u (.handle r)
      = if u.usb.usbReady then
          handleRest cfg (.remoteWakeup r)
            { u with out := u.out ++ [.called (.handle r) u.usb.usbReady] }
        else { u with out := u.out ++ [.called (.handle r) u.usb.usbReady] } := by
  rw [exec_handle, handleReport]
  cases u.usb.usbReady with
  | true => rfl
  | false => rfl

/-- **Sending, call by call**, with what is done after it. -/
theorem sendReportNow_calls {β : Type} (h : HidReport) (keyboard mouse : Bool) (u : UsbWorld)
    (sent failed : UsbWorld → β) :
    (if (sendReportNow h keyboard mouse u).2 then sent (sendReportNow h keyboard mouse u).1
      else failed (sendReportNow h keyboard mouse u).1)
      = if (tudHidReady u).2 then
          if (tudHidReport h (tudHidReady u).1).2 then
            sent (updateHidActivity keyboard mouse (tudHidReport h (tudHidReady u).1).1)
          else failed (tudHidReport h (tudHidReady u).1).1
        else failed (tudHidReady u).1 := by
  cases hready : u.env.hidReady.head with
  | false =>
    have hask : (tudHidReady u).2 = false := hready
    rw [sendReportNow_busy _ _ _ _ hready, hask, if_neg Bool.false_ne_true,
      if_neg Bool.false_ne_true]
  | true =>
    have hask : (tudHidReady u).2 = true := hready
    rw [hask, if_pos rfl]
    cases hok : u.env.hidReport.head with
    | false =>
      have htake : (tudHidReport h (tudHidReady u).1).2 = false := hok
      rw [sendReportNow_refused _ _ _ _ hready hok, htake, if_neg Bool.false_ne_true,
        if_neg Bool.false_ne_true]
    | true =>
      have htake : (tudHidReport h (tudHidReady u).1).2 = true := hok
      rw [sendReportNow_sent _ _ _ _ hready hok, htake, if_pos rfl, if_pos rfl]

theorem sendOrPark_eq (cfg : Config) (r : UsbReport) (u : UsbWorld) :
    sendOrPark cfg r u
      = handleRest cfg (if (tudHidReady u).2 then .hidReport r else .pending r)
          (tudHidReady u).1 := by
  refine (sendReportNow_calls _ _ _ u id fun v => { v with usb := r.park v.usb }).trans ?_
  split
  next => rfl
  next => rfl

section Handler

variable [DecidableEq ι]

/-- **A step of a handler is part of what it will do.** -/
theorem handleRest_step (cfg : Config) (i : ι) (w : RaceWorld ι) :
    handleRest cfg ((handleStep cfg i w).handler i) (handleStep cfg i w).usb
      = handleRest cfg (w.handler i) w.usb := by
  -- the task is where the step has put it; the rest of each case is what it did on the way
  have hself : ∀ (v : RaceWorld ι) (pc : HandlePc), (v.setHandler i pc).handler i = pc :=
    fun v pc => setHandler_handler v i pc
  unfold handleStep
  cases hpc : w.handler i with
  | idle =>
    dsimp only
    rw [hpc]
  | usbReady r =>
    dsimp only
    rw [hself]
    refine Eq.trans ?_ (exec_handle_rest cfg w.usb r).symm
    split
    next => rfl
    next => rfl
  | remoteWakeup r =>
    dsimp only
    rw [hself]
    rfl
  | hidReady r =>
    dsimp only
    rw [hself]
    exact (sendOrPark_eq cfg r w.usb).symm
  | hidReport r =>
    dsimp only
    show _ = if _ then _ else _
    by_cases hok : (tudHidReport (r.toHid cfg) w.usb).2 = true
    · have hok' : (w.hidReport cfg r).2 = true := hok
      rw [if_pos hok, if_pos hok']
      dsimp only
      rw [hself]
      rfl
    · have hok' : ¬(w.hidReport cfg r).2 = true := hok
      rw [if_neg hok, if_neg hok', hself]
      rfl
  | hidActivity r =>
    dsimp only
    rw [hself]
    rfl
  | pending r =>
    dsimp only
    rw [hself]
    show _ = { w.usb with usb := r.park w.usb.usb }
    rw [park_eq]
    rfl
  | pendingReport r =>
    dsimp only
    rw [hself]
    rfl

end Handler

/-! ## A poll that is left alone -/

/-- The body of the loop of `usb_hs_poll` from the `if` of a kind. -/
def bodyFrom (cfg : Config) : ReportKind → UsbWorld → UsbWorld × Bool
  | .keyboard, u => pollBody cfg u
  | .mouse, u => if (drainMouse u).2 then drainMouse u else drainMouseAbs cfg (drainMouse u).1
  | .mouseAbs, u => drainMouseAbs cfg u

/-- And behind it. -/
def bodyAfter (cfg : Config) : ReportKind → UsbWorld → UsbWorld × Bool
  | .keyboard, u => bodyFrom cfg .mouse u
  | .mouse, u => bodyFrom cfg .mouseAbs u
  | .mouseAbs, u => (u, false)

/-- `s_pending_*_report = false; progress = true;` -/
def cleared (k : ReportKind) (u : UsbWorld) : UsbWorld × Bool :=
  ({ u with usb := u.usb.setPendingReport k false }, true)

/-- `while (progress && ..)`, behind the body. -/
def loopAgain (cfg : Config) (r : UsbWorld × Bool) : UsbWorld :=
  if r.2 then pollLoop cfg (r.1.usb.pendingCount + 1) r.1 else r.1

/-- The body from the first call of `send_*_report_now`, where the flag is up. -/
def bodySend (cfg : Config) (k : ReportKind) (u : UsbWorld) : UsbWorld × Bool :=
  let t := sendReportNow ((u.usb.pending k).toHid cfg) (k == .keyboard) (k != .keyboard) u
  if t.2 then cleared k t.1 else bodyAfter cfg k t.1

/-- What the poll at some place will still do. -/
def pollRest (cfg : Config) : PollPc → UsbWorld → UsbWorld
  | .idle, u => u
  | .usbReady, u => exec cfg u .poll
  | .loop, u => pollLoop cfg (u.usb.pendingCount + 1) u
  | .pendingReport k, u => loopAgain cfg (bodyFrom cfg k u)
  | .hidReady k, u => loopAgain cfg (bodySend cfg k u)
  | .pending k, u =>
    let t := tudHidReport ((u.usb.pending k).toHid cfg) u
    loopAgain cfg (if t.2 then cleared k (hidActivity k t.1) else bodyAfter cfg k t.1)
  | .hidReport r _, u =>
    let t := tudHidReport (r.toHid cfg) u
    loopAgain cfg (if t.2 then cleared r.kind (hidActivity r.kind t.1) else bodyAfter cfg r.kind t.1)
  | .hidActivity k, u => loopAgain cfg (cleared k (hidActivity k u))
  | .clear k, u => loopAgain cfg (cleared k u)

/-- An `if` of the body, and what comes behind it. -/
theorem drainPending_then (flag : Bool) (send : UsbWorld → UsbWorld × Bool)
    (clear : UsbHs → UsbHs) (u : UsbWorld) (next : UsbWorld → UsbWorld × Bool) :
    (if (drainPending flag send clear u).2 then drainPending flag send clear u
      else next (drainPending flag send clear u).1)
      = if flag then
          if (send u).2 then ({ (send u).1 with usb := clear (send u).1.usb }, true)
          else next (send u).1
        else next u := by
  unfold drainPending
  cases flag with
  | false => rfl
  | true =>
    cases hsent : (send u).2 with
    | false => simp only [hsent, if_pos, if_neg Bool.false_ne_true]
    | true => simp only [hsent, if_pos]

theorem bodyFrom_eq (cfg : Config) (k : ReportKind) (u : UsbWorld) :
    bodyFrom cfg k u
      = if u.usb.pendingReport k then bodySend cfg k u else bodyAfter cfg k u := by
  cases k with
  | keyboard => exact drainPending_then _ _ UsbHs.clearKeyboard u (bodyFrom cfg .mouse)
  | mouse => exact drainPending_then _ _ UsbHs.clearMouse u (bodyFrom cfg .mouseAbs)
  | mouseAbs =>
    have hself : ∀ d : UsbWorld × Bool, (if d.2 then d else (d.1, false)) = d := by
      rintro ⟨v, progress⟩
      cases progress <;> rfl
    refine (hself (drainMouseAbs cfg u)).symm.trans ?_
    exact drainPending_then _ _ UsbHs.clearMouseAbs u fun v => (v, false)

theorem pollRest_nextIf (cfg : Config) (k : ReportKind) (u : UsbWorld) :
    pollRest cfg (nextIf k) u = loopAgain cfg (bodyAfter cfg k u) := by
  cases k <;> rfl

/-- The loop, with its bound. -/
theorem pollLoop_eq (cfg : Config) (u : UsbWorld) :
    pollLoop cfg (u.usb.pendingCount + 1) u
      = if (tudHidReady u).2 then loopAgain cfg (bodyFrom cfg .keyboard (tudHidReady u).1)
        else (tudHidReady u).1 := by
  rw [pollLoop]
  dsimp only
  cases hready : (tudHidReady u).2 with
  | false => rfl
  | true =>
    show (if (pollBody cfg (tudHidReady u).1).2 then _ else _) = loopAgain cfg (pollBody cfg _)
    unfold loopAgain
    split
    next hprogress =>
      -- a slot was emptied, so both bounds are large enough
      refine pollLoop_fuel cfg _ _ _ ?_ (Nat.lt_succ_self _)
      exact pollBody_progress hprogress
    next => rfl

/-- **A step of the poll is part of what it will do.** -/
theorem pollRest_step (cfg : Config) (w : RaceWorld ι) :
    pollRest cfg (pollStep cfg w).poll (pollStep cfg w).usb = pollRest cfg w.poll w.usb := by
  unfold pollStep
  cases hpc : w.poll with
  | idle =>
    dsimp only
    rw [hpc]
  | usbReady =>
    show pollRest cfg (if _ then _ else _) _ = exec cfg w.usb .poll
    unfold exec UsbOp.call usbHsPoll
    dsimp only
    cases w.usb.usb.usbReady with
    | false => rfl
    | true => rfl
  | loop =>
    refine Eq.trans ?_ (pollLoop_eq cfg w.usb).symm
    show pollRest cfg (if (tudHidReady w.usb).2 then _ else _) _ = _
    split
    next => rfl
    next => rfl
  | pendingReport k =>
    refine Eq.trans ?_ (congrArg (loopAgain cfg) (bodyFrom_eq cfg k w.usb)).symm
    show pollRest cfg (if w.usb.usb.pendingReport k then _ else _) _ = _
    split
    next => rfl
    next => exact pollRest_nextIf cfg k w.usb
  | hidReady k =>
    have hcalls := sendReportNow_calls ((w.usb.usb.pending k).toHid cfg) (k == .keyboard)
      (k != .keyboard) w.usb (cleared k) (bodyAfter cfg k)
    refine Eq.trans ?_ (congrArg (loopAgain cfg) hcalls).symm
    show pollRest cfg (if (tudHidReady w.usb).2 then _ else _) (tudHidReady w.usb).1 = _
    split
    next => rfl
    next => exact pollRest_nextIf cfg k _
  | pending k =>
    dsimp only [pollRest]
    rw [pending_kind]
  | hidReport r n =>
    show _ = loopAgain cfg (if (tudHidReport (r.toHid cfg) w.usb).2 then _ else _)
    dsimp only
    by_cases hok : (tudHidReport (r.toHid cfg) w.usb).2 = true
    · have hok' : (w.hidReport cfg r).2 = true := hok
      rw [if_pos hok, if_pos hok']
      rfl
    · have hok' : ¬(w.hidReport cfg r).2 = true := hok
      rw [if_neg hok, if_neg hok']
      exact pollRest_nextIf cfg r.kind _
  | hidActivity k => rfl
  | clear k => rfl

/-! ## Runs -/

/-- The entry that a step makes. -/
def RaceOp.entry : RaceOp ι → Option UsbOp
  | .callHandle _ r => some (.handle r)
  | .callPoll => some .poll
  | .bus op _ => some op
  | .handle _ | .poll => none

/-- Every task is outside. -/
def RaceWorld.Outside (w : RaceWorld ι) : Prop := (∀ i, w.handler i = .idle) ∧ w.poll = .idle

instance [Fintype ι] (w : RaceWorld ι) : Decidable w.Outside :=
  inferInstanceAs (Decidable (_ ∧ _))

/-- An entry is made with every task outside. -/
def TakesTurns (w : RaceWorld ι) (op : RaceOp ι) : Prop := op.entry ≠ none → w.Outside

instance [Fintype ι] (w : RaceWorld ι) (op : RaceOp ι) : Decidable (TakesTurns w op) :=
  inferInstanceAs (Decidable (_ → _))

/-- At most one task is inside, and once it is through the module is as `v`. -/
inductive Solo (cfg : Config) (v : UsbWorld) (w : RaceWorld ι) : Prop
  | handler (i : ι) (hothers : ∀ j, j ≠ i → w.handler j = .idle) (hpoll : w.poll = .idle)
      (hrest : handleRest cfg (w.handler i) w.usb = v)
  | poll (hidle : ∀ j, w.handler j = .idle) (hrest : pollRest cfg w.poll w.usb = v)

section Runs

variable {v : UsbWorld} {w : RaceWorld ι}

theorem Solo.outside (h : Solo cfg v w) (hout : w.Outside) : w.usb = v := by
  cases h with
  | handler i hothers hpoll hrest =>
    rw [hout.1 i] at hrest
    exact hrest
  | poll hidle hrest =>
    rw [hout.2] at hrest
    exact hrest

theorem pollStep_idle (h : w.poll = .idle) : pollStep cfg w = w := by
  rw [pollStep, h]

theorem solo_boot (cfg : Config) (app : AppState) (env : Answers) :
    Solo cfg (bootWorld app env) (raceBoot (ι := ι) app env) :=
  .poll (fun _ => rfl) rfl

/-- A step of the poll leaves the handlers where they are. -/
theorem pollStep_handler (cfg : Config) (w : RaceWorld ι) :
    (pollStep cfg w).handler = w.handler := by
  unfold pollStep
  cases w.poll with
  | hidReport r n =>
    dsimp only
    split
    next => rfl
    next => rfl
  | idle | usbReady | loop | pendingReport | hidReady | pending | hidActivity | clear => rfl

variable [DecidableEq ι]

theorem handleStep_idle {i : ι} (h : w.handler i = .idle) : handleStep cfg i w = w := by
  rw [handleStep, h]

/-- A step of a handler leaves the other tasks where they are. -/
theorem handleStep_others (cfg : Config) (i : ι) (w : RaceWorld ι) :
    (handleStep cfg i w).poll = w.poll ∧
      ∀ j, j ≠ i → (handleStep cfg i w).handler j = w.handler j := by
  have hset : ∀ (v : RaceWorld ι) (pc : HandlePc) (j : ι), j ≠ i →
      (v.setHandler i pc).handler j = v.handler j := fun v pc j hj => setHandler_handler_ne v hj pc
  unfold handleStep
  cases w.handler i with
  | idle => exact ⟨rfl, fun _ _ => rfl⟩
  | hidReport r =>
    dsimp only
    split
    next => exact ⟨rfl, fun j hj => hset _ _ j hj⟩
    next => exact ⟨rfl, fun j hj => hset _ _ j hj⟩
  | usbReady r | remoteWakeup r | hidReady r | hidActivity r | pending r | pendingReport r =>
    exact ⟨rfl, fun j hj => hset _ _ j hj⟩

/-- **One step of tasks that take turns**: an entry changes what the module will
be, as it does in one step, and nothing else does. -/
theorem Solo.step (h : Solo cfg v w) (op : RaceOp ι) (ht : TakesTurns w op) :
    Solo cfg (runSteps (exec cfg) v op.entry.toList) (raceExec cfg w op) := by
  cases op with
  | callHandle i r =>
    have hout := ht nofun
    have hself : (w.setHandler i (.usbReady r)).handler i = .usbReady r := setHandler_handler ..
    show Solo cfg (exec cfg v (.handle r)) (if _ then _ else _)
    -- all are outside, so the module is as `v`
    rw [if_pos (hout.1 i), ← h.outside hout]
    refine .handler i (fun j hj => ?_) hout.2 ?_
    · rw [setHandler_handler_ne w hj, hout.1 j]
    · rw [hself]
      rfl
  | handle j =>
    show Solo cfg v (handleStep cfg j w)
    cases h with
    | handler i hothers hpoll hrest =>
      -- a task that is outside does nothing
      by_cases hj : j = i
      · subst hj
        obtain ⟨hkept, hsame⟩ := handleStep_others cfg j w
        refine .handler j (fun x hx => ?_) ?_ ?_
        · rw [hsame x hx, hothers x hx]
        · rw [hkept, hpoll]
        · rw [handleRest_step, hrest]
      · rw [handleStep_idle (hothers j hj)]
        exact .handler i hothers hpoll hrest
    | poll hidle hrest =>
      rw [handleStep_idle (hidle j)]
      exact .poll hidle hrest
  | callPoll =>
    have hout := ht nofun
    show Solo cfg (exec cfg v .poll) (if _ then _ else _)
    rw [if_pos hout.2, ← h.outside hout]
    exact .poll hout.1 rfl
  | poll =>
    show Solo cfg v (pollStep cfg w)
    cases h with
    | handler i hothers hpoll hrest =>
      rw [pollStep_idle hpoll]
      exact .handler i hothers hpoll hrest
    | poll hidle hrest =>
      refine .poll (fun j => ?_) ?_
      · rw [pollStep_handler, hidle j]
      · rw [pollRest_step, hrest]
  | bus op hbus =>
    have hout := ht nofun
    show Solo cfg (exec cfg v op) { w with usb := exec cfg w.usb op }
    rw [← h.outside hout]
    refine .poll hout.1 ?_
    rw [hout.2]
    rfl

/-- By induction on the run. -/
theorem Solo.run : ∀ (ops : List (RaceOp ι)) {v : UsbWorld} {w : RaceWorld ι}, Solo cfg v w →
    AllSteps (raceExec cfg) TakesTurns w ops →
      Solo cfg (runSteps (exec cfg) v (ops.filterMap RaceOp.entry))
        (runSteps (raceExec cfg) w ops) := by
  intro ops
  induction ops with
  | nil => exact fun h _ => h
  | cons op ops ih =>
    intro v w h hall
    have hnext := ih (h.step op hall.1) hall.2
    cases hentry : op.entry with
    | none =>
      rw [List.filterMap_cons_none hentry]
      rwa [hentry] at hnext
    | some e =>
      rw [List.filterMap_cons_some hentry]
      rwa [hentry] at hnext

variable [Fintype ι]

/-- Of the handlers and the poll, one side stays outside during a step. -/
theorem Solo.oneSide (h : Solo cfg v w) (op : RaceOp ι) (ht : TakesTurns w op) (k : ReportKind) :
    Mailbox.OneSide (w.mailbox k) ((raceExec cfg w op).mailbox k) := by
  -- an entry finds both sides outside, and a step is made by the side that is inside
  have hidle : w.poll = .idle ∨ ∀ i, w.handler i = .idle := by
    cases h with
    | handler i hothers hpoll hrest => exact Or.inl hpoll
    | poll hidle hrest => exact Or.inr hidle
  cases op with
  | callHandle i r =>
    have hout := ht nofun
    refine Or.inl ⟨reader_idle hout.2 k, reader_idle ?_ k⟩
    rw [raceExec, if_pos (hout.1 i)]
    exact hout.2
  | handle j =>
    rcases hidle with hpoll | hhandlers
    · have hkept := (handleStep_others cfg j w).1.trans hpoll
      exact Or.inl ⟨reader_idle hpoll k, reader_idle hkept k⟩
    · rw [raceExec, handleStep_idle (hhandlers j)]
      exact Or.inr ⟨raising_idle hhandlers k, raising_idle hhandlers k⟩
  | callPoll =>
    have hout := ht nofun
    rw [raceExec, if_pos hout.2]
    exact Or.inr ⟨raising_idle hout.1 k, raising_idle hout.1 k⟩
  | poll =>
    rcases hidle with hpoll | hhandlers
    · rw [raceExec, pollStep_idle hpoll]
      exact Or.inl ⟨reader_idle hpoll k, reader_idle hpoll k⟩
    · refine Or.inr ⟨raising_idle hhandlers k, raising_idle (fun i => ?_) k⟩
      rw [raceExec, pollStep_handler, hhandlers i]
  | bus op hbus =>
    have hout := ht nofun
    exact Or.inl ⟨reader_idle hout.2 k, reader_idle hout.2 k⟩

/-- **Taking turns is enough.** In a run in which every entry is made with all tasks
outside, every step is timely; and whenever all tasks are outside, the module is
where the entries have brought it that were made so far, each as one step. -/
theorem race_takes_turns (cfg : Config) (app : AppState) (env : Answers) (ops : List (RaceOp ι))
    (h : AllSteps (raceExec cfg) TakesTurns (raceBoot app env) ops) :
    let w := runSteps (raceExec cfg) (raceBoot app env) ops
    AllSteps (raceExec cfg) Timely (raceBoot app env) ops ∧
      (w.Outside →
        w.usb = runSteps (exec cfg) (bootWorld app env) (ops.filterMap RaceOp.entry)) := by
  intro w
  refine ⟨?_, fun hout => (Solo.run ops (solo_boot cfg app env) h).outside hout⟩
  -- with one side at a time no slot is parked in while the poll is at it
  refine h.imp (I := fun w : RaceWorld ι => (∃ v, Solo cfg v w) ∧
    ∀ k, (w.mailbox k).Orderly ∧ (w.mailbox k).Turns) (fun w op hw ht => ?_)
    (fun w op hw ht => ?_) ?_
  · obtain ⟨⟨v, hsolo⟩, hslots⟩ := hw
    refine ⟨⟨_, hsolo.step op ht⟩, fun k => ?_⟩
    have hstep := (raceExec_step cfg w op).mailbox k
    obtain ⟨ho, hturns⟩ := hslots k
    exact ⟨hstep.orderly ho, hstep.turns ho (hsolo.oneSide op ht k) hturns⟩
  · rw [timely_iff]
    exact fun k => ((raceExec_step cfg w op).mailbox k).permits_of_turns (hw.2 k).2
  · refine ⟨⟨_, solo_boot cfg app env⟩, fun k => ⟨race_orderly cfg app env [] k, ?_, nofun, nofun⟩⟩
    rw [raising_idle fun _ => rfl]
    exact fun hraising => absurd hraising Finset.not_nonempty_empty

end Runs

/-! ## Every call returns -/

/-- A bound on the steps of a handler. -/
def HandlePc.work : HandlePc → Nat
  | .usbReady _ => 6
  | .remoteWakeup _ => 5
  | .hidReady _ => 4
  | .hidReport _ => 3
  | .pending _ => 2
  | .hidActivity _ | .pendingReport _ => 1
  | .idle => 0

/-- The `if`s behind that of a kind. -/
def ReportKind.ahead : ReportKind → Nat
  | .keyboard => 2
  | .mouse => 1
  | .mouseAbs => 0

/-- A bound on the steps of the poll, with a number of slots that are occupied: a
round takes four steps for each slot, and one that drains a slot is followed by
another with a slot less. -/
def PollPc.work (pending : Nat) : PollPc → Nat
  | .usbReady => 15 * pending + 14
  | .loop => 15 * pending + 13
  | .pendingReport k => 15 * pending + 4 * k.ahead + 4
  | .hidReady k => 15 * pending + 4 * k.ahead + 3
  | .pending k => 15 * pending + 4 * k.ahead + 2
  | .hidReport r _ => 15 * pending + 4 * r.kind.ahead + 1
  | .hidActivity _ => 15 * (pending - 1) + 15
  | .clear _ => 15 * (pending - 1) + 14
  | .idle => 0

/-- Lowering a flag that is up leaves a slot less. -/
theorem pendingCount_clear {u : UsbHs} (h : u.pendingReport k = true) :
    (u.setPendingReport k false).pendingCount + 1 = u.pendingCount := by
  cases k with
  | keyboard =>
    have hflag : u.pendingKeyboardReport = true := h
    simp [UsbHs.pendingCount, UsbHs.setPendingReport, hflag]
    omega
  | mouse =>
    have hflag : u.pendingMouseReport = true := h
    simp [UsbHs.pendingCount, UsbHs.setPendingReport, hflag]
    omega
  | mouseAbs =>
    have hflag : u.pendingMouseAbsReport = true := h
    simp [UsbHs.pendingCount, UsbHs.setPendingReport, hflag]

theorem work_nextIf (pending : Nat) (k : ReportKind) :
    (nextIf k).work pending ≤ 15 * pending + 4 * k.ahead := by
  cases k <;> simp [nextIf, PollPc.work, ReportKind.ahead]

section Returns

variable {w : RaceWorld ι}

theorem pollStep_work [Fintype ι] (cfg : Config) (ho : ∀ k, (w.mailbox k).Orderly)
    (h : w.poll ≠ .idle) :
    (pollStep cfg w).poll.work (pollStep cfg w).usb.usb.pendingCount
      < w.poll.work w.usb.usb.pendingCount := by
  have hup : ∀ k, w.poll.reader k ≠ .away → w.usb.usb.pendingReport k = true :=
    fun k hk => (ho k).seen hk
  unfold pollStep
  cases hpc : w.poll with
  | idle => exact absurd hpc h
  | usbReady =>
    show PollPc.work w.usb.usb.pendingCount (if _ then _ else _) < _
    split
    next => exact Nat.lt_succ_self _
    next => exact Nat.succ_pos _
  | loop =>
    show PollPc.work w.usb.usb.pendingCount (if _ then _ else _) < _
    split
    next => exact Nat.lt_succ_self _
    next => exact Nat.succ_pos _
  | pendingReport k =>
    show PollPc.work w.usb.usb.pendingCount (if _ then _ else _) < _
    have hnext := work_nextIf w.usb.usb.pendingCount k
    split
    next => exact Nat.lt_succ_self _
    next => exact Nat.lt_of_le_of_lt hnext (Nat.lt_add_of_pos_right (by decide))
  | hidReady k =>
    show PollPc.work w.usb.usb.pendingCount (if _ then _ else _) < _
    have hnext := work_nextIf w.usb.usb.pendingCount k
    split
    next => exact Nat.lt_succ_self _
    next => exact Nat.lt_of_le_of_lt hnext (Nat.lt_add_of_pos_right (by decide))
  | pending k =>
    show 15 * _ + 4 * (w.usb.usb.pending k).kind.ahead + 1 < _
    rw [pending_kind]
    exact Nat.lt_succ_self _
  | hidReport r n =>
    have hreader : w.poll.reader r.kind = .holding n := by
      rw [hpc]
      exact if_pos rfl
    -- the poll holds a report of this slot, so its flag is up and counts
    have hpos := pendingCount_clear (hup r.kind (by rw [hreader]; nofun))
    have hnext := work_nextIf w.usb.usb.pendingCount r.kind
    dsimp only
    split
    next =>
      show 15 * (w.usb.usb.pendingCount - 1) + 15
        < 15 * w.usb.usb.pendingCount + 4 * r.kind.ahead + 1
      omega
    next => exact Nat.lt_succ_of_le hnext
  | hidActivity k => exact Nat.lt_succ_self _
  | clear k =>
    have hreader : w.poll.reader k = .emptying := by
      rw [hpc]
      exact if_pos rfl
    have hcount := pendingCount_clear (hup k (by rw [hreader]; nofun))
    show 15 * (w.usb.usb.setPendingReport k false).pendingCount + 13
      < 15 * (w.usb.usb.pendingCount - 1) + 14
    omega

variable [DecidableEq ι]

theorem handleStep_work (cfg : Config) {i : ι} (h : w.handler i ≠ .idle) :
    ((handleStep cfg i w).handler i).work < (w.handler i).work := by
  have hself : ∀ (v : RaceWorld ι) (pc : HandlePc), (v.setHandler i pc).handler i = pc :=
    fun v pc => setHandler_handler v i pc
  unfold handleStep
  cases hpc : w.handler i with
  | idle => exact absurd hpc h
  | usbReady r =>
    dsimp only
    rw [hself]
    split
    next => exact Nat.lt_succ_self _
    next => exact Nat.succ_pos _
  | hidReady r =>
    dsimp only
    rw [hself]
    split
    next => exact Nat.lt_succ_self _
    next => show 2 < 4; omega
  | hidReport r =>
    dsimp only
    split
    next =>
      dsimp only
      rw [hself]
      show 1 < 3
      omega
    next =>
      rw [hself]
      exact Nat.lt_succ_self _
  | remoteWakeup r | hidActivity r | pending r | pendingReport r =>
    dsimp only
    rw [hself]
    exact Nat.lt_succ_self _

theorem allSteps_replicate {op : RaceOp ι} (hentry : op.entry = none) (n : Nat) :
    AllSteps (raceExec cfg) TakesTurns w (List.replicate n op) := by
  induction n generalizing w with
  | zero => trivial
  | succ n ih => exact ⟨fun h => absurd hentry h, ih⟩

/-- A handler that is left alone returns, and the others stay where they are. -/
theorem handle_returns (cfg : Config) (i : ι) : ∀ (n : Nat) (w : RaceWorld ι),
    (w.handler i).work ≤ n →
      let v := runSteps (raceExec cfg) w (List.replicate n (.handle i))
      v.handler i = .idle ∧ v.poll = w.poll ∧ ∀ j, j ≠ i → v.handler j = w.handler j := by
  intro n
  induction n with
  | zero =>
    intro w hn
    refine ⟨?_, rfl, fun _ _ => rfl⟩
    show w.handler i = .idle
    cases hpc : w.handler i with
    | idle => rfl
    | usbReady | remoteWakeup | hidReady | hidReport | hidActivity | pending | pendingReport =>
      rw [hpc] at hn
      exact absurd hn (Nat.not_succ_le_zero _)
  | succ n ih =>
    intro w hn
    have hothers := handleStep_others cfg i w
    have hwork : ((handleStep cfg i w).handler i).work ≤ n := by
      by_cases hpc : w.handler i = .idle
      · rw [handleStep_idle hpc, hpc]
        exact Nat.zero_le n
      · have := handleStep_work cfg hpc
        omega
    obtain ⟨hidle, hpoll, hkept⟩ := ih (handleStep cfg i w) hwork
    exact ⟨hidle, hpoll.trans hothers.1, fun j hj => (hkept j hj).trans (hothers.2 j hj)⟩

/-- So does the poll. -/
theorem poll_returns [Fintype ι] (cfg : Config) : ∀ (n : Nat) (w : RaceWorld ι),
    (∀ k, (w.mailbox k).Orderly) → w.poll.work w.usb.usb.pendingCount ≤ n →
      let v := runSteps (raceExec cfg) w (List.replicate n .poll)
      v.poll = .idle ∧ v.handler = w.handler := by
  intro n
  induction n with
  | zero =>
    intro w ho hn
    refine ⟨?_, rfl⟩
    show w.poll = .idle
    cases hpc : w.poll with
    | idle => rfl
    | usbReady | loop | pendingReport | hidReady | pending | hidReport | hidActivity | clear =>
      rw [hpc] at hn
      exact absurd hn (Nat.not_succ_le_zero _)
  | succ n ih =>
    intro w ho hn
    have hwork : (pollStep cfg w).poll.work (pollStep cfg w).usb.usb.pendingCount ≤ n := by
      by_cases hpc : w.poll = .idle
      · rw [pollStep_idle hpc, hpc]
        exact Nat.zero_le n
      · have := pollStep_work cfg ho hpc
        omega
    -- the slots stay in order, which the bound rests on
    have ho' : ∀ k, ((pollStep cfg w).mailbox k).Orderly :=
      fun k => ((raceExec_step cfg w .poll).mailbox k).orderly (ho k)
    obtain ⟨hidle, hkept⟩ := ih (pollStep cfg w) ho' hwork
    exact ⟨hidle, hkept.trans (pollStep_handler cfg w)⟩

/-- An entry that is made with every task outside returns, whichever task makes it. -/
theorem entry_returns [Fintype ι] (cfg : Config) (i : ι) (ho : ∀ k, (w.mailbox k).Orderly)
    (hout : w.Outside) (e : UsbOp) :
    ∃ ops, ops.filterMap RaceOp.entry = [e] ∧ AllSteps (raceExec cfg) TakesTurns w ops ∧
      (runSteps (raceExec cfg) w ops).Outside := by
  -- the steps of the task behind its call are no entries
  have hcalls : ∀ (call op : RaceOp ι) (n : Nat), call.entry = some e → op.entry = none →
      (call :: List.replicate n op).filterMap RaceOp.entry = [e] := by
    intro call op n hcall hop
    rw [List.filterMap_cons_some hcall, List.filterMap_eq_nil_iff.mpr fun x hx => ?_]
    rw [List.eq_of_mem_replicate hx, hop]
  by_cases hattached : e.whileAttached
  · cases e with
    | handle r =>
      have hcall : raceExec cfg w (.callHandle i r) = w.setHandler i (.usbReady r) :=
        if_pos (hout.1 i)
      have hwork : ((w.setHandler i (.usbReady r)).handler i).work ≤ 6 := by
        rw [setHandler_handler]
        exact Nat.le_refl _
      obtain ⟨hidle, hpoll, hkept⟩ := handle_returns cfg i 6 _ hwork
      refine ⟨.callHandle i r :: List.replicate 6 (.handle i), hcalls _ _ 6 rfl rfl,
        ⟨fun _ => hout, allSteps_replicate rfl 6⟩, ?_⟩
      rw [runSteps_cons, hcall]
      refine ⟨fun j => ?_, hpoll.trans hout.2⟩
      by_cases hj : j = i
      · rw [hj, hidle]
      · rw [hkept j hj, setHandler_handler_ne w hj, hout.1 j]
    | poll =>
      have hcall : raceExec cfg w .callPoll = { w with poll := .usbReady } := if_pos hout.2
      have ho' : ∀ k, ((raceExec cfg w .callPoll).mailbox k).Orderly :=
        fun k => ((raceExec_step cfg w .callPoll).mailbox k).orderly (ho k)
      obtain ⟨n, hn⟩ : ∃ n, n = (raceExec cfg w .callPoll).poll.work
          (raceExec cfg w .callPoll).usb.usb.pendingCount := ⟨_, rfl⟩
      obtain ⟨hidle, hkept⟩ := poll_returns cfg n _ ho' hn.ge
      refine ⟨.callPoll :: List.replicate n .poll, hcalls _ _ n rfl rfl,
        ⟨fun _ => hout, allSteps_replicate rfl n⟩, ?_⟩
      rw [runSteps_cons]
      refine ⟨fun j => ?_, hidle⟩
      rw [hkept, hcall]
      exact hout.1 j
    | onSuspend | onResume | event => exact absurd hattached id
  · exact ⟨[.bus e hattached], rfl, ⟨fun _ => hout, trivial⟩, hout⟩

/-- **The entries as single steps are the tasks that take turns.** What the module
comes to, with all tasks outside, in runs in which every entry is made with all of
them outside, is what it comes to by entries that are one step each. -/
theorem race_reaches_iff [Fintype ι] (i : ι) (cfg : Config) (app : AppState) (env : Answers)
    (u : UsbWorld) :
    (∃ ops : List (RaceOp ι), AllSteps (raceExec cfg) TakesTurns (raceBoot app env) ops ∧
        (runSteps (raceExec cfg) (raceBoot app env) ops).Outside ∧
        (runSteps (raceExec cfg) (raceBoot app env) ops).usb = u) ↔
      ∃ es, u = runSteps (exec cfg) (bootWorld app env) es := by
  constructor
  · rintro ⟨ops, hturns, hout, rfl⟩
    exact ⟨_, (Solo.run ops (solo_boot cfg app env) hturns).outside hout⟩
  · rintro ⟨es, rfl⟩
    -- by induction on the entries, each of which returns
    have hcover : ∃ ops : List (RaceOp ι), ops.filterMap RaceOp.entry = es ∧
        AllSteps (raceExec cfg) TakesTurns (raceBoot app env) ops ∧
        (runSteps (raceExec cfg) (raceBoot app env) ops).Outside := by
      induction es using List.reverseRecOn with
      | nil => exact ⟨[], rfl, trivial, fun _ => rfl, rfl⟩
      | append_singleton es e ih =>
        obtain ⟨ops, hentries, hturns, hout⟩ := ih
        obtain ⟨more, hentry, hmore, hend⟩ := entry_returns cfg i
          (race_orderly cfg app env ops) hout e
        refine ⟨ops ++ more, ?_, ?_, ?_⟩
        · rw [List.filterMap_append, hentries, hentry]
        · exact hturns.append hmore
        · rw [runSteps, List.foldl_append]
          exact hend
    obtain ⟨ops, rfl, hturns, hout⟩ := hcover
    exact ⟨ops, hturns, hout, (Solo.run ops (solo_boot cfg app env) hturns).outside hout⟩

end Returns

/-- Two keys of two transports, with a poll between and after them. -/
def turnsRun : List (RaceOp Bool) :=
  attaching :: handing false (keyReport 4) 5 ++ polling 12
    ++ handing true (keyReport 0) 5 ++ polling 12

theorem race_takes_turns_keys :
    let env := answering [false, true, true, true, false]
    let w := runSteps (raceExec .shipped) (raceBoot (appStateInit 0) env) turnsRun
    w.usb = runSteps (exec .shipped) (bootWorld (appStateInit 0) env)
        [.event .attached, .handle (keyReport 4), .poll, .handle (keyReport 0), .poll] ∧
      w.drainedOf .keyboard = [keyReport 4, keyReport 0] := by
  intro env w
  refine ⟨(race_takes_turns .shipped (appStateInit 0) env turnsRun ?_).2 ?_, ?_⟩
  · decide +kernel
  · decide +kernel
  · decide +kernel

end CaptureKVMBridge.Usb
