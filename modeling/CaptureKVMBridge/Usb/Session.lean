import CaptureKVMBridge.Usb.Ledger

/-!
# Sessions

A host is served from its attach to its detach. `SessionEnds` says that a new
host cannot tell what the old one left behind: whatever follows, with the same
answers and the same clock, it sees the same reports and wakeup requests as a
host that is attached right after start-up.

Detaching clears nothing but the readiness. `detach_ends_session_iff` is the
exact condition for the session to end all the same: nothing was parked, and
the bus was not suspended with the permission to wake the host. Other
differences between the statics (a stale slot behind a cleared flag, a
suspension without permission, the time of the last wakeup) are invisible, which
is what the relation `SameRun` shows.
-/

namespace CaptureKVMBridge.Usb

open CaptureKVMBridge.Machine CaptureKVMBridge.Tlv

variable {cfg : Config} {w v : UsbWorld}

/-! ## What a host can see -/

/-- The transmitted reports and the wakeup requests of a log. -/
def observed (out : List UsbEvent) : List UsbEvent :=
  out.filter fun
    | .hidReport _ ok => ok
    | .remoteWakeup _ _ => true
    | .called _ _ => false

/-- What is seen of a continuation with the given answers. -/
def observe (cfg : Config) (w : UsbWorld) (env : Answers) (c : List UsbOp) : List UsbEvent :=
  observed (runSteps (exec cfg) { w with env := env, out := [] } c).out

/-- The old host leaves, a new one arrives. -/
def reattach (cfg : Config) (w : UsbWorld) : UsbWorld :=
  runSteps (exec cfg) w [.event .detached, .event .attached]

/-- No continuation tells the module after the run `w` and a reattachment from
the module after start-up and an attachment. -/
def SessionEnds (cfg : Config) (boot w : UsbWorld) : Prop :=
  ∀ env c, (∀ n, 20000 ≤ env.timer.get n) →
    observe cfg (reattach cfg w) env c = observe cfg (exec cfg boot (.event .attached)) env c

/-! ## Statics that behave alike -/

/-- The statics agree on everything that is read. -/
structure Alike (u v : UsbHs) : Prop where
  ready : u.usbReady = v.usbReady
  parked : u.parked = v.parked
  wake : (¬u.mayWake ∧ ¬v.mayWake) ∨
    (u.usbSuspended = v.usbSuspended ∧ u.remoteWakeupEnabled = v.remoteWakeupEnabled ∧
      u.lastRemoteWakeupUs = v.lastRemoteWakeupUs)

/-- Alike statics, the same answers to come, and the same log. -/
structure SameRun (w v : UsbWorld) : Prop where
  usb : Alike w.usb v.usb
  env : w.env = v.env
  out : w.out = v.out

/-- A wakeup request reads the wakeup statics only if it may be made. -/
theorem requestRemoteWakeup_same (h : SameRun w v) :
    SameRun (requestRemoteWakeupIfNeeded w) (requestRemoteWakeupIfNeeded v) := by
  obtain ⟨⟨hready, hparked, hwake⟩, henv, hout⟩ := h
  rcases hwake with ⟨hw, hv⟩ | ⟨hsus, hen, hlast⟩
  · rw [requestRemoteWakeup_idle hw, requestRemoteWakeup_idle hv]
    exact ⟨⟨hready, hparked, Or.inl ⟨hw, hv⟩⟩, henv, hout⟩
  · have hmay : w.usb.mayWake ↔ v.usb.mayWake := by rw [UsbHs.mayWake, hsus, hen]; rfl
    by_cases hw : w.usb.mayWake
    · have hv := hmay.mp hw
      by_cases ht : w.env.timer.head - w.usb.lastRemoteWakeupUs < 20000
      · rw [requestRemoteWakeup_early hw ht, requestRemoteWakeup_early hv (henv ▸ hlast ▸ ht)]
        refine ⟨⟨hready, hparked, Or.inr ⟨hsus, hen, hlast⟩⟩, ?_, hout⟩
        simp only [espTimerGetTime, henv]
      · have ht' : 20000 ≤ v.env.timer.head - v.usb.lastRemoteWakeupUs := by
          rw [← henv, ← hlast]
          omega
        rw [requestRemoteWakeup_late hw (by omega), requestRemoteWakeup_late hv ht', ← henv]
        split
        · refine ⟨⟨hready, ?_, Or.inr ⟨hsus, rfl, rfl⟩⟩, ?_, ?_⟩
          · funext k
            have hk := congrFun hparked k
            cases k <;> exact hk
          · simp only [tudRemoteWakeup, espTimerGetTime, henv]
          · simp only [tudRemoteWakeup, espTimerGetTime, henv, hout]
        · refine ⟨⟨hready, hparked, Or.inr ⟨hsus, hen, hlast⟩⟩, ?_, ?_⟩
          · simp only [tudRemoteWakeup, espTimerGetTime, henv]
          · simp only [tudRemoteWakeup, espTimerGetTime, henv, hout]
    · rw [requestRemoteWakeup_idle hw, requestRemoteWakeup_idle (fun hv => hw (hmay.mpr hv))]
      exact ⟨⟨hready, hparked, Or.inr ⟨hsus, hen, hlast⟩⟩, henv, hout⟩

theorem sendReportNow_same (report : HidReport) (keyboard mouse : Bool) (h : SameRun w v) :
    SameRun (sendReportNow report keyboard mouse w).1 (sendReportNow report keyboard mouse v).1 ∧
    (sendReportNow report keyboard mouse w).2 = (sendReportNow report keyboard mouse v).2 := by
  obtain ⟨husb, henv, hout⟩ := h
  have hready : (tudHidReady w).1.env = (tudHidReady v).1.env ∧
      (tudHidReady w).1.out = (tudHidReady v).1.out := by
    simp only [tudHidReady, henv, hout, and_self]
  have hreport : (tudHidReport report (tudHidReady w).1).1.env
        = (tudHidReport report (tudHidReady v).1).1.env ∧
      (tudHidReport report (tudHidReady w).1).1.out
        = (tudHidReport report (tudHidReady v).1).1.out := by
    simp only [tudHidReport, hready, and_self]
  cases hr : w.env.hidReady.head with
  | false =>
    rw [sendReportNow_busy _ _ _ _ hr, sendReportNow_busy _ _ _ _ (henv ▸ hr)]
    exact ⟨⟨husb, hready.1, hready.2⟩, rfl⟩
  | true =>
    cases ht : w.env.hidReport.head with
    | false =>
      rw [sendReportNow_refused _ _ _ _ hr ht, sendReportNow_refused _ _ _ _ (henv ▸ hr) (henv ▸ ht)]
      exact ⟨⟨husb, hreport.1, hreport.2⟩, rfl⟩
    | true =>
      rw [sendReportNow_sent _ _ _ _ hr ht, sendReportNow_sent _ _ _ _ (henv ▸ hr) (henv ▸ ht)]
      refine ⟨⟨husb, ?_, hreport.2⟩, rfl⟩
      simp only [updateHidActivity, espTimerGetTime, hreport.1]

/-- Setting a slot to the same value keeps statics alike. -/
theorem Alike.set {u u' : UsbHs} (h : Alike u u') {f : UsbHs → UsbHs} {k : ReportKind}
    {o : Option UsbReport} (hf : SetsSlot k o f) : Alike (f u) (f u') := by
  refine ⟨by rw [hf.ready, hf.ready, h.ready], ?_, ?_⟩
  · funext j
    by_cases hj : j = k
    · rw [hj, hf.self, hf.self]
    · rw [hf.other u j hj, hf.other u' j hj, h.parked]
  · obtain ⟨hs, he, hl⟩ := hf.wake u
    obtain ⟨hs', he', hl'⟩ := hf.wake u'
    rw [UsbHs.mayWake, UsbHs.mayWake, hs, he, hl, hs', he', hl']
    exact h.wake

/-- A handler parks the same report on both sides. -/
theorem handleReport_same (report : HidReport) (keyboard mouse : Bool) {park : UsbHs → UsbHs}
    {k : ReportKind}
    {o : Option UsbReport} (hpark : SetsSlot k o park) (h : SameRun w v) :
    SameRun (handleReport (sendReportNow report keyboard mouse) park w)
      (handleReport (sendReportNow report keyboard mouse) park v) := by
  unfold handleReport
  cases hready : w.usb.usbReady with
  | false =>
    rw [if_pos rfl, if_pos (h.usb.ready ▸ hready)]
    exact h
  | true =>
    have hready' : v.usb.usbReady = true := h.usb.ready ▸ hready
    obtain ⟨hsame, hok⟩ := sendReportNow_same report keyboard mouse (requestRemoteWakeup_same h)
    have hno : ¬v.usb.usbReady = false := by
      rw [hready']
      decide
    rw [if_neg Bool.true_eq_false.mp, if_neg hno]
    dsimp only
    rw [← hok]
    split
    · exact hsame
    · exact ⟨hsame.usb.set hpark, hsame.env, hsame.out⟩

/-- A drain tries the same report on both sides. -/
theorem drainPending_same {flag flag' : Bool} (hflag : flag = flag') {report report' : HidReport}
    (hreport : flag = true → report = report') (keyboard mouse : Bool) {clear : UsbHs → UsbHs}
    {k : ReportKind}
    {o : Option UsbReport} (hclear : SetsSlot k o clear) (h : SameRun w v) :
    SameRun (drainPending flag (sendReportNow report keyboard mouse) clear w).1
      (drainPending flag' (sendReportNow report' keyboard mouse) clear v).1 ∧
    (drainPending flag (sendReportNow report keyboard mouse) clear w).2
      = (drainPending flag' (sendReportNow report' keyboard mouse) clear v).2 := by
  subst hflag
  unfold drainPending
  cases flag with
  | false => exact ⟨h, rfl⟩
  | true =>
    obtain rfl := hreport rfl
    obtain ⟨hsame, hok⟩ := sendReportNow_same report keyboard mouse h
    dsimp only
    rw [if_pos rfl, if_pos rfl, ← hok]
    split
    · exact ⟨⟨hsame.usb.set hclear, hsame.env, hsame.out⟩, rfl⟩
    · exact ⟨hsame, rfl⟩

/-- Alike statics have the same flags, and the same contents behind set flags. -/
theorem Alike.slots {u u' : UsbHs} (h : Alike u u') :
    (u.pendingKeyboardReport = u'.pendingKeyboardReport ∧
      (u.pendingKeyboardReport = true → u.pendingKeyboard = u'.pendingKeyboard)) ∧
    (u.pendingMouseReport = u'.pendingMouseReport ∧
      (u.pendingMouseReport = true → u.pendingMouse = u'.pendingMouse)) ∧
    (u.pendingMouseAbsReport = u'.pendingMouseAbsReport ∧
      (u.pendingMouseAbsReport = true → u.pendingMouseAbs = u'.pendingMouseAbs)) := by
  have hslot : ∀ {α : Type} (f f' : Bool) (c c' : α) (g : α → UsbReport), Function.Injective g →
      (if f then some (g c) else none) = (if f' then some (g c') else none) →
      f = f' ∧ (f = true → c = c') := by
    intro α f f' c c' g hg heq
    cases f <;> cases f'
    · exact ⟨rfl, fun hf => by cases hf⟩
    · cases heq
    · cases heq
    · exact ⟨rfl, fun _ => hg (Option.some.inj heq)⟩
  refine ⟨hslot _ _ _ _ UsbReport.keyboard ?_ (congrFun h.parked .keyboard),
    hslot _ _ _ _ UsbReport.mouse ?_ (congrFun h.parked .mouse),
    hslot _ _ _ _ UsbReport.mouseAbs ?_ (congrFun h.parked .mouseAbs)⟩
  · exact fun a b hab => UsbReport.keyboard.inj hab
  · exact fun a b hab => UsbReport.mouse.inj hab
  · exact fun a b hab => UsbReport.mouseAbs.inj hab

theorem drainKeyboard_same (h : SameRun w v) :
    SameRun (drainKeyboard w).1 (drainKeyboard v).1 ∧
      (drainKeyboard w).2 = (drainKeyboard v).2 := by
  obtain ⟨⟨hflag, hreport⟩, -, -⟩ := h.usb.slots
  exact drainPending_same hflag (fun hf => by rw [hreport hf]) true false clearKeyboard_sets h

theorem drainMouse_same (h : SameRun w v) :
    SameRun (drainMouse w).1 (drainMouse v).1 ∧
      (drainMouse w).2 = (drainMouse v).2 := by
  obtain ⟨-, ⟨hflag, hreport⟩, -⟩ := h.usb.slots
  exact drainPending_same hflag (fun hf => by rw [hreport hf]) false true clearMouse_sets h

theorem drainMouseAbs_same (cfg : Config) (h : SameRun w v) :
    SameRun (drainMouseAbs cfg w).1 (drainMouseAbs cfg v).1 ∧
      (drainMouseAbs cfg w).2 = (drainMouseAbs cfg v).2 := by
  obtain ⟨-, -, ⟨hflag, hreport⟩⟩ := h.usb.slots
  exact drainPending_same hflag (fun hf => by rw [hreport hf]) false true clearMouseAbs_sets h

theorem pollBody_same (cfg : Config) (h : SameRun w v) :
    SameRun (pollBody cfg w).1 (pollBody cfg v).1 ∧ (pollBody cfg w).2 = (pollBody cfg v).2 := by
  obtain ⟨hk, hkok⟩ := drainKeyboard_same h
  obtain ⟨hm, hmok⟩ := drainMouse_same hk
  obtain ⟨ha, haok⟩ := drainMouseAbs_same cfg hm
  unfold pollBody
  dsimp only
  rw [← hkok]
  split
  · next hprog => exact ⟨hk, hkok⟩
  · rw [← hmok]
    split
    · exact ⟨hm, hmok⟩
    · exact ⟨ha, haok⟩

theorem pollLoop_same : ∀ (fuel : Nat) {w v : UsbWorld}, SameRun w v →
    SameRun (pollLoop cfg fuel w) (pollLoop cfg fuel v) := by
  intro fuel
  induction fuel with
  | zero => exact fun h => h
  | succ fuel ih =>
    intro w v h
    have hready : SameRun (tudHidReady w).1 (tudHidReady v).1 :=
      ⟨h.usb, by simp only [tudHidReady, h.env], h.out⟩
    have hok : (tudHidReady w).2 = (tudHidReady v).2 := by simp only [tudHidReady, h.env]
    obtain ⟨hbody, hprog⟩ := pollBody_same cfg hready
    unfold pollLoop
    dsimp only
    rw [← hok]
    split
    · exact hready
    · rw [← hprog]
      split
      · exact ih hbody
      · exact hbody

/-- **Any entry keeps two modules alike.** -/
theorem exec_same (cfg : Config) {w v : UsbWorld} (h : SameRun w v) (op : UsbOp) :
    SameRun (exec cfg w op) (exec cfg v op) := by
  have hcalled : SameRun { w with out := w.out ++ [.called op w.usb.usbReady] }
      { v with out := v.out ++ [.called op v.usb.usbReady] } :=
    ⟨h.usb, h.env, by rw [h.out, h.usb.ready]⟩
  cases op with
  | handle r =>
    rw [exec_handle, exec_handle]
    exact handleReport_same _ _ _ (park_sets r) hcalled
  | poll =>
    have hcount : w.usb.pendingCount = v.usb.pendingCount := by
      obtain ⟨⟨hk, -⟩, ⟨hm, -⟩, ⟨ha, -⟩⟩ := h.usb.slots
      rw [UsbHs.pendingCount, hk, hm, ha]
      rfl
    unfold exec UsbOp.call usbHsPoll
    dsimp only
    rw [← h.usb.ready, ← hcount]
    split
    · exact h.usb.ready ▸ hcalled
    · exact pollLoop_same _ (h.usb.ready ▸ hcalled)
  | onSuspend enabled =>
    exact ⟨⟨h.usb.ready, h.usb.parked, Or.inr ⟨rfl, rfl, rfl⟩⟩, hcalled.env, hcalled.out⟩
  | onResume =>
    exact ⟨⟨h.usb.ready, h.usb.parked, Or.inr ⟨rfl, rfl, rfl⟩⟩, hcalled.env, hcalled.out⟩
  | event id =>
    cases id with
    | attached => exact ⟨⟨rfl, h.usb.parked, h.usb.wake⟩, hcalled.env, hcalled.out⟩
    | detached => exact ⟨⟨rfl, h.usb.parked, h.usb.wake⟩, hcalled.env, hcalled.out⟩
    | other => exact hcalled

/-! ## What a new host can learn -/

/-- Answers that are always yes, at one time. -/
def eager (now : Int) : Answers where
  hidReady := Stream'.const true
  hidReport := Stream'.const true
  remoteWakeup := Stream'.const true
  timer := Stream'.const now

/-- A drain of an occupied slot sends when it can. -/
theorem drainPending_sends {flag : Bool} (hflag : flag = true) (report : HidReport)
    (keyboard mouse : Bool) (clear : UsbHs → UsbHs) (hs : w.sendsNow = true) :
    (drainPending flag (sendReportNow report keyboard mouse) clear w).2 = true ∧
    (drainPending flag (sendReportNow report keyboard mouse) clear w).1.out
      = w.out ++ [.hidReport report true] := by
  unfold drainPending
  dsimp only
  rw [if_pos hflag, sendReportNow_ok, if_pos hs]
  exact ⟨rfl, sendReportNow_out_ok report keyboard mouse w hs⟩

/-- With something parked, a round of the poll loop sends when it can. -/
theorem pollBody_sends (cfg : Config) (hs : w.sendsNow = true) (hp : ∃ k, w.usb.parked k ≠ none) :
    ∃ h, (pollBody cfg w).1.out = w.out ++ [.hidReport h true] := by
  unfold pollBody
  dsimp only
  cases hk : w.usb.pendingKeyboardReport with
  | true =>
    obtain ⟨hok, hout⟩ := drainPending_sends hk (.keyboard w.usb.pendingKeyboard) true false
      UsbHs.clearKeyboard hs
    rw [if_pos (show (drainKeyboard w).2 = true from hok)]
    exact ⟨_, hout⟩
  | false =>
    have hdk : drainKeyboard w = (w, false) := by rw [drainKeyboard, hk]; rfl
    rw [hdk, if_neg Bool.false_ne_true]
    cases hm : w.usb.pendingMouseReport with
    | true =>
      obtain ⟨hok, hout⟩ := drainPending_sends hm
        (.mouseRel (hidMouseReport w.usb.pendingMouse)) false true UsbHs.clearMouse hs
      rw [if_pos (show (drainMouse w).2 = true from hok)]
      exact ⟨_, hout⟩
    | false =>
      have hdm : drainMouse w = (w, false) := by rw [drainMouse, hm]; rfl
      rw [hdm, if_neg Bool.false_ne_true]
      have ha : w.usb.pendingMouseAbsReport = true := by
        obtain ⟨k, hne⟩ := hp
        cases k with
        | keyboard => exact absurd (by rw [UsbHs.parked, hk]; rfl) hne
        | mouse => exact absurd (by rw [UsbHs.parked, hm]; rfl) hne
        | mouseAbs =>
          by_contra hfalse
          exact hne (if_neg hfalse)
      obtain ⟨-, hout⟩ := drainPending_sends ha
        (.mouseAbs (hidAbsMouseReport cfg w.usb.pendingMouseAbs)) false true UsbHs.clearMouseAbs hs
      exact ⟨_, hout⟩

/-- A report parked by the old session goes to the new host. -/
theorem observe_poll (cfg : Config) (hp : ∃ k, w.usb.parked k ≠ none) :
    observe cfg (reattach cfg w) (eager 20000) [.poll] ≠ [] := by
  set w₀ : UsbWorld :=
    { reattach cfg w with env := eager 20000, out := [.called .poll true] } with hw₀
  have hrun : (runSteps (exec cfg) { reattach cfg w with env := eager 20000, out := [] } [.poll])
      = pollLoop cfg (w₀.usb.pendingCount + 1) w₀ := rfl
  obtain ⟨h, hout⟩ := pollBody_sends cfg (w := (tudHidReady w₀).1) rfl hp
  have hloop : ∃ es, (pollLoop cfg (w₀.usb.pendingCount + 1) w₀).out
      = [.called .poll true, .hidReport h true] ++ es := by
    have hstep : pollLoop cfg (w₀.usb.pendingCount + 1) w₀
        = if (pollBody cfg (tudHidReady w₀).1).2 then
            pollLoop cfg w₀.usb.pendingCount (pollBody cfg (tudHidReady w₀).1).1
          else (pollBody cfg (tudHidReady w₀).1).1 := rfl
    rw [hstep]
    split
    · obtain ⟨es, hes, -⟩ := (pollLoop_later cfg w₀.usb.pendingCount
        (pollBody cfg (tudHidReady w₀).1).1).out
      exact ⟨es, by rw [hes, hout]; rfl⟩
    · exact ⟨[], by rw [hout]; rfl⟩
  obtain ⟨es, hes⟩ := hloop
  unfold observe
  rw [hrun, hes]
  exact List.cons_ne_nil _ _

/-- A wakeup permission from the old session wakes the new host. -/
theorem observe_wakeup (cfg : Config) (hmay : w.usb.mayWake) (now : Int)
    (hnow : 20000 ≤ now - w.usb.lastRemoteWakeupUs) (r : UsbReport) :
    ∃ es, observe cfg (reattach cfg w) (eager now) [.handle r]
      = .remoteWakeup now true :: es := by
  set w₀ : UsbWorld :=
    { reattach cfg w with env := eager now, out := [.called (.handle r) true] } with hw₀
  have hrun : runSteps (exec cfg) { reattach cfg w with env := eager now, out := [] } [.handle r]
      = handleReport (sendReportNow (r.toHid cfg) (r.kind == .keyboard) (r.kind != .keyboard))
          r.park w₀ := exec_handle cfg _ r
  obtain ⟨es, hout, -⟩ := handleReport_spec (r.toHid cfg) (r.kind == .keyboard)
    (r.kind != .keyboard) r.park (w := w₀) rfl
  have hwake : (requestRemoteWakeupIfNeeded w₀).out
      = [.called (.handle r) true, .remoteWakeup now true] :=
    requestRemoteWakeup_late_out (w := w₀) hmay hnow
  refine ⟨observed es, ?_⟩
  unfold observe
  rw [hrun, hout, hwake]
  rfl

/-- **When a detach ends the session**: if and only if nothing is parked at the
detach, and the bus is not suspended with the permission to wake the host. -/
theorem detach_ends_session_iff (cfg : Config) (app : AppState) (env₀ : Answers)
    (r : List UsbOp) :
    let w := runSteps (exec cfg) (bootWorld app env₀) r
    SessionEnds cfg (bootWorld app env₀) w ↔
      (∀ k, w.usb.parked k = none) ∧ ¬w.usb.mayWake := by
  intro w
  constructor
  · intro hends
    constructor
    · intro k
      by_contra hne
      -- one poll of the new host shows what is parked
      refine observe_poll cfg (w := w) ⟨k, hne⟩ ?_
      rw [hends (eager 20000) [.poll] fun _ => le_rfl]
      rfl
    · -- the clock of the new session is past the rate limit of the old one
      intro hmay
      set now : Int := max 20000 (w.usb.lastRemoteWakeupUs + 20000) with hnow
      obtain ⟨es, hes⟩ := observe_wakeup cfg hmay now (by omega)
        (.keyboard ⟨0, 0, Vector.replicate 6 0⟩)
      rw [hends (eager now) _ fun _ => le_max_left _ _] at hes
      exact absurd (List.cons.inj hes).1 (by simp)
  · intro hclean env c _
    obtain ⟨hparked, hmay⟩ := hclean
    have halike : Alike { w.usb with usbReady := true } { UsbHs.boot with usbReady := true } := by
      refine ⟨rfl, ?_, Or.inl ⟨hmay, fun h => Bool.false_ne_true h.1⟩⟩
      funext k
      have hk := hparked k
      cases k <;> exact hk
    have hsame : SameRun { reattach cfg w with env := env, out := [] }
        { exec cfg (bootWorld app env₀) (.event .attached) with env := env, out := [] } :=
      ⟨halike, rfl, rfl⟩
    have hrun := runSteps_related (R := SameRun) (fun _ _ op h => exec_same cfg h op) hsame c
    exact congrArg observed hrun.out

/-- **The old session reaches the new host.** A key press parked before the
detach is sent to the host attached after it; and with the permission that the
old host gave, the first report to the new host is preceded by a wakeup. -/
theorem detach_keeps_session :
    let boot := bootWorld (appStateInit 0) busyAlways
    ¬SessionEnds Config.shipped boot
      (runSteps (exec Config.shipped) boot
        [.event .attached, .handle (keyReport 4)]) ∧
    ¬SessionEnds Config.shipped boot
      (runSteps (exec Config.shipped) boot [.event .attached, .onSuspend true]) := by
  intro boot
  constructor
  · intro hends
    have h := hends (eager 20000) [.poll] fun _ => le_rfl
    exact absurd h (by decide)
  · intro hends
    have h := hends (eager 20000) [.handle (keyReport 4)] fun _ => le_rfl
    exact absurd h (by decide)

end CaptureKVMBridge.Usb
