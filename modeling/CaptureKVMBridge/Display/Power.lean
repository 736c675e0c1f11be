import CaptureKVMBridge.Display.Ui
import CaptureKVMBridge.Machine.Register

/-!
# When the display sleeps

Two things decide over the backlight: the time of the last event, which comes
with the snapshot, and the time of the last touch, which the update finds out
for itself. `screen_of_history` says what that comes to over any number of
updates: the display is awake after one exactly if there was an event, a touch
or the start less than 30 s ago, and what it shows is the last snapshot that got
the lock.

All rests on `displayUiUpdate_power`: an update decides once, and calls the
backlight only if it changes its mind.
-/

namespace CaptureKVMBridge.Display

open CaptureKVMBridge.Machine

variable {w : DisplayWorld} {u : Update}

/-! ## One update -/

/-- The time of the last touch after the touch panel was polled. -/
def touchAfter (w : DisplayWorld) (u : Update) : Int :=
  if w.ui.touchHandle = true ∧ u.touch.Touches then u.now else w.ui.lastTouchTimestampUs

/-- The display should be awake after the update. -/
def wantsAwake (w : DisplayWorld) (u : Update) : Bool :=
  let latest := latestActivity u.snapshot (touchAfter w u)
  decide (latest ≤ 0 ∨ u.now - latest < displaySleepTimeoutUs)

/-- The backlight is called if its state is to change. -/
def setAwake (awake : Bool) (w : DisplayWorld) : DisplayWorld :=
  if w.ui.displayAwake = awake then w
  else
    { bspDisplayBacklight awake w with ui := { w.ui with displayAwake := awake } }

theorem displayWake_eq (w : DisplayWorld) : displayWake w = setAwake true w := rfl

theorem displaySleep_eq (w : DisplayWorld) : displaySleep w = setAwake false w := rfl

@[simp] theorem setAwake_displayAwake (awake : Bool) (w : DisplayWorld) :
    (setAwake awake w).ui.displayAwake = awake := by
  unfold setAwake
  split
  next h => exact h
  next => rfl

/-- Nothing else of the statics is changed. -/
theorem setAwake_ui (awake : Bool) (w : DisplayWorld) :
    (setAwake awake w).ui = { w.ui with displayAwake := awake } := by
  unfold setAwake
  split
  next h => rw [← h]
  next => rfl

theorem setAwake_setAwake (awake : Bool) (w : DisplayWorld) :
    setAwake awake (setAwake awake w) = setAwake awake w :=
  if_pos (setAwake_displayAwake awake w)

theorem updateDisplayPowerState_eq (now latest : Int) (w : DisplayWorld) :
    updateDisplayPowerState now latest w
      = setAwake (decide (latest ≤ 0 ∨ now - latest < displaySleepTimeoutUs)) w := by
  have hpositive : 0 < displaySleepTimeoutUs := by decide
  unfold updateDisplayPowerState
  split
  next h => rw [decide_eq_true (Or.inl h), displayWake_eq]
  next h =>
    dsimp only
    by_cases hrecent : now - latest < displaySleepTimeoutUs
    · rw [if_neg (by split <;> omega), decide_eq_true (Or.inr hrecent), displayWake_eq]
    · rw [if_pos (by split <;> omega), decide_eq_false (by omega), displaySleep_eq]

/-- A touch wakes the display, and counts as the latest touch. -/
theorem pollTouchActivity_eq (u : Update) (w : DisplayWorld) :
    pollTouchActivity u.now u.touch w
      = if w.ui.touchHandle = true ∧ u.touch.Touches then
          setAwake true { w with ui := { w.ui with lastTouchTimestampUs := touchAfter w u } }
        else w := by
  unfold pollTouchActivity
  by_cases htouch : w.ui.touchHandle = true ∧ u.touch.Touches
  · obtain ⟨hhandle, hread, htouched, hpoints⟩ := id htouch
    have hafter : touchAfter w u = u.now := if_pos htouch
    rw [if_pos htouch, if_neg (by rw [hhandle]; exact Bool.noConfusion), if_neg (not_not.mpr hread),
      if_pos (by rw [htouched, decide_eq_true hpoints]; rfl), hafter]
    dsimp only
    split
    · exact displayWake_eq _
    next hawake => exact (if_pos (Bool.not_eq_false _ ▸ hawake)).symm
  · rw [if_neg htouch]
    split
    · rfl
    next hhandle =>
      split
      · rfl
      next hread =>
        refine if_neg fun h => htouch ?_
        obtain ⟨htouched, hpoints⟩ := Bool.and_eq_true_iff.mp h
        exact ⟨Bool.not_eq_false _ ▸ hhandle, not_not.mp hread, htouched,
          of_decide_eq_true hpoints⟩

/-- A display that is touched now is not to sleep now. -/
theorem wantsAwake_of_touch (h : w.ui.touchHandle = true ∧ u.touch.Touches) :
    wantsAwake w u = true := by
  have hafter : touchAfter w u = u.now := if_pos h
  have hpositive : 0 < displaySleepTimeoutUs := by decide
  unfold wantsAwake latestActivity
  rw [hafter, decide_eq_true_eq]
  split <;> omega

/-- **An update decides once.** It notes a touch, sets the backlight to what it
wants, and shows the snapshot if it gets the lock. -/
theorem displayUiUpdate_power (hdisplay : w.ui.display = true) (u : Update) :
    displayUiUpdate w u
      = let w' := setAwake (wantsAwake w u)
          { w with ui := { w.ui with lastTouchTimestampUs := touchAfter w u } }
        if u.lock then { w' with ui := showSnapshot u.snapshot w'.ui } else w' := by
  have hpower : updateDisplayPowerState u.now
        (latestActivity u.snapshot (pollTouchActivity u.now u.touch w).ui.lastTouchTimestampUs)
        (pollTouchActivity u.now u.touch w)
      = setAwake (wantsAwake w u)
          { w with ui := { w.ui with lastTouchTimestampUs := touchAfter w u } } := by
    rw [updateDisplayPowerState_eq, pollTouchActivity_eq]
    by_cases htouch : w.ui.touchHandle = true ∧ u.touch.Touches
    · -- awake because of the touch, and not put to sleep again
      have hwants := wantsAwake_of_touch htouch
      rw [if_pos htouch, setAwake_ui, hwants]
      have hdecide : decide (latestActivity u.snapshot (touchAfter w u) ≤ 0 ∨
          u.now - latestActivity u.snapshot (touchAfter w u) < displaySleepTimeoutUs) = true := hwants
      dsimp only
      rw [hdecide, setAwake_setAwake]
    · have hafter : touchAfter w u = w.ui.lastTouchTimestampUs := if_neg htouch
      rw [if_neg htouch, hafter]
      unfold wantsAwake
      rw [hafter]
  unfold displayUiUpdate
  rw [if_neg (by rw [hdisplay]; exact Bool.noConfusion)]
  dsimp only
  rw [hpower]

/-! ## What the screen shows -/

/-- What an update writes to the register of the last touch. -/
def Update.touches (handle : Bool) (u : Update) : Option Int :=
  if handle = true ∧ u.touch.Touches then some u.now else none

/-- What is on the screen: the labels. -/
def DisplayUi.labels (ui : DisplayUi) :
    Option String × Option String × Option LvColor × Option LvColor × Option LvColor :=
  (ui.stateLabel, ui.sourceLabel, ui.keyboardLabel, ui.mouseLabel, ui.micLabel)

/-- The labels that show a snapshot. -/
def snapshotLabels (s : AppStatusSnapshot) :
    Option String × Option String × Option LvColor × Option LvColor × Option LvColor :=
  let color := fun active : Bool => if active then LvColor.green else .white
  (some ("USB: " ++ stateToString s.hsState), some ("Last input: " ++ sourceToString s.lastSource),
    some (color s.hsKeyboardActive), some (color s.hsMouseActive),
    some (color s.hsMicrophoneActive))

/-- A display after a start that found everything it needs. -/
structure Started (handle : Bool) (w : DisplayWorld) : Prop where
  display : w.ui.display = true
  handle : w.ui.touchHandle = handle
  labels : ∃ a b c d e, w.ui.labels = (some a, some b, some c, some d, some e)

theorem showSnapshot_labels (s : AppStatusSnapshot) (ui : DisplayUi)
    (h : ∃ a b c d e, ui.labels = (some a, some b, some c, some d, some e)) :
    (showSnapshot s ui).labels = snapshotLabels s := by
  obtain ⟨a, b, c, d, e, hlabels⟩ := h
  obtain ⟨h₁, h₂, h₃, h₄, h₅⟩ : ui.stateLabel = some a ∧ ui.sourceLabel = some b ∧
      ui.keyboardLabel = some c ∧ ui.mouseLabel = some d ∧ ui.micLabel = some e := by
    simpa [DisplayUi.labels] using hlabels
  simp only [DisplayUi.labels, showSnapshot, setFeatureStyle, snapshotLabels, h₁, h₂, h₃, h₄, h₅,
    Option.map_some, stateText_eq, sourceText_eq]

/-- What one update does to a started display. -/
theorem Started.update {handle : Bool} (h : Started handle w) (u : Update) :
    Started handle (displayUiUpdate w u) ∧
    (displayUiUpdate w u).ui.lastTouchTimestampUs
      = (u.touches handle).getD w.ui.lastTouchTimestampUs ∧
    (displayUiUpdate w u).ui.displayAwake = wantsAwake w u ∧
    (displayUiUpdate w u).ui.labels
      = if u.lock then snapshotLabels u.snapshot else w.ui.labels := by
  have htouch : touchAfter w u = (u.touches handle).getD w.ui.lastTouchTimestampUs := by
    unfold touchAfter Update.touches
    rw [h.handle]
    split <;> rfl
  have hui : (setAwake (wantsAwake w u)
      { w with ui := { w.ui with lastTouchTimestampUs := touchAfter w u } }).ui
      = { w.ui with
          lastTouchTimestampUs := touchAfter w u
          displayAwake := wantsAwake w u } := setAwake_ui ..
  rw [displayUiUpdate_power h.display]
  dsimp only
  cases u.lock with
  | false =>
    rw [if_neg Bool.false_ne_true, if_neg Bool.false_ne_true, hui]
    exact ⟨⟨by rw [hui]; exact h.display, by rw [hui]; exact h.handle,
      by rw [hui]; exact h.labels⟩, htouch, rfl, rfl⟩
  | true =>
    rw [if_pos rfl, if_pos rfl, hui]
    have hshown := showSnapshot_labels u.snapshot { w.ui with
      lastTouchTimestampUs := touchAfter w u, displayAwake := wantsAwake w u } h.labels
    exact ⟨⟨h.display, h.handle, by rw [hshown]; exact ⟨_, _, _, _, _, rfl⟩⟩, htouch, rfl, hshown⟩

/-- The touches of a run, and what it shows, are read off the updates. -/
theorem Started.run {handle : Bool} (h : Started handle w) (us : List Update) :
    Started handle (runSteps displayUiUpdate w us) ∧
    (runSteps displayUiUpdate w us).ui.lastTouchTimestampUs
      = ((us.filterMap (Update.touches handle)).getLast?).getD w.ui.lastTouchTimestampUs ∧
    (runSteps displayUiUpdate w us).ui.labels
      = (((us.filter Update.lock).getLast?).map (fun u => snapshotLabels u.snapshot)).getD
          w.ui.labels := by
  induction us using List.reverseRecOn with
  | nil => exact ⟨h, rfl, rfl⟩
  | append_singleton us u ih =>
    obtain ⟨hstarted, htouch, hlabels⟩ := ih
    obtain ⟨hstarted', htouch', -, hlabels'⟩ := hstarted.update u
    rw [runSteps_snoc]
    refine ⟨hstarted', ?_, ?_⟩
    · rw [htouch', htouch, List.filterMap_append]
      cases htouches : u.touches handle with
      | none => simp [htouches]
      | some t => simp [htouches]
    · rw [hlabels', hlabels, List.filter_append]
      cases hlock : u.lock with
      | false => simp [hlock]
      | true => simp [hlock]

/-- **What a start can do**: there is a display already, a call fails that is
needed for one, or there is a display now. -/
theorem displayUiInit_cases (a : InitAnswers) (w : DisplayWorld) :
    (w.ui.display = true ∧ displayUiInit a w = (w, 0)) ∨
    (w.ui.display = false ∧ ∃ lvgl lcd err, err ≠ 0 ∧ displayUiInit a w
      = ({ w with ui := { w.ui with lvglInitialized := lvgl, lcdReady := lcd } }, err)) ∨
    (w.ui.display = false ∧ displayUiInit a w = displayUiStart a
      { w with ui := { w.ui with lvglInitialized := true, lcdReady := true } }) := by
  unfold displayUiInit
  cases hdisplay : w.ui.display with
  | true => exact Or.inl ⟨rfl, rfl⟩
  | false =>
    right
    rw [if_neg Bool.false_ne_true]
    split
    next h => exact Or.inl ⟨rfl, _, _, _, h.2, rfl⟩
    next =>
      split
      next h => exact Or.inl ⟨rfl, _, _, _, h.2, rfl⟩
      next =>
        dsimp only
        split
        next h => exact Or.inl ⟨rfl, _, _, _, h.2, rfl⟩
        next =>
          split
          · exact Or.inl ⟨rfl, _, _, _, by decide, rfl⟩
          · exact Or.inr ⟨rfl, rfl⟩

/-- A start that returns `ESP_OK` for a display that was not there. -/
theorem displayUiInit_started {a : InitAnswers} (hnone : w.ui.display = false)
    (hok : (displayUiInit a w).2 = 0) :
    Started (w.ui.touchHandle || decide (a.touchNew = 0)) (displayUiInit a w).1 ∧
    (displayUiInit a w).1.ui.lastTouchTimestampUs = a.now ∧
    (displayUiInit a w).1.ui.labels
      = (some "USB: -", some "Last input: -", some .white, some .white, some .white) := by
  rcases displayUiInit_cases a w with ⟨hdisplay, -⟩ | ⟨-, _, _, err, herr, heq⟩ | ⟨-, heq⟩
  · rw [hnone] at hdisplay
    cases hdisplay
  · rw [heq] at hok
    exact absurd hok herr
  · rw [heq] at hok ⊢
    unfold displayUiStart at hok ⊢
    dsimp only at hok ⊢
    split at hok
    next => exact absurd (show espErrTimeout = 0 from hok) (by decide)
    next hlock =>
      rw [if_neg hlock]
      exact ⟨⟨rfl, rfl, ⟨_, _, _, _, _, rfl⟩⟩, rfl, rfl⟩

/-- What an update wants, by the times alone. -/
theorem wantsAwake_iff (hpositive : 0 < touchAfter w u) :
    wantsAwake w u = true ↔
      u.now - u.snapshot.lastEventTimestampUs < displaySleepTimeoutUs ∨
      u.now - touchAfter w u < displaySleepTimeoutUs := by
  unfold wantsAwake latestActivity
  rw [decide_eq_true_eq]
  split <;> omega

theorem touches_sublist (handle : Bool) (us : List Update) :
    (us.filterMap (Update.touches handle)).Sublist (us.map Update.now) := by
  induction us with
  | nil => exact List.Sublist.refl _
  | cons u us ih =>
    rw [List.filterMap_cons, List.map_cons]
    unfold Update.touches
    split
    next h =>
      split at h
      · cases h
      · exact ih.cons _
    next t h =>
      split at h
      · cases h
        exact ih.cons_cons _
      · cases h

/-- **What is on the screen.** For any updates after a start of the display that
succeeds, under a clock that is positive and does not go back: after the last
update the display is awake exactly if less than 30 s ago there was the event
of its snapshot, a touch seen by some update, or the start; and the labels show
the snapshot of the last update that got the lock, or what the start put there. -/
theorem screen_of_history (a : InitAnswers) (w₀ : DisplayWorld) (hnone : w₀.ui.display = false)
    (hok : (displayUiInit a w₀).2 = 0) (us : List Update) (u : Update) (hpositive : 0 < a.now)
    (hclock : (a.now :: (us ++ [u]).map Update.now).Pairwise (· ≤ ·)) :
    let touched := (us ++ [u]).filterMap
      (Update.touches (w₀.ui.touchHandle || decide (a.touchNew = 0)))
    let ui := (runSteps displayUiUpdate (displayUiInit a w₀).1 (us ++ [u])).ui
    (ui.displayAwake = true ↔
      u.now - u.snapshot.lastEventTimestampUs < displaySleepTimeoutUs ∨
      ∃ t ∈ a.now :: touched, u.now - t < displaySleepTimeoutUs) ∧
    ui.labels = ((((us ++ [u]).filter Update.lock).getLast?).map
      (fun v => snapshotLabels v.snapshot)).getD
        (some "USB: -", some "Last input: -", some .white, some .white, some .white) := by
  intro touched ui
  obtain ⟨hstarted, hstart, hlabels₀⟩ := displayUiInit_started hnone hok
  obtain ⟨-, htouch, hlabels⟩ := hstarted.run (us ++ [u])
  obtain ⟨hbefore, -, -⟩ := hstarted.run us
  rw [hlabels₀] at hlabels
  refine ⟨?_, hlabels⟩
  have hordered : (a.now :: touched).Pairwise (· ≤ ·) :=
    hclock.sublist ((touches_sublist _ _).cons_cons a.now)
  set w := runSteps displayUiUpdate (displayUiInit a w₀).1 us
  have hawake : ui.displayAwake = wantsAwake w u := by
    show (runSteps displayUiUpdate _ (us ++ [u])).ui.displayAwake = _
    rw [runSteps_snoc]
    exact (hbefore.update u).2.2.1
  -- the last touch, or the start, is what the update compares with
  have hlast : (a.now :: touched).getLast? = some (touchAfter w u) := by
    have hafter : touchAfter w u = touched.getLast?.getD a.now := by
      rw [← hstart, ← htouch, runSteps_snoc, displayUiUpdate_power hbefore.display]
      dsimp only
      split
      · rw [setAwake_ui]
        rfl
      · rw [setAwake_ui]
    rw [hafter, List.getLast?_cons]
  have hafter_pos : 0 < touchAfter w u := by
    have hle := le_getLast hordered (List.mem_cons_self ..) hlast
    omega
  rw [hawake, wantsAwake_iff hafter_pos, ← getLast_recent_iff hordered]
  constructor
  · intro h
    exact h.imp id fun hrecent => ⟨_, hlast, hrecent⟩
  · intro h
    refine h.imp id fun hrecent => ?_
    obtain ⟨last, hlast', hrecent⟩ := hrecent
    rw [hlast] at hlast'
    cases hlast'
    exact hrecent

/-- A start, an update after 10 s that sees a touch but gets no lock, and one
more after 35 s: the touch keeps the display awake, and the labels follow. -/
theorem screen_of_history_touched :
    let a : InitAnswers := ⟨0, 0, 0, true, 0, 1000000, true⟩
    let w₀ : DisplayWorld := ⟨DisplayUi.boot, Stream'.const 0, []⟩
    let s : AppStatusSnapshot := ⟨.mounted, true, false, false, 1, .uart, 900000⟩
    let ui := (runSteps displayUiUpdate (displayUiInit a w₀).1
      ([⟨s, 10000000, ⟨0, true, 1⟩, false⟩] ++ [⟨s, 35000000, ⟨0, false, 0⟩, true⟩])).ui
    ui.displayAwake = true ∧ ui.labels = snapshotLabels s := by
  intro a w₀ s ui
  obtain ⟨hawake, hlabels⟩ := screen_of_history a w₀ rfl rfl
    [⟨s, 10000000, ⟨0, true, 1⟩, false⟩] ⟨s, 35000000, ⟨0, false, 0⟩, true⟩ (by decide) (by decide)
  exact ⟨hawake.mpr (Or.inr ⟨10000000, by decide, by decide⟩), hlabels⟩

end CaptureKVMBridge.Display
