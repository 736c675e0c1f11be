import CaptureKVMBridge.Usb.Ledger

/-!
# Where transmitted reports come from

Every report that `tud_hid_report` takes is one that a handler of its kind was
given earlier while the device was ready, converted as the kind converts, and
no submission is transmitted twice. This holds in every run from start-up, with
suspends, detaches and any pattern of answers (`reports_provenance`).

`Converts` is what the conversions are for, field by field; `toHid_converts` says
that those of the source do that.
-/

namespace CaptureKVMBridge.Usb

open CaptureKVMBridge.Machine CaptureKVMBridge.Tlv

variable {cfg : Config} {k : ReportKind} {e : UsbEvent} {h : HidReport}

/-! ## The conversions -/

/-- A keyboard report goes out as it is. -/
structure ConvertsKeyboard (report sent : UsbKeyboardReport) : Prop where
  modifiers : sent.modifiers = report.modifiers
  reserved : sent.reserved = report.reserved
  keycodes : sent.keycodes = report.keycodes

/-- A relative report goes out with its five buttons, and its deltas as they are. -/
structure ConvertsMouse (report : UsbMouseReport) (sent : HidMouseReport) : Prop where
  buttons : sent.buttons = report.buttons &&& 0x1F
  x : sent.x = report.x
  y : sent.y = report.y
  wheel : sent.wheel = report.wheel
  pan : sent.pan = report.pan

/-- An absolute report goes out with its five buttons, each coordinate scaled from
the range that is configured for its axis, and the wheels as they are. -/
structure ConvertsMouseAbs (cfg : Config) (report : UsbMouseAbsoluteReport)
    (sent : HidAbsMouseReport) : Prop where
  buttons : sent.buttons = report.buttons &&& 0x1F
  x : sent.x = scaleAbsAxis report.x.toUInt32 (UInt32.ofNat cfg.appAbsMouseMaxX)
  y : sent.y = scaleAbsAxis report.y.toUInt32 (UInt32.ofNat cfg.appAbsMouseMaxY)
  wheel : sent.wheel = report.wheel
  pan : sent.pan = report.pan

/-- `h` is what has to go out for `r`: of its kind, and converted as that converts. -/
inductive Converts (cfg : Config) : (r : UsbReport) → (h : HidReport) → Prop
  | keyboard {report sent : UsbKeyboardReport} (h : ConvertsKeyboard report sent) :
      Converts cfg (.keyboard report) (.keyboard sent)
  | mouse {report : UsbMouseReport} {sent : HidMouseReport} (h : ConvertsMouse report sent) :
      Converts cfg (.mouse report) (.mouseRel sent)
  | mouseAbs {report : UsbMouseAbsoluteReport} {sent : HidAbsMouseReport}
      (h : ConvertsMouseAbs cfg report sent) : Converts cfg (.mouseAbs report) (.mouseAbs sent)

theorem hidMouseReport_converts (report : UsbMouseReport) :
    ConvertsMouse report (hidMouseReport report) := ⟨rfl, rfl, rfl, rfl, rfl⟩

theorem hidAbsMouseReport_converts (cfg : Config) (report : UsbMouseAbsoluteReport) :
    ConvertsMouseAbs cfg report (hidAbsMouseReport cfg report) := ⟨rfl, rfl, rfl, rfl, rfl⟩

/-- **The conversion of each kind does what it is for.** -/
theorem toHid_converts (cfg : Config) (r : UsbReport) : Converts cfg r (r.toHid cfg) := by
  cases r with
  | keyboard report => exact .keyboard ⟨rfl, rfl, rfl⟩
  | mouse report => exact .mouse (hidMouseReport_converts report)
  | mouseAbs report => exact .mouseAbs (hidAbsMouseReport_converts cfg report)

/-! ## The log -/

/-- The report that an entry of the log hands to `tud_hid_report`. -/
def UsbEvent.report : UsbEvent → Option HidReport
  | .hidReport h _ => some h
  | .called _ _ => none
  | .remoteWakeup _ _ => none

theorem mark_sent_iff : mark cfg k e = some (.sent h) ↔ e = .hidReport h true ∧ h.kind = k := by
  constructor
  · intro hm
    match e with
    | .called (.handle r) true =>
      rw [mark] at hm
      split at hm <;> cases hm
    | .called (.handle r) false => cases hm
    | .called .poll _ | .called (.onSuspend _) _ | .called .onResume _ | .called (.event _) _ =>
      cases hm
    | .hidReport h' true =>
      rw [mark] at hm
      split at hm
      · next hk =>
        cases hm
        exact ⟨rfl, hk⟩
      · cases hm
    | .hidReport h' false => cases hm
    | .remoteWakeup _ _ => cases hm
  · intro hsent
    obtain ⟨rfl, hk⟩ := hsent
    exact if_pos hk

theorem mark_submit_iff : mark cfg k e = some (.submit h) ↔
    ∃ r, e = .called (.handle r) true ∧ r.kind = k ∧ h = r.toHid cfg := by
  constructor
  · intro hm
    match e with
    | .called (.handle r) true =>
      rw [mark] at hm
      split at hm
      · next hk =>
        cases hm
        exact ⟨r, rfl, hk, rfl⟩
      · cases hm
    | .called (.handle r) false => cases hm
    | .called .poll _ | .called (.onSuspend _) _ | .called .onResume _ | .called (.event _) _ =>
      cases hm
    | .hidReport h' true =>
      rw [mark] at hm
      split at hm <;> cases hm
    | .hidReport h' false => cases hm
    | .remoteWakeup _ _ => cases hm
  · intro hcall
    obtain ⟨r, rfl, hk, rfl⟩ := hcall
    exact if_pos hk

/-- The kind of the report transmitted at a position of the log. -/
def kindAt (out : List UsbEvent) (i : Nat) : ReportKind :=
  ((out[i]?.bind UsbEvent.report).map HidReport.kind).getD .keyboard

theorem kindAt_sent {out : List UsbEvent} {i : Nat} (hi : out[i]? = some (.hidReport h true)) :
    kindAt out i = h.kind := by
  rw [kindAt, hi]
  rfl

/-- The books of every kind are kept along any run. -/
theorem books_run {w : UsbWorld} {L : Ledger HidReport} (hb : Books cfg k w L)
    (ops : List UsbOp) : ∃ L', Books cfg k (runSteps (exec cfg) w ops) L' := by
  refine runSteps_inv (I := fun v => ∃ L, Books cfg k v L) (fun v op h => ?_) ⟨L, hb⟩ ops
  obtain ⟨L, hb⟩ := h
  obtain ⟨L', hb', -⟩ := exec_books hb op
  exact ⟨L', hb'⟩

/-- **Provenance of HID reports.** In every run from start-up there is a map
from the positions of the transmitted reports in the log to those of earlier
handler calls, made while ready, that never takes the same call twice; and each
transmitted report is the submitted one under the conversion of its kind: the
keyboard's bytes unchanged, a mouse's buttons masked, its deltas unchanged, its
absolute coordinates scaled. -/
theorem reports_provenance (cfg : Config) (app : AppState) (env : Answers) (ops : List UsbOp) :
    let out := (runSteps (exec cfg) (bootWorld app env) ops).out
    ∃ f : Nat → Nat,
      Set.InjOn f {i | ∃ h, out[i]? = some (.hidReport h true)} ∧
      ∀ i h, out[i]? = some (.hidReport h true) →
        f i < i ∧ ∃ r, out[f i]? = some (.called (.handle r) true) ∧ r.kind = h.kind ∧
          Converts cfg r h := by
  intro out
  -- each kind has its own map
  have hkinds : ∀ k, ∃ f, Origins (mark cfg k) out f := by
    intro k
    have hparked : (bootWorld app env).usb.parked k = none := by cases k <;> rfl
    obtain ⟨L, hb⟩ := books_run (books_start cfg (k := k) rfl hparked) ops
    obtain ⟨f, -, -, hf, -⟩ := hb.tracks.provenance
    exact ⟨f, hf⟩
  choose f hf using hkinds
  have hsent : ∀ i h, out[i]? = some (.hidReport h true) →
      markAt (mark cfg h.kind) out i = some (.sent h) := by
    intro i h hi
    rw [markAt, hi, Option.bind_some, mark_sent_iff]
    exact ⟨rfl, rfl⟩
  have horigin : ∀ i h, out[i]? = some (.hidReport h true) →
      f h.kind i < i ∧ ∃ r, out[f h.kind i]? = some (.called (.handle r) true) ∧
        r.kind = h.kind ∧ Converts cfg r h := by
    intro i h hi
    obtain ⟨hlt, hat⟩ := (hf h.kind).origin i h (hsent i h hi)
    obtain ⟨e, he, hm⟩ := Option.bind_eq_some_iff.mp hat
    obtain ⟨r, rfl, hk, heq⟩ := mark_submit_iff.mp hm
    refine ⟨hlt, r, he, hk, ?_⟩
    rw [heq]
    exact toHid_converts cfg r
  -- the map for all of them asks the report at the position for its kind
  refine ⟨fun i => f (kindAt out i) i, ?_, fun i h hi => ?_⟩
  case refine_2 =>
    dsimp only
    rw [kindAt_sent hi]
    exact horigin i h hi
  intro i hat i' hat' heq
  obtain ⟨h, hi⟩ := hat
  obtain ⟨h', hi'⟩ := hat'
  dsimp only at heq
  rw [kindAt_sent hi, kindAt_sent hi'] at heq
  obtain ⟨-, r, hr, hk, -⟩ := horigin i h hi
  obtain ⟨-, r', hr', hk', -⟩ := horigin i' h' hi'
  -- one origin means one kind, and within a kind the map is injective
  rw [heq, hr'] at hr
  cases hr
  have hkind : h.kind = h'.kind := hk.symm.trans hk'
  rw [hkind] at heq
  refine (hf h'.kind).inj ⟨h, ?_⟩ ⟨h', hsent i' h' hi'⟩ heq
  rw [← hkind]
  exact hsent i h hi

end CaptureKVMBridge.Usb
