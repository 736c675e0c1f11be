import CaptureKVMBridge.Usb.Ledger

/-!
# The order of reports

While the device stays attached, reports of a kind reach the host in the order
in which they were handed in, and the host ends with the newest one. That is so
in every run in which no handler sends past an occupied slot of its own kind
(`reports_in_order`).

The handlers do not look at the slot: a report that can be sent at once is sent
at once, and an older one that is still parked goes out behind it
(`reports_out_of_order`).
-/

namespace CaptureKVMBridge.Usb

open CaptureKVMBridge.Machine CaptureKVMBridge.Tlv

/-- The entry is a handler call that can send at once, and an older report of
the kind is still parked. -/
def Overtakes (k : ReportKind) (w : UsbWorld) (op : UsbOp) : Prop :=
  submits k w op = true ∧ w.sendsNow = true ∧ w.usb.parked k ≠ none

instance (k : ReportKind) (w : UsbWorld) (op : UsbOp) : Decidable (Overtakes k w op) :=
  inferInstanceAs (Decidable (_ ∧ _ ∧ _))

/-- The books of a kind, with nothing overtaken. -/
def Orderly (cfg : Config) (k : ReportKind) (w : UsbWorld) : Prop :=
  ∃ L, Books cfg k w L ∧ L.overtaken = []

/-- Entries that do not overtake keep the books in order. -/
theorem Orderly.exec {cfg : Config} {k : ReportKind} {w : UsbWorld} (h : Orderly cfg k w)
    {op : UsbOp} (hop : ¬Overtakes k w op) : Orderly cfg k (exec cfg w op) := by
  obtain ⟨L, hb, hover⟩ := h
  obtain ⟨L', hb', ho', -⟩ := exec_books hb op
  refine ⟨L', hb', ?_⟩
  rw [ho', hover, List.nil_append]
  split
  · next hsends =>
    have hslot : w.usb.parked k = none := by
      by_contra hne
      exact hop ⟨hsends.1, hsends.2, hne⟩
    rw [hb.slot, hslot]
    rfl
  · rfl

/-- **Reports are not reordered, and the host ends with the newest.** In every
state that a run without overtaking passes through, for each kind: what was
transmitted is a subsequence of what was submitted, and when nothing is parked
any more the last report transmitted is the last one submitted. -/
theorem reports_in_order (cfg : Config) {w : UsbWorld} (hready : w.usb.usbReady = true)
    (hparked : ∀ k, w.usb.parked k = none) (hout : w.out = []) {ops : List UsbOp}
    (hops : ∀ op ∈ ops, op.whileAttached)
    (hsteps : AllSteps (exec cfg) (fun w op => ∀ k, ¬Overtakes k w op) w ops) :
    ∀ pre, pre <+: ops → ∀ k,
      (transmitted k (runSteps (exec cfg) w pre).out).Sublist (submissions cfg k pre) ∧
      ((runSteps (exec cfg) w pre).usb.parked k = none →
        (transmitted k (runSteps (exec cfg) w pre).out).getLast?
          = (submissions cfg k pre).getLast?) := by
  intro pre hpre k
  have horder : Orderly cfg k (runSteps (exec cfg) w pre) :=
    AllSteps.inv (I := Orderly cfg k) (fun v op h hop => h.exec (hop k))
      ⟨.empty, books_start cfg hout (hparked k), rfl⟩ (hsteps.of_prefix hpre)
  obtain ⟨L, hb, hover⟩ := horder
  obtain ⟨hsub, hlast⟩ := hb.tracks.queue hover
  have hlog := submitted_run cfg k pre hready fun op hop => hops op (hpre.subset hop)
  rw [hout, show submitted (mark cfg k) [] = [] from rfl, List.nil_append] at hlog
  unfold queue at hsub hlast
  rw [hlog, sent_eq_transmitted, hb.hand, Option.toList_none, List.append_nil] at hsub hlast
  constructor
  · exact (List.sublist_append_left _ _).trans hsub
  · intro hnone
    rw [hb.slot, hnone] at hlast
    rw [← hlast]
    simp

/-- A key going down. -/
def keyDown : UsbReport := keyReport 4

/-- All keys up. -/
def keyUp : UsbReport := keyReport 0

/-- The key press is parked, sent by the poll, and then the release: in order. -/
theorem reports_in_order_polled :
    let ops : List UsbOp := [.handle keyDown, .poll, .handle keyUp]
    (transmitted .keyboard (runSteps (exec Config.shipped) (attachedWorld busyOnce) ops).out).Sublist
      (submissions Config.shipped .keyboard ops) := by
  intro ops
  refine (reports_in_order Config.shipped (w := attachedWorld busyOnce) rfl ?_ rfl
    (by decide) ?_ ops List.prefix_rfl .keyboard).1
  · intro k
    cases k <;> rfl
  · refine ⟨fun k => ?_, fun k => ?_, fun k => ?_, trivial⟩ <;> cases k <;> decide

/-- **A released key stays pressed.** The press is parked, the release goes out
at once, and the next poll sends the press. -/
theorem reports_out_of_order :
    let ops : List UsbOp := [.handle keyDown, .handle keyUp, .poll]
    let w := runSteps (exec Config.shipped) (attachedWorld busyOnce) ops
    w.usb.parked .keyboard = none ∧
    transmitted .keyboard w.out = [keyUp.toHid Config.shipped, keyDown.toHid Config.shipped] ∧
    submissions Config.shipped .keyboard ops
      = [keyDown.toHid Config.shipped, keyUp.toHid Config.shipped] ∧
    ¬(transmitted .keyboard w.out).Sublist (submissions Config.shipped .keyboard ops) := by
  decide

end CaptureKVMBridge.Usb
