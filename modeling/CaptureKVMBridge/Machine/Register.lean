import Mathlib.Data.Int.Order.Basic
import CaptureKVMBridge.Machine.Run

/-!
# Registers

A register of a machine is a field of its state that some steps write and the
others leave. What is in it is what was written last (`runSteps_register`).

A register that holds a deadline is the last step before a timeout: when the
clock does not go back, the last write is recent exactly if any write is
(`getLast_recent_iff`).
-/

namespace CaptureKVMBridge.Machine

variable {σ α β : Type} {step : σ → α → σ}

/-- **A register holds what was written last.** -/
theorem runSteps_register {f : σ → β} {writes : α → Option β}
    (hstep : ∀ s a, f (step s a) = (writes a).getD (f s)) (s : σ) (as : List α) :
    f (runSteps step s as) = ((as.filterMap writes).getLast?).getD (f s) := by
  induction as using List.reverseRecOn with
  | nil => rfl
  | append_singleton as a ih =>
    rw [runSteps_snoc, hstep, List.filterMap_append]
    cases hwrites : writes a with
    | none => simp [hwrites, ih]
    | some b => simp [hwrites]

/-! ## Deadlines -/

/-- In order, the last is not before any other. -/
theorem le_getLast {ts : List Int} (h : ts.Pairwise (· ≤ ·)) {t last : Int} (ht : t ∈ ts)
    (hlast : ts.getLast? = some last) : t ≤ last := by
  obtain ⟨init, rfl⟩ := List.getLast?_eq_some_iff.mp hlast
  rcases List.mem_append.mp ht with hinit | hsingle
  · exact (List.pairwise_append.mp h).2.2 t hinit last (List.mem_singleton_self _)
  · rw [List.mem_singleton.mp hsingle]

/-- **The last is recent exactly if any is**, for times in order. -/
theorem getLast_recent_iff {ts : List Int} (h : ts.Pairwise (· ≤ ·)) (now period : Int) :
    (∃ last, ts.getLast? = some last ∧ now - last < period) ↔ ∃ t ∈ ts, now - t < period := by
  constructor
  · intro hex
    obtain ⟨last, hlast, hrecent⟩ := hex
    exact ⟨last, List.mem_of_getLast? hlast, hrecent⟩
  · intro hex
    obtain ⟨t, ht, hrecent⟩ := hex
    have hne : ts ≠ [] := List.ne_nil_of_mem ht
    have hlast : ts.getLast? = some (ts.getLast hne) := List.getLast?_eq_some_getLast hne
    have hle := le_getLast h ht hlast
    exact ⟨_, hlast, by omega⟩

end CaptureKVMBridge.Machine
