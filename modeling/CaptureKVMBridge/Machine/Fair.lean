import CaptureKVMBridge.Machine.Run

/-!
# Progress under a fair schedule

Several parties take steps in any order. `rank` says how far a state is from the
goal. In each state one of the parties can bring it nearer (`helpful`); the others
do not take it further away, and they leave it to the same party to help, unless
they have helped themselves. So a schedule that lets each party move in each of
its rounds needs at most as many rounds as the rank, whatever else is in them
(`Helpful.done`).
-/

namespace CaptureKVMBridge.Machine

variable {σ α π : Type} {step : σ → α → σ} {I : σ → Prop} {allowed : α → Prop}
  {party : α → Option π} {helpful : σ → π} {rank : σ → Nat} {s : σ}

/-- In every state in `I` some party can help, and any allowed step leaves it able
to. -/
structure Helpful (step : σ → α → σ) (I : σ → Prop) (allowed : α → Prop) (party : α → Option π)
    (helpful : σ → π) (rank : σ → Nat) : Prop where
  inv : ∀ s a, I s → allowed a → I (step s a)
  le : ∀ s a, I s → allowed a → rank (step s a) ≤ rank s
  helps : ∀ s a, I s → allowed a → rank s ≠ 0 → party a = some (helpful s) →
    rank (step s a) < rank s
  keeps : ∀ s a, I s → allowed a → rank s ≠ 0 → rank (step s a) = rank s →
    helpful (step s a) = helpful s

/-- In a round each party moves. -/
def Round (party : α → Option π) (as : List α) : Prop := ∀ p, ∃ a ∈ as, party a = some p

theorem Helpful.run_inv (h : Helpful step I allowed party helpful rank) {as : List α}
    (has : ∀ a ∈ as, allowed a) (hs : I s) : I (runSteps step s as) :=
  AllSteps.inv (fun s a hs ha => h.inv s a hs ha) hs (allSteps_of_mem has s)

theorem Helpful.run_le (h : Helpful step I allowed party helpful rank) {as : List α}
    (has : ∀ a ∈ as, allowed a) (hs : I s) : rank (runSteps step s as) ≤ rank s := by
  induction as generalizing s with
  | nil => exact Nat.le_refl _
  | cons a as ih =>
    have ha : allowed a := has a (List.mem_cons_self ..)
    have hrest : rank (runSteps step (step s a) as) ≤ rank (step s a) :=
      ih (fun b hb => has b (List.mem_cons_of_mem _ hb)) (h.inv s a hs ha)
    exact hrest.trans (h.le s a hs ha)

/-- Once the helpful party has moved the rank is lower. By induction on the steps:
until then they leave it to the same party to help. -/
theorem Helpful.lowers (h : Helpful step I allowed party helpful rank) {as : List α}
    (has : ∀ a ∈ as, allowed a) (hs : I s) (hrank : rank s ≠ 0)
    (hmoves : ∃ a ∈ as, party a = some (helpful s)) : rank (runSteps step s as) < rank s := by
  induction as generalizing s with
  | nil =>
    obtain ⟨a, ha, -⟩ := hmoves
    exact absurd ha List.not_mem_nil
  | cons a as ih =>
    have ha : allowed a := has a (List.mem_cons_self ..)
    have hrest : ∀ b ∈ as, allowed b := fun b hb => has b (List.mem_cons_of_mem _ hb)
    have hinv : I (step s a) := h.inv s a hs ha
    rcases Nat.lt_or_eq_of_le (h.le s a hs ha) with hlt | heq
    · have hrun : rank (runSteps step (step s a) as) ≤ rank (step s a) := h.run_le hrest hinv
      exact Nat.lt_of_le_of_lt hrun hlt
    · have hkept := h.keeps s a hs ha hrank heq
      have hlater : ∃ b ∈ as, party b = some (helpful (step s a)) := by
        obtain ⟨b, hb, hparty⟩ := hmoves
        rcases List.mem_cons.mp hb with rfl | hb
        · exact absurd heq (Nat.ne_of_lt (h.helps s b hs ha hrank hparty))
        · exact ⟨b, hb, by rw [hparty, hkept]⟩
      rw [runSteps_cons, ← heq]
      exact ih hrest hinv (by rw [heq]; exact hrank) hlater

/-- **As many rounds as the rank** are enough. -/
theorem Helpful.done (h : Helpful step I allowed party helpful rank) {rounds : List (List α)}
    (hallowed : ∀ round ∈ rounds, ∀ a ∈ round, allowed a)
    (hrounds : ∀ round ∈ rounds, Round party round) (hs : I s) (hlen : rank s ≤ rounds.length) :
    rank (runSteps step s rounds.flatten) = 0 := by
  induction rounds generalizing s with
  | nil => exact Nat.eq_zero_of_le_zero hlen
  | cons round rounds ih =>
    have has : ∀ a ∈ round, allowed a := hallowed round (List.mem_cons_self ..)
    have hle : rank (runSteps step s round) ≤ rank s - 1 := by
      by_cases hzero : rank s = 0
      · have hrun := h.run_le has hs
        omega
      · have hlt := h.lowers has hs hzero (hrounds round (List.mem_cons_self ..) (helpful s))
        omega
    rw [List.length_cons] at hlen
    have hrun : runSteps step s (round :: rounds).flatten
        = runSteps step (runSteps step s round) rounds.flatten := List.foldl_append ..
    rw [hrun]
    exact ih (fun r hr => hallowed r (List.mem_cons_of_mem _ hr))
      (fun r hr => hrounds r (List.mem_cons_of_mem _ hr)) (h.run_inv has hs) (by omega)

end CaptureKVMBridge.Machine
