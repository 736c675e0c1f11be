import Mathlib.Data.List.Basic

/-!
# Transducers: byte machines that sometimes speak

A firmware parser takes one input symbol at a time, moves to the next state
and now and then emits something. This file is the algebra of such machines,
over arbitrary state, input and output types:

* `run` feeds a list of symbols; `run_append` says that the state carries
  across a cut, so `runChunks_eq` — feeding in chunks is feeding the
  concatenation — holds for every machine.
* `Simulates` is the refinement rule: two machines whose related states emit
  the same output and step to related states emit the same outputs forever.
* `runFamily` interleaves the runs of a family of machines that share one
  output channel; `runFamily_outputs` recovers each member's own run.
-/

namespace CaptureKVMBridge.Machine

variable {σ τ α β ι : Type}

/-- Feed a list of symbols, collecting the outputs in order. -/
def run (step : σ → α → σ × Option β) : σ → List α → σ × List β
  | s, [] => (s, [])
  | s, a :: as =>
    ((run step (step s a).1 as).1, (step s a).2.toList ++ (run step (step s a).1 as).2)

/-- The state after a list of symbols. -/
def final (step : σ → α → σ × Option β) (s : σ) (as : List α) : σ := (run step s as).1

/-- The outputs along a list of symbols. -/
def outputs (step : σ → α → σ × Option β) (s : σ) (as : List α) : List β := (run step s as).2

section Run

variable (step : σ → α → σ × Option β)

theorem run_eq (s : σ) (as : List α) : run step s as = (final step s as, outputs step s as) := rfl

@[simp] theorem final_nil (s : σ) : final step s [] = s := rfl

@[simp] theorem outputs_nil (s : σ) : outputs step s [] = [] := rfl

@[simp] theorem final_cons (s : σ) (a : α) (as : List α) :
    final step s (a :: as) = final step (step s a).1 as := rfl

@[simp] theorem outputs_cons (s : σ) (a : α) (as : List α) :
    outputs step s (a :: as) = (step s a).2.toList ++ outputs step (step s a).1 as := rfl

theorem final_append (s : σ) (as bs : List α) :
    final step s (as ++ bs) = final step (final step s as) bs := by
  induction as generalizing s with
  | nil => rfl
  | cons a as ih => rw [List.cons_append, final_cons, ih, final_cons]

theorem outputs_append (s : σ) (as bs : List α) :
    outputs step s (as ++ bs) = outputs step s as ++ outputs step (final step s as) bs := by
  induction as generalizing s with
  | nil => rfl
  | cons a as ih =>
    rw [List.cons_append, outputs_cons, ih, outputs_cons, final_cons, List.append_assoc]

/-- At most one output for each input. -/
theorem outputs_length_le (s : σ) (as : List α) : (outputs step s as).length ≤ as.length := by
  induction as generalizing s with
  | nil => exact Nat.le_refl _
  | cons a as ih =>
    have hone : (step s a).2.toList.length ≤ 1 := by
      cases (step s a).2 with
      | none => exact Nat.zero_le 1
      | some b => exact Nat.le_refl 1
    have hrest := ih (step s a).1
    rw [outputs_cons, List.length_append, List.length_cons]
    omega

/-- The state carries across a cut of the input. -/
theorem run_append (s : σ) (as bs : List α) :
    run step s (as ++ bs)
      = (final step (final step s as) bs,
          outputs step s as ++ outputs step (final step s as) bs) := by
  rw [run_eq, final_append, outputs_append]

/-- Feed chunk by chunk. -/
def runChunks : σ → List (List α) → σ × List β
  | s, [] => (s, [])
  | s, c :: cs =>
    ((runChunks (run step s c).1 cs).1, (run step s c).2 ++ (runChunks (run step s c).1 cs).2)

/-- However the input is cut, the run is the run on the concatenation. -/
theorem runChunks_eq (s : σ) (cs : List (List α)) : runChunks step s cs = run step s cs.flatten := by
  induction cs generalizing s with
  | nil => rfl
  | cons c cs ih =>
    rw [List.flatten_cons, run_append, runChunks, ih]
    rfl

/-- What one step preserves, a run preserves. -/
theorem final_inv {I : σ → Prop} (hstep : ∀ s a, I s → I (step s a).1) :
    ∀ (as : List α) {s : σ}, I s → I (final step s as)
  | [], _, h => h
  | a :: as, s, h => final_inv hstep as (hstep s a h)

end Run

/-! ## Simulation -/

/-- `R`-related states emit the same output and step to `R`-related states. -/
def Simulates (R : σ → τ → Prop) (step₁ : σ → α → σ × Option β) (step₂ : τ → α → τ × Option β) :
    Prop :=
  ∀ s t a, R s t → (step₁ s a).2 = (step₂ t a).2 ∧ R (step₁ s a).1 (step₂ t a).1

/-- Simulation lifts to runs: equal outputs, related final states. -/
theorem Simulates.run {R : σ → τ → Prop} {step₁ : σ → α → σ × Option β}
    {step₂ : τ → α → τ × Option β} (h : Simulates R step₁ step₂) :
    ∀ (as : List α) {s : σ} {t : τ}, R s t →
      outputs step₁ s as = outputs step₂ t as ∧ R (final step₁ s as) (final step₂ t as) := by
  intro as
  induction as with
  | nil => intro s t hR; exact ⟨rfl, hR⟩
  | cons a as ih =>
    intro s t hR
    obtain ⟨hout, hR'⟩ := h s t a hR
    obtain ⟨houts, hfin⟩ := ih hR'
    refine ⟨?_, hfin⟩
    rw [outputs_cons, outputs_cons, hout, houts]

/-! ## A family of machines on one output channel -/

section Family

variable [DecidableEq ι] (step : σ → α → σ × Option β)

/-- Feed chunks to the members of a family in any order; every output is
tagged with the member it came from. -/
def runFamily : (ι → σ) → List (ι × List α) → (ι → σ) × List (ι × β)
  | ss, [] => (ss, [])
  | ss, (i, c) :: feeds =>
    let r := runFamily (Function.update ss i (final step (ss i) c)) feeds
    (r.1, (outputs step (ss i) c).map (i, ·) ++ r.2)

/-- The input of one member: its chunks, concatenated. -/
def inputOf (i : ι) (feeds : List (ι × List α)) : List α :=
  (feeds.filterMap fun f => if f.1 = i then some f.2 else none).flatten

@[simp] theorem inputOf_nil (i : ι) : inputOf i ([] : List (ι × List α)) = [] := rfl

theorem inputOf_cons (i j : ι) (c : List α) (feeds : List (ι × List α)) :
    inputOf i ((j, c) :: feeds) = (if j = i then c else []) ++ inputOf i feeds := by
  unfold inputOf
  by_cases h : j = i
  · simp [h]
  · simp [h]

/-- **Interleaving is invisible to each member**: the outputs tagged `i` are
the outputs of member `i` run alone on its own input. -/
theorem runFamily_outputs (i : ι) :
    ∀ (feeds : List (ι × List α)) (ss : ι → σ),
      (runFamily step ss feeds).2.filterMap (fun o => if o.1 = i then some o.2 else none)
        = outputs step (ss i) (inputOf i feeds) := by
  intro feeds
  induction feeds with
  | nil => intro ss; rfl
  | cons f feeds ih =>
    intro ss
    obtain ⟨j, c⟩ := f
    simp only [runFamily, List.filterMap_append, ih, inputOf_cons]
    by_cases h : j = i
    · subst h
      rw [if_pos rfl, outputs_append, Function.update_self]
      simp [List.filterMap_map]
    · rw [if_neg h, Function.update_of_ne (fun e => h e.symm)]
      simp [List.filterMap_map, h]

end Family

end CaptureKVMBridge.Machine
