import Mathlib.Data.List.Infix

/-!
# Runs under a condition

A machine driven by a list of inputs, and statements about every state that a
run passes through. `AllSteps` says that each step of a run is taken in a state
in which some condition allows it; `AllSteps.inv` is the induction rule for
invariants that need the condition, `prefixes_iff_allSteps` turns a property of
every state of a run into a condition on its steps. `collect` is what the steps
of a run give off, `collect_conserved` the rule for machines that neither lose
nor invent anything.
-/

namespace CaptureKVMBridge.Machine

variable {σ α : Type} {step : σ → α → σ} {P : σ → α → Prop}

/-- The state after a run. -/
def runSteps (step : σ → α → σ) (s : σ) (as : List α) : σ := as.foldl step s

@[simp] theorem runSteps_nil (s : σ) : runSteps step s [] = s := rfl

@[simp] theorem runSteps_cons (s : σ) (a : α) (as : List α) :
    runSteps step s (a :: as) = runSteps step (step s a) as := rfl

theorem runSteps_snoc (s : σ) (as : List α) (a : α) :
    runSteps step s (as ++ [a]) = step (runSteps step s as) a := List.foldl_concat ..

/-- Every step of the run meets the condition in the state it is taken in. -/
def AllSteps (step : σ → α → σ) (P : σ → α → Prop) : σ → List α → Prop
  | _, [] => True
  | s, a :: as => P s a ∧ AllSteps step P (step s a) as

instance [∀ s a, Decidable (P s a)] : ∀ (s : σ) (as : List α), Decidable (AllSteps step P s as)
  | _, [] => isTrue trivial
  | s, a :: as =>
    haveI : Decidable (AllSteps step P (step s a) as) := instDecidableAllSteps (step s a) as
    inferInstanceAs (Decidable (P s a ∧ AllSteps step P (step s a) as))

/-- The beginning of such a run is such a run. -/
theorem AllSteps.of_prefix {s : σ} {as pre : List α} (h : AllSteps step P s as)
    (hpre : pre <+: as) : AllSteps step P s pre := by
  induction pre generalizing s as with
  | nil => trivial
  | cons a pre ih =>
    obtain ⟨rest, rfl⟩ := hpre
    exact ⟨h.1, ih h.2 ⟨rest, rfl⟩⟩

/-- One such run after the other. -/
theorem AllSteps.append {s : σ} {as bs : List α} (h : AllSteps step P s as)
    (h' : AllSteps step P (runSteps step s as) bs) : AllSteps step P s (as ++ bs) := by
  induction as generalizing s with
  | nil => exact h'
  | cons a as ih => exact ⟨h.1, ih h.2 h'⟩

/-- A condition on the inputs alone. -/
theorem allSteps_of_mem {p : α → Prop} {as : List α} (h : ∀ a ∈ as, p a) (s : σ) :
    AllSteps step (fun _ a => p a) s as := by
  induction as generalizing s with
  | nil => trivial
  | cons a as ih =>
    exact ⟨h a (List.mem_cons_self ..), ih (fun b hb => h b (List.mem_cons_of_mem _ hb)) _⟩

/-- **The invariant rule.** What each step preserves under the condition, a
run whose steps all meet the condition preserves. -/
theorem AllSteps.inv {I : σ → Prop} (hstep : ∀ s a, I s → P s a → I (step s a)) {s : σ}
    {as : List α} (hs : I s) (h : AllSteps step P s as) : I (runSteps step s as) := by
  induction as generalizing s with
  | nil => exact hs
  | cons a as ih => exact ih (hstep s a hs h.1) h.2

/-- What the condition and the invariant say about a step, each step of the run has. -/
theorem AllSteps.imp {I : σ → Prop} {Q : σ → α → Prop}
    (hstep : ∀ s a, I s → P s a → I (step s a)) (hQ : ∀ s a, I s → P s a → Q s a) {s : σ}
    {as : List α} (hs : I s) (h : AllSteps step P s as) : AllSteps step Q s as := by
  induction as generalizing s with
  | nil => trivial
  | cons a as ih => exact ⟨hQ s a hs h.1, ih (hstep s a hs h.1) h.2⟩

/-- The invariant rule without a condition. -/
theorem runSteps_inv {I : σ → Prop} (hstep : ∀ s a, I s → I (step s a)) {s : σ} (hs : I s)
    (as : List α) : I (runSteps step s as) := by
  induction as generalizing s with
  | nil => exact hs
  | cons a as ih => exact ih (hstep s a hs)

/-- Two runs on the same inputs stay related if each step keeps the relation. -/
theorem runSteps_related {τ : Type} {step' : τ → α → τ} {R : σ → τ → Prop}
    (hstep : ∀ s t a, R s t → R (step s a) (step' t a)) {s : σ} {t : τ} (h : R s t)
    (as : List α) : R (runSteps step s as) (runSteps step' t as) := by
  induction as generalizing s t with
  | nil => exact h
  | cons a as ih => exact ih (hstep s t a h)

/-- **A property of every state of a run is a condition on its steps**, if in
a state that has it a step keeps it exactly when it meets the condition. -/
theorem prefixes_iff_allSteps {I : σ → Prop} {G : σ → Prop} {A : σ → α → Prop}
    (hI : ∀ s a, I s → A s a → I (step s a))
    (hG : ∀ s a, I s → A s a → G s → (G (step s a) ↔ P s a)) {s : σ} {as : List α}
    (hs : I s) (hA : AllSteps step A s as) (hGs : G s) :
    (∀ pre, pre <+: as → G (runSteps step s pre)) ↔ AllSteps step P s as := by
  induction as generalizing s with
  | nil =>
    refine iff_of_true (fun pre hpre => ?_) trivial
    rw [List.prefix_nil.mp hpre]
    exact hGs
  | cons a as ih =>
    -- the prefix of one step decides the condition on that step
    have hnext := hG s a hs hA.1 hGs
    constructor
    · intro h
      have hstep : G (step s a) := h [a] ⟨as, rfl⟩
      refine ⟨hnext.mp hstep, (ih (hI s a hs hA.1) hA.2 hstep).mp fun pre hpre => ?_⟩
      exact h (a :: pre) (List.cons_prefix_cons.mpr ⟨rfl, hpre⟩)
    · intro hall pre hpre
      obtain ⟨hP, hrest⟩ := hall
      cases pre with
      | nil => exact hGs
      | cons b pre =>
        obtain ⟨rfl, hrestpre⟩ := List.cons_prefix_cons.mp hpre
        exact (ih (hI s b hs hA.1) hA.2 (hnext.mpr hP)).mpr hrest pre hrestpre

/-! ## What a run gives off -/

variable {β γ : Type}

/-- What the steps of a run give off, in order; `emit` says what a step does. -/
def collect (step : σ → α → σ) (emit : σ → α → List β) : σ → List α → List β
  | _, [] => []
  | s, a :: as => emit s a ++ collect step emit (step s a) as

theorem collect_map (emit : σ → α → List β) (f : β → γ) (s : σ) (as : List α) :
    (collect step emit s as).map f = collect step (fun s a => (emit s a).map f) s as := by
  induction as generalizing s with
  | nil => rfl
  | cons a as ih => rw [collect, collect, List.map_append, ih]

/-- **Conservation.** If in each step what was held and what comes in is what
goes out and what is held then, the same is true of every run. -/
theorem collect_conserved {held : σ → List β} {enter leave : σ → α → List β}
    (hstep : ∀ s a, held s ++ enter s a = leave s a ++ held (step s a)) (s : σ) (as : List α) :
    held s ++ collect step enter s as
      = collect step leave s as ++ held (runSteps step s as) := by
  induction as generalizing s with
  | nil => exact List.append_nil _
  | cons a as ih =>
    calc held s ++ (enter s a ++ collect step enter (step s a) as)
        = leave s a ++ (held (step s a) ++ collect step enter (step s a) as) := by
          rw [← List.append_assoc, hstep, List.append_assoc]
      _ = leave s a ++ collect step leave (step s a) as
            ++ held (runSteps step (step s a) as) := by
          rw [ih, List.append_assoc]

end CaptureKVMBridge.Machine
