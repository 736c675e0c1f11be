import CaptureKVMBridge.Machine.Run
import Mathlib.Data.List.Basic

/-!
# Histories

What is said of a log: that each event stands in some relation to what came
before it (`Always`), and that something has been the case since some event
(`Since`). A machine that only notes events can keep a bit for a `Since`:
`runSteps_iff_since` is the condition on its step under which the bit is right.
-/

namespace CaptureKVMBridge.Machine

variable {ε σ : Type} {P Q : ε → Prop} {R : List ε → ε → Prop} {log es p q : List ε} {e : ε}

/-! ## Each event, given its past -/

/-- Each event of the log stands in the relation to what came before it. -/
def Always (R : List ε → ε → Prop) (log : List ε) : Prop :=
  ∀ p e q, log = p ++ e :: q → R p e

@[simp] theorem always_nil : Always R [] := by
  intro p e q h
  exact absurd h.symm (List.append_ne_nil_of_right_ne_nil p (List.cons_ne_nil e q))

theorem Always.of_append (h : Always R (log ++ es)) : Always R log := by
  intro p e q hlog
  refine h p e (q ++ es) ?_
  rw [hlog, List.append_assoc, List.cons_append]

/-- A log that grows by one event. -/
theorem always_snoc : Always R (log ++ [e]) ↔ Always R log ∧ R log e := by
  constructor
  · intro h
    exact ⟨h.of_append, h log e [] rfl⟩
  · intro h p e' q hlog
    rcases List.append_eq_append_iff.mp hlog with ⟨c, hp, hc⟩ | ⟨c, hp, hc⟩
    · cases c with
      | nil =>
        cases hc
        rw [hp, List.append_nil]
        exact h.2
      | cons x c => exact absurd (List.cons.inj hc).2 (by simp)
    · cases c with
      | nil =>
        cases hc
        rw [List.append_nil] at hp
        exact hp ▸ h.2
      | cons x c =>
        obtain ⟨rfl, -⟩ := List.cons.inj hc
        exact h.1 p e' c hp

/-- Events of which nothing is asked. -/
theorem Always.quiet (h : Always R log) (hes : ∀ e ∈ es, ∀ p, R p e) : Always R (log ++ es) := by
  induction es generalizing log with
  | nil => rwa [List.append_nil]
  | cons e es ih =>
    have hsnoc : Always R (log ++ [e]) :=
      always_snoc.mpr ⟨h, hes e (List.mem_cons_self ..) log⟩
    have hrest := ih hsnoc fun x hx => hes x (List.mem_cons_of_mem _ hx)
    rwa [List.append_assoc, List.singleton_append] at hrest

/-! ## Since an event -/

/-- There was an event with `Q`, and every event after it has `P`. -/
def Since (P Q : ε → Prop) (log : List ε) : Prop :=
  ∃ p e q, log = p ++ e :: q ∧ Q e ∧ ∀ x ∈ q, P x

theorem not_since_nil : ¬Since P Q [] := by
  intro h
  obtain ⟨p, e, q, hlog, -⟩ := h
  exact absurd hlog.symm (List.append_ne_nil_of_right_ne_nil p (List.cons_ne_nil e q))

/-- It is the last event that counts, or the event keeps what was the case. -/
theorem since_snoc : Since P Q (log ++ [e]) ↔ Q e ∨ P e ∧ Since P Q log := by
  constructor
  · intro h
    obtain ⟨p, x, q, hlog, hx, hq⟩ := h
    rcases List.eq_nil_or_concat q with rfl | ⟨q, y, rfl⟩
    · have hsplit := List.append_inj' hlog rfl
      obtain rfl := List.singleton_inj.mp hsplit.2
      exact Or.inl hx
    · rw [List.concat_eq_append] at hlog hq
      have hlog' : log ++ [e] = (p ++ x :: q) ++ [y] := by
        rw [hlog, List.append_assoc, List.cons_append]
      have hsplit := List.append_inj' hlog' rfl
      obtain rfl := List.singleton_inj.mp hsplit.2
      refine Or.inr ⟨hq e (by simp), p, x, q, hsplit.1, hx, fun z hz => hq z ?_⟩
      exact List.mem_append_left _ hz
  · intro h
    rcases h with he | ⟨he, p, x, q, rfl, hx, hq⟩
    · exact ⟨log, e, [], rfl, he, fun _ hz => absurd hz List.not_mem_nil⟩
    · refine ⟨p, x, q ++ [e], by simp, hx, fun z hz => ?_⟩
      rcases List.mem_append.mp hz with hz | hz
      · exact hq z hz
      · rwa [List.mem_singleton.mp hz]

/-- Events that neither end nor begin it. -/
theorem since_append (hes : ∀ e ∈ es, P e ∧ ¬Q e) : Since P Q (log ++ es) ↔ Since P Q log := by
  induction es generalizing log with
  | nil => rw [List.append_nil]
  | cons e es ih =>
    obtain ⟨hP, hQ⟩ := hes e (List.mem_cons_self ..)
    rw [← List.singleton_append, ← List.append_assoc,
      ih fun x hx => hes x (List.mem_cons_of_mem _ hx), since_snoc]
    exact ⟨fun h => h.elim (absurd · hQ) And.right, fun h => Or.inr ⟨hP, h⟩⟩

/-- An event that ends it: only what comes later counts. -/
theorem since_after (hP : ¬P e) (hQ : ¬Q e) : Since P Q (p ++ e :: q) ↔ Since P Q q := by
  induction q using List.reverseRecOn with
  | nil =>
    rw [since_snoc]
    refine iff_of_false (fun h => ?_) not_since_nil
    exact h.elim hQ fun h => hP h.1
  | append_singleton q x ih =>
    rw [← List.cons_append, ← List.append_assoc, since_snoc, since_snoc, ih]

/-- What has been the case since an event began with one. -/
theorem Since.exists_mem (h : Since P Q log) : ∃ e ∈ log, Q e := by
  obtain ⟨p, e, q, rfl, he, -⟩ := h
  exact ⟨e, List.mem_append_right _ (List.mem_cons_self ..), he⟩

/-- **A bit for a `Since`.** A machine that takes the events as its steps has the
bit right if each step does: the event sets it, or keeps it as it was. -/
theorem runSteps_iff_since {note : σ → ε → σ} {B : σ → Prop} {s : σ} (hs : ¬B s)
    (hnote : ∀ s e, B (note s e) ↔ Q e ∨ P e ∧ B s) (log : List ε) :
    B (runSteps note s log) ↔ Since P Q log := by
  induction log using List.reverseRecOn with
  | nil => exact iff_of_false hs not_since_nil
  | append_singleton log e ih => rw [runSteps_snoc, hnote, ih, since_snoc]

end CaptureKVMBridge.Machine
