import Mathlib.Data.List.Chain

/-!
# Positions with marked gaps

A stream of items is received at positions `0, 1, 2, …`; some are lost, and
each loss leaves a marker: the position right behind it. `Accounted gaps l n`
says that the positions in `l`, and the next position `n` after them, miss
nothing but what a marker in `gaps` stands for.

Receiving keeps the account (`Accounted.receive`), a loss keeps it with its own
marker added (`Accounted.lose`), and a stretch that lies on one side of every
marker is consecutive (`Accounted.consecutive_append`, `Accounted.settle`).
-/

namespace CaptureKVMBridge.Machine

/-- Each position is the one after its predecessor. -/
def Consecutive (l : List Nat) : Prop := l.IsChain fun p q => q = p + 1

instance (l : List Nat) : Decidable (Consecutive l) := inferInstanceAs (Decidable (l.IsChain _))

theorem Consecutive.infix {l m : List Nat} (h : Consecutive l) (hm : m <:+: l) : Consecutive m :=
  List.IsChain.infix h hm

/-- `q` comes right after `p`, or a marker stands for what is between them. -/
def Linked (gaps : List Nat) (p q : Nat) : Prop := q = p + 1 ∨ ∃ g ∈ gaps, p < g ∧ g ≤ q

theorem Linked.lt {gaps : List Nat} {p q : Nat} (h : Linked gaps p q) : p < q := by
  rcases h with rfl | ⟨g, -, hp, hq⟩
  · exact Nat.lt_succ_self p
  · exact Nat.lt_of_lt_of_le hp hq

theorem Linked.mono {gaps gaps' : List Nat} (hsub : gaps ⊆ gaps') {p q : Nat}
    (h : Linked gaps p q) : Linked gaps' p q := by
  rcases h with heq | ⟨g, hg, hgpq⟩
  · exact .inl heq
  · exact .inr ⟨g, hsub hg, hgpq⟩

/-- A link without a marker between its ends is a plain step. -/
theorem Linked.step {gaps : List Nat} {p q : Nat} (h : Linked gaps p q)
    (hgaps : ∀ g ∈ gaps, ¬(p < g ∧ g ≤ q)) : q = p + 1 := by
  rcases h with heq | ⟨g, hg, hpq⟩
  · exact heq
  · exact absurd hpq (hgaps g hg)

/-- From the positions in `l` to the next one, `n`, nothing is missing but
what the markers stand for. -/
def Accounted (gaps : List Nat) (l : List Nat) (n : Nat) : Prop :=
  (l ++ [n]).IsChain (Linked gaps)

namespace Accounted

variable {gaps l m : List Nat} {n : Nat}

theorem nil : Accounted gaps [] n := List.isChain_singleton n

/-- The next positions are received. -/
theorem receive (h : Accounted gaps l n) (k : Nat) :
    Accounted gaps (l ++ List.range' n k) (n + k) := by
  have hnew : (List.range' n (k + 1)).IsChain (Linked gaps) :=
    List.IsChain.imp (fun p q hpq => .inl hpq) (List.isChain_range' n (k + 1) 1)
  unfold Accounted
  rw [List.append_assoc, show List.range' n k ++ [n + k] = List.range' n (k + 1) by
    rw [List.range'_concat, Nat.one_mul]]
  rw [List.range'_succ] at hnew ⊢
  rw [List.append_cons]
  exact List.IsChain.append_overlap h hnew (List.cons_ne_nil n [])

/-- The next positions are lost, and a marker is left. -/
theorem lose (h : Accounted gaps l n) (k : Nat) : Accounted (gaps ++ [n + k]) l (n + k) := by
  unfold Accounted at h ⊢
  rw [List.isChain_append] at h ⊢
  obtain ⟨hl, -, hlast⟩ := h
  refine ⟨List.IsChain.imp (fun _ _ => Linked.mono (List.subset_append_left ..)) hl,
    List.isChain_singleton _, ?_⟩
  intro p hp q hq
  have hpn : p < n := (hlast p hp n rfl).lt
  cases hq
  exact .inr ⟨n + k, List.mem_append_right _ (List.mem_singleton_self _), by omega, le_rfl⟩

/-- What lies before every marker continues a consecutive stretch. -/
theorem consecutive_append {r : List Nat} (h : Accounted gaps (l ++ (m ++ r)) n)
    (hl : Consecutive l) (hm : ∀ q ∈ m, ∀ g ∈ gaps, q < g) : Consecutive (l ++ m) := by
  have hchain : (l ++ m).IsChain (Linked gaps) :=
    List.IsChain.prefix h ⟨r ++ [n], by simp only [List.append_assoc]⟩
  unfold Consecutive
  rw [List.isChain_append] at hchain ⊢
  obtain ⟨-, hcm, hseam⟩ := hchain
  refine ⟨hl, List.IsChain.imp_of_mem_tail_imp ?_ hcm, ?_⟩
  · intro p q _ hq hpq
    exact hpq.step fun g hg hgpq => absurd (hm q (List.mem_of_mem_tail hq) g hg) (by omega)
  · intro p hp q hq
    exact (hseam p hp q hq).step fun g hg hgpq =>
      absurd (hm q (List.mem_of_mem_head? hq) g hg) (by omega)

/-- What lies behind every marker does not need the markers. -/
theorem settle (h : Accounted gaps l n) (hl : ∀ p ∈ l, ∀ g ∈ gaps, g ≤ p) :
    Accounted [] l n := by
  unfold Accounted at h ⊢
  rw [List.isChain_append] at h ⊢
  obtain ⟨hc, -, hlast⟩ := h
  refine ⟨List.IsChain.imp_of_mem_imp ?_ hc, List.isChain_singleton _, ?_⟩
  · intro p q hp _ hpq
    exact .inl (hpq.step fun g hg hgpq => absurd (hl p hp g hg) (by omega))
  · intro p hp q hq
    exact .inl ((hlast p hp q hq).step fun g hg hgpq =>
      absurd (hl p (List.mem_of_getLast? hp) g hg) (by omega))

end Accounted

end CaptureKVMBridge.Machine
