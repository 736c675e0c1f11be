import Mathlib.Algebra.BigOperators.Group.Finset.Piecewise
import Mathlib.Algebra.Order.BigOperators.Group.Finset
import Mathlib.Data.Multiset.AddSub
import Mathlib.Logic.Function.Basic

/-!
# Logs merged from several sources

Several sources each produce a sequence of items; a log takes items from them, one
source after the other in any order. Each item says where it is from (`src`), and
`tag` is what the items of a source say. `Merges` says that the log is made from
the sources and from nothing else: for each source, what the log has of it and
what is still waiting is what came, in this order.

The three things that can happen keep it: items come (`Merges.arrive`), items are
taken into the log (`Merges.take`), or nothing of it changes. A log can be the
source of the next one (`Merges.trans`). And without the order, there is nothing
in the log but what came, each item at most as often (`Merges.le_sum`).
-/

namespace CaptureKVMBridge.Machine

variable {ι σ β : Type} [DecidableEq σ] {src : β → σ} {tag : ι → σ}

/-- The items of a log that are from a source. -/
def ofSource (src : β → σ) (tag : ι → σ) (log : List β) (i : ι) : List β :=
  log.filter fun b => src b = tag i

@[simp] theorem ofSource_append (log log' : List β) (i : ι) :
    ofSource src tag (log ++ log') i = ofSource src tag log i ++ ofSource src tag log' i :=
  List.filter_append ..

theorem ofSource_self {bs : List β} {i : ι} (h : ∀ b ∈ bs, src b = tag i) :
    ofSource src tag bs i = bs :=
  List.filter_eq_self.mpr fun b hb => decide_eq_true (h b hb)

theorem ofSource_other (htag : Function.Injective tag) {bs : List β} {i j : ι} (hij : j ≠ i)
    (h : ∀ b ∈ bs, src b = tag i) : ofSource src tag bs j = [] := by
  refine List.filter_eq_nil_iff.mpr fun b hb heq => ?_
  exact hij (htag ((of_decide_eq_true heq).symm.trans (h b hb)))

/-- The log is merged from the sources. -/
structure Merges (src : β → σ) (tag : ι → σ) (log : List β) (waiting came : ι → List β) :
    Prop where
  split : ∀ i, ofSource src tag log i ++ waiting i = came i
  tagged : ∀ i, ∀ b ∈ came i, src b = tag i
  known : ∀ b ∈ log, ∃ i, src b = tag i

variable {log : List β} {waiting waiting' came came' : ι → List β}

theorem merges_nil : Merges src tag [] (fun _ => []) (fun _ => []) :=
  ⟨fun _ => rfl, fun _ _ h => absurd h List.not_mem_nil, fun _ h => absurd h List.not_mem_nil⟩

/-- What waits is from the source it waits for. -/
theorem Merges.waiting_tagged (h : Merges src tag log waiting came) {i : ι} {b : β}
    (hb : b ∈ waiting i) : src b = tag i := by
  refine h.tagged i b ?_
  rw [← h.split i]
  exact List.mem_append_right _ hb

/-- Items come from a source. -/
theorem Merges.arrive (h : Merges src tag log waiting came) (i : ι) {bs : List β}
    (hbs : ∀ b ∈ bs, src b = tag i) (hself : waiting' i = waiting i ++ bs)
    (hcame : came' i = came i ++ bs)
    (hother : ∀ j, j ≠ i → waiting' j = waiting j ∧ came' j = came j) :
    Merges src tag log waiting' came' where
  split j := by
    by_cases hji : j = i
    · subst hji
      rw [hself, hcame, ← List.append_assoc, h.split]
    · rw [(hother j hji).1, (hother j hji).2, h.split]
  tagged j b hb := by
    by_cases hji : j = i
    · subst hji
      rw [hcame] at hb
      exact (List.mem_append.mp hb).elim (h.tagged j b) (hbs b)
    · rw [(hother j hji).2] at hb
      exact h.tagged j b hb
  known := h.known

/-- The items that wait first at a source are taken into the log. -/
theorem Merges.take (htag : Function.Injective tag) (h : Merges src tag log waiting came) (i : ι)
    {bs : List β} (hself : waiting i = bs ++ waiting' i)
    (hother : ∀ j, j ≠ i → waiting' j = waiting j) :
    Merges src tag (log ++ bs) waiting' came where
  split j := by
    have hbs : ∀ b ∈ bs, src b = tag i := fun b hb =>
      h.waiting_tagged (by rw [hself]; exact List.mem_append_left _ hb)
    rw [ofSource_append]
    by_cases hji : j = i
    · subst hji
      rw [ofSource_self hbs, List.append_assoc, ← hself, h.split]
    · rw [ofSource_other htag hji hbs, List.append_nil, hother j hji, h.split]
  tagged := h.tagged
  known b hb := by
    rcases List.mem_append.mp hb with hold | hnew
    · exact h.known b hold
    · exact ⟨i, h.waiting_tagged (by rw [hself]; exact List.mem_append_left _ hnew)⟩

/-- Nothing comes and nothing is taken. -/
theorem Merges.same (h : Merges src tag log waiting came) (hwaiting : ∀ i, waiting' i = waiting i)
    (hcame : ∀ i, came' i = came i) : Merges src tag log waiting' came' := by
  obtain rfl : waiting' = waiting := funext hwaiting
  obtain rfl : came' = came := funext hcame
  exact h

/-- **A log as the source of the next one.** -/
theorem Merges.trans {log' : List β} {between : ι → List β}
    (h : Merges src tag log waiting came)
    (h' : Merges src tag log' between (ofSource src tag log)) :
    Merges src tag log' (fun i => between i ++ waiting i) came where
  split i := by rw [← List.append_assoc, h'.split, h.split]
  tagged := h.tagged
  known := h'.known

/-- Of each source the log has a beginning of what came. -/
theorem Merges.begins (h : Merges src tag log waiting came) (i : ι) :
    ofSource src tag log i <+: came i := ⟨waiting i, h.split i⟩

/-- A log with known sources is what it has of each of them. By induction on the
log: each item is counted at its source. -/
theorem coe_eq_sum_ofSource [Fintype ι] [DecidableEq ι] (htag : Function.Injective tag)
    (h : ∀ b ∈ log, ∃ i, src b = tag i) :
    (log : Multiset β) = ∑ i, (ofSource src tag log i : Multiset β) := by
  induction log with
  | nil => simp [ofSource]
  | cons b log ih =>
    obtain ⟨i, hi⟩ := h b (List.mem_cons_self ..)
    have hcons : ∀ j, (ofSource src tag (b :: log) j : Multiset β)
        = (if i = j then {b} else 0) + (ofSource src tag log j : Multiset β) := by
      intro j
      by_cases hij : i = j
      · subst hij
        have hself : ofSource src tag (b :: log) i = b :: ofSource src tag log i :=
          List.filter_cons_of_pos (decide_eq_true hi)
        rw [if_pos rfl, hself]
        rfl
      · have hother : ofSource src tag (b :: log) j = ofSource src tag log j :=
          List.filter_cons_of_neg fun hj => hij (htag (hi.symm.trans (of_decide_eq_true hj)))
        rw [if_neg hij, zero_add, hother]
    rw [Finset.sum_congr rfl fun j _ => hcons j, Finset.sum_add_distrib,
      ← ih fun x hx => h x (List.mem_cons_of_mem _ hx), Finset.sum_ite_eq Finset.univ i,
      if_pos (Finset.mem_univ i)]
    rfl

/-- **Nothing is invented and nothing repeated.** -/
theorem Merges.le_sum [Fintype ι] [DecidableEq ι] (htag : Function.Injective tag)
    (h : Merges src tag log waiting came) :
    (log : Multiset β) ≤ ∑ i, (came i : Multiset β) := by
  rw [coe_eq_sum_ofSource htag h.known]
  exact Finset.sum_le_sum fun i _ => Multiset.coe_le.mpr (h.begins i).sublist.subperm

end CaptureKVMBridge.Machine
