import Mathlib.Algebra.BigOperators.Group.List.Basic
import Mathlib.Data.Set.Function
import Mathlib.Tactic.Abel

/-!
# One-slot outboxes

A sender that forwards what it is given at once if it can, and otherwise parks
it in a single slot to try again later. Nothing is said about the sender but
its trace: some events are marked as a submission or as a transmission of a
message (`Mark`), all others are silent.

`Tracks` keeps the books over such a trace: the message in hand, the message in
the slot, those that were overwritten in the slot (`lost`) and those that sat
in the slot while a newer one was sent (`overtaken`). Whatever the sender is,
the books give

* `Tracks.queue`: with nothing overtaken, what was sent is a subsequence of what
  was submitted, and when nothing waits the last of both agree;
* `Tracks.conserved`: sent, waiting and lost add up to submitted, in any measure;
* `Tracks.provenance`: every transmission has a submission of its own, earlier
  in the trace.
-/

namespace CaptureKVMBridge.Machine

variable {ε α : Type}

/-- What an event of a trace means to an outbox. -/
inductive Mark (α : Type) where
  | submit (a : α)
  | sent (a : α)

/-- The messages submitted along a trace. -/
def submitted (mark : ε → Option (Mark α)) (tr : List ε) : List α :=
  tr.filterMap fun e => match mark e with
    | some (.submit a) => some a
    | _ => none

/-- The messages sent along a trace. -/
def sent (mark : ε → Option (Mark α)) (tr : List ε) : List α :=
  tr.filterMap fun e => match mark e with
    | some (.sent a) => some a
    | _ => none

/-- Where every message is that has not been sent. -/
structure Ledger (α : Type) where
  hand : Option α
  slot : Option α
  lost : List α
  overtaken : List α

/-- An empty ledger. -/
def Ledger.empty : Ledger α := ⟨none, none, [], []⟩

/-- The ledger is that of an outbox with this trace. -/
inductive Tracks (mark : ε → Option (Mark α)) : List ε → Ledger α → Prop
  | start : Tracks mark [] .empty
  | silent {tr : List ε} {L : Ledger α} {e : ε} (h : Tracks mark tr L) (he : mark e = none) :
      Tracks mark (tr ++ [e]) L
  | submit {tr : List ε} {L : Ledger α} {e : ε} {a : α} (h : Tracks mark tr L)
      (he : mark e = some (.submit a)) (hhand : L.hand = none) :
      Tracks mark (tr ++ [e]) { L with hand := some a }
  | direct {tr : List ε} {L : Ledger α} {e : ε} {a : α} (h : Tracks mark tr L)
      (he : mark e = some (.sent a)) (hhand : L.hand = some a) :
      Tracks mark (tr ++ [e])
        { L with hand := none, overtaken := L.overtaken ++ L.slot.toList }
  | park {tr : List ε} {L : Ledger α} {a : α} (h : Tracks mark tr L) (hhand : L.hand = some a) :
      Tracks mark tr { L with hand := none, slot := some a, lost := L.lost ++ L.slot.toList }
  | drain {tr : List ε} {L : Ledger α} {e : ε} {a : α} (h : Tracks mark tr L)
      (he : mark e = some (.sent a)) (hhand : L.hand = none) (hslot : L.slot = some a) :
      Tracks mark (tr ++ [e]) { L with slot := none }

variable {mark : ε → Option (Mark α)} {tr : List ε} {L : Ledger α} {e : ε} {a : α}

/-- Silent events keep the books. -/
theorem Tracks.silents (h : Tracks mark tr L) {es : List ε} (hes : ∀ e ∈ es, mark e = none) :
    Tracks mark (tr ++ es) L := by
  induction es generalizing tr with
  | nil => rwa [List.append_nil]
  | cons e es ih =>
    rw [show tr ++ e :: es = (tr ++ [e]) ++ es by simp]
    exact ih (.silent h (hes e (List.mem_cons_self ..))) fun x hx =>
      hes x (List.mem_cons_of_mem _ hx)

section Append

theorem submitted_append (as bs : List ε) :
    submitted mark (as ++ bs) = submitted mark as ++ submitted mark bs := List.filterMap_append

theorem submitted_silent (he : mark e = none) : submitted mark (tr ++ [e]) = submitted mark tr := by
  simp [submitted, he]

theorem sent_silent (he : mark e = none) : sent mark (tr ++ [e]) = sent mark tr := by
  simp [sent, he]

theorem submitted_submit (he : mark e = some (.submit a)) :
    submitted mark (tr ++ [e]) = submitted mark tr ++ [a] := by simp [submitted, he]

theorem sent_submit (he : mark e = some (.submit a)) : sent mark (tr ++ [e]) = sent mark tr := by
  simp [sent, he]

theorem submitted_sent (he : mark e = some (.sent a)) :
    submitted mark (tr ++ [e]) = submitted mark tr := by simp [submitted, he]

theorem sent_sent (he : mark e = some (.sent a)) :
    sent mark (tr ++ [e]) = sent mark tr ++ [a] := by simp [sent, he]

end Append

/-! ## Order -/

/-- What was sent and what is still to be sent, in the order of sending. -/
def queue (mark : ε → Option (Mark α)) (tr : List ε) (L : Ledger α) : List α :=
  sent mark tr ++ L.slot.toList ++ L.hand.toList

/-- **Order.** If nothing in the slot was overtaken, what was and will be sent
is a subsequence of what was submitted and ends in the last submission. -/
theorem Tracks.queue (h : Tracks mark tr L) (hover : L.overtaken = []) :
    (queue mark tr L).Sublist (submitted mark tr) ∧
      (queue mark tr L).getLast? = (submitted mark tr).getLast? := by
  unfold Machine.queue
  induction h with
  | start => exact ⟨List.Sublist.refl _, rfl⟩
  | silent _ he ih =>
    rw [sent_silent he, submitted_silent he]
    exact ih hover
  | @submit tr L e a _ he hhand ih =>
    obtain ⟨hsub, -⟩ := ih hover
    rw [hhand, Option.toList_none, List.append_nil] at hsub
    rw [sent_submit he, submitted_submit he]
    exact ⟨hsub.append_right [a], by simp⟩
  | @direct tr L e a _ he hhand ih =>
    -- the slot was empty, or its content would be on record as overtaken
    obtain ⟨hover', hslot⟩ := List.append_eq_nil_iff.mp hover
    have hq := ih hover'
    rw [hslot, hhand, Option.toList_some, List.append_nil] at hq
    rw [sent_sent he, submitted_sent he, hslot]
    simpa using hq
  | @park tr L a _ hhand ih =>
    -- what the slot held leaves the queue; the newest message stays at its end
    obtain ⟨hsub, hlast⟩ := ih hover
    rw [hhand] at hsub hlast
    refine ⟨List.Sublist.trans ?_ hsub, ?_⟩
    · simp
    · rw [← hlast]
      simp
  | @drain tr L e a _ he hhand hslot ih =>
    have hq := ih hover
    rw [hslot, hhand] at hq
    rw [sent_sent he, submitted_sent he, hhand]
    simpa using hq

/-! ## Conservation -/

/-- What a slot contributes to a sum over messages. -/
def slotWeight {M : Type} [AddCommMonoid M] (μ : α → M) (o : Option α) : M := (o.toList.map μ).sum

/-- **Conservation.** Nothing is gained, and what is missing was overwritten. -/
theorem Tracks.conserved {M : Type} [AddCommMonoid M] (μ : α → M) (h : Tracks mark tr L) :
    ((sent mark tr).map μ).sum + slotWeight μ L.slot + slotWeight μ L.hand + (L.lost.map μ).sum
      = ((submitted mark tr).map μ).sum := by
  unfold slotWeight
  induction h with
  | start => simp [sent, submitted, Ledger.empty]
  | silent _ he ih => rw [sent_silent he, submitted_silent he, ih]
  | submit _ he hhand ih =>
    rw [sent_submit he, submitted_submit he, List.map_append, List.sum_append, ← ih, hhand]
    simp only [Option.toList_some, Option.toList_none, List.map_cons, List.map_nil, List.sum_cons,
      List.sum_nil, add_zero]
    abel
  | direct _ he hhand ih =>
    rw [sent_sent he, submitted_sent he, List.map_append, List.sum_append, ← ih, hhand]
    simp only [Option.toList_some, Option.toList_none, List.map_cons, List.map_nil, List.sum_cons,
      List.sum_nil, add_zero]
    abel
  | park _ hhand ih =>
    -- the old content of the slot moves over to what is lost
    rw [← ih, hhand]
    simp only [Option.toList_some, Option.toList_none, List.map_cons, List.map_nil, List.sum_cons,
      List.sum_nil, add_zero, List.map_append, List.sum_append]
    abel
  | drain _ he hhand hslot ih =>
    rw [sent_sent he, submitted_sent he, List.map_append, List.sum_append, ← ih, hhand, hslot]
    simp only [Option.toList_some, Option.toList_none, List.map_cons, List.map_nil, List.sum_cons,
      List.sum_nil, add_zero]

/-! ## Provenance -/

/-- What the event at a position of the trace is marked with. -/
def markAt (mark : ε → Option (Mark α)) (tr : List ε) (i : Nat) : Option (Mark α) :=
  tr[i]?.bind mark

/-- The positions of the transmissions. -/
def sentAt (mark : ε → Option (Mark α)) (tr : List ε) : Set Nat :=
  {i | ∃ a, markAt mark tr i = some (.sent a)}

theorem markAt_lt {i : Nat} {x : Mark α} (h : markAt mark tr i = some x) : i < tr.length := by
  by_contra hge
  rw [markAt, List.getElem?_eq_none (by omega)] at h
  cases h

theorem markAt_append_left {i : Nat} (hi : i < tr.length) (e : ε) :
    markAt mark (tr ++ [e]) i = markAt mark tr i := by
  rw [markAt, List.getElem?_append_left hi, markAt]

theorem markAt_append_last (tr : List ε) (e : ε) : markAt mark (tr ++ [e]) tr.length = mark e := by
  rw [markAt, List.getElem?_append_right le_rfl, Nat.sub_self]
  rfl

/-- `f` gives every transmission a submission of its own, earlier in the trace
and of the same message. -/
structure Origins (mark : ε → Option (Mark α)) (tr : List ε) (f : Nat → Nat) : Prop where
  origin : ∀ i a, markAt mark tr i = some (.sent a) →
    f i < i ∧ markAt mark tr (f i) = some (.submit a)
  inj : Set.InjOn f (sentAt mark tr)

/-- Position `j` submits `a` and is nobody's origin yet. -/
structure Unsent (mark : ε → Option (Mark α)) (tr : List ε) (f : Nat → Nat) (j : Nat) (a : α) :
    Prop where
  submits : markAt mark tr j = some (.submit a)
  fresh : ∀ i ∈ sentAt mark tr, f i ≠ j

theorem mem_sentAt_append {i : Nat} :
    i ∈ sentAt mark (tr ++ [e]) ↔
      i ∈ sentAt mark tr ∨ i = tr.length ∧ ∃ a, mark e = some (.sent a) := by
  constructor
  · intro hi
    obtain ⟨a, ha⟩ := hi
    have hlt := markAt_lt ha
    rw [List.length_append, List.length_singleton] at hlt
    by_cases hi : i < tr.length
    · rw [markAt_append_left hi] at ha
      exact Or.inl ⟨a, ha⟩
    · obtain rfl : i = tr.length := by omega
      rw [markAt_append_last] at ha
      exact Or.inr ⟨rfl, a, ha⟩
  · intro hi
    rcases hi with ⟨a, ha⟩ | ⟨rfl, a, ha⟩
    · exact ⟨a, by rw [markAt_append_left (markAt_lt ha), ha]⟩
    · exact ⟨a, by rw [markAt_append_last, ha]⟩

/-- An event that is no transmission needs no origin. -/
theorem sentAt_append_other (he : ∀ a, mark e ≠ some (.sent a)) :
    sentAt mark (tr ++ [e]) = sentAt mark tr := by
  ext i
  rw [mem_sentAt_append]
  exact or_iff_left fun h => h.2.elim he

section Origins

variable {f : Nat → Nat} {j k : Nat} {b : α}

theorem Origins.append (h : Origins mark tr f) (he : ∀ a, mark e ≠ some (.sent a)) :
    Origins mark (tr ++ [e]) f := by
  refine ⟨fun i a ha => ?_, by rw [sentAt_append_other he]; exact h.inj⟩
  have hi : i ∈ sentAt mark tr := by
    rw [← sentAt_append_other he]
    exact ⟨a, ha⟩
  obtain ⟨_, hlt⟩ := hi
  rw [markAt_append_left (markAt_lt hlt)] at ha
  obtain ⟨hfi, hsub⟩ := h.origin i a ha
  exact ⟨hfi, by rw [markAt_append_left (markAt_lt hsub), hsub]⟩

theorem Unsent.append (h : Unsent mark tr f j a) (he : ∀ a, mark e ≠ some (.sent a)) :
    Unsent mark (tr ++ [e]) f j a := by
  refine ⟨by rw [markAt_append_left (markAt_lt h.submits), h.submits], ?_⟩
  rw [sentAt_append_other he]
  exact h.fresh

/-- A new submission is nobody's origin: origins lie in the past. -/
theorem Origins.unsent_last (h : Origins mark tr f) (he : mark e = some (.submit a)) :
    Unsent mark (tr ++ [e]) f tr.length a := by
  refine ⟨by rw [markAt_append_last, he], fun i hi heq => ?_⟩
  rw [sentAt_append_other (by rw [he]; exact fun _ h => by cases h)] at hi
  obtain ⟨b, hb⟩ := hi
  have := (h.origin i b hb).1
  have := markAt_lt hb
  omega

/-- A transmission takes an unsent submission for its origin. -/
theorem Origins.extend (h : Origins mark tr f) (hj : Unsent mark tr f j a)
    (he : mark e = some (.sent a)) : Origins mark (tr ++ [e]) (Function.update f tr.length j) := by
  have hjlt := markAt_lt hj.submits
  have hold : ∀ i ∈ sentAt mark tr, Function.update f tr.length j i = f i := by
    intro i hi
    obtain ⟨b, hb⟩ := hi
    exact Function.update_of_ne (Nat.ne_of_lt (markAt_lt hb)) _ _
  constructor
  · intro i b hb
    rcases mem_sentAt_append.mp ⟨b, hb⟩ with hi | ⟨rfl, -⟩
    · rw [hold i hi]
      obtain ⟨c, hc⟩ := hi
      rw [markAt_append_left (markAt_lt hc)] at hb
      obtain ⟨hlt, hsub⟩ := h.origin i b hb
      exact ⟨hlt, by rw [markAt_append_left (markAt_lt hsub), hsub]⟩
    · rw [markAt_append_last, he] at hb
      obtain rfl : a = b := by
        simpa using hb
      rw [Function.update_self]
      exact ⟨hjlt, by rw [markAt_append_left hjlt, hj.submits]⟩
  · intro i hi i' hi' heq
    rcases mem_sentAt_append.mp hi with hi | ⟨rfl, -⟩
    · rcases mem_sentAt_append.mp hi' with hi' | ⟨rfl, -⟩
      · rw [hold i hi, hold i' hi'] at heq
        exact h.inj hi hi' heq
      · rw [hold i hi, Function.update_self] at heq
        exact absurd heq (hj.fresh i hi)
    · rcases mem_sentAt_append.mp hi' with hi' | ⟨rfl, -⟩
      · rw [hold i' hi', Function.update_self] at heq
        exact absurd heq.symm (hj.fresh i' hi')
      · rfl

/-- Other submissions stay unsent. -/
theorem Unsent.extend (h : Unsent mark tr f k b) (hne : k ≠ j) (e : ε) :
    Unsent mark (tr ++ [e]) (Function.update f tr.length j) k b := by
  refine ⟨by rw [markAt_append_left (markAt_lt h.submits), h.submits], fun i hi => ?_⟩
  rcases mem_sentAt_append.mp hi with hi | ⟨rfl, -⟩
  · obtain ⟨c, hc⟩ := id hi
    rw [Function.update_of_ne (Nat.ne_of_lt (markAt_lt hc))]
    exact h.fresh i hi
  · rw [Function.update_self]
    exact hne.symm

end Origins

/-- **Provenance.** Every transmission is of a message submitted earlier, and
no two transmissions are of the same submission. -/
theorem Tracks.provenance (h : Tracks mark tr L) :
    ∃ f js jh, Origins mark tr f ∧ (∀ a, L.slot = some a → Unsent mark tr f js a) ∧
      (∀ a, L.hand = some a → Unsent mark tr f jh a) ∧
      (L.slot ≠ none → L.hand ≠ none → js ≠ jh) := by
  -- `js` and `jh` are the submissions of what is in the slot and in hand
  induction h with
  | start =>
    refine ⟨id, 0, 0, ⟨fun i a ha => ?_, fun i hi => ?_⟩, ?_, ?_, ?_⟩
    · exact absurd (markAt_lt ha) (Nat.not_lt_zero i)
    · obtain ⟨a, ha⟩ := hi
      exact absurd (markAt_lt ha) (Nat.not_lt_zero i)
    · exact fun a ha => by cases ha
    · exact fun a ha => by cases ha
    · exact fun hs => absurd rfl hs
  | silent _ he ih =>
    obtain ⟨f, js, jh, hf, hslot, hhand, hne⟩ := ih
    have he' : ∀ a, mark _ ≠ some (.sent a) := fun a h => by rw [he] at h; cases h
    exact ⟨f, js, jh, hf.append he', fun a ha => (hslot a ha).append he',
      fun a ha => (hhand a ha).append he', hne⟩
  | @submit tr L e a _ he hh ih =>
    obtain ⟨f, js, jh, hf, hslot, -, -⟩ := ih
    have he' : ∀ b, mark e ≠ some (.sent b) := fun b h => by rw [he] at h; cases h
    refine ⟨f, js, tr.length, hf.append he', fun b hb => (hslot b hb).append he', ?_, ?_⟩
    · intro b hb
      obtain rfl : a = b := by simpa using hb
      exact hf.unsent_last he
    · intro hs _
      obtain ⟨b, hb⟩ := Option.ne_none_iff_exists'.mp hs
      exact Nat.ne_of_lt (markAt_lt (hslot b hb).submits)
  | @direct tr L e a _ he hh ih =>
    obtain ⟨f, js, jh, hf, hslot, hhand, hne⟩ := ih
    refine ⟨Function.update f tr.length jh, js, jh, hf.extend (hhand a hh) he, ?_, ?_, ?_⟩
    · intro b hb
      have hsome : L.slot ≠ none := fun hn => by rw [hn] at hb; cases hb
      exact (hslot b hb).extend (hne hsome (by rw [hh]; simp)) e
    · exact fun b hb => by cases hb
    · exact fun _ hn => absurd rfl hn
  | @park tr L a _ hh ih =>
    obtain ⟨f, js, jh, hf, hslot, hhand, hne⟩ := ih
    refine ⟨f, jh, jh, hf, ?_, ?_, ?_⟩
    · intro b hb
      obtain rfl : a = b := by simpa using hb
      exact hhand a hh
    · exact fun b hb => by cases hb
    · exact fun _ hn => absurd rfl hn
  | @drain tr L e a _ he hh hs ih =>
    obtain ⟨f, js, jh, hf, hslot, hhand, hne⟩ := ih
    refine ⟨Function.update f tr.length js, js, jh, hf.extend (hslot a hs) he, ?_, ?_, ?_⟩
    · exact fun b hb => by cases hb
    · exact fun b hb => by rw [hh] at hb; cases hb
    · exact fun hn => absurd rfl hn

end CaptureKVMBridge.Machine
