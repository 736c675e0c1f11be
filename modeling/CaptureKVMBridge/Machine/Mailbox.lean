import Mathlib.Data.Finset.Basic
import Mathlib.Data.List.Sort

/-!
# A slot and a flag without a lock

Writers pass messages to a reader through one slot. A writer stores its message and
then raises a flag; the reader looks at the flag, reads the slot, offers what it
read elsewhere, and lowers the flag if that was taken. Nothing is locked, so the
steps of all of them mix. Messages are numbered as they are stored, from 1.

Whatever the schedule, the reader passes messages on in the order of their numbers
(`Step.orderly`). But it may pass one on twice, and it may leave the last one
behind with the flag down. Both begin with one of two steps: a writer raises the
flag for a message that was passed on already, or the reader lowers it over one
that was not. `Step.settled_iff`: without such a step, and only then, the flag says
what it should; and then each message is passed on at most once (`Step.once`).
-/

namespace CaptureKVMBridge.Machine

variable {ι α : Type}

/-- Where the reader is. -/
inductive Reader where
  | away
  /-- it has seen the flag -/
  | looking
  /-- it has read the message with this number -/
  | holding (n : Nat)
  /-- the message was taken, and the flag is to be lowered -/
  | emptying
  deriving DecidableEq, Repr

@[ext] structure Mailbox (ι : Type) where
  /-- how many messages were stored -/
  stored : Nat
  flag : Bool
  /-- the writers that have stored a message and not raised the flag -/
  raising : Finset ι
  reader : Reader
  /-- the numbers of the messages that were taken, oldest first -/
  taken : List Nat

inductive FlagChange where
  | raise
  | lower
  deriving DecidableEq, Repr

namespace Mailbox

/-- The message in the slot was taken, or there is none. -/
def Passed (b : Mailbox ι) : Prop := b.stored = 0 ∨ b.stored ∈ b.taken

instance (b : Mailbox ι) : Decidable b.Passed := inferInstanceAs (Decidable (_ ∨ _))

/-- A step of a writer or of the reader, and what it does to the flag. -/
inductive Step [DecidableEq ι] (b : Mailbox ι) : Option FlagChange → Mailbox ι → Prop
  | quiet : Step b none b
  | store (i : ι) :
      Step b none { b with stored := b.stored + 1, raising := insert i b.raising }
  | raise (i : ι) (h : i ∈ b.raising) :
      Step b (some .raise) { b with flag := true, raising := b.raising.erase i }
  | look (h : b.flag = true) (haway : b.reader = .away) : Step b none { b with reader := .looking }
  | read (h : b.reader = .looking) : Step b none { b with reader := .holding b.stored }
  | leave (h : b.reader ≠ .emptying) : Step b none { b with reader := .away }
  | take (n : Nat) (h : b.reader = .holding n) :
      Step b none { b with taken := b.taken ++ [n], reader := .emptying }
  | lower (h : b.reader = .emptying) :
      Step b (some .lower) { b with flag := false, reader := .away }

variable {b b' : Mailbox ι} {c : Option FlagChange}

theorem Step.to_eq [DecidableEq ι] {b₁ : Mailbox ι} (h : Step b c b₁) (heq : b' = b₁) :
    Step b c b' := heq ▸ h

/-! ## Under any schedule -/

/-- What holds whatever the writers and the reader do. -/
structure Orderly (b : Mailbox ι) : Prop where
  range : ∀ n ∈ b.taken, 0 < n ∧ n ≤ b.stored
  sorted : b.taken.Pairwise (· ≤ ·)
  filled : b.flag = true ∨ b.raising.Nonempty → 0 < b.stored
  seen : b.reader ≠ .away → b.flag = true
  holding : ∀ n, b.reader = .holding n → 0 < n ∧ n ≤ b.stored ∧ ∀ m ∈ b.taken, m ≤ n

/-- A message that was just stored was not taken. -/
theorem Orderly.fresh (h : Orderly b) : b.stored + 1 ∉ b.taken := by
  intro hmem
  have hle := (h.range _ hmem).2
  omega

/-- **The order is kept.** By cases on the step. -/
theorem Step.orderly [DecidableEq ι] (h : Step b c b') (ho : Orderly b) : Orderly b' := by
  cases h with
  | quiet => exact ho
  | store i =>
    refine ⟨fun n hn => ?_, ho.sorted, fun _ => Nat.succ_pos _, ho.seen, fun n hn => ?_⟩
    · have hrange := ho.range n hn
      exact ⟨hrange.1, Nat.le_succ_of_le hrange.2⟩
    · have hhold := ho.holding n hn
      exact ⟨hhold.1, Nat.le_succ_of_le hhold.2.1, hhold.2.2⟩
  | raise i hi =>
    exact ⟨ho.range, ho.sorted, fun _ => ho.filled (Or.inr ⟨i, hi⟩), fun _ => rfl, ho.holding⟩
  | look hflag haway =>
    exact ⟨ho.range, ho.sorted, ho.filled, fun _ => hflag, nofun⟩
  | read hlook =>
    have hflag : b.flag = true := ho.seen (by rw [hlook]; nofun)
    refine ⟨ho.range, ho.sorted, ho.filled, fun _ => hflag, fun n hn => ?_⟩
    cases hn
    exact ⟨ho.filled (Or.inl hflag), Nat.le_refl _, fun m hm => (ho.range m hm).2⟩
  | leave hne => exact ⟨ho.range, ho.sorted, ho.filled, fun h => absurd rfl h, nofun⟩
  | take n hn =>
    obtain ⟨hpos, hle, hall⟩ := ho.holding n hn
    have hflag : b.flag = true := ho.seen (by rw [hn]; nofun)
    refine ⟨fun m hm => ?_, ?_, ho.filled, fun _ => hflag, nofun⟩
    · rcases List.mem_append.mp hm with hold | hnew
      · exact ho.range m hold
      · rw [List.mem_singleton.mp hnew]
        exact ⟨hpos, hle⟩
    · refine List.pairwise_append.mpr ⟨ho.sorted, List.pairwise_singleton .., fun m hm x hx => ?_⟩
      rw [List.mem_singleton.mp hx]
      exact hall m hm
  | lower hemptying =>
    refine ⟨ho.range, ho.sorted, fun h => ?_, fun h => absurd rfl h, nofun⟩
    have hflag : b.flag = true := ho.seen (by rw [hemptying]; nofun)
    exact ho.filled (Or.inl hflag)

/-! ## When the flag says what it should -/

/-- The flag is up for a message that is still to be taken, or is about to be
lowered; and such a message has the flag up, or a writer about to raise it. -/
structure Settled (b : Mailbox ι) : Prop where
  up : b.flag = true → ¬b.Passed ∨ b.reader = .emptying
  due : ¬b.Passed → b.flag = true ∨ b.raising.Nonempty

/-- The flag is not raised for a message that was taken, unless it is lowered
again at once, and is not lowered over one that was not, unless a writer is about
to raise it. -/
def Permits (b : Mailbox ι) : Option FlagChange → Prop
  | none => True
  | some .raise => ¬b.Passed ∨ b.reader = .emptying
  | some .lower => b.Passed ∨ b.raising.Nonempty

instance (b : Mailbox ι) : ∀ c, Decidable (b.Permits c)
  | none => isTrue trivial
  | some .raise => inferInstanceAs (Decidable (_ ∨ _))
  | some .lower => inferInstanceAs (Decidable (_ ∨ _))

/-- **The flag stays right exactly if the step is permitted.** -/
theorem Step.settled_iff [DecidableEq ι] (h : Step b c b') (ho : Orderly b) (hs : Settled b) :
    Settled b' ↔ b.Permits c := by
  cases h with
  | quiet => exact iff_of_true hs trivial
  | store i =>
    have hnew : ¬(b.stored + 1 = 0 ∨ b.stored + 1 ∈ b.taken) := by
      rintro (hzero | hmem)
      · omega
      · exact ho.fresh hmem
    exact iff_of_true ⟨fun _ => Or.inl hnew, fun _ => Or.inr ⟨i, Finset.mem_insert_self ..⟩⟩ trivial
  | raise i hi => exact ⟨fun h => h.up rfl, fun h => ⟨fun _ => h, fun _ => Or.inl rfl⟩⟩
  | look hflag haway =>
    refine iff_of_true ⟨fun h => Or.inl ?_, hs.due⟩ trivial
    exact (hs.up h).resolve_right (by rw [haway]; nofun)
  | read hlook =>
    refine iff_of_true ⟨fun h => Or.inl ?_, hs.due⟩ trivial
    exact (hs.up h).resolve_right (by rw [hlook]; nofun)
  | leave hne =>
    exact iff_of_true ⟨fun h => Or.inl ((hs.up h).resolve_right hne), hs.due⟩ trivial
  | take n hn =>
    refine iff_of_true ⟨fun _ => Or.inr rfl, fun h => hs.due fun hpassed => h ?_⟩ trivial
    exact hpassed.imp_right fun hmem => List.mem_append_left _ hmem
  | lower hemptying =>
    constructor
    · intro h
      by_cases hpassed : b.Passed
      · exact Or.inl hpassed
      · exact Or.inr ((h.due hpassed).resolve_left (by nofun))
    · intro h
      exact ⟨by nofun, fun hnot => Or.inr (h.resolve_left hnot)⟩

/-- With nobody between two steps, the flag is down exactly if nothing is left. -/
theorem Settled.at_rest (h : Settled b) (hraising : b.raising = ∅) (haway : b.reader = .away) :
    b.flag = false ↔ b.Passed := by
  constructor
  · intro hdown
    by_contra hnot
    rcases h.due hnot with hup | hwriter
    · rw [hdown] at hup
      cases hup
    · exact Finset.not_nonempty_empty (hraising ▸ hwriter)
  · intro hpassed
    by_contra hup
    rcases h.up (Bool.eq_true_of_not_eq_false hup) with hnot | hemptying
    · exact hnot hpassed
    · rw [haway] at hemptying
      cases hemptying

/-- No message was taken twice, and what the reader holds was not taken. -/
structure Once (b : Mailbox ι) : Prop where
  increasing : b.taken.Pairwise (· < ·)
  holding : ∀ n, b.reader = .holding n → ∀ m ∈ b.taken, m < n

/-- **Where the flag is right, no message is taken twice.** What matters is the
step that reads the slot: with the flag up, the message in it was not taken. -/
theorem Step.once [DecidableEq ι] (h : Step b c b') (ho : Orderly b) (hs : Settled b)
    (h₁ : Once b) : Once b' := by
  cases h with
  | quiet => exact h₁
  | store i => exact ⟨h₁.increasing, h₁.holding⟩
  | raise i hi => exact ⟨h₁.increasing, h₁.holding⟩
  | look hflag haway => exact ⟨h₁.increasing, nofun⟩
  | read hlook =>
    refine ⟨h₁.increasing, fun n hn m hm => ?_⟩
    cases hn
    have hflag : b.flag = true := ho.seen (by rw [hlook]; nofun)
    have hnot : ¬b.Passed := (hs.up hflag).resolve_right (by rw [hlook]; nofun)
    refine Nat.lt_of_le_of_ne (ho.range m hm).2 fun heq => hnot (Or.inr ?_)
    rwa [← heq]
  | leave hne => exact ⟨h₁.increasing, nofun⟩
  | take n hn =>
    refine ⟨List.pairwise_append.mpr ⟨h₁.increasing, List.pairwise_singleton .., ?_⟩, nofun⟩
    intro m hm x hx
    rw [List.mem_singleton.mp hx]
    exact h₁.holding n hn m hm
  | lower hemptying => exact ⟨h₁.increasing, nofun⟩

/-! ## One side at a time -/

/-- As if the writers and the reader took turns: a message whose flag is to be
raised was not taken, and the reader holds or has passed on the newest one. -/
structure Turns (b : Mailbox ι) : Prop where
  raising : b.raising.Nonempty → ¬b.Passed
  holding : ∀ n, b.reader = .holding n → n = b.stored
  emptying : b.reader = .emptying → b.Passed

/-- The reader is away before and after the step, or no writer is between its two
steps. -/
def OneSide (b b' : Mailbox ι) : Prop :=
  b.reader = .away ∧ b'.reader = .away ∨ b.raising = ∅ ∧ b'.raising = ∅

theorem Step.turns [DecidableEq ι] (h : Step b c b') (ho : Orderly b) (hside : OneSide b b')
    (ht : Turns b) : Turns b' := by
  cases h with
  | quiet => exact ht
  | store i =>
    rcases hside with ⟨haway, -⟩ | ⟨-, hempty⟩
    · refine ⟨fun _ => ?_, fun n hn => ?_, fun he => ?_⟩
      · rintro (hzero | hmem)
        · exact Nat.succ_ne_zero _ hzero
        · exact ho.fresh hmem
      · exact absurd (haway.symm.trans hn) (by nofun)
      · exact absurd (haway.symm.trans he) (by nofun)
    · exact absurd hempty (Finset.insert_nonempty i b.raising).ne_empty
  | raise i hi => exact ⟨fun _ => ht.raising ⟨i, hi⟩, ht.holding, ht.emptying⟩
  | look hflag haway => exact ⟨ht.raising, nofun, nofun⟩
  | read hlook =>
    refine ⟨ht.raising, fun n hn => ?_, nofun⟩
    cases hn
    rfl
  | leave hne => exact ⟨ht.raising, nofun, nofun⟩
  | take n hn =>
    rcases hside with ⟨haway, -⟩ | ⟨hempty, -⟩
    · rw [hn] at haway
      cases haway
    · refine ⟨fun hraising => ?_, nofun, fun _ => Or.inr ?_⟩
      · exact absurd (hempty ▸ hraising) Finset.not_nonempty_empty
      · rw [← ht.holding n hn]
        exact List.mem_append_right _ (List.mem_singleton.mpr rfl)
  | lower hemptying => exact ⟨ht.raising, nofun, nofun⟩

/-- Whoever takes turns is permitted what it does. -/
theorem Step.permits_of_turns [DecidableEq ι] (h : Step b c b') (ht : Turns b) : b.Permits c := by
  cases h with
  | quiet | store | look | read | leave | take => trivial
  | raise i hi => exact Or.inl (ht.raising ⟨i, hi⟩)
  | lower hemptying => exact Or.inl (ht.emptying hemptying)

/-! ## The messages themselves -/

/-- The messages that were taken, of those that were stored. -/
def messages (stored : List α) (taken : List Nat) : List α :=
  taken.filterMap fun n => stored[n - 1]?

theorem messages_append (stored : List α) (taken taken' : List Nat) :
    messages stored (taken ++ taken') = messages stored taken ++ messages stored taken' :=
  List.filterMap_append

/-- What is stored later changes nothing about the messages so far. -/
theorem messages_store (stored new : List α) {taken : List Nat}
    (h : ∀ n ∈ taken, 0 < n ∧ n ≤ stored.length) :
    messages (stored ++ new) taken = messages stored taken := by
  refine List.filterMap_congr fun n hn => ?_
  obtain ⟨hpos, hle⟩ := h n hn
  exact List.getElem?_append_left (by omega)

theorem messages_all (stored : List α) :
    messages stored (List.range' 1 stored.length) = stored := by
  induction stored using List.reverseRecOn with
  | nil => rfl
  | append_singleton stored a ih =>
    have hrange : ∀ n ∈ List.range' 1 stored.length, 0 < n ∧ n ≤ stored.length := by
      intro n hn
      have := List.mem_range'_1.mp hn
      omega
    rw [List.length_append, List.length_singleton, List.range'_concat, messages_append,
      messages_store stored [a] hrange, ih]
    simp [messages]

/-- **Taken once, in order**: a subsequence of what was stored. -/
theorem Once.messages_sublist (h₁ : Once b) (ho : Orderly b) {stored : List α}
    (hlen : b.stored = stored.length) : (messages stored b.taken).Sublist stored := by
  have hsub : b.taken.Subperm (List.range' 1 stored.length) := by
    have hnodup : b.taken.Nodup := h₁.increasing.imp fun h => Nat.ne_of_lt h
    refine hnodup.subperm fun n hn => List.mem_range'_1.mpr ?_
    have hrange := ho.range n hn
    omega
  have hnumbers : b.taken.Sublist (List.range' 1 stored.length) :=
    List.sublist_of_subperm_of_pairwise hsub h₁.increasing List.pairwise_lt_range'
  calc messages stored b.taken
      |>.Sublist (messages stored (List.range' 1 stored.length)) := hnumbers.filterMap _
    _ = stored := messages_all stored

end Mailbox

end CaptureKVMBridge.Machine
