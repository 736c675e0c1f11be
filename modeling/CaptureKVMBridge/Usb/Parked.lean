import Mathlib.Algebra.BigOperators.Group.Finset.Basic
import Mathlib.Algebra.Order.Group.Multiset
import CaptureKVMBridge.Usb.Race

/-!
# What becomes of a report under interleaving

`race_accounts` holds under every schedule of the tasks of `Usb.Race`: what was
handed to the handlers of a kind is what they sent, what they parked and what they
still have, and the poll takes what was parked in the order of parking.

That is not to say that it takes each report once, or the last one at all. There are
schedules in which the release of a key goes out twice (`race_sends_twice`), and in
which it stays behind and the key is held down (`race_strands`). `race_settled_iff`
says which steps are to blame, and `race_sends_once` what holds without them.
-/

namespace CaptureKVMBridge.Usb

open CaptureKVMBridge.Machine CaptureKVMBridge.Tlv

variable {ι : Type} {cfg : Config} {k : ReportKind}

/-! ## The reports themselves -/

/-- The reports of a kind that the poll sent. -/
def RaceWorld.drainedOf (w : RaceWorld ι) (k : ReportKind) : List UsbReport :=
  w.accepted.filterMap fun
    | .handler _ => none
    | .poll r _ => if r.kind = k then some r else none

/-- The reports of a kind that a handler sent. -/
def RaceWorld.directOf (w : RaceWorld ι) (k : ReportKind) : List UsbReport :=
  w.accepted.filterMap fun
    | .handler r => if r.kind = k then some r else none
    | .poll _ _ => none

/-- A report as an entry in the account of a kind. -/
def UsbReport.counted (cfg : Config) (k : ReportKind) (r : UsbReport) : Multiset HidReport :=
  if r.kind = k then {r.toHid cfg} else 0

/-- Reports as they are sent. -/
def counted (cfg : Config) (rs : List UsbReport) : Multiset HidReport :=
  (rs.map (UsbReport.toHid cfg) : List HidReport)

/-- What a handler is still to send or to park of a kind. -/
def HandlePc.owes (cfg : Config) (k : ReportKind) (pc : HandlePc) : Multiset HidReport :=
  match pc.inHand with
  | some r => r.counted cfg k
  | none => 0

/-- A slot has the report that was parked last, the poll holds the one with its
number, and has sent those with their numbers. -/
structure Values (w : RaceWorld ι) : Prop where
  slot : ∀ k r, (w.storedOf k).getLast? = some r → w.usb.usb.pending k = r
  held : ∀ r n, w.poll = .hidReport r n → (w.storedOf r.kind)[n - 1]? = some r
  drained : ∀ k, w.drainedOf k = Mailbox.messages (w.storedOf k) (w.takenOf k)

section Reports

variable {w w' : RaceWorld ι} {c : Option (ReportKind × FlagChange)}

theorem drainedOf_append (w : RaceWorld ι) (a : Acceptance) (k : ReportKind) :
    RaceWorld.drainedOf { w with accepted := w.accepted ++ [a] } k
      = w.drainedOf k ++ RaceWorld.drainedOf { w with accepted := [a] } k := List.filterMap_append

theorem directOf_append (w : RaceWorld ι) (a : Acceptance) (k : ReportKind) :
    RaceWorld.directOf { w with accepted := w.accepted ++ [a] } k
      = w.directOf k ++ RaceWorld.directOf { w with accepted := [a] } k := List.filterMap_append

/-- A step that parks and drains nothing, and leaves what the slots hold. -/
theorem Values.same (hv : Values w) (hpending : ∀ k, w'.usb.usb.pending k = w.usb.usb.pending k)
    (hstored : w'.stored = w.stored) (hpoll : ∀ r n, w'.poll = .hidReport r n → w.poll = w'.poll)
    (hdrained : ∀ k, w'.drainedOf k = w.drainedOf k) (htaken : ∀ k, w'.takenOf k = w.takenOf k) :
    Values w' := by
  have hof : ∀ k, w'.storedOf k = w.storedOf k := fun k => by
    rw [RaceWorld.storedOf, hstored, RaceWorld.storedOf]
  refine ⟨fun k r hr => ?_, fun r n hpc => ?_, fun k => ?_⟩
  · rw [hpending]
    exact hv.slot k r (hof k ▸ hr)
  · rw [hof]
    exact hv.held r n ((hpoll r n hpc).trans hpc)
  · rw [hdrained, hof, htaken, hv.drained]

variable [DecidableEq ι] [Fintype ι]

/-- The reports stay with their numbers. By cases on the step. -/
theorem RaceStep.values (h : RaceStep cfg w c w') (ho : ∀ k, (w.mailbox k).Orderly)
    (hv : Values w) : Values w' := by
  cases h with
  | bus hs =>
    exact hv.same hs.pending rfl (fun _ _ _ => rfl) (fun _ => rfl) (fun _ => rfl)
  | move i pc hs hhand hraises =>
    exact hv.same hs.pending rfl (fun _ _ _ => rfl) (fun _ => rfl) (fun _ => rfl)
  | submit i r hpc =>
    exact hv.same (fun _ => rfl) rfl (fun _ _ _ => rfl) (fun _ => rfl) (fun _ => rfl)
  | direct i r hpc husb hout =>
    refine hv.same (fun k => congrArg (UsbHs.pending · k) husb) rfl (fun _ _ _ => rfl) ?_ ?_
    · exact fun k => (drainedOf_append w (.handler r) k).trans (List.append_nil _)
    · exact fun k => (takenOf_append w (.handler r) k).trans (List.append_nil _)
  | store i r hpc =>
    refine ⟨fun k x hx => ?_, fun x n hheld => ?_, fun k => ?_⟩
    -- the slot of the kind has the new report, the others what they had
    · replace hx := (congrArg List.getLast? (storedOf_append w r k)).symm.trans hx
      by_cases hk : r.kind = k
      · subst hk
        rw [if_pos rfl, List.getLast?_concat] at hx
        cases hx
        exact setPending_self r w.usb.usb
      · rw [if_neg hk, List.append_nil] at hx
        exact (setPending_other hk w.usb.usb).trans (hv.slot k x hx)
    -- the number that the poll holds is that of an earlier report
    · have hheld' : (w.mailbox x.kind).reader = .holding n :=
        (congrArg (PollPc.reader x.kind) hheld).trans (if_pos rfl)
      obtain ⟨hpos, hle, -⟩ := (ho x.kind).holding n hheld'
      have hlt : n - 1 < (w.storedOf x.kind).length := Nat.lt_of_lt_of_le (by omega) hle
      refine (congrArg (·[n - 1]?) (storedOf_append w r x.kind)).trans ?_
      exact (List.getElem?_append_left hlt).trans (hv.held x n hheld)
    · refine (hv.drained k).trans (Eq.trans ?_ (congrArg
        (fun stored => Mailbox.messages stored (w.takenOf k)) (storedOf_append w r k)).symm)
      exact (Mailbox.messages_store _ _ (ho k).range).symm
  | raise i r hpc =>
    exact hv.same (fun k => setPendingReport_pending ..) rfl (fun _ _ _ => rfl) (fun _ => rfl)
      (fun _ => rfl)
  | pollMove pc hs hreader hheld =>
    exact hv.same hs.pending rfl (fun r n hpc => absurd hpc (hheld r n)) (fun _ => rfl)
      (fun _ => rfl)
  | look j hpc hflag =>
    refine hv.same (fun _ => rfl) rfl (fun r n hheld => ?_) (fun _ => rfl) (fun _ => rfl)
    cases hheld
  | read j hpc =>
    -- the flag was seen up, so some report was parked, and the slot has the last one
    have hlook : (w.mailbox j).reader = .looking :=
      (congrArg (PollPc.reader j) hpc).trans (if_pos rfl)
    have hpos : 0 < (w.storedOf j).length :=
      (ho j).filled (Or.inl ((ho j).seen (by rw [hlook]; exact Reader.noConfusion)))
    obtain ⟨last, hlast⟩ : ∃ last, (w.storedOf j).getLast? = some last :=
      ⟨_, List.getLast?_eq_some_getLast (List.length_pos_iff.mp hpos)⟩
    refine ⟨hv.slot, fun r n hheld => ?_, hv.drained⟩
    obtain ⟨rfl, rfl⟩ := PollPc.hidReport.inj hheld
    rw [pending_kind, hv.slot j last hlast, ← hlast]
    exact List.getLast?_eq_getElem?.symm
  | take r n hpc husb hout =>
    refine ⟨fun k x hx => ?_, fun x m hheld => ?_, fun k => ?_⟩
    · rw [show _ = w.usb.usb.pending k from congrArg (UsbHs.pending · k) husb]
      exact hv.slot k x hx
    · cases hheld
    · refine (drainedOf_append w (.poll r n) k).trans (Eq.trans ?_ (congrArg
        (Mailbox.messages (w.storedOf k)) (takenOf_append w (.poll r n) k)).symm)
      rw [Mailbox.messages_append, ← hv.drained k]
      congr 1
      by_cases hk : r.kind = k
      · subst hk
        simp [RaceWorld.drainedOf, RaceWorld.takenOf, Mailbox.messages, hv.held r n hpc]
      · simp [RaceWorld.drainedOf, RaceWorld.takenOf, Mailbox.messages, hk]
  | lower j hpc =>
    refine hv.same (fun k => setPendingReport_pending ..) rfl (fun r n hheld => ?_)
      (fun _ => rfl) (fun _ => rfl)
    cases hheld

end Reports

/-- What a kind was given is what its handlers sent, parked or still have; and what
went out is what its handlers and the poll sent. -/
structure Accounts [Fintype ι] (cfg : Config) (k : ReportKind) (w : RaceWorld ι) : Prop where
  handed : (submitted (mark cfg k) w.usb.out : Multiset HidReport)
    = counted cfg (w.directOf k) + counted cfg (w.storedOf k) + ∑ i, (w.handler i).owes cfg k
  sent : (Machine.sent (mark cfg k) w.usb.out : Multiset HidReport)
    = counted cfg (w.directOf k) + counted cfg (w.drainedOf k)

theorem owes_of_inHand {pc pc' : HandlePc} (h : pc.inHand = pc'.inHand) :
    pc.owes cfg k = pc'.owes cfg k := by
  rw [HandlePc.owes, h, HandlePc.owes]

/-- Lines about no report leave the account alone. -/
theorem submitted_silents (k : ReportKind) (out : List UsbEvent) {es : List UsbEvent}
    (h : ∀ e ∈ es, ∀ k, mark cfg k e = none) :
    submitted (mark cfg k) (out ++ es) = submitted (mark cfg k) out ∧
      Machine.sent (mark cfg k) (out ++ es) = Machine.sent (mark cfg k) out := by
  have hsub : submitted (mark cfg k) es = [] :=
    List.filterMap_eq_nil_iff.mpr fun e he => by rw [h e he k]
  have hsent : Machine.sent (mark cfg k) es = [] :=
    List.filterMap_eq_nil_iff.mpr fun e he => by rw [h e he k]
  refine ⟨?_, ?_⟩
  · rw [submitted_append, hsub, List.append_nil]
  · rw [Machine.sent, List.filterMap_append]
    exact (congrArg _ hsent).trans (List.append_nil _)

/-- **An entry in the accounts** that balances: `a` is handed in and `b` goes out,
the handlers send `c` and park `d`, the poll sends `e`, and a handler that had `f`
has `g`. -/
theorem Accounts.enter [Fintype ι] {w w' : RaceWorld ι} (ha : Accounts cfg k w)
    {a b c d e f g : Multiset HidReport}
    (hhanded : (submitted (mark cfg k) w'.usb.out : Multiset HidReport)
      = submitted (mark cfg k) w.usb.out + a)
    (hsent : (Machine.sent (mark cfg k) w'.usb.out : Multiset HidReport)
      = Machine.sent (mark cfg k) w.usb.out + b)
    (hdirect : counted cfg (w'.directOf k) = counted cfg (w.directOf k) + c)
    (hstored : counted cfg (w'.storedOf k) = counted cfg (w.storedOf k) + d)
    (hdrained : counted cfg (w'.drainedOf k) = counted cfg (w.drainedOf k) + e)
    (howes : (∑ i, (w'.handler i).owes cfg k) + f = (∑ i, (w.handler i).owes cfg k) + g)
    (hin : a + f = c + d + g) (hout : b = c + e) : Accounts cfg k w' := by
  refine ⟨add_right_cancel (b := f) ?_, ?_⟩
  · rw [hhanded, ha.handed, hdirect, hstored, add_assoc _ a f, hin, add_assoc _ _ f, howes]
    abel
  · rw [hsent, ha.sent, hdirect, hdrained, hout]
    abel

/-- A step with silent lines that sends and parks nothing. -/
theorem Accounts.same [Fintype ι] {w w' : RaceWorld ι} (h : Accounts cfg k w) (hs : SameSlots cfg w.usb w'.usb)
    (hstored : w'.stored = w.stored) (haccepted : w'.accepted = w.accepted)
    (howes : ∑ i, (w'.handler i).owes cfg k = ∑ i, (w.handler i).owes cfg k) :
    Accounts cfg k w' := by
  obtain ⟨es, hout, hes⟩ := hs.out
  obtain ⟨hsub, hsent⟩ := submitted_silents k w.usb.out hes
  have hdirect : w'.directOf k = w.directOf k := by
    rw [RaceWorld.directOf, haccepted, RaceWorld.directOf]
  have hdrained : w'.drainedOf k = w.drainedOf k := by
    rw [RaceWorld.drainedOf, haccepted, RaceWorld.drainedOf]
  have hof : w'.storedOf k = w.storedOf k := by
    rw [RaceWorld.storedOf, hstored, RaceWorld.storedOf]
  refine ⟨?_, ?_⟩
  · rw [hout, hsub, hdirect, hof, howes, h.handed]
  · rw [hout, hsent, hdirect, hdrained, h.sent]

/-! ### What a step enters -/

section Entries

variable (cfg) (k) (w : RaceWorld ι) (r : UsbReport) (out : List UsbEvent)

theorem counted_append (rs rs' : List UsbReport) :
    counted cfg (rs ++ rs') = counted cfg rs + counted cfg rs' := by
  rw [counted, List.map_append, ← Multiset.coe_add, counted, counted]

/-- A report of the kind is entered, one of another kind is not. -/
theorem counted_if : counted cfg (if r.kind = k then [r] else []) = r.counted cfg k := by
  by_cases hk : r.kind = k
  · rw [UsbReport.counted, if_pos hk, if_pos hk]
    rfl
  · rw [UsbReport.counted, if_neg hk, if_neg hk]
    rfl

theorem submitted_handle :
    (submitted (mark cfg k) (out ++ [.called (.handle r) true]) : Multiset HidReport)
      = submitted (mark cfg k) out + r.counted cfg k := by
  rw [submitted_append, ← Multiset.coe_add]
  by_cases hk : r.kind = k
  · simp [submitted, mark, UsbReport.counted, hk]
  · simp [submitted, mark, UsbReport.counted, hk]

theorem sent_handle :
    Machine.sent (mark cfg k) (out ++ [.called (.handle r) true])
      = Machine.sent (mark cfg k) out := by
  by_cases hk : r.kind = k
  · simp [Machine.sent, mark, hk]
  · simp [Machine.sent, mark, hk]

theorem submitted_hidReport :
    submitted (mark cfg k) (out ++ [.hidReport (r.toHid cfg) true])
      = submitted (mark cfg k) out := by
  by_cases hk : r.kind = k
  · simp [submitted, mark, hk]
  · simp [submitted, mark, hk]

theorem sent_hidReport :
    (Machine.sent (mark cfg k) (out ++ [.hidReport (r.toHid cfg) true]) : Multiset HidReport)
      = Machine.sent (mark cfg k) out + r.counted cfg k := by
  rw [Machine.sent, List.filterMap_append, ← Multiset.coe_add]
  by_cases hk : r.kind = k
  · simp [Machine.sent, mark, UsbReport.counted, hk]
  · simp [Machine.sent, mark, UsbReport.counted, hk]

theorem counted_stored :
    counted cfg (RaceWorld.storedOf { w with stored := w.stored ++ [r] } k)
      = counted cfg (w.storedOf k) + r.counted cfg k := by
  rw [storedOf_append, counted_append, counted_if]

theorem counted_direct :
    counted cfg (RaceWorld.directOf { w with accepted := w.accepted ++ [.handler r] } k)
      = counted cfg (w.directOf k) + r.counted cfg k := by
  rw [directOf_append, counted_append, ← counted_if]
  congr 2
  by_cases hk : r.kind = k
  · simp [RaceWorld.directOf, hk]
  · simp [RaceWorld.directOf, hk]

theorem counted_drained (n : Nat) :
    counted cfg (RaceWorld.drainedOf { w with accepted := w.accepted ++ [.poll r n] } k)
      = counted cfg (w.drainedOf k) + r.counted cfg k := by
  rw [drainedOf_append, counted_append, ← counted_if]
  congr 2
  by_cases hk : r.kind = k
  · simp [RaceWorld.drainedOf, hk]
  · simp [RaceWorld.drainedOf, hk]

end Entries

section Reckoning

variable [DecidableEq ι] [Fintype ι] {w w' : RaceWorld ι} {i : ι} {pc : HandlePc}
  {c : Option (ReportKind × FlagChange)}

/-- One handler goes on. -/
theorem sum_setHandler {M : Type} [AddCommMonoid M] (f : HandlePc → M) (w : RaceWorld ι) (i : ι)
    (pc : HandlePc) :
    (∑ j, f ((w.setHandler i pc).handler j)) + f (w.handler i)
      = (∑ j, f (w.handler j)) + f pc := by
  have hothers : ∑ j ∈ Finset.univ.erase i, f ((w.setHandler i pc).handler j)
      = ∑ j ∈ Finset.univ.erase i, f (w.handler j) := by
    refine Finset.sum_congr rfl fun j hj => ?_
    rw [setHandler_handler_ne w (Finset.ne_of_mem_erase hj)]
  rw [← Finset.add_sum_erase _ _ (Finset.mem_univ i), hothers, setHandler_handler,
    ← Finset.add_sum_erase Finset.univ (fun j => f (w.handler j)) (Finset.mem_univ i)]
  abel

/-- A handler whose part in the account does not change. -/
theorem sum_owes_same (h : pc.owes cfg k = (w.handler i).owes cfg k) :
    ∑ j, ((w.setHandler i pc).handler j).owes cfg k = ∑ j, (w.handler j).owes cfg k := by
  have hsum := sum_setHandler (HandlePc.owes cfg k) w i pc
  rw [h] at hsum
  exact add_right_cancel hsum

/-- **The accounts are kept.** By cases on the step. -/
theorem RaceStep.accounts (h : RaceStep cfg w c w') (ha : Accounts cfg k w) :
    Accounts cfg k w' := by
  cases h with
  | bus hs => exact ha.same hs rfl rfl rfl
  | move i pc hs hhand hraises => exact ha.same hs rfl rfl (sum_owes_same (owes_of_inHand hhand))
  | submit i r hpc =>
    -- it is handed in, and now in the hands of the handler
    have hpart : (w.handler i).owes cfg k = 0 := by rw [hpc]; rfl
    refine ha.enter (submitted_handle cfg k r w.usb.out) ?_ (add_zero _).symm (add_zero _).symm
      (add_zero _).symm (sum_setHandler _ w i _) ?_ rfl
    · exact (congrArg _ (sent_handle cfg k r w.usb.out)).trans (add_zero _).symm
    · rw [hpart, add_zero, add_zero, zero_add]
      rfl
  | direct i r hpc husb hout =>
    have hpart : (w.handler i).owes cfg k = r.counted cfg k := by rw [hpc]; rfl
    have hdrained : RaceWorld.drainedOf { w with accepted := w.accepted ++ [.handler r] } k
        = w.drainedOf k := (drainedOf_append w (.handler r) k).trans (List.append_nil _)
    refine ha.enter (a := 0) ?_ ?_ (counted_direct cfg k w r) (add_zero _).symm
      ((congrArg _ hdrained).trans (add_zero _).symm) (sum_setHandler _ w i _) ?_
      (add_zero _).symm
    · rw [hout, submitted_hidReport, add_zero]
    · rw [hout, sent_hidReport]
    · rw [hpart]
      exact (zero_add _).trans ((add_zero _).trans (add_zero _)).symm
  | store i r hpc =>
    -- it goes from the hands of the handler to the slot
    have hpart : (w.handler i).owes cfg k = r.counted cfg k := by rw [hpc]; rfl
    refine ha.enter (add_zero _).symm (add_zero _).symm (add_zero _).symm
      (counted_stored cfg k w r) (add_zero _).symm (sum_setHandler _ w i _) ?_ rfl
    rw [hpart]
    exact (add_zero _).symm
  | raise i r hpc =>
    refine ⟨?_, ha.sent⟩
    refine ha.handed.trans (congrArg _ (sum_owes_same ?_).symm)
    rw [hpc]
    rfl
  | pollMove pc hs hreader hheld => exact ha.same hs rfl rfl rfl
  | look j hpc hflag => exact ⟨ha.handed, ha.sent⟩
  | read j hpc => exact ⟨ha.handed, ha.sent⟩
  | take r n hpc husb hout =>
    have hdirect : RaceWorld.directOf { w with accepted := w.accepted ++ [.poll r n] } k
        = w.directOf k := (directOf_append w (.poll r n) k).trans (List.append_nil _)
    refine ha.enter (a := 0) (f := 0) (g := 0) ?_ ?_ ((congrArg _ hdirect).trans (add_zero _).symm) (add_zero _).symm
      (counted_drained cfg k w r n) rfl rfl (zero_add _).symm
    · rw [hout, submitted_hidReport, add_zero]
    · rw [hout, sent_hidReport]
  | lower j hpc => exact ⟨ha.handed, ha.sent⟩

end Reckoning

/-! ## Runs -/

section Runs

theorem values_boot (app : AppState) (env : Answers) : Values (raceBoot (ι := ι) app env) := by
  refine ⟨fun k r h => ?_, nofun, fun _ => rfl⟩
  cases h

variable [Fintype ι]

theorem accounts_boot (cfg : Config) (k : ReportKind) (app : AppState) (env : Answers) :
    Accounts cfg k (raceBoot (ι := ι) app env) := by
  have hnone : ∑ i, ((raceBoot (ι := ι) app env).handler i).owes cfg k = 0 :=
    Finset.sum_eq_zero fun i _ => rfl
  refine ⟨?_, rfl⟩
  rw [hnone]
  rfl

theorem settled_boot (app : AppState) (env : Answers) (k : ReportKind) :
    ((raceBoot (ι := ι) app env).mailbox k).Settled := by
  refine ⟨fun h => ?_, fun h => absurd (Or.inl rfl) h⟩
  cases k <;> cases h

/-- A step that raises or lowers a flag does it for the report in the slot: it does
not raise it for one that was sent, unless the poll is about to lower it, and does
not lower it over one that was not, unless a handler is about to raise it. -/
def Timely (w : RaceWorld ι) (op : RaceOp ι) : Prop :=
  ∀ c ∈ raceChange w op, (w.mailbox c.1).Permits (some c.2)

instance (w : RaceWorld ι) (op : RaceOp ι) : Decidable (Timely w op) :=
  inferInstanceAs (Decidable (∀ c ∈ raceChange w op, _))

theorem timely_iff (w : RaceWorld ι) (op : RaceOp ι) :
    Timely w op ↔ ∀ k, (w.mailbox k).Permits (changeOf k (raceChange w op)) := by
  unfold Timely
  cases raceChange w op with
  | none => exact iff_of_true nofun fun _ => trivial
  | some c =>
    refine ⟨fun h k => ?_, fun h c' hc' => ?_⟩
    · show (w.mailbox k).Permits (if c.1 = k then some c.2 else none)
      split
      next hk => exact hk ▸ h c rfl
      next => trivial
    · obtain rfl := Option.some.inj hc'
      have hself : changeOf c.1 (some c) = some c.2 := if_pos rfl
      rw [← hself]
      exact h c.1

variable [DecidableEq ι]

/-- The slots, the reports and the accounts, in every run. -/
theorem race_run (cfg : Config) (app : AppState) (env : Answers) (ops : List (RaceOp ι)) :
    let w := runSteps (raceExec cfg) (raceBoot app env) ops
    Values w ∧ ∀ k, Accounts cfg k w := by
  intro w
  have hinv := runSteps_inv
    (I := fun w : RaceWorld ι => (∀ k, (w.mailbox k).Orderly) ∧ Values w ∧ ∀ k, Accounts cfg k w)
    (fun w op h => by
      have hstep := raceExec_step cfg w op
      obtain ⟨ho, hv, ha⟩ := h
      exact ⟨fun k => (hstep.mailbox k).orderly (ho k), hstep.values ho hv,
        fun k => hstep.accounts (ha k)⟩)
    ⟨fun k => race_orderly cfg app env [] k, values_boot app env,
      fun k => accounts_boot cfg k app env⟩ ops
  exact hinv.2

/-- **What becomes of each report under interleaving.** In every run, what was
handed to the handlers of a kind while ready is what they sent, what they parked
and what they still have; what went out is what they sent, and of the parked
reports those that the poll took, in the order of parking. -/
theorem race_accounts (cfg : Config) (app : AppState) (env : Answers) (ops : List (RaceOp ι))
    (k : ReportKind) :
    let w := runSteps (raceExec cfg) (raceBoot app env) ops
    (submitted (mark cfg k) w.usb.out : Multiset HidReport)
        = counted cfg (w.directOf k) + counted cfg (w.storedOf k)
          + ∑ i, (w.handler i).owes cfg k ∧
      (transmitted k w.usb.out : Multiset HidReport)
        = counted cfg (w.directOf k)
          + counted cfg (Mailbox.messages (w.storedOf k) (w.takenOf k)) ∧
      (w.takenOf k).Pairwise (· ≤ ·) ∧
      ∀ n ∈ w.takenOf k, 0 < n ∧ n ≤ (w.storedOf k).length := by
  intro w
  obtain ⟨hvalues, haccounts⟩ := race_run cfg app env ops
  have ho := race_orderly cfg app env ops k
  refine ⟨(haccounts k).handed, ?_, ho.sorted, ho.range⟩
  rw [← sent_eq_transmitted cfg, (haccounts k).sent, hvalues.drained k]

/-- **When the flags are right.** A flag is up for a parked report that was not
sent, and such a report has its flag up, but for the moments between the two
accesses of a task: in every state of a run exactly if each of its steps is timely. -/
theorem race_settled_iff (cfg : Config) (app : AppState) (env : Answers)
    (ops : List (RaceOp ι)) :
    (∀ pre, pre <+: ops → ∀ k,
        ((runSteps (raceExec cfg) (raceBoot app env) pre).mailbox k).Settled) ↔
      AllSteps (raceExec cfg) Timely (raceBoot app env) ops := by
  refine prefixes_iff_allSteps (A := fun _ _ => True)
    (I := fun w : RaceWorld ι => ∀ k, (w.mailbox k).Orderly)
    (G := fun w : RaceWorld ι => ∀ k, (w.mailbox k).Settled)
    (fun w op ho _ k => ((raceExec_step cfg w op).mailbox k).orderly (ho k))
    (fun w op ho _ hs => ?_) (race_orderly cfg app env []) (allSteps_of_mem (fun _ _ => trivial) _)
    (settled_boot app env)
  rw [timely_iff]
  exact forall_congr' fun k => ((raceExec_step cfg w op).mailbox k).settled_iff (ho k) (hs k)

theorem parked_eq_none_iff (u : UsbHs) (k : ReportKind) :
    u.parked k = none ↔ u.pendingReport k = false := by
  cases k <;> simp [UsbHs.parked, UsbHs.pendingReport]

theorem counted_le {rs rs' : List UsbReport} (h : rs.Sublist rs') :
    counted cfg rs ≤ counted cfg rs' := Multiset.coe_le.mpr (h.map _).subperm

/-- **At most once, in order, and not left behind.** In a run whose steps are all
timely no report goes out more often than it was handed in, the poll takes each
parked report at most once, in the order of parking, and when every task is outside
a slot is empty exactly if the report parked in it last was taken. -/
theorem race_sends_once (cfg : Config) (app : AppState) (env : Answers) (ops : List (RaceOp ι))
    (h : AllSteps (raceExec cfg) Timely (raceBoot app env) ops) (k : ReportKind) :
    let w := runSteps (raceExec cfg) (raceBoot app env) ops
    (transmitted k w.usb.out : Multiset HidReport) ≤ submitted (mark cfg k) w.usb.out ∧
      (w.drainedOf k).Sublist (w.storedOf k) ∧
      ((∀ i, w.handler i = .idle) → w.poll = .idle →
        (w.usb.usb.parked k = none ↔
          (w.storedOf k).length = 0 ∨ (w.storedOf k).length ∈ w.takenOf k)) := by
  intro w
  obtain ⟨hvalues, haccounts⟩ := race_run cfg app env ops
  -- the flags stay right along the run, and so no number is taken twice
  have hinv := h.inv (I := fun w : RaceWorld ι => (w.mailbox k).Orderly ∧ (w.mailbox k).Settled ∧
      (w.mailbox k).Once)
    (fun w op hw ht => by
      have hstep := (raceExec_step cfg w op).mailbox k
      obtain ⟨ho, hs, h₁⟩ := hw
      exact ⟨hstep.orderly ho, (hstep.settled_iff ho hs).mpr ((timely_iff w op).mp ht k),
        hstep.once ho hs h₁⟩)
    ⟨race_orderly cfg app env [] k, settled_boot app env k, List.Pairwise.nil, nofun⟩
  obtain ⟨ho, hs, h₁⟩ := hinv
  have hdrained : (w.drainedOf k).Sublist (w.storedOf k) := by
    rw [hvalues.drained k]
    exact h₁.messages_sublist ho rfl
  refine ⟨?_, hdrained, fun hidle hpoll => ?_⟩
  -- the poll sent some of what was parked, and each report once
  · calc (transmitted k w.usb.out : Multiset HidReport)
        = counted cfg (w.directOf k) + counted cfg (w.drainedOf k) := by
          rw [← sent_eq_transmitted cfg, (haccounts k).sent]
      _ ≤ counted cfg (w.directOf k) + counted cfg (w.storedOf k) :=
          add_le_add_right (counted_le hdrained) _
      _ ≤ submitted (mark cfg k) w.usb.out := by
          rw [(haccounts k).handed]
          exact Multiset.le_add_right ..
  · rw [parked_eq_none_iff]
    exact hs.at_rest (raising_idle hidle k) (reader_idle hpoll k)

end Runs

/-! ### Three schedules -/

/-- The endpoint is ready as said, and then always; it takes every report. -/
def answering (ready : List Bool) : Answers where
  hidReady := ready ++ₛ Stream'.const true
  hidReport := Stream'.const true
  remoteWakeup := Stream'.const true
  timer := Stream'.const 0

/-- A task is called with a report and makes `n` steps. -/
def handing (i : ι) (r : UsbReport) (n : Nat) : List (RaceOp ι) :=
  .callHandle i r :: List.replicate n (.handle i)

/-- The poll is called and makes `n` steps. -/
def polling (n : Nat) : List (RaceOp ι) := .callPoll :: List.replicate n .poll

/-- The host attaches. -/
def attaching : RaceOp ι := .bus (.event .attached) id

/-- The run of two handlers and the poll on an attached device. -/
def raceOf (ready : List Bool) (ops : List (RaceOp Bool)) : RaceWorld Bool :=
  runSteps (raceExec .shipped) (raceBoot (appStateInit 0) (answering ready)) (attaching :: ops)

/-- A key is released while the poll is between the flag and the slot. -/
def timelyRun : List (RaceOp Bool) :=
  handing false (keyReport 4) 5 ++ polling 4 ++ handing true (keyReport 0) 5 ++ List.replicate 8 .poll

theorem race_sends_once_timely :
    let w := raceOf [false, true, true, false] timelyRun
    (transmitted .keyboard w.usb.out : Multiset HidReport)
        ≤ submitted (mark .shipped .keyboard) w.usb.out ∧
      w.drainedOf .keyboard = [keyReport 0] ∧ w.usb.usb.parked .keyboard = none := by
  obtain ⟨hle, -, hrest⟩ := race_sends_once .shipped (appStateInit 0)
    (answering [false, true, true, false]) (attaching :: timelyRun)
    (by decide +kernel) .keyboard
  refine ⟨hle, by decide +kernel, (hrest ?_ ?_).mpr ?_⟩
  · decide +kernel
  · decide +kernel
  · decide +kernel

/-- The flag is raised again for a report that the poll sent meanwhile. -/
def staleRun : List (RaceOp Bool) :=
  handing false (keyReport 4) 5 ++ handing true (keyReport 0) 4 ++ polling 12 ++ .handle true :: polling 12

/-- Then the report goes out twice. -/
theorem race_sends_twice :
    let w := raceOf [false, false] staleRun
    w.storedOf .keyboard = [keyReport 4, keyReport 0] ∧
      transmitted .keyboard w.usb.out
        = [(keyReport 0).toHid .shipped, (keyReport 0).toHid .shipped] := by
  decide +kernel

/-- A report is parked while the poll sends the one before. -/
def hastyRun : List (RaceOp Bool) :=
  handing false (keyReport 4) 5 ++ polling 5 ++ handing true (keyReport 0) 5 ++ List.replicate 7 .poll

/-- Then the release of the key stays behind, with every task outside. -/
theorem race_strands :
    let w := raceOf [false, true, true, false] hastyRun
    w.storedOf .keyboard = [keyReport 4, keyReport 0] ∧
      transmitted .keyboard w.usb.out = [(keyReport 4).toHid .shipped] ∧
      w.usb.usb.parked .keyboard = none ∧ (∀ i, w.handler i = .idle) ∧ w.poll = .idle := by
  decide +kernel

end CaptureKVMBridge.Usb
