import CaptureKVMBridge.Uart.Transport

/-!
# The read loop of the `UART_DATA` branch

`remaining` starts as the size of the event. Each pass takes what was read off
it and adds what is buffered, although part of that was counted before, so it is
no bound on the bytes left in either direction. What ends the loop is the FIFO:
a pass takes at least one byte out of it, and the schedule of arrivals is finite.

`drainLoop` runs the loop under a schedule and logs each call with the FIFO it
finds. `drainLoop_spec` shows that it ends, that nothing underflows and that every
byte taken is fed, and says when it stops on a FIFO that is not empty: when the
sum `remaining + buffered` wraps around to zero (`DrainCall.wraps`).
`drainLoop_wraps` is such a run, in which a backlog of 24 kB keeps being counted.
-/

namespace CaptureKVMBridge.Uart

open CaptureKVMBridge.Machine CaptureKVMBridge.Tlv

variable {cfg : Config} {κ : Type}

/-! ## The loop and its log -/

/-- A call of the task and the FIFO it finds. -/
structure DrainCall where
  task : RxTask
  fifo : List WireByte
  deriving DecidableEq, Repr

/-- The call that comes next. -/
def UartWorld.call (w : UartWorld cfg κ) : DrainCall where
  task := w.task
  fifo := w.driver.buffered

/-- The bytes the call takes out of the FIFO. -/
def DrainCall.popped (c : DrainCall) : List WireByte :=
  match c.task with
  | .read remaining => c.fifo.take (toRead remaining)
  | _ => []

/-- The bytes the call passes to `tlv_stream_feed`. -/
def DrainCall.passed (c : DrainCall) : List WireByte :=
  match c.task with
  | .feed _ chunk => chunk
  | _ => []

/-- The driver calls that look at the FIFO. -/
def DrainCall.inspects (c : DrainCall) : Bool :=
  match c.task with
  | .read _ => true
  | .bufferedLen _ => true
  | _ => false

/-- The call counts bytes, but with them `remaining` comes out as zero. -/
def DrainCall.wraps (c : DrainCall) : Bool :=
  match c.task with
  | .bufferedLen remaining => !c.fifo.isEmpty && remaining + UInt32.ofNat c.fifo.length == 0
  | _ => false

/-- A read asks for at most one chunk, and no more than `remaining` is taken
off it. -/
def DrainCall.InBounds (c : DrainCall) : Prop :=
  (∀ remaining, c.task = .read remaining → toRead remaining ≤ 512) ∧
  ∀ remaining chunk, c.task = .feed remaining chunk → chunk.length ≤ remaining.toNat

/-- The bytes that the schedule has arrive before the next call. -/
def UartWorld.arrive (w : UartWorld cfg κ) : List (List UInt8) → UartWorld cfg κ
  | [] => w
  | bs :: _ => if bs.isEmpty then w else uartExec w (.receive bs)

/-- The calls of the task until it is back at `xQueueReceive`, under a schedule
of arrivals; `none` is out of fuel. -/
def drainLoop : Nat → List (List UInt8) → UartWorld cfg κ →
    Option (UartWorld cfg κ × List DrainCall)
  | 0, _, _ => none
  | fuel + 1, sched, w =>
    if w.task = .receive then some (w, [])
    else
      (drainLoop fuel sched.tail (uartRxTask (w.arrive sched))).map fun r =>
        (r.1, (w.arrive sched).call :: r.2)

/-- The last call that looked at the FIFO found it empty. -/
def LastFoundEmpty (calls : List DrainCall) : Prop :=
  ∃ c, (calls.filter DrainCall.inspects).getLast? = some c ∧ c.fifo = []

@[simp] theorem arrive_task (w : UartWorld cfg κ) (sched : List (List UInt8)) :
    (w.arrive sched).task = w.task := by
  unfold UartWorld.arrive
  split
  · rfl
  · split <;> rfl

/-- The arrivals reach the end of the FIFO. -/
theorem arrive_buffered (w : UartWorld cfg κ) (sched : List (List UInt8)) :
    (w.arrive sched).driver.buffered
      = w.driver.buffered ++ wireBytes w.driver.wirePos sched.headI ∧
    (w.arrive sched).driver.wirePos = w.driver.wirePos + sched.headI.length := by
  cases sched with
  | nil => exact ⟨(List.append_nil _).symm, rfl⟩
  | cons bs sched =>
    cases bs with
    | nil => exact ⟨(List.append_nil _).symm, rfl⟩
    | cons b bs => exact ⟨rfl, rfl⟩

theorem drainLoop_receive {w : UartWorld cfg κ} (htask : w.task = .receive) (fuel : Nat)
    (sched : List (List UInt8)) : drainLoop (fuel + 1) sched w = some (w, []) := by
  rw [drainLoop, if_pos htask]

theorem drainLoop_call {w : UartWorld cfg κ} (htask : w.task ≠ .receive) (fuel : Nat)
    (sched : List (List UInt8)) :
    drainLoop (fuel + 1) sched w
      = (drainLoop fuel sched.tail (uartRxTask (w.arrive sched))).map fun r =>
          (r.1, (w.arrive sched).call :: r.2) := by
  rw [drainLoop, if_neg htask]

/-- **The rule of the loop.** What holds when it is left, and is carried from
the rest of the loop to the loop by one call, holds of every loop that ends. -/
theorem drainLoop_rule
    {M : List (List UInt8) → UartWorld cfg κ → UartWorld cfg κ → List DrainCall → Prop}
    (hdone : ∀ sched w, w.task = .receive → M sched w w [])
    (hcall : ∀ sched w w' calls, w.task ≠ .receive →
      M sched.tail (uartRxTask (w.arrive sched)) w' calls →
      M sched w w' ((w.arrive sched).call :: calls))
    {fuel : Nat} {sched : List (List UInt8)} {w w' : UartWorld cfg κ} {calls : List DrainCall}
    (h : drainLoop fuel sched w = some (w', calls)) : M sched w w' calls := by
  induction fuel generalizing sched w calls with
  | zero => cases h
  | succ fuel ih =>
    by_cases htask : w.task = .receive
    · rw [drainLoop_receive htask] at h
      obtain ⟨rfl, rfl⟩ := Prod.mk.inj (Option.some.inj h)
      exact hdone sched w htask
    · rw [drainLoop_call htask] at h
      obtain ⟨r, hr, heq⟩ := Option.map_eq_some_iff.mp h
      obtain ⟨rfl, rfl⟩ := Prod.mk.inj heq
      exact hcall sched w r.1 r.2 htask (ih hr)

/-! ## One call -/

theorem toRead_le_chunk (remaining : UInt32) : toRead remaining ≤ 512 := by
  unfold toRead
  split
  · exact Nat.le_refl _
  next h =>
    rw [gt_iff_lt, UInt32.lt_iff_toNat_lt] at h
    exact Nat.le_of_not_lt h

theorem toRead_le (remaining : UInt32) : toRead remaining ≤ remaining.toNat := by
  unfold toRead
  split
  next h =>
    rw [gt_iff_lt, UInt32.lt_iff_toNat_lt] at h
    exact Nat.le_of_lt h
  · exact Nat.le_refl _

theorem toRead_pos {remaining : UInt32} (h : remaining ≠ 0) : 0 < toRead remaining := by
  have hpos : 0 < remaining.toNat := by
    rw [Nat.pos_iff_ne_zero]
    intro h0
    exact h (UInt32.toNat.inj h0)
  unfold toRead
  split
  · exact Nat.succ_pos _
  · exact hpos

/-- Where the task is while it is in the loop, `.receive` being the way out. -/
def RxTask.InLoop : RxTask → Prop
  | .receive => True
  | .read remaining => remaining ≠ 0
  | .feed remaining chunk => chunk.length ≤ remaining.toNat
  | .bufferedLen _ => True
  | .flushInput | .queueReset | .streamReset => False

/-- `remaining` after `uart_get_buffered_data_len` has found `fifo`. -/
def counted (remaining : UInt32) (fifo : List WireByte) : UInt32 :=
  if fifo.length > 0 then remaining + UInt32.ofNat fifo.length else remaining

theorem whileRemaining_zero {remaining : UInt32} (h : remaining = 0) :
    whileRemaining remaining = .receive := by
  rw [h]
  rfl

theorem whileRemaining_ne_zero {remaining : UInt32} (h : remaining ≠ 0) :
    whileRemaining remaining = .read remaining := by
  rw [whileRemaining, if_pos]
  rw [gt_iff_lt, UInt32.lt_iff_toNat_lt, UInt32.toNat_zero, Nat.pos_iff_ne_zero]
  intro h0
  exact h (UInt32.toNat.inj h0)

theorem inLoop_whileRemaining (remaining : UInt32) : (whileRemaining remaining).InLoop := by
  by_cases hzero : remaining = 0
  · rw [whileRemaining_zero hzero]
    trivial
  · rw [whileRemaining_ne_zero hzero]
    exact hzero

theorem call_read {w : UartWorld cfg κ} {r : UInt32} (htask : w.task = .read r)
    (hchunk : w.driver.buffered.take (toRead r) ≠ []) :
    uartRxTask w = { w with
      driver := { w.driver with buffered := w.driver.buffered.drop (toRead r) }
      task := .feed r (w.driver.buffered.take (toRead r)) } := by
  obtain ⟨driver, task, stream, fed, delivered⟩ := w
  obtain rfl : task = .read r := htask
  show (if (driver.buffered.take (toRead r)).length = 0 then _ else _) = _
  exact if_neg fun h => hchunk (List.length_eq_zero_iff.mp h)

theorem call_read_nothing {w : UartWorld cfg κ} {r : UInt32} (htask : w.task = .read r)
    (hchunk : w.driver.buffered.take (toRead r) = []) :
    uartRxTask w = { w with task := .receive } := by
  obtain ⟨⟨wirePos, buffered, events⟩, task, stream, fed, delivered⟩ := w
  obtain rfl : task = .read r := htask
  have hkept : buffered.drop (toRead r) = buffered := by
    have hsplit := List.take_append_drop (toRead r) buffered
    rw [show buffered.take (toRead r) = [] from hchunk] at hsplit
    exact hsplit
  have hstep : uartRxTask
      (⟨⟨wirePos, buffered, events⟩, .read r, stream, fed, delivered⟩ : UartWorld cfg κ)
      = ⟨⟨wirePos, buffered.drop (toRead r), events⟩, .receive, stream, fed, delivered⟩ :=
    if_pos (List.length_eq_zero_iff.mpr hchunk)
  rw [hstep, hkept]

theorem call_feed {w : UartWorld cfg κ} {r : UInt32} {chunk : List WireByte}
    (htask : w.task = .feed r chunk) :
    (uartRxTask w).driver = w.driver ∧
    (uartRxTask w).task = .bufferedLen (r - UInt32.ofNat chunk.length) := by
  unfold uartRxTask
  simp only [htask, and_self]

theorem call_bufferedLen {w : UartWorld cfg κ} {r : UInt32} (htask : w.task = .bufferedLen r) :
    uartRxTask w = { w with task := whileRemaining (counted r w.driver.buffered) } := by
  unfold uartRxTask
  simp only [htask]
  rfl

/-- **What one call of the loop does.** -/
theorem loop_cases {w : UartWorld cfg κ} (hin : w.task.InLoop) (hne : w.task ≠ .receive) :
    (∃ r, w.task = .read r ∧ r ≠ 0 ∧ w.driver.buffered = [] ∧
      uartRxTask w = { w with task := .receive }) ∨
    (∃ r, w.task = .read r ∧ r ≠ 0 ∧ w.driver.buffered.take (toRead r) ≠ [] ∧
      uartRxTask w = { w with
        driver := { w.driver with buffered := w.driver.buffered.drop (toRead r) }
        task := .feed r (w.driver.buffered.take (toRead r)) }) ∨
    (∃ r chunk, w.task = .feed r chunk ∧ chunk.length ≤ r.toNat ∧
      (uartRxTask w).driver = w.driver ∧
      (uartRxTask w).task = .bufferedLen (r - UInt32.ofNat chunk.length)) ∨
    (∃ r, w.task = .bufferedLen r ∧ counted r w.driver.buffered = 0 ∧
      uartRxTask w = { w with task := .receive }) ∨
    (∃ r, w.task = .bufferedLen r ∧ counted r w.driver.buffered ≠ 0 ∧
      uartRxTask w = { w with task := .read (counted r w.driver.buffered) }) := by
  cases htask : w.task with
  | receive => exact absurd htask hne
  | read r =>
    rw [htask] at hin
    have hpos := toRead_pos hin
    by_cases hchunk : w.driver.buffered.take (toRead r) = []
    · have hempty : w.driver.buffered = [] := by
        rcases List.take_eq_nil_iff.mp hchunk with h0 | hnil
        · omega
        · exact hnil
      exact Or.inl ⟨r, rfl, hin, hempty, call_read_nothing htask hchunk⟩
    · exact Or.inr (Or.inl ⟨r, rfl, hin, hchunk, call_read htask hchunk⟩)
  | feed r chunk =>
    rw [htask] at hin
    obtain ⟨hdriver, hnext⟩ := call_feed htask
    exact Or.inr (Or.inr (Or.inl ⟨r, chunk, rfl, hin, hdriver, hnext⟩))
  | bufferedLen r =>
    have hstep := call_bufferedLen htask
    by_cases hzero : counted r w.driver.buffered = 0
    · rw [whileRemaining_zero hzero] at hstep
      exact Or.inr (Or.inr (Or.inr (Or.inl ⟨r, rfl, hzero, hstep⟩)))
    · rw [whileRemaining_ne_zero hzero] at hstep
      exact Or.inr (Or.inr (Or.inr (Or.inr ⟨r, rfl, hzero, hstep⟩)))
  | flushInput =>
    rw [htask] at hin
    exact hin.elim
  | queueReset =>
    rw [htask] at hin
    exact hin.elim
  | streamReset =>
    rw [htask] at hin
    exact hin.elim

/-- The task stays in the loop until it is out. -/
theorem inLoop_call {w : UartWorld cfg κ} (hin : w.task.InLoop) (hne : w.task ≠ .receive) :
    (uartRxTask w).task.InLoop := by
  rcases loop_cases hin hne with
    ⟨r, -, -, -, hstep⟩ | ⟨r, -, -, -, hstep⟩ | ⟨r, chunk, -, -, -, hstep⟩ |
    ⟨r, -, -, hstep⟩ | ⟨r, -, hzero, hstep⟩
  · rw [hstep]
    trivial
  · rw [hstep]
    refine Nat.le_trans ?_ (toRead_le r)
    exact List.length_take_le _ _
  · rw [hstep]
    trivial
  · rw [hstep]
    trivial
  · rw [hstep]
    exact hzero

/-! ## The loop ends -/

/-- How much the loop can still do when nothing more arrives. -/
def loopBudget (w : UartWorld cfg κ) : Nat :=
  match w.task with
  | .feed _ _ => 3 * w.driver.buffered.length + 3
  | .bufferedLen _ => 3 * w.driver.buffered.length + 2
  | .read _ => 3 * w.driver.buffered.length + 1
  | _ => 0

/-- A read takes a byte, the other calls take none and bring the next read nearer. -/
theorem loopBudget_call {w : UartWorld cfg κ} (hin : w.task.InLoop) (hne : w.task ≠ .receive) :
    loopBudget (uartRxTask w) < loopBudget w := by
  rcases loop_cases hin hne with ⟨r, htask, -, -, hstep⟩ | ⟨r, htask, -, hchunk, hstep⟩ |
    ⟨r, chunk, htask, -, hdriver, hstep⟩ | ⟨r, htask, -, hstep⟩ | ⟨r, htask, -, hstep⟩
  · simp only [loopBudget, htask, hstep]
    omega
  · have htake := List.length_pos_iff.mpr hchunk
    have hsum := congrArg List.length (List.take_append_drop (toRead r) w.driver.buffered)
    rw [List.length_append] at hsum
    simp only [loopBudget, htask, hstep]
    omega
  · simp only [loopBudget, htask, hdriver, hstep]
    omega
  · simp only [loopBudget, htask, hstep]
    omega
  · simp only [loopBudget, htask, hstep]
    omega

/-- **The loop ends** under every finite schedule: first the schedule runs out,
then the budget. -/
theorem drainLoop_ends (sched : List (List UInt8)) :
    ∀ w : UartWorld cfg κ, w.task.InLoop → ∃ fuel r, drainLoop fuel sched w = some r := by
  have hone : ∀ (sched : List (List UInt8)) (w : UartWorld cfg κ), w.task ≠ .receive →
      (∃ fuel r, drainLoop fuel sched.tail (uartRxTask (w.arrive sched)) = some r) →
      ∃ fuel r, drainLoop fuel sched w = some r := by
    intro sched w hne hrest
    obtain ⟨fuel, r, hr⟩ := hrest
    refine ⟨fuel + 1, (r.1, (w.arrive sched).call :: r.2), ?_⟩
    rw [drainLoop_call hne, hr]
    rfl
  induction sched with
  | nil =>
    intro w
    induction hn : loopBudget w using Nat.strong_induction_on generalizing w with
    | _ n ih =>
      intro hin
      by_cases hne : w.task = .receive
      · exact ⟨1, _, drainLoop_receive hne 0 []⟩
      · have hless := loopBudget_call hin hne
        rw [hn] at hless
        exact hone [] w hne (ih _ hless _ rfl (inLoop_call hin hne))
  | cons bs sched ih =>
    intro w hin
    by_cases hne : w.task = .receive
    · exact ⟨1, _, drainLoop_receive hne 0 _⟩
    · refine hone (bs :: sched) w hne (ih _ (inLoop_call ?_ ?_))
      · rw [arrive_task]
        exact hin
      · rw [arrive_task]
        exact hne

/-! ## What the loop transfers -/

/-- Positions go on where the first bytes end. -/
theorem wireBytes_append (pos : Nat) (as bs : List UInt8) :
    wireBytes pos (as ++ bs) = wireBytes pos as ++ wireBytes (pos + as.length) bs := by
  induction as generalizing pos with
  | nil => rfl
  | cons a as ih =>
    rw [List.cons_append, wireBytes, wireBytes, ih, List.cons_append, List.length_cons,
      Nat.add_right_comm, Nat.add_assoc]

/-- What the task has read and not yet fed. -/
def UartWorld.inHand (w : UartWorld cfg κ) : List WireByte :=
  match w.task with
  | .feed _ chunk => chunk
  | _ => []

/-- The bytes that a schedule has arrive during some number of calls. -/
def arrivals (sched : List (List UInt8)) (calls : Nat) : List UInt8 := (sched.take calls).flatten

theorem arrivals_succ (sched : List (List UInt8)) (calls : Nat) :
    arrivals sched (calls + 1) = sched.headI ++ arrivals sched.tail calls := by
  unfold arrivals
  cases sched with
  | nil => rw [List.tail_nil, List.take_nil, List.take_nil]; rfl
  | cons bs sched => rfl

/-- **A call keeps count of the bytes**: what was in hand and what it pops is
what it passes on and what is in hand then, and the FIFO loses what it pops. -/
theorem call_conserves {w : UartWorld cfg κ} (hin : w.task.InLoop) (hne : w.task ≠ .receive) :
    w.inHand ++ w.call.popped = w.call.passed ++ (uartRxTask w).inHand ∧
    w.driver.buffered = w.call.popped ++ (uartRxTask w).driver.buffered ∧
    (uartRxTask w).driver.wirePos = w.driver.wirePos ∧ w.call.InBounds := by
  rcases loop_cases hin hne with ⟨r, htask, -, hempty, hstep⟩ | ⟨r, htask, -, -, hstep⟩ |
    ⟨r, chunk, htask, hle, hdriver, hstep⟩ | ⟨r, htask, -, hstep⟩ | ⟨r, htask, -, hstep⟩
  · have hpopped : w.call.popped = [] := by
      simp only [UartWorld.call, DrainCall.popped, htask, hempty, List.take_nil]
    rw [hstep, hpopped]
    simp only [UartWorld.inHand, UartWorld.call, DrainCall.passed, DrainCall.InBounds, htask]
    refine ⟨trivial, rfl, trivial, ?_, nofun⟩
    intro r' _
    exact toRead_le_chunk r'
  · have hpopped : w.call.popped = w.driver.buffered.take (toRead r) := by
      simp only [UartWorld.call, DrainCall.popped, htask]
    rw [hstep, hpopped]
    simp only [UartWorld.inHand, UartWorld.call, DrainCall.passed, DrainCall.InBounds, htask]
    refine ⟨trivial, (List.take_append_drop _ _).symm, trivial, ?_, nofun⟩
    intro r' _
    exact toRead_le_chunk r'
  · have hpopped : w.call.popped = [] := by
      simp only [UartWorld.call, DrainCall.popped, htask]
    rw [hpopped, hdriver]
    simp only [UartWorld.inHand, UartWorld.call, DrainCall.passed, DrainCall.InBounds, htask, hstep]
    refine ⟨trivial, rfl, trivial, nofun, ?_⟩
    intro r' chunk' heq
    obtain ⟨rfl, rfl⟩ := RxTask.feed.inj heq
    exact hle
  · have hpopped : w.call.popped = [] := by
      simp only [UartWorld.call, DrainCall.popped, htask]
    rw [hstep, hpopped]
    simp only [UartWorld.inHand, UartWorld.call, DrainCall.passed, DrainCall.InBounds, htask]
    exact ⟨trivial, rfl, trivial, nofun, nofun⟩
  · have hpopped : w.call.popped = [] := by
      simp only [UartWorld.call, DrainCall.popped, htask]
    rw [hstep, hpopped]
    simp only [UartWorld.inHand, UartWorld.call, DrainCall.passed, DrainCall.InBounds, htask]
    exact ⟨trivial, rfl, trivial, nofun, nofun⟩

/-- What a finished loop has done, whatever arrived meanwhile: the task is out,
every call was in bounds, all that was popped was passed on in order, and the
FIFO has what it had and what arrived, less what was popped. -/
structure Transfers (sched : List (List UInt8)) (w w' : UartWorld cfg κ)
    (calls : List DrainCall) : Prop where
  out : w'.task = .receive
  bounds : ∀ c ∈ calls, c.InBounds
  passed : w.inHand ++ calls.flatMap DrainCall.popped = calls.flatMap DrainCall.passed
  fifo : w.driver.buffered ++ wireBytes w.driver.wirePos (arrivals sched calls.length)
    = calls.flatMap DrainCall.popped ++ w'.driver.buffered

/-- One more call in front. -/
theorem Transfers.call {sched : List (List UInt8)} {w w' : UartWorld cfg κ}
    {calls : List DrainCall} (hin : w.task.InLoop) (hne : w.task ≠ .receive)
    (h : Transfers sched.tail (uartRxTask (w.arrive sched)) w' calls) :
    Transfers sched w w' ((w.arrive sched).call :: calls) := by
  obtain ⟨hbuffered, hpos⟩ := arrive_buffered w sched
  have hhand : (w.arrive sched).inHand = w.inHand := by
    unfold UartWorld.inHand
    rw [arrive_task]
  obtain ⟨hpass, hfifo, hpos', hbounds⟩ := call_conserves (w := w.arrive sched)
    (by rw [arrive_task]; exact hin) (by rw [arrive_task]; exact hne)
  refine ⟨h.out, ?_, ?_, ?_⟩
  · intro c hc
    rcases List.mem_cons.mp hc with rfl | hc
    · exact hbounds
    · exact h.bounds c hc
  · rw [List.flatMap_cons, List.flatMap_cons, ← List.append_assoc, ← hhand, hpass,
      List.append_assoc, h.passed]
  · rw [List.length_cons, arrivals_succ, wireBytes_append, ← List.append_assoc, ← hbuffered,
      ← hpos, hfifo, List.flatMap_cons, List.append_assoc, List.append_assoc, ← hpos', h.fifo]

theorem drainLoop_transfers {fuel : Nat} {sched : List (List UInt8)} {w w' : UartWorld cfg κ}
    {calls : List DrainCall} (hin : w.task.InLoop)
    (h : drainLoop fuel sched w = some (w', calls)) : Transfers sched w w' calls := by
  revert hin
  apply drainLoop_rule (M := fun sched w w' calls => w.task.InLoop → Transfers sched w w' calls)
    ?_ ?_ h
  · intro sched w htask _
    have hhand : w.inHand = [] := by
      unfold UartWorld.inHand
      rw [htask]
    refine ⟨htask, fun c hc => absurd hc List.not_mem_nil, ?_, ?_⟩
    · rw [hhand]
      rfl
    · exact List.append_nil _
  · intro sched w w' calls hne ih hin
    refine (ih (inLoop_call ?_ ?_)).call hin hne
    · rw [arrive_task]
      exact hin
    · rw [arrive_task]
      exact hne

/-! ## Where the loop stops -/

theorem lastFoundEmpty_cons {c : DrainCall} {calls : List DrainCall}
    (h : calls.filter DrainCall.inspects ≠ []) :
    LastFoundEmpty (c :: calls) ↔ LastFoundEmpty calls := by
  unfold LastFoundEmpty
  have hlast : ((c :: calls).filter DrainCall.inspects).getLast?
      = (calls.filter DrainCall.inspects).getLast? := by
    by_cases hc : c.inspects = true
    · rw [List.filter_cons_of_pos hc]
      obtain ⟨d, rest, hd⟩ := List.exists_cons_of_ne_nil h
      rw [hd, List.getLast?_cons_cons]
    · rw [List.filter_cons_of_neg hc]
  rw [hlast]

theorem lastFoundEmpty_single {c : DrainCall} (h : c.inspects = true) :
    LastFoundEmpty [c] ↔ c.fifo = [] := by
  unfold LastFoundEmpty
  rw [List.filter_cons_of_pos h]
  constructor
  · intro hex
    obtain ⟨d, hd, hempty⟩ := hex
    obtain rfl : c = d := Option.some.inj hd
    exact hempty
  · intro hempty
    exact ⟨c, rfl, hempty⟩

/-- A count that comes out as zero found nothing, or wraps; any other does not. -/
theorem wraps_bufferedLen {w : UartWorld cfg κ} {r : UInt32} (htask : w.task = .bufferedLen r) :
    (counted r w.driver.buffered = 0 → (w.call.fifo = [] ↔ w.call.wraps = false)) ∧
    (counted r w.driver.buffered ≠ 0 → w.call.wraps = false) := by
  have hwraps : w.call.wraps
      = (!w.driver.buffered.isEmpty && r + UInt32.ofNat w.driver.buffered.length == 0) := by
    simp only [UartWorld.call, DrainCall.wraps, htask]
  rw [hwraps, show w.call.fifo = w.driver.buffered from rfl]
  cases hfifo : w.driver.buffered with
  | nil => exact ⟨fun _ => iff_of_true rfl rfl, fun _ => rfl⟩
  | cons b fifo =>
    have hcounted : counted r (b :: fifo) = r + UInt32.ofNat (b :: fifo).length :=
      if_pos (Nat.succ_pos _)
    rw [hcounted, List.isEmpty_cons, Bool.not_false, Bool.true_and]
    refine ⟨fun hzero => ?_, fun hzero => beq_eq_false_iff_ne.mpr hzero⟩
    rw [hzero]
    exact iff_of_false (List.cons_ne_nil _ _) nofun

/-- What the log of a loop says about its end. -/
structure Inspected (w : UartWorld cfg κ) (calls : List DrainCall) : Prop where
  out : w.task = .receive → calls = []
  looked : w.task ≠ .receive → calls.filter DrainCall.inspects ≠ []
  empty_iff : w.task ≠ .receive → (LastFoundEmpty calls ↔ ∀ c ∈ calls, c.wraps = false)

/-- The calls that are followed by another one decide nothing, if they do not wrap. -/
theorem Inspected.more {w : UartWorld cfg κ} {c : DrainCall} {calls : List DrainCall}
    (h : Inspected w calls) (hne : w.task ≠ .receive) (hwraps : c.wraps = false) :
    (c :: calls).filter DrainCall.inspects ≠ [] ∧
    (LastFoundEmpty (c :: calls) ↔ ∀ d ∈ c :: calls, d.wraps = false) := by
  constructor
  · intro hnil
    by_cases hc : c.inspects = true
    · rw [List.filter_cons_of_pos hc] at hnil
      cases hnil
    · rw [List.filter_cons_of_neg hc] at hnil
      exact h.looked hne hnil
  · rw [lastFoundEmpty_cons (h.looked hne), h.empty_iff hne, List.forall_mem_cons]
    exact (and_iff_right hwraps).symm

/-- The call that leaves the loop decides by what it found. -/
theorem inspected_last {c : DrainCall} (hc : c.inspects = true)
    (h : c.fifo = [] ↔ c.wraps = false) :
    [c].filter DrainCall.inspects ≠ [] ∧
    (LastFoundEmpty [c] ↔ ∀ d ∈ [c], d.wraps = false) := by
  constructor
  · rw [List.filter_cons_of_pos hc]
    exact List.cons_ne_nil _ _
  · rw [lastFoundEmpty_single hc, h, List.forall_mem_singleton]

/-- One call: it leaves the loop on an empty FIFO, or because it wraps. -/
theorem Inspected.call {w : UartWorld cfg κ} {calls : List DrainCall} (hin : w.task.InLoop)
    (hne : w.task ≠ .receive) (h : Inspected (uartRxTask w) calls) :
    (w.call :: calls).filter DrainCall.inspects ≠ [] ∧
    (LastFoundEmpty (w.call :: calls) ↔ ∀ d ∈ w.call :: calls, d.wraps = false) := by
  rcases loop_cases hin hne with ⟨r, htask, -, hempty, hstep⟩ | ⟨r, htask, -, -, hstep⟩ |
    ⟨r, chunk, htask, -, -, hstep⟩ | ⟨r, htask, hzero, hstep⟩ | ⟨r, htask, hzero, hstep⟩
  · rw [h.out (by rw [hstep])]
    refine inspected_last ?_ ?_
    · simp only [UartWorld.call, DrainCall.inspects, htask]
    · simp only [UartWorld.call, DrainCall.wraps, htask, hempty]
  · refine h.more ?_ ?_
    · rw [hstep]
      nofun
    · simp only [UartWorld.call, DrainCall.wraps, htask]
  · refine h.more ?_ ?_
    · rw [hstep]
      nofun
    · simp only [UartWorld.call, DrainCall.wraps, htask]
  · rw [h.out (by rw [hstep])]
    refine inspected_last ?_ ?_
    · simp only [UartWorld.call, DrainCall.inspects, htask]
    · exact (wraps_bufferedLen htask).1 hzero
  · refine h.more ?_ ((wraps_bufferedLen htask).2 hzero)
    rw [hstep]
    nofun

theorem drainLoop_inspected {fuel : Nat} {sched : List (List UInt8)} {w w' : UartWorld cfg κ}
    {calls : List DrainCall} (hin : w.task.InLoop)
    (h : drainLoop fuel sched w = some (w', calls)) : Inspected w calls := by
  revert hin
  apply drainLoop_rule (M := fun _ w _ calls => w.task.InLoop → Inspected w calls) ?_ ?_ h
  · intro sched w htask _
    exact ⟨fun _ => rfl, fun hne => absurd htask hne, fun hne => absurd htask hne⟩
  · intro sched w w' calls hne ih hin
    rw [← arrive_task w sched] at hin hne
    have hcall := (ih (inLoop_call hin hne)).call hin hne
    refine ⟨fun htask => ?_, fun _ => hcall.1, fun _ => hcall.2⟩
    rw [← arrive_task w sched] at htask
    exact absurd htask hne

/-- **The read loop transfers every byte once, and stops on an empty FIFO unless
its sum wraps.** For every event size, every state of the driver and every finite
schedule of arrivals: the loop ends; no read asks for more than a chunk and
`remaining` is never less than what is taken off it; the bytes fed are the bytes
taken out of the FIFO, in order. If the size was not zero, the last call that
looked at the FIFO found it empty exactly when no call wrapped. -/
theorem drainLoop_spec (w : UartWorld cfg κ) (size : UInt32) (sched : List (List UInt8)) :
    let start := { w with task := switchEvent (.data size) }
    ∃ fuel w' calls, drainLoop fuel sched start = some (w', calls) ∧
      w'.task = .receive ∧
      (∀ c ∈ calls, c.InBounds) ∧
      calls.flatMap DrainCall.passed = calls.flatMap DrainCall.popped ∧
      w.driver.buffered ++ wireBytes w.driver.wirePos (arrivals sched calls.length)
        = calls.flatMap DrainCall.popped ++ w'.driver.buffered ∧
      ((size ≠ 0 → LastFoundEmpty calls) ↔ ∀ c ∈ calls, c.wraps = false) := by
  intro start
  have hin : start.task.InLoop := inLoop_whileRemaining size
  obtain ⟨fuel, ⟨w', calls⟩, hrun⟩ := drainLoop_ends sched start hin
  have htransfers := drainLoop_transfers hin hrun
  have hinspected := drainLoop_inspected hin hrun
  have htask : start.task = whileRemaining size := rfl
  have hhand : start.inHand = [] := by
    by_cases hzero : size = 0
    · rw [whileRemaining_zero hzero] at htask
      simp only [UartWorld.inHand, htask]
    · rw [whileRemaining_ne_zero hzero] at htask
      simp only [UartWorld.inHand, htask]
  refine ⟨fuel, w', calls, hrun, htransfers.out, htransfers.bounds, ?_, htransfers.fifo, ?_⟩
  · rw [← htransfers.passed, hhand]
    rfl
  · by_cases hzero : size = 0
    · rw [whileRemaining_zero hzero] at htask
      rw [hinspected.out htask]
      exact iff_of_true (fun hne => absurd hzero hne) (fun c hc => absurd hc List.not_mem_nil)
    · rw [whileRemaining_ne_zero hzero] at htask
      have hne : start.task ≠ .receive := by
        rw [htask]
        nofun
      rw [← hinspected.empty_iff hne]
      exact forall_prop_of_true hzero

theorem wireBytes_length (pos : Nat) (bs : List UInt8) : (wireBytes pos bs).length = bs.length := by
  rw [← List.length_map WireByte.byte, wireBytes_byte]

/-! ## Loops that see few bytes

A pass adds at most the bytes in sight to `remaining` and brings at least one of
them out of sight, so with `n` in sight the sum grows by less than `n * n`. -/

/-- The bytes that the loop can see: buffered, or still to arrive. -/
def inSight (sched : List (List UInt8)) (w : UartWorld cfg κ) : Nat :=
  w.driver.buffered.length + sched.flatten.length

theorem inSight_arrive (sched : List (List UInt8)) (w : UartWorld cfg κ) :
    inSight sched.tail (w.arrive sched) = inSight sched w := by
  obtain ⟨hbuffered, -⟩ := arrive_buffered w sched
  unfold inSight
  rw [hbuffered, List.length_append, wireBytes_length]
  cases sched with
  | nil => rfl
  | cons bs sched =>
    rw [List.tail_cons, List.headI_cons, List.flatten_cons, List.length_append, Nat.add_assoc]

/-- With `n` bytes in sight the sum stays below `2 ^ 32`. -/
def SumFits (n : Nat) : RxTask → Prop
  | .read r => r.toNat + n * n < 2 ^ 32
  | .feed r chunk => r.toNat - chunk.length + n + n * n < 2 ^ 32
  | .bufferedLen r => r.toNat + n + n * n < 2 ^ 32
  | _ => True

theorem counted_toNat {r : UInt32} {fifo : List WireByte} (h : r.toNat + fifo.length < 2 ^ 32) :
    (counted r fifo).toNat = r.toNat + fifo.length := by
  unfold counted
  split
  · rw [UInt32.toNat_add, UInt32.toNat_ofNat', Nat.mod_eq_of_lt (Nat.lt_of_le_of_lt
      (Nat.le_add_left fifo.length r.toNat) h), Nat.mod_eq_of_lt h]
  next hempty =>
    rw [Nat.eq_zero_of_not_pos hempty, Nat.add_zero]

theorem counted_fits {r : UInt32} {fifo : List WireByte} {k m : Nat}
    (h : r.toNat + (fifo.length + k) + m < 2 ^ 32) :
    (counted r fifo).toNat = r.toNat + fifo.length := by
  apply counted_toNat
  omega

/-- One byte less in sight makes room for a sum over the others. -/
theorem sum_room {r c n m : Nat} (hc : 0 < c) (hn : n = c + m) (h : r + n * n < 2 ^ 32) :
    r - c + m + m * m < 2 ^ 32 := by
  have hle : (m + 1) * (m + 1) ≤ n * n := Nat.mul_self_le_mul_self (by omega)
  rw [Nat.mul_succ, Nat.succ_mul] at hle
  omega

/-- **A call keeps the sum below `2 ^ 32`**, and so does not wrap. -/
theorem sumFits_call {w : UartWorld cfg κ} {k : Nat} (hin : w.task.InLoop)
    (hne : w.task ≠ .receive) (h : SumFits (w.driver.buffered.length + k) w.task) :
    w.call.wraps = false ∧
      SumFits ((uartRxTask w).driver.buffered.length + k) (uartRxTask w).task := by
  rcases loop_cases hin hne with ⟨r, htask, -, -, hstep⟩ | ⟨r, htask, -, hchunk, hstep⟩ |
    ⟨r, chunk, htask, hle, hdriver, hstep⟩ | ⟨r, htask, hzero, hstep⟩ | ⟨r, htask, hzero, hstep⟩
  · rw [hstep]
    refine ⟨?_, trivial⟩
    simp only [UartWorld.call, DrainCall.wraps, htask]
  · rw [htask] at h
    have hsplit := congrArg List.length (List.take_append_drop (toRead r) w.driver.buffered)
    rw [List.length_append] at hsplit
    have hroom := sum_room (List.length_pos_iff.mpr hchunk)
      (m := (w.driver.buffered.drop (toRead r)).length + k) (by omega) h
    rw [hstep]
    refine ⟨?_, hroom⟩
    simp only [UartWorld.call, DrainCall.wraps, htask]
  · rw [htask] at h
    rw [hdriver, hstep]
    refine ⟨?_, ?_⟩
    · simp only [UartWorld.call, DrainCall.wraps, htask]
    · have hlen : (UInt32.ofNat chunk.length).toNat = chunk.length := by
        rw [UInt32.toNat_ofNat', Nat.mod_eq_of_lt (Nat.lt_of_le_of_lt hle r.toNat_lt)]
      have hsub : (r - UInt32.ofNat chunk.length).toNat = r.toNat - chunk.length := by
        rw [UInt32.toNat_sub_of_le _ _ (UInt32.le_iff_toNat_le.mpr (by rw [hlen]; exact hle)), hlen]
      show (r - UInt32.ofNat chunk.length).toNat + _ + _ < 2 ^ 32
      rw [hsub]
      exact h
  · rw [htask] at h
    have hsum := counted_fits h
    rw [hzero, UInt32.toNat_zero] at hsum
    -- the sum is exact, so it is zero only if nothing is buffered
    have hempty : w.driver.buffered = [] := by
      rw [← List.length_eq_zero_iff]
      omega
    rw [hstep]
    exact ⟨((wraps_bufferedLen htask).1 hzero).mp hempty, trivial⟩
  · rw [htask] at h
    have hroom : r.toNat + w.driver.buffered.length
        + (w.driver.buffered.length + k) * (w.driver.buffered.length + k) < 2 ^ 32 :=
      Nat.lt_of_le_of_lt
        (Nat.add_le_add_right (Nat.add_le_add_left (Nat.le_add_right _ k) _) _) h
    rw [hstep]
    refine ⟨(wraps_bufferedLen htask).2 hzero, ?_⟩
    show (counted r w.driver.buffered).toNat + _ < 2 ^ 32
    rw [counted_fits h]
    exact hroom

/-- A loop that starts with room for its sums never wraps. -/
theorem drainLoop_fits {fuel : Nat} {sched : List (List UInt8)} {w w' : UartWorld cfg κ}
    {calls : List DrainCall} (hin : w.task.InLoop) (hfits : SumFits (inSight sched w) w.task)
    (h : drainLoop fuel sched w = some (w', calls)) : ∀ c ∈ calls, c.wraps = false := by
  revert hin hfits
  apply drainLoop_rule (M := fun sched w _ calls => w.task.InLoop →
    SumFits (inSight sched w) w.task → ∀ c ∈ calls, c.wraps = false) ?_ ?_ h
  · intro sched w htask _ _ c hc
    exact absurd hc List.not_mem_nil
  · intro sched w w' calls hne ih hin hfits
    rw [← arrive_task w sched] at hin hne hfits
    rw [← inSight_arrive] at hfits
    obtain ⟨hwraps, hfits'⟩ := sumFits_call hin hne hfits
    rw [List.forall_mem_cons]
    exact ⟨hwraps, ih (inLoop_call hin hne) hfits'⟩

/-- **A loop that sees few bytes stops on an empty FIFO**: with `n` bytes
buffered or still to arrive, no sum reaches `2 ^ 32` if the event's size and
`n * n` leave room for it. -/
theorem drainLoop_stops_empty {w w' : UartWorld cfg κ} {size : UInt32}
    {sched : List (List UInt8)} {fuel : Nat} {calls : List DrainCall} (hsize : size ≠ 0)
    (hfits : size.toNat + inSight sched w * inSight sched w < 2 ^ 32)
    (h : drainLoop fuel sched { w with task := switchEvent (.data size) } = some (w', calls)) :
    LastFoundEmpty calls := by
  have htask : switchEvent (.data size) = .read size := whileRemaining_ne_zero hsize
  rw [htask] at h
  have hin : RxTask.InLoop (.read size) := hsize
  have hnever := drainLoop_fits (w := { w with task := .read size }) hin hfits h
  exact ((drainLoop_inspected (w := { w with task := .read size }) hin h).empty_iff nofun).mpr
    hnever

/-! ## A backlog that keeps being counted -/

/-- A chunk arrives in every pass, behind the feed. -/
def steadySched : Nat → List (List UInt8)
  | 0 => []
  | passes + 1 => [] :: [] :: List.replicate 512 0 :: steadySched passes

/-- The first call of a loop that ends, and the rest of it. -/
theorem drainLoop_inv {w w' : UartWorld cfg κ} (hne : w.task ≠ .receive) {fuel : Nat}
    {sched : List (List UInt8)} {calls : List DrainCall}
    (h : drainLoop fuel sched w = some (w', calls)) :
    ∃ fuel' rest, calls = (w.arrive sched).call :: rest ∧
      drainLoop fuel' sched.tail (uartRxTask (w.arrive sched)) = some (w', rest) := by
  cases fuel with
  | zero => cases h
  | succ fuel =>
    rw [drainLoop_call hne] at h
    obtain ⟨r, hr, heq⟩ := Option.map_eq_some_iff.mp h
    obtain ⟨rfl, rfl⟩ := Prod.mk.inj heq
    exact ⟨fuel, r.2, rfl, hr⟩

/-- **One pass over a steady backlog** of 24 kB: a chunk is read, a chunk
arrives, and `remaining` grows by 24064. -/
theorem steady_pass {w w' : UartWorld cfg κ} {r : UInt32} (htask : w.task = .read r)
    (hr : 512 ≤ r.toNat) (hlen : w.driver.buffered.length = 24576) {fuel passes : Nat}
    {calls : List DrainCall}
    (h : drainLoop fuel (steadySched (passes + 1)) w = some (w', calls)) :
    ∃ fuel' v rest, drainLoop fuel' (steadySched passes) v = some (w', rest) ∧
      v.driver.buffered.length = 24576 ∧ v.task = whileRemaining (r - 512 + 24576) ∧
      (∀ c ∈ rest, c ∈ calls) ∧ ∃ c ∈ calls, c.wraps = (r - 512 + 24576 == 0) := by
  have hread : toRead r = 512 := by
    unfold toRead
    split
    · rfl
    next hle =>
      rw [gt_iff_lt, UInt32.lt_iff_toNat_lt] at hle
      exact Nat.le_antisymm (Nat.le_of_not_lt hle) hr
  have hchunk : (w.driver.buffered.take (toRead r)).length = 512 := by
    rw [List.length_take, hread, hlen]
    rfl
  have hstep := call_read htask (List.ne_nil_of_length_eq_add_one hchunk)
  have hne : w.task ≠ .receive := by
    rw [htask]
    nofun
  -- the chunk is read
  obtain ⟨fuel1, rest1, rfl, h1⟩ := drainLoop_inv hne h
  rw [show w.arrive (steadySched (passes + 1)) = w from rfl] at h1
  have hfeed : (uartRxTask w).task = .feed r (w.driver.buffered.take (toRead r)) := by
    rw [hstep]
  have hne1 : (uartRxTask w).task ≠ .receive := by
    rw [hfeed]
    nofun
  -- it is fed
  obtain ⟨fuel2, rest2, rfl, h2⟩ := drainLoop_inv hne1 h1
  rw [show (uartRxTask w).arrive (steadySched (passes + 1)).tail = uartRxTask w from rfl] at h2
  obtain ⟨hdriver, hcount⟩ := call_feed hfeed
  generalize uartRxTask (uartRxTask w) = v at h2 hdriver hcount
  have hne2 : v.task ≠ .receive := by
    rw [hcount]
    nofun
  -- a chunk arrives, and is counted with the backlog
  obtain ⟨fuel3, rest3, rfl, h3⟩ := drainLoop_inv hne2 h2
  obtain ⟨hbuffered, -⟩ := arrive_buffered v (steadySched (passes + 1)).tail.tail
  have htask3 := arrive_task v (steadySched (passes + 1)).tail.tail
  generalize v.arrive (steadySched (passes + 1)).tail.tail = u at h3 hbuffered htask3
  rw [hcount, hchunk, show UInt32.ofNat 512 = 512 from rfl] at htask3
  have hlen3 : u.driver.buffered.length = 24576 := by
    rw [hbuffered, List.length_append, wireBytes_length, hdriver, hstep, List.length_drop, hread,
      hlen, show (steadySched (passes + 1)).tail.tail.headI = List.replicate 512 0 from rfl,
      List.length_replicate]
  have hcounted : counted (r - 512) u.driver.buffered = r - 512 + 24576 := by
    rw [counted, hlen3, if_pos (by decide)]
    rfl
  have hstep3 := call_bufferedLen htask3
  rw [hcounted] at hstep3
  refine ⟨fuel3, uartRxTask u, rest3, h3, ?_, ?_, ?_, u.call, ?_, ?_⟩
  · rw [hstep3]
    exact hlen3
  · rw [hstep3]
  · intro c hc
    exact List.mem_cons_of_mem _ (List.mem_cons_of_mem _ (List.mem_cons_of_mem _ hc))
  · exact List.mem_cons_of_mem _ (List.mem_cons_of_mem _ (List.mem_cons_self ..))
  · have hne3 : u.driver.buffered.isEmpty = false := by
      rw [List.isEmpty_eq_false_iff]
      exact List.ne_nil_of_length_eq_add_one hlen3
    simp only [UartWorld.call, DrainCall.wraps, htask3, hne3, hlen3, Bool.not_false, Bool.true_and]
    rfl

/-- Pass after pass the backlog is counted again, until the sum is `2 ^ 32`. -/
theorem steady_wraps {w' : UartWorld cfg κ} (passes : Nat) :
    ∀ {w : UartWorld cfg κ} {r : UInt32} {fuel : Nat} {calls : List DrainCall},
      w.task = .read r → 512 ≤ r.toNat → w.driver.buffered.length = 24576 →
      r.toNat + (passes + 1) * 24064 = 2 ^ 32 →
      drainLoop fuel (steadySched (passes + 1)) w = some (w', calls) →
      (∃ c ∈ calls, c.wraps = true) ∧ w'.driver.buffered.length = 24576 := by
  have hsum : ∀ r : UInt32, 512 ≤ r.toNat →
      (r - 512 + 24576).toNat = (r.toNat + 24064) % 2 ^ 32 := by
    intro r hr
    have hsub : (r - 512).toNat = r.toNat - 512 :=
      UInt32.toNat_sub_of_le r 512 (UInt32.le_iff_toNat_le.mpr hr)
    rw [UInt32.toNat_add, hsub, show (24576 : UInt32).toNat = 24576 from rfl]
    congr 1
    omega
  induction passes with
  | zero =>
    intro w r fuel calls htask hr hlen htotal h
    obtain ⟨fuel', v, rest, hv, hlenv, htaskv, -, c, hc, hwraps⟩ := steady_pass htask hr hlen h
    -- the last pass brings the sum to `2 ^ 32`, with the backlog unread
    have hzero : r - 512 + 24576 = 0 := by
      apply UInt32.toNat.inj
      rw [hsum r hr, show r.toNat + 24064 = 2 ^ 32 by omega]
      rfl
    rw [hzero] at htaskv hwraps
    refine ⟨⟨c, hc, hwraps⟩, ?_⟩
    cases fuel' with
    | zero => cases hv
    | succ fuel' =>
      rw [drainLoop_receive htaskv] at hv
      obtain ⟨rfl, -⟩ := Prod.mk.inj (Option.some.inj hv)
      exact hlenv
  | succ passes ih =>
    intro w r fuel calls htask hr hlen htotal h
    obtain ⟨fuel', v, rest, hv, hlenv, htaskv, hrest, -⟩ := steady_pass htask hr hlen h
    have hge : 512 ≤ r.toNat + 24064 := by omega
    have htotal' : r.toNat + 24064 + (passes + 1) * 24064 = 2 ^ 32 := by omega
    have hnext : (r - 512 + 24576).toNat = r.toNat + 24064 := by
      rw [hsum r hr, Nat.mod_eq_of_lt]
      omega
    have hne : r - 512 + 24576 ≠ 0 := by
      intro h0
      rw [h0] at hnext
      exact absurd hnext (by rw [UInt32.toNat_zero]; omega)
    rw [← hnext] at hge htotal'
    rw [whileRemaining_ne_zero hne] at htaskv
    obtain ⟨⟨c, hc, hwraps⟩, hleft⟩ := ih htaskv hge hlenv htotal' hv
    exact ⟨⟨c, hrest c hc, hwraps⟩, hleft⟩

/-- A driver with 24 kB buffered, and the task about to handle an event of one
chunk. -/
def backlogged : UartWorld Config.minimal Unit :=
  { uartTransportStart Config.minimal () with
    driver := { wirePos := 24576, buffered := wireBytes 0 (List.replicate 24576 0), events := [] }
    task := switchEvent (.data 512) }

/-- **The loop gives up on 24 kB.** While a chunk arrives for every chunk read,
each of 178481 passes counts the same backlog once more; then the sum is
`2 ^ 32` and the loop ends. -/
theorem drainLoop_wraps :
    (∃ fuel r, drainLoop fuel (steadySched 178481) backlogged = some r) ∧
    ∀ fuel w' calls, drainLoop fuel (steadySched 178481) backlogged = some (w', calls) →
      ¬LastFoundEmpty calls ∧ w'.driver.buffered.length = 24576 := by
  have htask : backlogged.task = .read 512 := rfl
  have hin : backlogged.task.InLoop := show (512 : UInt32) ≠ 0 by decide
  refine ⟨drainLoop_ends _ _ hin, ?_⟩
  intro fuel w' calls h
  have hlen : backlogged.driver.buffered.length = 24576 := by
    rw [backlogged, wireBytes_length, List.length_replicate]
  obtain ⟨⟨c, hc, hwraps⟩, hleft⟩ := steady_wraps 178480 htask (by decide) hlen (by decide) h
  refine ⟨?_, hleft⟩
  intro hempty
  have hnone := ((drainLoop_inspected hin h).empty_iff (by rw [htask]; nofun)).mp hempty c hc
  rw [hwraps] at hnone
  cases hnone

end CaptureKVMBridge.Uart
