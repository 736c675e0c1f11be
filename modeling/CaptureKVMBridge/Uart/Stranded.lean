import CaptureKVMBridge.Uart.Drain

/-!
# Bytes that nobody comes for

The task sleeps on the event queue while the bytes are in the FIFO, so a byte in
the FIFO needs an event in the queue or a task on its way. `Attended` says so,
and `no_stranded_bytes` that it stays so as long as no step loses count of the
bytes (`KeepsCount`): the queue is not reset while bytes are buffered, the read
loop does not take a wrapped sum for zero, and an arrival is not of a size that
`size_t` cannot hold.

The overflow branch empties the FIFO and the queue in two calls; `byte_stranded`
puts an arrival between them. The byte stays where it is until the next one
comes.
-/

namespace CaptureKVMBridge.Uart

open CaptureKVMBridge.Machine CaptureKVMBridge.Tlv

variable {cfg : Config} {κ : Type}

/-! ## Where the bytes go -/

/-- How a byte leaves the driver. -/
inductive Fate where
  | fed
  | flushed
  deriving DecidableEq, Repr

/-- The bytes that come in with a step. -/
def entering (w : UartWorld cfg κ) : UartOp → List WireByte
  | .receive bs => wireBytes w.driver.wirePos bs
  | .overflow _ _ _ => []
  | .signal _ => []
  | .task => []

/-- The bytes that a step feeds to the parser or flushes. -/
def leaving (w : UartWorld cfg κ) : UartOp → List (Fate × WireByte)
  | .receive _ => []
  | .overflow _ _ _ => []
  | .signal _ => []
  | .task =>
    match w.task with
    | .feed _ chunk => chunk.map (Fate.fed, ·)
    | .flushInput => w.driver.buffered.map (Fate.flushed, ·)
    | _ => []

/-- The bytes on this side of the wire that have not left yet. -/
def UartWorld.held (w : UartWorld cfg κ) : List WireByte := w.inHand ++ w.driver.buffered

/-- Behind an event nothing is in hand. -/
theorem inHand_switchEvent (w : UartWorld cfg κ) (e : UartEvent) :
    ({ w with task := switchEvent e } : UartWorld cfg κ).inHand = [] := by
  cases e with
  | data size =>
    by_cases hzero : size = 0
    · simp only [UartWorld.inHand, switchEvent, whileRemaining_zero hzero]
    · simp only [UartWorld.inHand, switchEvent, whileRemaining_ne_zero hzero]
  | fifoOvf gap => rfl
  | bufferFull gap => rfl
  | line e => rfl

/-- **No step loses a byte without a trace**: it comes in, is held, and leaves. -/
theorem held_conserved (w : UartWorld cfg κ) (op : UartOp) :
    w.held ++ entering w op = (leaving w op).map Prod.snd ++ (uartExec w op).held := by
  have hsnd : ∀ (f : Fate) (bs : List WireByte), (bs.map (f, ·)).map Prod.snd = bs := by
    intro f bs
    rw [List.map_map]
    exact List.map_id bs
  cases op with
  | receive bs => exact List.append_assoc _ _ _
  | overflow full lost hlost => exact List.append_nil _
  | signal e => exact List.append_nil _
  | task =>
    show w.held ++ [] = (leaving w .task).map Prod.snd ++ (uartRxTask w).held
    rw [List.append_nil]
    cases htask : w.task with
    | receive =>
      have hhand : w.inHand = [] := by simp only [UartWorld.inHand, htask]
      cases hevents : w.driver.events with
      | nil =>
        have hstep : uartRxTask w = w := by simp only [uartRxTask, htask, hevents]
        simp only [leaving, htask, hstep, List.map_nil, List.nil_append]
      | cons e events =>
        have hstep : uartRxTask w
            = { w with driver := { w.driver with events := events }, task := switchEvent e } := by
          simp only [uartRxTask, htask, hevents]
        have hnext := inHand_switchEvent { w with driver := { w.driver with events := events } } e
        simp only [leaving, htask, hstep, UartWorld.held, hhand, hnext, List.map_nil,
          List.nil_append]
    | read r =>
      by_cases hchunk : w.driver.buffered.take (toRead r) = []
      · simp only [leaving, htask, call_read_nothing htask hchunk, UartWorld.held,
          UartWorld.inHand, List.map_nil, List.nil_append]
      · simp only [leaving, htask, call_read htask hchunk, UartWorld.held, UartWorld.inHand,
          List.map_nil, List.nil_append, List.take_append_drop]
    | feed r chunk =>
      obtain ⟨hdriver, hnext⟩ := call_feed htask
      simp only [leaving, htask, hsnd, UartWorld.held, UartWorld.inHand, hdriver, hnext,
        List.nil_append]
    | bufferedLen r =>
      have hnext := inHand_switchEvent w (.data (counted r w.driver.buffered))
      simp only [switchEvent] at hnext
      simp only [leaving, htask, call_bufferedLen htask, UartWorld.held, hnext, List.map_nil,
        List.nil_append]
      simp only [UartWorld.inHand, htask, List.nil_append]
    | flushInput =>
      simp only [leaving, htask, hsnd, uartRxTask, uartFlushInput, UartWorld.held,
        UartWorld.inHand, List.nil_append, List.append_nil]
    | queueReset =>
      simp only [leaving, htask, uartRxTask, xQueueReset, UartWorld.held, UartWorld.inHand,
        List.map_nil, List.nil_append]
    | streamReset =>
      simp only [leaving, htask, uartRxTask, UartWorld.held, UartWorld.inHand, List.map_nil,
        List.nil_append]

/-! ## Somebody is on the way -/

/-- The event makes the task read. -/
def UartEvent.wakes : UartEvent → Bool
  | .data size => size != 0
  | .fifoOvf _ => false
  | .bufferFull _ => false
  | .line _ => false

/-- The task will look at the FIFO before it sleeps. -/
def RxTask.AtWork : RxTask → Prop
  | .read remaining => remaining ≠ 0
  | .feed _ _ => True
  | .bufferedLen _ => True
  | .flushInput => True
  | .receive | .queueReset | .streamReset => False

/-- The step keeps count of the bytes in the FIFO. -/
def KeepsCount (w : UartWorld cfg κ) (op : UartOp) : Prop :=
  (entering w op ≠ [] → UInt32.ofNat (entering w op).length ≠ 0) ∧
  (op = .task → w.task = .queueReset → w.driver.buffered = []) ∧
  (op = .task → w.call.wraps = true → ∃ e ∈ w.driver.events, e.wakes = true)

instance (w : UartWorld cfg κ) (op : UartOp) : Decidable (KeepsCount w op) :=
  inferInstanceAs (Decidable (_ ∧ _ ∧ _))

/-- Bytes in the FIFO have an event waiting, or the task on its way. -/
def Attended (w : UartWorld cfg κ) : Prop :=
  w.driver.buffered ≠ [] → (∃ e ∈ w.driver.events, e.wakes = true) ∨ w.task.AtWork

theorem attended_start (cfg : Config) (cb : κ) : Attended (uartTransportStart cfg cb) :=
  fun hne => absurd rfl hne

/-- Bytes come with the event that tells of them. -/
theorem Attended.receive {w : UartWorld cfg κ} (h : Attended w) {bs : List UInt8}
    (hop : KeepsCount w (.receive bs)) : Attended (uartExec w (.receive bs)) := by
  intro hne
  by_cases hbs : bs = []
  · subst hbs
    rcases h (by rwa [show (uartExec w (.receive [])).driver.buffered = w.driver.buffered ++ []
      from rfl, List.append_nil] at hne) with ⟨e, he, hwakes⟩ | hwork
    · exact Or.inl ⟨e, List.mem_append_left _ he, hwakes⟩
    · exact Or.inr hwork
  · refine Or.inl ⟨.data (UInt32.ofNat bs.length), ?_, ?_⟩
    · exact List.mem_append_right _ (List.mem_singleton_self _)
    · have hsize := hop.1
      rw [show entering w (.receive bs) = wireBytes w.driver.wirePos bs from rfl,
        wireBytes_length] at hsize
      refine bne_iff_ne.mpr (hsize ?_)
      intro hnil
      have hlen := wireBytes_length w.driver.wirePos bs
      rw [hnil] at hlen
      exact hbs (List.length_eq_zero_iff.mp hlen.symm)

/-- A longer queue is no worse. -/
theorem Attended.enqueue {w : UartWorld cfg κ} (h : Attended w) {d : UartDriver}
    {es : List UartEvent} (hbuffered : d.buffered = w.driver.buffered)
    (hevents : d.events = w.driver.events ++ es) : Attended { w with driver := d } := by
  intro hne
  rcases h (by rw [← hbuffered]; exact hne) with ⟨e, he, hwakes⟩ | hwork
  · refine Or.inl ⟨e, ?_, hwakes⟩
    show e ∈ d.events
    rw [hevents]
    exact List.mem_append_left _ he
  · exact Or.inr hwork

/-- An event is taken: if it was the one that wakes, the task is at work now. -/
theorem Attended.dispatch {w : UartWorld cfg κ} (h : Attended w) (htask : w.task = .receive) :
    Attended (uartRxTask w) := by
  obtain ⟨⟨wirePos, buffered, events⟩, task, stream, fed, delivered⟩ := w
  obtain rfl : task = .receive := htask
  cases events with
  | nil => exact h
  | cons e events =>
    intro hne
    rcases h hne with ⟨e', he', hwakes⟩ | hwork
    · rcases List.mem_cons.mp he' with rfl | he'
      · right
        cases e' with
        | data size =>
          have hsize : size ≠ 0 := bne_iff_ne.mp hwakes
          show (whileRemaining size).AtWork
          rw [whileRemaining_ne_zero hsize]
          exact hsize
        | fifoOvf gap => cases hwakes
        | bufferFull gap => cases hwakes
        | line e => cases hwakes
      · exact Or.inl ⟨e', he', hwakes⟩
    · exact hwork.elim

/-- **One call keeps the bytes attended**, if it keeps count. -/
theorem Attended.task {w : UartWorld cfg κ} (h : Attended w) (hop : KeepsCount w .task) :
    Attended (uartExec w .task) := by
  show Attended (uartRxTask w)
  cases htask : w.task with
  | receive => exact h.dispatch htask
  | read r =>
    by_cases hchunk : w.driver.buffered.take (toRead r) = []
    · -- nothing was there to read, or the task was not at work
      rw [call_read_nothing htask hchunk]
      intro hne
      rcases h hne with hevent | hwork
      · exact Or.inl hevent
      · rw [htask] at hwork
        have hpos := toRead_pos hwork
        rcases List.take_eq_nil_iff.mp hchunk with h0 | hnil
        · omega
        · exact absurd hnil hne
    · rw [call_read htask hchunk]
      exact fun _ => Or.inr trivial
  | feed r chunk =>
    intro _
    right
    rw [(call_feed htask).2]
    trivial
  | bufferedLen r =>
    rw [call_bufferedLen htask]
    intro hne
    obtain ⟨hzero, -⟩ := wraps_bufferedLen htask
    by_cases hcounted : counted r w.driver.buffered = 0
    · -- the sum is zero with bytes buffered: an event has to be waiting
      have hwraps : w.call.wraps = true := by
        rw [← Bool.not_eq_false]
        intro hnot
        exact hne ((hzero hcounted).mpr hnot)
      exact Or.inl (hop.2.2 rfl hwraps)
    · right
      show (whileRemaining (counted r w.driver.buffered)).AtWork
      rw [whileRemaining_ne_zero hcounted]
      exact hcounted
  | flushInput =>
    have hstep : uartRxTask w
        = { w with driver := uartFlushInput w.driver, task := .queueReset } := by
      simp only [uartRxTask, htask]
    rw [hstep]
    exact fun hne => absurd rfl hne
  | queueReset =>
    have hstep : uartRxTask w
        = { w with driver := xQueueReset w.driver, task := .streamReset } := by
      simp only [uartRxTask, htask]
    rw [hstep]
    exact fun hne => absurd (hop.2.1 rfl htask) hne
  | streamReset =>
    have hstep : uartRxTask w
        = { w with stream := tlvStreamReset w.stream, fed := [], task := .receive } := by
      simp only [uartRxTask, htask]
    rw [hstep]
    intro hne
    rcases h hne with hevent | hwork
    · exact Or.inl hevent
    · rw [htask] at hwork
      exact hwork.elim

/-- One step keeps the bytes attended, if it keeps count. -/
theorem Attended.exec {w : UartWorld cfg κ} (h : Attended w) {op : UartOp}
    (hop : KeepsCount w op) : Attended (uartExec w op) := by
  cases op with
  | receive bs => exact h.receive hop
  | overflow full lost hlost => exact h.enqueue rfl rfl
  | signal e => exact h.enqueue rfl rfl
  | task => exact h.task hop

/-! ## Runs -/

/-- **No byte is stranded** in any state of a run whose steps keep count: when
the task is back at the empty queue the FIFO is empty, and the bytes that have
come in are, in order, those that were fed or flushed. -/
theorem no_stranded_bytes (cfg : Config) (cb : κ) {ops : List UartOp}
    (hsteps : AllSteps uartExec KeepsCount (uartTransportStart cfg cb) ops) :
    ∀ pre, pre <+: ops →
      (runSteps uartExec (uartTransportStart cfg cb) pre).task = .receive →
      (runSteps uartExec (uartTransportStart cfg cb) pre).driver.events = [] →
      (runSteps uartExec (uartTransportStart cfg cb) pre).driver.buffered = [] ∧
      (collect uartExec leaving (uartTransportStart cfg cb) pre).map Prod.snd
        = collect uartExec entering (uartTransportStart cfg cb) pre := by
  intro pre hpre htask hevents
  have hattended : Attended (runSteps uartExec (uartTransportStart cfg cb) pre) :=
    AllSteps.inv (I := Attended) (fun w op h hop => h.exec hop) (attended_start cfg cb)
      (hsteps.of_prefix hpre)
  have hempty : (runSteps uartExec (uartTransportStart cfg cb) pre).driver.buffered = [] := by
    by_contra hne
    rcases hattended hne with ⟨e, he, -⟩ | hwork
    · rw [hevents] at he
      cases he
    · rw [htask] at hwork
      exact hwork
  refine ⟨hempty, ?_⟩
  have hall := collect_conserved (fun (w : UartWorld cfg κ) op => held_conserved w op)
    (uartTransportStart cfg cb) pre
  have hheld : (runSteps uartExec (uartTransportStart cfg cb) pre).held = [] := by
    simp only [UartWorld.held, UartWorld.inHand, htask, hempty, List.append_nil]
  rw [hheld, List.append_nil] at hall
  rw [collect_map]
  exact hall.symm

/-- Two bytes, a loss, one more byte, and then all that the task does. -/
def lossyRun : List UartOp :=
  [.receive [1, 2], .overflow false 3 (by decide), .task, .receive [4], .task, .task, .task,
    .task, .task, .task, .task, .task, .task, .task]

/-- The three bytes are fed, and the queue is reset with the FIFO empty. -/
theorem no_stranded_bytes_lossy :
    (runSteps uartExec (uartTransportStart Config.minimal ()) lossyRun).driver.buffered = [] ∧
    (collect uartExec leaving (uartTransportStart Config.minimal ()) lossyRun).map Prod.snd
      = [⟨0, 1⟩, ⟨1, 2⟩, ⟨5, 4⟩] := by
  have hsteps : AllSteps uartExec KeepsCount (uartTransportStart Config.minimal ()) lossyRun := by
    decide
  have htask : (runSteps uartExec (uartTransportStart Config.minimal ()) lossyRun).task
      = .receive := by
    decide
  have hevents : (runSteps uartExec (uartTransportStart Config.minimal ()) lossyRun).driver.events
      = [] := by
    decide
  obtain ⟨hempty, hfates⟩ := no_stranded_bytes Config.minimal () hsteps lossyRun List.prefix_rfl
    htask hevents
  refine ⟨hempty, hfates.trans ?_⟩
  decide

/-- **A stranded byte.** It arrives between `uart_flush_input` and `xQueueReset`,
which throws its event away: the task sleeps, and nothing will wake it. -/
theorem byte_stranded :
    let ops : List UartOp :=
      [.overflow false 1 (by decide), .task, .task, .receive [0xD5], .task, .task]
    let w := runSteps uartExec (uartTransportStart Config.minimal ()) ops
    w.task = .receive ∧ w.driver.events = [] ∧ w.driver.buffered = [⟨1, 0xD5⟩] := by
  decide

end CaptureKVMBridge.Uart
