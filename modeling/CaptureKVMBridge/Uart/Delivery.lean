import CaptureKVMBridge.Tlv.RoundTrip
import CaptureKVMBridge.Uart.Stranded

/-!
# A line without losses

On a line that loses nothing the UART transport is as good as the serial one:
the parser is never reset, it is fed what arrived in the order it arrived, and
if no step loses count of the bytes the task ends up asleep with all of it fed.
`uart_delivers` puts this together with the round trip of the wire format.

`Lossless` is the invariant: no overflow is queued or being dealt with, and the
stream is what the fed bytes make of a fresh one. `UartWorld.work` bounds the
calls to the next sleep: a read takes at least a byte, and an event is handled
once.
-/

namespace CaptureKVMBridge.Uart

open CaptureKVMBridge.Machine CaptureKVMBridge.Tlv

variable {cfg : Config} {κ : Type} {cb : κ}

/-! ## Without losses -/

/-- The step loses no byte. -/
def UartOp.Keeps : UartOp → Prop
  | .overflow _ _ _ => False
  | .receive _ | .signal _ | .task => True

instance : DecidablePred UartOp.Keeps
  | .overflow _ _ _ => isFalse id
  | .receive _ | .signal _ | .task => isTrue trivial

/-- The task is in the branch of an overflow. -/
def RxTask.Resets : RxTask → Prop
  | .flushInput | .queueReset | .streamReset => True
  | .receive | .read _ | .feed _ _ | .bufferedLen _ => False

/-- Nothing was lost so far, and nobody thinks so. -/
structure Lossless (cb : κ) (w : UartWorld cfg κ) : Prop where
  task : ¬w.task.Resets
  events : ∀ e ∈ w.driver.events, e.gap = none
  stream : w.stream
    = final tlvStreamFeedByte (tlvStreamInit cfg (some cb) .uart) (w.fed.map WireByte.byte)
  delivered : w.delivered.map Delivery.call
    = outputs tlvStreamFeedByte (tlvStreamInit cfg (some cb) .uart) (w.fed.map WireByte.byte)

theorem lossless_start (cfg : Config) (cb : κ) : Lossless cb (uartTransportStart cfg cb) :=
  ⟨id, fun _ he => absurd he List.not_mem_nil, rfl, rfl⟩

theorem whileRemaining_calm (remaining : UInt32) : ¬(whileRemaining remaining).Resets := by
  unfold whileRemaining
  split
  · exact id
  · exact id

theorem switchEvent_calm {e : UartEvent} (h : e.gap = none) : ¬(switchEvent e).Resets := by
  cases e with
  | data size => exact whileRemaining_calm size
  | fifoOvf gap => cases h
  | bufferFull gap => cases h
  | line e => exact id

/-- A chunk is fed: the stream goes on with it, and the calls are the stream's. -/
theorem Lossless.feed {w : UartWorld cfg κ} (h : Lossless cb w) {remaining : UInt32}
    {chunk : List WireByte} (htask : w.task = .feed remaining chunk) :
    Lossless cb (uartRxTask w) := by
  obtain ⟨driver, task, stream, fed, delivered⟩ := w
  obtain rfl : task = .feed remaining chunk := htask
  obtain ⟨-, hevents, hstream, hdelivered⟩ := h
  dsimp only at hstream hdelivered
  refine ⟨id, hevents, ?_, ?_⟩
  · show (tlvStreamFeed stream (chunk.map WireByte.byte)).1
      = final tlvStreamFeedByte _ ((fed ++ chunk).map WireByte.byte)
    rw [tlvStreamFeed_eq, hstream, List.map_append, final_append]
    rfl
  · show (delivered ++ outputs tracedFeedByte (stream, fed) chunk).map Delivery.call
      = outputs tlvStreamFeedByte _ ((fed ++ chunk).map WireByte.byte)
    rw [List.map_append, hdelivered, traced_calls, tlvStreamFeed_eq, hstream, List.map_append,
      outputs_append]
    rfl

/-- **One call keeps it so.** -/
theorem Lossless.call {w : UartWorld cfg κ} (h : Lossless cb w) :
    Lossless cb (uartRxTask w) := by
  have hcalm := h.task
  cases htask : w.task with
  | receive =>
    cases hevents : w.driver.events with
    | nil =>
      have hstep : uartRxTask w = w := by simp only [uartRxTask, htask, hevents]
      rw [hstep]
      exact h
    | cons e events =>
      have hstep : uartRxTask w
          = { w with driver := { w.driver with events := events }, task := switchEvent e } := by
        simp only [uartRxTask, htask, hevents]
      have hall := h.events
      rw [hevents, List.forall_mem_cons] at hall
      rw [hstep]
      exact ⟨switchEvent_calm hall.1, hall.2, h.stream, h.delivered⟩
  | read r =>
    by_cases hchunk : w.driver.buffered.take (toRead r) = []
    · rw [call_read_nothing htask hchunk]
      exact ⟨id, h.events, h.stream, h.delivered⟩
    · rw [call_read htask hchunk]
      exact ⟨id, h.events, h.stream, h.delivered⟩
  | feed r chunk => exact h.feed htask
  | bufferedLen r =>
    rw [call_bufferedLen htask]
    exact ⟨whileRemaining_calm _, h.events, h.stream, h.delivered⟩
  | flushInput | queueReset | streamReset =>
    rw [htask] at hcalm
    exact absurd trivial hcalm

theorem Lossless.exec {w : UartWorld cfg κ} (h : Lossless cb w) {op : UartOp} (hop : op.Keeps) :
    Lossless cb (uartExec w op) := by
  have henqueue : ∀ e : UartEvent, e.gap = none →
      ∀ e' ∈ w.driver.events ++ [e], e'.gap = none := by
    intro e he e' hmem
    rcases List.mem_append.mp hmem with hold | hnew
    · exact h.events e' hold
    · rw [List.mem_singleton.mp hnew]
      exact he
  cases op with
  | receive bs => exact ⟨h.task, henqueue _ rfl, h.stream, h.delivered⟩
  | overflow full lost hlost => exact hop.elim
  | signal e => exact ⟨h.task, henqueue _ rfl, h.stream, h.delivered⟩
  | task => exact h.call

/-! ## Every byte is fed -/

/-- In the branches of the task without a flush, what leaves is fed. -/
theorem Lossless.leaving {w : UartWorld cfg κ} (h : Lossless cb w) (op : UartOp) :
    (uartExec w op).fed = w.fed ++ (Uart.leaving w op).map Prod.snd := by
  cases op with
  | receive bs => exact (List.append_nil _).symm
  | overflow full lost hlost => exact (List.append_nil _).symm
  | signal e => exact (List.append_nil _).symm
  | task =>
    have hcalm := h.task
    show (uartRxTask w).fed = _
    cases htask : w.task with
    | receive =>
      cases hevents : w.driver.events <;>
        simp only [uartRxTask, Uart.leaving, htask, hevents, List.map_nil, List.append_nil]
    | read r =>
      by_cases hchunk : w.driver.buffered.take (toRead r) = []
      · simp only [call_read_nothing htask hchunk, Uart.leaving, htask, List.map_nil,
          List.append_nil]
      · simp only [call_read htask hchunk, Uart.leaving, htask, List.map_nil, List.append_nil]
    | feed r chunk =>
      simp only [uartRxTask, Uart.leaving, htask, List.map_map, List.append_cancel_left_eq]
      exact (List.map_id chunk).symm
    | bufferedLen r =>
      simp only [call_bufferedLen htask, Uart.leaving, htask, List.map_nil, List.append_nil]
    | flushInput | queueReset | streamReset =>
      rw [htask] at hcalm
      exact absurd trivial hcalm

/-- The bytes that have arrived, fed or not. -/
def UartWorld.taken (w : UartWorld cfg κ) : List WireByte := w.fed ++ w.held

theorem Lossless.taken {w : UartWorld cfg κ} (h : Lossless cb w) (op : UartOp) :
    (uartExec w op).taken = w.taken ++ entering w op := by
  unfold UartWorld.taken
  rw [h.leaving op, List.append_assoc, ← held_conserved, List.append_assoc]

/-- The bytes that a run puts on the wire. -/
def sentBytes (ops : List UartOp) : List UInt8 :=
  ops.flatMap fun
    | .receive bs => bs
    | .overflow _ _ _ | .signal _ | .task => []

/-- **On a line without losses every byte is there, in order.** -/
theorem taken_run {w : UartWorld cfg κ} (h : Lossless cb w) {ops : List UartOp}
    (hops : ∀ op ∈ ops, op.Keeps) :
    (runSteps uartExec w ops).taken.map WireByte.byte
      = w.taken.map WireByte.byte ++ sentBytes ops := by
  induction ops generalizing w with
  | nil => exact (List.append_nil _).symm
  | cons op ops ih =>
    obtain ⟨hop, hrest⟩ := List.forall_mem_cons.mp hops
    have hentering : (entering w op).map WireByte.byte = sentBytes [op] := by
      cases op with
      | receive bs => exact (wireBytes_byte ..).trans (List.append_nil bs).symm
      | overflow | signal | task => rfl
    rw [runSteps_cons, ih (h.exec hop) hrest, h.taken op, List.map_append, hentering,
      List.append_assoc]
    exact congrArg (_ ++ ·) List.flatMap_append.symm

/-! ## The way back to sleep -/

/-- The task waits at an empty queue. -/
def UartWorld.Asleep (w : UartWorld cfg κ) : Prop := w.task = .receive ∧ w.driver.events = []

/-- At most so many calls are made before the task sleeps: four for an event, and
three for a byte, which has to be read, fed, and asked behind. -/
def UartWorld.work (w : UartWorld cfg κ) : Nat :=
  let todo := 4 * w.driver.events.length + 3 * w.driver.buffered.length
  match w.task with
  | .receive => if w.driver.events = [] then 0 else todo
  | .read _ => todo + 1
  | .feed _ _ => todo + 3
  | .bufferedLen _ => todo + 2
  | .flushInput | .queueReset | .streamReset => 0

theorem work_le (w : UartWorld cfg κ) :
    w.work ≤ 4 * w.driver.events.length + 3 * w.driver.buffered.length + 3 := by
  unfold UartWorld.work
  cases w.task with
  | receive =>
    dsimp only
    split <;> omega
  | read | feed | bufferedLen | flushInput | queueReset | streamReset => dsimp only; omega

theorem work_whileRemaining (w : UartWorld cfg κ) (remaining : UInt32) :
    ({ w with task := whileRemaining remaining } : UartWorld cfg κ).work
      ≤ 4 * w.driver.events.length + 3 * w.driver.buffered.length + 1 := by
  unfold UartWorld.work whileRemaining
  split
  · exact Nat.le_refl _
  · dsimp only
    split <;> omega

theorem Lossless.asleep {w : UartWorld cfg κ} (h : Lossless cb w) (hwork : w.work = 0) :
    w.Asleep := by
  have hcalm := h.task
  unfold UartWorld.work at hwork
  cases htask : w.task with
  | receive =>
    rw [htask] at hwork
    dsimp only at hwork
    split at hwork
    next hevents => exact ⟨htask, hevents⟩
    next hevents =>
      have hpos : 0 < w.driver.events.length := List.length_pos_iff.mpr hevents
      omega
  | read | feed | bufferedLen =>
    rw [htask] at hwork
    dsimp only at hwork
    omega
  | flushInput | queueReset | streamReset =>
    rw [htask] at hcalm
    exact absurd trivial hcalm

/-- **Each call is one less to make.** -/
theorem Lossless.work {w : UartWorld cfg κ} (h : Lossless cb w) :
    (uartRxTask w).work ≤ w.work - 1 := by
  have hcalm := h.task
  cases htask : w.task with
  | receive =>
    cases hevents : w.driver.events with
    | nil =>
      have hstep : uartRxTask w = w := by simp only [uartRxTask, htask, hevents]
      have hzero : w.work = 0 := by simp only [UartWorld.work, htask, hevents, if_true]
      rw [hstep, hzero]
    | cons e events =>
      have hstep : uartRxTask w
          = { w with driver := { w.driver with events := events }, task := switchEvent e } := by
        simp only [uartRxTask, htask, hevents]
      have hnext : (uartRxTask w).work
          ≤ 4 * events.length + 3 * w.driver.buffered.length + 1 := by
        have hall := h.events
        rw [hevents, List.forall_mem_cons] at hall
        rw [hstep]
        cases e with
        | data size =>
          exact work_whileRemaining { w with driver := { w.driver with events := events } } size
        | fifoOvf gap => cases hall.1
        | bufferFull gap => cases hall.1
        | line e =>
          show UartWorld.work { w with
            driver := { w.driver with events := events }, task := .receive } ≤ _
          unfold UartWorld.work
          dsimp only
          split <;> omega
      have hwork : w.work = 4 * (events.length + 1) + 3 * w.driver.buffered.length := by
        simp only [UartWorld.work, htask, hevents, List.length_cons, reduceCtorEq, if_false]
      omega
  | read r =>
    have hwork : w.work
        = 4 * w.driver.events.length + 3 * w.driver.buffered.length + 1 := by
      simp only [UartWorld.work, htask]
    by_cases hchunk : w.driver.buffered.take (toRead r) = []
    · rw [call_read_nothing htask hchunk, hwork]
      unfold UartWorld.work
      dsimp only
      split <;> omega
    · rw [call_read htask hchunk, hwork]
      -- what was read pays for the calls that follow
      have hpos : 0 < min (toRead r) w.driver.buffered.length := by
        rw [← List.length_take]
        exact List.length_pos_iff.mpr hchunk
      unfold UartWorld.work
      simp only [List.length_drop]
      omega
  | feed r chunk =>
    obtain ⟨hdriver, hnext⟩ := call_feed htask
    have hwork : w.work
        = 4 * w.driver.events.length + 3 * w.driver.buffered.length + 3 := by
      simp only [UartWorld.work, htask]
    rw [hwork]
    unfold UartWorld.work
    rw [hdriver, hnext]
    exact Nat.le_refl _
  | bufferedLen r =>
    have hwork : w.work
        = 4 * w.driver.events.length + 3 * w.driver.buffered.length + 2 := by
      simp only [UartWorld.work, htask]
    rw [call_bufferedLen htask, hwork]
    exact work_whileRemaining w _
  | flushInput | queueReset | streamReset =>
    rw [htask] at hcalm
    exact absurd trivial hcalm

theorem work_run {w : UartWorld cfg κ} (h : Lossless cb w) (n : Nat) :
    (runSteps uartExec w (List.replicate n .task)).work ≤ w.work - n := by
  induction n generalizing w with
  | zero => exact Nat.le_refl _
  | succ n ih =>
    have hcall : (uartExec w .task).work ≤ w.work - 1 := h.work
    have hkept : Lossless cb (uartExec w .task) := h.exec trivial
    have hrest := ih hkept
    rw [List.replicate_succ, runSteps_cons]
    omega

/-! ## Runs -/

/-- The calls of the stream are the frames in the fed bytes. -/
theorem Lossless.frames {w : UartWorld cfg κ} (h : Lossless cb w) :
    w.delivered.map Delivery.call
      = (outputs (framerStep cfg) [] (w.fed.map WireByte.byte)).map
          (fun f => { callback := cb, source := .uart, frame := f }) := by
  rw [h.delivered]
  exact (feedByte_run_refines (tlvStreamInit_refines cfg cb .uart) _).1

/-- **On a line without losses the UART task delivers what is sent.** In every
run from the start without an overflow: the bytes that arrived are those fed,
the chunk in hand and those buffered, and the callback was given the frames that
the parser finds in the fed bytes. If the steps so far and those to come keep
count of the bytes, enough further calls leave the task asleep with everything
fed; and if the bytes sent are encoded events in a build with audio, those are
then what the callback was given. -/
theorem uart_delivers (cfg : Config) (cb : κ) (ops : List UartOp)
    (hkeeps : ∀ op ∈ ops, op.Keeps) :
    let w := runSteps uartExec (uartTransportStart cfg cb) ops
    let call := fun f : List UInt8 =>
      ({ callback := cb, source := .uart, frame := f } : CallbackCall κ)
    (w.fed ++ w.held).map WireByte.byte = sentBytes ops ∧
    w.delivered.map Delivery.call
      = (outputs (framerStep cfg) [] (w.fed.map WireByte.byte)).map call ∧
    ∀ n, 4 * w.driver.events.length + 3 * w.driver.buffered.length + 3 ≤ n →
      AllSteps uartExec KeepsCount (uartTransportStart cfg cb) ops →
      AllSteps uartExec KeepsCount w (List.replicate n .task) →
      let w' := runSteps uartExec w (List.replicate n .task)
      w'.Asleep ∧ w'.driver.buffered = [] ∧ w'.fed.map WireByte.byte = sentBytes ops ∧
        ∀ events : List ProtocolPayload, cfg.appEnableUsbAudio = true →
          (∀ e ∈ events, Sendable cfg e) → sentBytes ops = (events.map encode).flatten →
            w'.delivered.map Delivery.call = events.map fun e => call (encodeFrame e) := by
  intro w call
  have hstart := lossless_start cfg cb
  have hlossless : Lossless cb w :=
    AllSteps.inv (P := fun _ op => op.Keeps) (fun v op hv hop => hv.exec hop) hstart
      (allSteps_of_mem hkeeps _)
  have htaken : w.taken.map WireByte.byte = sentBytes ops := taken_run hstart hkeeps
  refine ⟨htaken, hlossless.frames, fun n hn hcount hcount' => ?_⟩
  intro w'
  have hlossless' : Lossless cb w' :=
    AllSteps.inv (P := fun _ op => op.Keeps) (fun v op hv hop => hv.exec hop) hlossless
      (allSteps_of_mem (fun op hop => (List.eq_of_mem_replicate hop) ▸ trivial) _)
  have hasleep : w'.Asleep := by
    have hrun : w'.work ≤ w.work - n := work_run hlossless n
    have hwork := work_le w
    exact hlossless'.asleep (by omega)
  have hattended : Attended w' :=
    AllSteps.inv (fun v op hv hop => hv.exec hop)
      (AllSteps.inv (fun v op hv hop => hv.exec hop) (attended_start cfg cb) hcount) hcount'
  -- asleep, with nobody on the way to the buffer: it is empty
  have hempty : w'.driver.buffered = [] := by
    by_contra hne
    rcases hattended hne with ⟨e, he, -⟩ | hwork
    · rw [hasleep.2] at he
      cases he
    · rw [hasleep.1] at hwork
      exact hwork
  have hfed : w'.fed.map WireByte.byte = sentBytes ops := by
    have hkeeps : ∀ op ∈ List.replicate n UartOp.task, op.Keeps :=
      fun op hop => (List.eq_of_mem_replicate hop) ▸ trivial
    have hrun := taken_run hlossless hkeeps
    have hnone : sentBytes (List.replicate n .task) = [] := by simp [sentBytes]
    have hheld : w'.taken = w'.fed := by
      simp only [UartWorld.taken, UartWorld.held, UartWorld.inHand, hasleep.1, hempty,
        List.append_nil]
    rw [hnone, List.append_nil, htaken] at hrun
    rw [← hheld]
    exact hrun
  refine ⟨hasleep, hempty, hfed, fun events haudio hevents hsent => ?_⟩
  rw [hlossless'.frames, hfed, hsent, framer_encode haudio hevents, List.map_map]
  rfl

/-- A key press in two arrivals, the second of them while the first is read. -/
theorem uart_delivers_press :
    let ops : List UartOp :=
      [.receive ((encode pressEvent).take 6), .task, .receive ((encode pressEvent).drop 6)]
    (runSteps uartExec (runSteps uartExec (uartTransportStart Config.shipped ()) ops)
        (List.replicate 46 .task)).delivered.map Delivery.call
      = [{ callback := (), source := .uart, frame := encodeFrame pressEvent }] := by
  intro ops
  obtain ⟨-, -, h⟩ := uart_delivers Config.shipped () ops (by decide)
  obtain ⟨-, -, -, hevents⟩ := h 46 (by decide) (by decide) (by decide)
  exact hevents [pressEvent] rfl (List.forall_mem_singleton.mpr trivial) rfl

end CaptureKVMBridge.Uart
