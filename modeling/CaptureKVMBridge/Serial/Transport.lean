import CaptureKVMBridge.Machine.Run
import CaptureKVMBridge.Tlv.RoundTrip

/-!
# `serial_transport.c`: the task behind the USB serial port

`serial_rx_task` waits for bytes, feeds them, and then takes what else there is
without waiting before it goes back to sleep. A step is an arrival in the
driver's buffer or one call of the task, so a run is one interleaving of the two.

The UART task counts bytes and can lose count; this one asks the driver until it
answers with nothing. `serial_delivers` says what that buys: in every run the bytes
that arrived are those fed, the chunk in hand and those buffered, in this order,
and from every state of it the task is idle after a number of calls that only
depends on the bytes it has not fed, unless it could not allocate its buffer.

Mirroring notes:
- The driver is its buffer. A read that finds something answers with as much of
  the front as the driver gives at once, at least a byte and at most what was
  asked for; the answer is an input of the step.
- An arrival is what the driver stored of it.
- `fed` and `delivered` are bookkeeping. The log lines are left out.
-/

namespace CaptureKVMBridge.Serial

open CaptureKVMBridge.Machine CaptureKVMBridge.Tlv

variable {cfg : Config} {κ : Type}

/-! ## The task -/

/-- `SERIAL_RX_BUF_SIZE` -/
def serialRxBufSize : Nat := 2048

/-- The call that `serial_rx_task` makes next. -/
inductive SerialRxTask where
  /-- `malloc` -/
  | malloc
  /-- `usb_serial_jtag_read_bytes(.., portMAX_DELAY)` -/
  | read
  /-- `tlv_feed` -/
  | feed (chunk : List UInt8)
  /-- `usb_serial_jtag_read_bytes(.., 0)` -/
  | drain
  /-- none: the task has deleted itself -/
  | deleted
  deriving DecidableEq, Repr

/-- The driver's buffer, the task and the stream `s_stream`. -/
structure SerialWorld (cfg : Config) (κ : Type) where
  buffered : List UInt8
  task : SerialRxTask
  stream : TlvStream cfg κ
  /-- what was fed -/
  fed : List UInt8
  /-- what the callback was given, oldest first -/
  delivered : List (CallbackCall κ)

/-- `usb_serial_jtag_read_bytes(.., length, ..)`: what it returns, and what it
leaves. The driver gives `given` bytes more than it has to. -/
def usbSerialJtagReadBytes (buffered : List UInt8) (length given : Nat) :
    List UInt8 × List UInt8 :=
  (buffered.take (min length (given + 1)), buffered.drop (min length (given + 1)))

/-- The next call of `serial_rx_task`, and what it is answered. -/
def serialRxTask (answer : Nat) (w : SerialWorld cfg κ) : SerialWorld cfg κ :=
  match w.task with
  | .malloc => { w with task := if answer = 0 then .deleted else .read }
  | .read =>
    let r := usbSerialJtagReadBytes w.buffered serialRxBufSize answer
    if r.1.length > 0 then { w with buffered := r.2, task := .feed r.1 } else w
  | .feed chunk =>
    { w with
      task := .drain
      stream := (tlvStreamFeed w.stream chunk).1
      fed := w.fed ++ chunk
      delivered := w.delivered ++ (tlvStreamFeed w.stream chunk).2 }
  | .drain =>
    let r := usbSerialJtagReadBytes w.buffered serialRxBufSize answer
    if r.1.length > 0 then { w with buffered := r.2, task := .feed r.1 }
    else { w with task := .read }
  | .deleted => w

/-- One step: bytes arrive, or the task makes a call. -/
inductive SerialOp where
  | receive (bs : List UInt8)
  | task (answer : Nat)
  deriving DecidableEq, Repr

def serialExec (w : SerialWorld cfg κ) : SerialOp → SerialWorld cfg κ
  | .receive bs => { w with buffered := w.buffered ++ bs }
  | .task answer => serialRxTask answer w

/-- `serial_transport_start(cb)`: the transport, or the error it returns. `held`
is what a driver that is already installed has in its buffer. -/
def serialTransportStart (cfg : Config) (cb : Option κ) (installed : Bool) (held : List UInt8)
    (driverInstall : Int) (taskCreated : Bool) : Except Int (SerialWorld cfg κ) :=
  if installed = false ∧ driverInstall ≠ 0 then .error driverInstall
  -- `ESP_FAIL`
  else if taskCreated = false then .error (-1)
  else .ok
    { buffered := if installed then held else []
      task := .malloc
      stream := tlvStreamInit cfg cb .usbJtag
      fed := []
      delivered := [] }

/-! ## What a call does -/

theorem readBytes_append (buffered : List UInt8) (length given : Nat) :
    (usbSerialJtagReadBytes buffered length given).1
      ++ (usbSerialJtagReadBytes buffered length given).2 = buffered := List.take_append_drop ..

theorem readBytes_pos {buffered : List UInt8} (h : buffered ≠ []) (given : Nat) :
    0 < (usbSerialJtagReadBytes buffered serialRxBufSize given).1.length := by
  have hpos : 0 < buffered.length := List.length_pos_iff.mpr h
  have hsize : 0 < serialRxBufSize := by decide
  rw [usbSerialJtagReadBytes, List.length_take]
  omega

/-- The bytes that were read and are not fed yet. -/
def SerialWorld.inHand (w : SerialWorld cfg κ) : List UInt8 :=
  match w.task with
  | .feed chunk => chunk
  | .malloc | .read | .drain | .deleted => []

/-- The bytes that have arrived. -/
def SerialWorld.taken (w : SerialWorld cfg κ) : List UInt8 := w.fed ++ w.inHand ++ w.buffered

/-- What a call can do. -/
inductive Called (w : SerialWorld cfg κ) : SerialWorld cfg κ → Prop
  /-- it waits, or is not made any more -/
  | stays (h : w.task = .deleted ∨ w.task = .read ∧ w.buffered = []) : Called w w
  /-- `malloc` is answered -/
  | allocates (h : w.task = .malloc) (next : SerialRxTask) (hnext : next = .read ∨ next = .deleted) :
      Called w { w with task := next }
  /-- a read finds something -/
  | reads (h : w.task = .read ∨ w.task = .drain) (chunk rest : List UInt8) (hne : chunk ≠ [])
      (hsplit : w.buffered = chunk ++ rest) :
      Called w { w with buffered := rest, task := .feed chunk }
  /-- a read without waiting finds nothing -/
  | empties (h : w.task = .drain) (hempty : w.buffered = []) : Called w { w with task := .read }
  /-- a chunk is fed -/
  | feeds (chunk : List UInt8) (h : w.task = .feed chunk) :
      Called w { w with
        task := .drain
        stream := (tlvStreamFeed w.stream chunk).1
        fed := w.fed ++ chunk
        delivered := w.delivered ++ (tlvStreamFeed w.stream chunk).2 }

/-- **What any call can do.** -/
theorem serialRxTask_called (answer : Nat) (w : SerialWorld cfg κ) :
    Called w (serialRxTask answer w) := by
  have hnothing : ∀ n, (usbSerialJtagReadBytes [] n answer).1.length = 0 := by
    intro n
    rw [usbSerialJtagReadBytes, List.take_nil]
    rfl
  have hread : w.task = .read ∨ w.task = .drain → w.buffered ≠ [] →
      Called w { w with
        buffered := (usbSerialJtagReadBytes w.buffered serialRxBufSize answer).2
        task := .feed (usbSerialJtagReadBytes w.buffered serialRxBufSize answer).1 } := by
    intro h hne
    exact .reads h _ _ (List.length_pos_iff.mp (readBytes_pos hne answer))
      (readBytes_append ..).symm
  unfold serialRxTask
  cases htask : w.task with
  | malloc =>
    refine .allocates htask _ ?_
    split
    · exact Or.inr rfl
    · exact Or.inl rfl
  | read =>
    dsimp only
    by_cases hempty : w.buffered = []
    · rw [hempty, if_neg (by rw [hnothing]; exact Nat.lt_irrefl 0)]
      exact .stays (Or.inr ⟨htask, hempty⟩)
    · rw [if_pos (readBytes_pos hempty answer)]
      exact hread (Or.inl htask) hempty
  | feed chunk => exact .feeds chunk htask
  | drain =>
    dsimp only
    by_cases hempty : w.buffered = []
    · rw [hempty, if_neg (by rw [hnothing]; exact Nat.lt_irrefl 0)]
      exact hempty ▸ .empties htask hempty
    · rw [if_pos (readBytes_pos hempty answer)]
      exact hread (Or.inr htask) hempty
  | deleted => exact .stays (Or.inl htask)

/-! ## What every run keeps -/

/-- The bytes that arrive along a run. -/
def arrivals (ops : List SerialOp) : List UInt8 :=
  ops.flatMap fun
    | .receive bs => bs
    | .task _ => []

/-- The stream is what the fed bytes make of a fresh one, and so are the calls; and a
task without a buffer has fed nothing. -/
structure Follows (s₀ : TlvStream cfg κ) (w : SerialWorld cfg κ) : Prop where
  stream : w.stream = final tlvStreamFeedByte s₀ w.fed
  delivered : w.delivered = outputs tlvStreamFeedByte s₀ w.fed
  unfed : w.task = .malloc ∨ w.task = .deleted → w.fed = []

/-- A call moves bytes on, and keeps their order. -/
theorem Called.taken {w w' : SerialWorld cfg κ} (h : Called w w') : w'.taken = w.taken := by
  unfold SerialWorld.taken SerialWorld.inHand
  cases h with
  | stays h => rfl
  | allocates h next hnext =>
    rcases hnext with rfl | rfl
    · rw [h]
    · rw [h]
  | reads h chunk rest hne hsplit =>
    dsimp only
    rcases h with h | h
    · rw [h, hsplit, List.append_nil, List.append_assoc]
    · rw [h, hsplit, List.append_nil, List.append_assoc]
  | empties h hempty => rw [h]
  | feeds chunk h =>
    dsimp only
    rw [h, List.append_nil]

theorem Called.follows {s₀ : TlvStream cfg κ} {w w' : SerialWorld cfg κ} (h : Called w w')
    (hw : Follows s₀ w) : Follows s₀ w' := by
  -- a task that reads or feeds has its buffer, and does not give it up
  cases h with
  | stays h => exact hw
  | allocates h next hnext => exact ⟨hw.stream, hw.delivered, fun _ => hw.unfed (Or.inl h)⟩
  | reads h chunk rest hne hsplit =>
    exact ⟨hw.stream, hw.delivered,
      fun h => h.elim SerialRxTask.noConfusion SerialRxTask.noConfusion⟩
  | empties h hempty =>
    exact ⟨hw.stream, hw.delivered,
      fun h => h.elim SerialRxTask.noConfusion SerialRxTask.noConfusion⟩
  | feeds chunk h =>
    refine ⟨?_, ?_, fun h => h.elim SerialRxTask.noConfusion SerialRxTask.noConfusion⟩
    · show (tlvStreamFeed w.stream chunk).1 = _
      rw [tlvStreamFeed_eq, hw.stream, final_append]
      rfl
    · show w.delivered ++ (tlvStreamFeed w.stream chunk).2 = _
      rw [tlvStreamFeed_eq, hw.delivered, hw.stream, outputs_append]
      rfl

theorem Follows.exec {s₀ : TlvStream cfg κ} {w : SerialWorld cfg κ} (hw : Follows s₀ w)
    (op : SerialOp) : Follows s₀ (serialExec w op) := by
  cases op with
  | receive bs => exact ⟨hw.stream, hw.delivered, hw.unfed⟩
  | task answer => exact (serialRxTask_called answer w).follows hw

/-- **No byte is lost and none is out of order.** By induction on the run. -/
theorem taken_run (w : SerialWorld cfg κ) (ops : List SerialOp) :
    (runSteps serialExec w ops).taken = w.taken ++ arrivals ops := by
  induction ops generalizing w with
  | nil => exact (List.append_nil _).symm
  | cons op ops ih =>
    rw [runSteps_cons, ih]
    cases op with
    | receive bs =>
      have hstep : (serialExec w (.receive bs)).taken = w.taken ++ bs :=
        (List.append_assoc ..).symm
      rw [hstep, List.append_assoc]
      rfl
    | task answer =>
      have hstep : (serialExec w (.task answer)).taken = w.taken :=
        (serialRxTask_called answer w).taken
      rw [hstep]
      rfl

/-! ## The way back to sleep -/

/-- The task waits, and there is nothing to wake it for. -/
def SerialWorld.Idle (w : SerialWorld cfg κ) : Prop := w.task = .read ∧ w.buffered = []

/-- The calls to make before the task is idle, if each read gives a single byte. -/
def SerialWorld.work (w : SerialWorld cfg κ) : Nat :=
  match w.task with
  | .malloc => 2 * w.buffered.length + 2
  | .read => if w.buffered = [] then 0 else 2 * w.buffered.length + 1
  | .feed _ => 2 * w.buffered.length + 2
  | .drain => 2 * w.buffered.length + 1
  | .deleted => 0

theorem idle_of_work {w : SerialWorld cfg κ} (hwork : w.work = 0) (htask : w.task ≠ .deleted) :
    w.Idle := by
  unfold SerialWorld.work at hwork
  cases h : w.task with
  | read =>
    rw [h] at hwork
    dsimp only at hwork
    split at hwork
    next hempty => exact ⟨h, hempty⟩
    next => omega
  | malloc | feed | drain =>
    rw [h] at hwork
    dsimp only at hwork
    omega
  | deleted => exact absurd h htask

/-- **Each call is one less to make**, however much a read is given. -/
theorem Called.work {w w' : SerialWorld cfg κ} (h : Called w w') : w'.work ≤ w.work - 1 := by
  unfold SerialWorld.work
  cases h with
  | stays h =>
    rcases h with h | ⟨h, hempty⟩
    · rw [h]
      exact Nat.zero_le _
    · rw [h]
      dsimp only
      rw [if_pos hempty]
  | allocates h next hnext =>
    rw [h]
    dsimp only
    rcases hnext with rfl | rfl
    · dsimp only
      split <;> omega
    · exact Nat.zero_le _
  | reads h chunk rest hne hsplit =>
    have hpos : 0 < chunk.length := List.length_pos_iff.mpr hne
    have hlen : w.buffered.length = chunk.length + rest.length := by
      rw [hsplit, List.length_append]
    have hbuffered : w.buffered ≠ [] := by
      rw [hsplit]
      exact List.append_ne_nil_of_left_ne_nil hne rest
    rcases h with h | h
    · rw [h]
      dsimp only
      rw [if_neg hbuffered]
      omega
    · rw [h]
      dsimp only
      omega
  | empties h hempty =>
    dsimp only
    rw [if_pos hempty]
    exact Nat.zero_le _
  | feeds chunk h =>
    rw [h]
    dsimp only
    omega

theorem work_run (answers : List Nat) (w : SerialWorld cfg κ) :
    (runSteps serialExec w (answers.map .task)).work ≤ w.work - answers.length := by
  induction answers generalizing w with
  | nil => exact Nat.le_refl _
  | cons answer answers ih =>
    have hcall : (serialExec w (.task answer)).work ≤ w.work - 1 :=
      (serialRxTask_called answer w).work
    have hrest := ih (serialExec w (.task answer))
    rw [List.map_cons, runSteps_cons, List.length_cons]
    omega

theorem work_le (w : SerialWorld cfg κ) : w.work ≤ 2 * w.buffered.length + 2 := by
  unfold SerialWorld.work
  cases w.task with
  | read =>
    dsimp only
    split <;> omega
  | malloc | feed | drain => dsimp only; omega
  | deleted => exact Nat.zero_le _

/-- A task that does not delete itself becomes idle. -/
theorem idle_run {w : SerialWorld cfg κ} {answers : List Nat}
    (hlen : 2 * w.buffered.length + 2 ≤ answers.length) :
    (runSteps serialExec w (answers.map .task)).task = .deleted ∨
      (runSteps serialExec w (answers.map .task)).Idle := by
  have hrun := work_run answers w
  have hwork := work_le w
  by_cases hdeleted : (runSteps serialExec w (answers.map .task)).task = .deleted
  · exact Or.inl hdeleted
  · exact Or.inr (idle_of_work (by omega) hdeleted)

/-! ## Runs -/

/-- What has arrived of a transport that starts, and what it starts from. -/
theorem serialTransportStart_ok {cb : Option κ} {installed : Bool} {held : List UInt8}
    {driverInstall : Int} {taskCreated : Bool} {w : SerialWorld cfg κ}
    (h : serialTransportStart cfg cb installed held driverInstall taskCreated = .ok w) :
    w.taken = (if installed then held else []) ∧ w.fed = [] ∧
      Follows (tlvStreamInit cfg cb .usbJtag) w := by
  unfold serialTransportStart at h
  split at h
  · cases h
  · split at h
    · cases h
    · cases h
      exact ⟨rfl, rfl, ⟨rfl, rfl, fun _ => rfl⟩⟩

/-- The task of a transport that starts is there. -/
theorem serialTransportStart_task {cb : Option κ} {installed : Bool} {held : List UInt8}
    {driverInstall : Int} {taskCreated : Bool} {w : SerialWorld cfg κ}
    (h : serialTransportStart cfg cb installed held driverInstall taskCreated = .ok w) :
    w.task ≠ .deleted := by
  unfold serialTransportStart at h
  split at h
  · cases h
  · split at h
    · cases h
    · cases h
      exact SerialRxTask.noConfusion

/-- The calls of a stream with a callback are the frames in the fed bytes. -/
theorem Follows.frames {cb : κ} {w : SerialWorld cfg κ}
    (h : Follows (tlvStreamInit cfg (some cb) .usbJtag) w) :
    w.delivered = (outputs (framerStep cfg) [] w.fed).map
      (fun f => { callback := cb, source := .usbJtag, frame := f }) := by
  rw [h.delivered]
  exact (feedByte_run_refines (tlvStreamInit_refines cfg cb .usbJtag) w.fed).1

/-- **The serial task feeds every byte that it is sent, in order, and ends up
asleep.** For any callback, any start and any run: the bytes that arrived are
those fed, the chunk in hand and those buffered; the callback was given the
frames that the parser finds in the fed bytes, whatever the chunks; and unless
the allocation failed and nothing is ever fed, any further calls, two for each
buffered byte and two more, leave the task asleep with everything fed. If the bytes sent are encoded
events in a build with audio, those are then what the callback was given. -/
theorem serial_delivers (cfg : Config) (cb : κ) (installed : Bool) (held : List UInt8)
    (driverInstall : Int) (taskCreated : Bool) (w₀ : SerialWorld cfg κ)
    (hstart : serialTransportStart cfg (some cb) installed held driverInstall taskCreated
      = .ok w₀) (ops : List SerialOp) :
    let w := runSteps serialExec w₀ ops
    let sent := (if installed then held else []) ++ arrivals ops
    let call := fun f : List UInt8 =>
      ({ callback := cb, source := .usbJtag, frame := f } : CallbackCall κ)
    sent = w.fed ++ w.inHand ++ w.buffered ∧
    w.delivered = (outputs (framerStep cfg) [] w.fed).map call ∧
    ∀ answers : List Nat, 2 * w.buffered.length + 2 ≤ answers.length →
      let w' := runSteps serialExec w (answers.map .task)
      (w'.task = .deleted ∧ w'.fed = []) ∨ w'.Idle ∧ w'.fed = sent ∧
        ∀ events : List ProtocolPayload, cfg.appEnableUsbAudio = true →
          (∀ e ∈ events, Sendable cfg e) → sent = (events.map encode).flatten →
            w'.delivered = events.map fun e => call (encodeFrame e) := by
  intro w sent call
  obtain ⟨htaken₀, -, hfollows₀⟩ := serialTransportStart_ok hstart
  have htaken : w.taken = sent := by
    show (runSteps serialExec w₀ ops).taken = _
    rw [taken_run, htaken₀]
  have hfollows : Follows (tlvStreamInit cfg (some cb) .usbJtag) w :=
    runSteps_inv (fun v op hv => hv.exec op) hfollows₀ ops
  refine ⟨htaken.symm, hfollows.frames, fun answers hlen => ?_⟩
  intro w'
  have hfollows' : Follows (tlvStreamInit cfg (some cb) .usbJtag) w' :=
    runSteps_inv (fun v op hv => hv.exec op) hfollows (answers.map .task)
  rcases idle_run hlen with hdeleted | hidle
  · exact Or.inl ⟨hdeleted, hfollows'.unfed (Or.inr hdeleted)⟩
  · have hfed : w'.fed = sent := by
      have hrun := taken_run w (answers.map .task)
      have hnone : arrivals (answers.map .task) = [] := by
        simp [arrivals, List.flatMap_map]
      have hhand : w'.inHand = [] := by
        unfold SerialWorld.inHand
        rw [hidle.1]
      rw [hnone, List.append_nil, htaken] at hrun
      rw [← hrun]
      show w'.fed = w'.fed ++ w'.inHand ++ w'.buffered
      rw [hhand, hidle.2, List.append_nil, List.append_nil]
    refine Or.inr ⟨hidle, hfed, fun events haudio hevents hsent => ?_⟩
    rw [hfollows'.frames, hfed, hsent, framer_encode haudio hevents, List.map_map]
    rfl

/-- A key press, read byte by byte. -/
theorem serial_delivers_press :
    let w₀ : SerialWorld Config.shipped Unit :=
      { buffered := []
        task := .malloc
        stream := tlvStreamInit Config.shipped (some ()) .usbJtag
        fed := []
        delivered := [] }
    let w := runSteps serialExec w₀ [.task 1, .receive (encode pressEvent)]
    (runSteps serialExec w ((List.replicate 28 0).map .task)).delivered
      = [{ callback := (), source := .usbJtag, frame := encodeFrame pressEvent }] := by
  intro w₀ w
  obtain ⟨-, -, h⟩ := serial_delivers Config.shipped () false [] 0 true w₀ rfl
    [.task 1, .receive (encode pressEvent)]
  rcases h (List.replicate 28 0) (by decide) with hdeleted | ⟨-, -, hevents⟩
  · exact absurd hdeleted.1 (by decide)
  · exact hevents [pressEvent] rfl (List.forall_mem_singleton.mpr trivial) rfl

end CaptureKVMBridge.Serial
