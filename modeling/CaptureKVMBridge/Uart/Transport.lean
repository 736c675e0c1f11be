import CaptureKVMBridge.Machine.Gaps
import CaptureKVMBridge.Machine.Run
import CaptureKVMBridge.Tlv.Stream

/-!
# `uart_transport.c`: the task and the driver under it

`uart_rx_task` takes events from one queue and bytes from another buffer, and
the driver adds to both while the task runs. A state is the driver, the point
the task has reached, and the stream it feeds; a step is something on the line
(bytes, an overflow, an error) or one call of the task, so a run is one
interleaving of the two.

Every byte carries its position on the wire, where lost bytes count too, and
every delivered frame carries the bytes it was made from.

Mirroring notes:
- The driver is what the task sees of it: a FIFO of bytes and a queue of
  events, neither of them bounded. An overflow is possible at any time.
- `size_t` has 32 bits.
- The positions, `fed` and `Delivery.origin` are bookkeeping: no code reads
  them. The log lines and the set-up of the port are left out.
-/

namespace CaptureKVMBridge.Uart

open CaptureKVMBridge.Machine CaptureKVMBridge.Tlv

variable {cfg : Config} {κ : Type}

/-! ## The driver -/

/-- A received byte and its position on the wire. -/
structure WireByte where
  pos : Nat
  byte : UInt8
  deriving DecidableEq, Repr

/-- `UART_PARITY_ERR`, `UART_FRAME_ERR`, `UART_BREAK` and the types without a
case of their own. -/
inductive LineEvent where
  | parityErr
  | frameErr
  | brk
  | other
  deriving DecidableEq, Repr

/-- `uart_event_t`. An overflow is marked with the position behind the loss. -/
inductive UartEvent where
  | data (size : UInt32)
  | fifoOvf (gap : Nat)
  | bufferFull (gap : Nat)
  | line (e : LineEvent)
  deriving DecidableEq, Repr

/-- The mark of an overflow event. -/
def UartEvent.gap : UartEvent → Option Nat
  | .fifoOvf gap => some gap
  | .bufferFull gap => some gap
  | .data _ => none
  | .line _ => none

/-- The driver's receive side. -/
structure UartDriver where
  /-- how many bytes have come over the wire, lost ones included -/
  wirePos : Nat
  buffered : List WireByte
  events : List UartEvent

/-- The losses whose events are still in the queue. -/
def UartDriver.gaps (d : UartDriver) : List Nat := d.events.filterMap UartEvent.gap

/-- Bytes with their positions, from `pos` on. -/
def wireBytes : Nat → List UInt8 → List WireByte
  | _, [] => []
  | pos, b :: bs => ⟨pos, b⟩ :: wireBytes (pos + 1) bs

/-- Bytes are received: they go into the FIFO, and their count into the queue. -/
def UartDriver.receive (d : UartDriver) (bs : List UInt8) : UartDriver where
  wirePos := d.wirePos + bs.length
  buffered := d.buffered ++ wireBytes d.wirePos bs
  events := d.events ++ [.data (UInt32.ofNat bs.length)]

/-- Bytes are lost: in the FIFO of the hardware, or because the buffer is full. -/
def UartDriver.overflow (d : UartDriver) (full : Bool) (lost : Nat) : UartDriver :=
  { d with
    wirePos := d.wirePos + lost
    events := d.events ++
      [if full then .bufferFull (d.wirePos + lost) else .fifoOvf (d.wirePos + lost)] }

/-- Something else happens on the line. -/
def UartDriver.signal (d : UartDriver) (e : LineEvent) : UartDriver :=
  { d with events := d.events ++ [.line e] }

/-- `uart_read_bytes(.., n, 0)`: what it returns, and what it leaves. -/
def uartReadBytes (d : UartDriver) (n : Nat) : List WireByte × UartDriver :=
  (d.buffered.take n, { d with buffered := d.buffered.drop n })

/-- `uart_get_buffered_data_len`. -/
def uartGetBufferedDataLen (d : UartDriver) : Nat := d.buffered.length

/-- `uart_flush_input`. -/
def uartFlushInput (d : UartDriver) : UartDriver := { d with buffered := [] }

/-- `xQueueReset`. -/
def xQueueReset (d : UartDriver) : UartDriver := { d with events := [] }

/-! ## The task -/

/-- A frame handed to the callback, and the bytes it was made from: the last
ones that were fed, as many as the frame has. -/
structure Delivery (κ : Type) where
  call : CallbackCall κ
  origin : List WireByte
  deriving DecidableEq, Repr

/-- `tlvStreamFeedByte` on a byte with its position: beside the stream it keeps
what was fed. -/
def tracedFeedByte (s : TlvStream cfg κ × List WireByte) (b : WireByte) :
    (TlvStream cfg κ × List WireByte) × Option (Delivery κ) :=
  let fed := s.2 ++ [b]
  (((tlvStreamFeedByte s.1 b.byte).1, fed),
    (tlvStreamFeedByte s.1 b.byte).2.map fun c =>
      { call := c, origin := fed.drop (fed.length - c.frame.length) })

/-- The call that `uart_rx_task` makes next. -/
inductive RxTask where
  /-- `xQueueReceive` -/
  | receive
  /-- `uart_read_bytes` -/
  | read (remaining : UInt32)
  /-- `tlv_stream_feed` -/
  | feed (remaining : UInt32) (chunk : List WireByte)
  /-- `uart_get_buffered_data_len` -/
  | bufferedLen (remaining : UInt32)
  /-- `uart_flush_input` -/
  | flushInput
  /-- `xQueueReset` -/
  | queueReset
  /-- `tlv_stream_reset` -/
  | streamReset
  deriving DecidableEq, Repr

/-- The driver, the task and the stream `s_stream`. -/
structure UartWorld (cfg : Config) (κ : Type) where
  driver : UartDriver
  task : RxTask
  stream : TlvStream cfg κ
  /-- what was fed since the stream was last reset by the task -/
  fed : List WireByte
  /-- what the callback was given, oldest first -/
  delivered : List (Delivery κ)

/-- `while (remaining > 0)`. -/
def whileRemaining (remaining : UInt32) : RxTask :=
  if remaining > 0 then .read remaining else .receive

/-- `switch (event.type)`. -/
def switchEvent : UartEvent → RxTask
  | .data size => whileRemaining size
  | .fifoOvf _ => .flushInput
  | .bufferFull _ => .flushInput
  | .line _ => .receive

/-- `to_read`: at most the size of `chunk`. -/
def toRead (remaining : UInt32) : Nat := if remaining > 512 then 512 else remaining.toNat

/-- The next call of `uart_rx_task`; `xQueueReceive` on an empty queue blocks. -/
def uartRxTask (w : UartWorld cfg κ) : UartWorld cfg κ :=
  match w.task with
  | .receive =>
    match w.driver.events with
    | [] => w
    | e :: events =>
      { w with driver := { w.driver with events := events }, task := switchEvent e }
  | .read remaining =>
    let r := uartReadBytes w.driver (toRead remaining)
    if r.1.length = 0 then { w with driver := r.2, task := .receive }
    else { w with driver := r.2, task := .feed remaining r.1 }
  | .feed remaining chunk =>
    { w with
      task := .bufferedLen (remaining - UInt32.ofNat chunk.length)
      stream := (tlvStreamFeed w.stream (chunk.map WireByte.byte)).1
      fed := w.fed ++ chunk
      delivered := w.delivered ++ outputs tracedFeedByte (w.stream, w.fed) chunk }
  | .bufferedLen remaining =>
    let buffered := uartGetBufferedDataLen w.driver
    { w with
      task := whileRemaining
        (if buffered > 0 then remaining + UInt32.ofNat buffered else remaining) }
  | .flushInput => { w with driver := uartFlushInput w.driver, task := .queueReset }
  | .queueReset => { w with driver := xQueueReset w.driver, task := .streamReset }
  | .streamReset => { w with stream := tlvStreamReset w.stream, fed := [], task := .receive }

/-! ## Runs -/

/-- One step: something on the line, or a call of the task. -/
inductive UartOp where
  | receive (bs : List UInt8)
  | overflow (full : Bool) (lost : Nat) (hlost : 0 < lost)
  | signal (e : LineEvent)
  | task
  deriving DecidableEq

/-- A step of the system. -/
def uartExec (w : UartWorld cfg κ) : UartOp → UartWorld cfg κ
  | .receive bs => { w with driver := w.driver.receive bs }
  | .overflow full lost _ => { w with driver := w.driver.overflow full lost }
  | .signal e => { w with driver := w.driver.signal e }
  | .task => uartRxTask w

/-- After `uart_transport_start(cb)`, which refuses a null callback: the stream
is fresh, the input flushed, the task about to wait. -/
def uartTransportStart (cfg : Config) (cb : κ) : UartWorld cfg κ where
  driver := { wirePos := 0, buffered := [], events := [] }
  task := .receive
  stream := tlvStreamInit cfg (some cb) .uart
  fed := []
  delivered := []

/-! ## The small lemmas -/

@[simp] theorem wireBytes_byte (pos : Nat) (bs : List UInt8) :
    (wireBytes pos bs).map WireByte.byte = bs := by
  induction bs generalizing pos with
  | nil => rfl
  | cons b bs ih => exact congrArg (b :: ·) (ih (pos + 1))

@[simp] theorem wireBytes_pos (pos : Nat) (bs : List UInt8) :
    (wireBytes pos bs).map WireByte.pos = List.range' pos bs.length := by
  induction bs generalizing pos with
  | nil => rfl
  | cons b bs ih => exact congrArg (pos :: ·) (ih (pos + 1))

@[simp] theorem gaps_receive (d : UartDriver) (bs : List UInt8) : (d.receive bs).gaps = d.gaps := by
  unfold UartDriver.gaps UartDriver.receive
  rw [List.filterMap_append]
  exact List.append_nil _

@[simp] theorem gaps_overflow (d : UartDriver) (full : Bool) (lost : Nat) :
    (d.overflow full lost).gaps = d.gaps ++ [d.wirePos + lost] := by
  unfold UartDriver.gaps UartDriver.overflow
  rw [List.filterMap_append]
  cases full <;> rfl

@[simp] theorem gaps_signal (d : UartDriver) (e : LineEvent) : (d.signal e).gaps = d.gaps := by
  unfold UartDriver.gaps UartDriver.signal
  rw [List.filterMap_append]
  exact List.append_nil _

/-- The trace follows the stream. -/
theorem traced_final (s : TlvStream cfg κ) (fed chunk : List WireByte) :
    final tracedFeedByte (s, fed) chunk
      = ((tlvStreamFeed s (chunk.map WireByte.byte)).1, fed ++ chunk) := by
  rw [tlvStreamFeed_eq]
  induction chunk generalizing s fed with
  | nil => rw [List.append_nil]; rfl
  | cons b chunk ih =>
    rw [final_cons]
    refine (ih _ _).trans ?_
    rw [List.append_assoc]
    rfl

/-- **What is logged is what `tlv_stream_feed` calls back with.** -/
theorem traced_calls (s : TlvStream cfg κ) (fed chunk : List WireByte) :
    (outputs tracedFeedByte (s, fed) chunk).map Delivery.call
      = (tlvStreamFeed s (chunk.map WireByte.byte)).2 := by
  rw [tlvStreamFeed_eq]
  induction chunk generalizing s fed with
  | nil => rfl
  | cons b chunk ih =>
    rw [outputs_cons, List.map_append]
    refine congrArg₂ (· ++ ·) ?_ (ih _ _)
    show ((tlvStreamFeedByte s b.byte).2.map _).toList.map Delivery.call = _
    cases (tlvStreamFeedByte s b.byte).2 <;> rfl

end CaptureKVMBridge.Uart
