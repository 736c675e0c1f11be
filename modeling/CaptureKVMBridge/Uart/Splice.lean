import CaptureKVMBridge.Tlv.Refine
import CaptureKVMBridge.Uart.Transport

/-!
# Frames and losses

A frame delivered by the UART stream should consist of bytes that followed one
another on the wire. The task resets the stream when it meets an overflow
event; but the event waits in the queue while the bytes behind the loss are
already in the buffer, and the `UART_DATA` branch reads on past the count of
its own event as long as anything is buffered.

`frames_consecutive` says what is enough: no read takes a byte from behind a
loss whose event still waits, and no `xQueueReset` throws such an event away
while a byte from before the loss is buffered. `frame_spliced` is a run in which
a read does, and a frame made of two halves is delivered.

The invariant is `Intact`: what the parser has been given since its last reset
is consecutive, and what is still buffered continues it but for the losses
whose events wait.
-/

namespace CaptureKVMBridge.Uart

open CaptureKVMBridge.Machine CaptureKVMBridge.Tlv

variable {cfg : Config} {κ : Type}

/-! ## The parser's side -/

/-- What the stream holds is the end of what it was fed. -/
def Traces (cb : κ) (s : TlvStream cfg κ × List WireByte) : Prop :=
  ∃ held, Refines cb .uart s.1 held ∧ held <:+ s.2.map WireByte.byte

/-- The delivered frame is what its bytes say, and they are a stretch of `fed`. -/
def CutFrom (fed : List WireByte) (d : Delivery κ) : Prop :=
  d.call.frame = d.origin.map WireByte.byte ∧ d.origin <:+: fed

/-- One byte keeps the trace, and what it completes is cut from it. -/
theorem Traces.step {cb : κ} {s : TlvStream cfg κ × List WireByte} (h : Traces cb s)
    (b : WireByte) :
    Traces cb (tracedFeedByte s b).1 ∧
    ∀ d ∈ (tracedFeedByte s b).2, CutFrom (s.2 ++ [b]) d := by
  obtain ⟨held, hR, hsuf⟩ := h
  obtain ⟨hcalls, hR'⟩ := tlvStreamFeedByte_refines cb .uart s.1 held b.byte hR
  have hread : held ++ [b.byte] <:+ (s.2 ++ [b]).map WireByte.byte := by
    rw [List.map_append]
    exact List.suffix_append_self_iff.mpr hsuf
  refine ⟨⟨_, hR', (framerStep_suffix hR.1.held b.byte).trans hread⟩, fun d hd => ?_⟩
  rcases framerStep_cases hR.1.held b.byte with ⟨hnone, -, -⟩ | ⟨f, hf, hwire, -⟩
  · have hsilent : (tracedFeedByte s b).2 = none := by
      simp only [tracedFeedByte, hcalls, framerCalls, hnone, Option.map_none]
    rw [hsilent] at hd
    cases hd
  · simp only [tracedFeedByte, hcalls, framerCalls, hf, Option.map_some, Option.mem_def,
      Option.some.injEq] at hd
    subst hd
    refine ⟨?_, (List.drop_suffix _ _).isInfix⟩
    -- the frame is the end of its wire form, and that is the end of what was fed
    have hend : f <:+ (s.2 ++ [b]).map WireByte.byte :=
      List.IsSuffix.trans ⟨[protocolTlvSync0, protocolTlvSync1], hwire.symm⟩ hread
    have hdrop := List.suffix_iff_eq_drop.mp hend
    rw [List.length_map] at hdrop
    rw [List.map_drop]
    exact hdrop

/-- A chunk keeps the trace, and what it completes is cut from it. -/
theorem Traces.run {cb : κ} (chunk : List WireByte) :
    ∀ {s : TlvStream cfg κ × List WireByte}, Traces cb s →
      Traces cb (final tracedFeedByte s chunk) ∧
      ∀ d ∈ outputs tracedFeedByte s chunk, CutFrom (s.2 ++ chunk) d := by
  induction chunk with
  | nil => intro s h; exact ⟨h, fun d hd => absurd hd (List.not_mem_nil)⟩
  | cons b chunk ih =>
    intro s h
    obtain ⟨hnext, hout⟩ := h.step b
    obtain ⟨hfinal, houts⟩ := ih hnext
    refine ⟨hfinal, fun d hd => ?_⟩
    rw [List.append_cons]
    rw [outputs_cons] at hd
    rcases List.mem_append.mp hd with hd | hd
    · obtain ⟨hframe, hcut⟩ := hout d (Option.mem_toList.mp hd)
      exact ⟨hframe, hcut.trans (List.infix_append' [] _ _)⟩
    · exact houts d hd

/-! ## The condition -/

/-- The bytes that the next call of the task takes out of the buffer. -/
def UartWorld.popped (w : UartWorld cfg κ) : List WireByte :=
  match w.task with
  | .read remaining => (uartReadBytes w.driver (toRead remaining)).1
  | _ => []

/-- The step does not read past a loss whose event waits, and does not reset the
queue while such an event has bytes from before its loss in the buffer. -/
def HeedsOverflow (w : UartWorld cfg κ) (op : UartOp) : Prop :=
  op = .task →
    (∀ b ∈ w.popped, ∀ g ∈ w.driver.gaps, b.pos < g) ∧
    (w.task = .queueReset → ∀ b ∈ w.driver.buffered, ∀ g ∈ w.driver.gaps, g ≤ b.pos)

instance (w : UartWorld cfg κ) (op : UartOp) : Decidable (HeedsOverflow w op) :=
  inferInstanceAs (Decidable (_ → _ ∧ (_ → _)))

/-! ## The invariant -/

/-- What the parser has been given since its last reset, or is about to be. -/
def UartWorld.handed (w : UartWorld cfg κ) : List WireByte :=
  match w.task with
  | .receive | .read _ | .bufferedLen _ => w.fed
  | .feed _ chunk => w.fed ++ chunk
  | .flushInput | .queueReset | .streamReset => []

/-- The delivered frame is a consecutive stretch of the wire. -/
def Whole (d : Delivery κ) : Prop :=
  d.call.frame = d.origin.map WireByte.byte ∧ Consecutive (d.origin.map WireByte.pos)

/-- Nothing has been joined across a loss, and nothing can be before the
waiting overflow events are met. -/
structure Intact (cb : κ) (w : UartWorld cfg κ) : Prop where
  traces : Traces cb (w.stream, w.fed)
  joined : Consecutive (w.handed.map WireByte.pos)
  linked : w.task ≠ .flushInput →
    Accounted w.driver.gaps (w.handed.map WireByte.pos ++ w.driver.buffered.map WireByte.pos)
      w.driver.wirePos
  whole : ∀ d ∈ w.delivered, Whole d

theorem intact_start (cfg : Config) (cb : κ) : Intact cb (uartTransportStart cfg cb) where
  traces := ⟨[], tlvStreamInit_refines cfg cb .uart, List.nil_suffix⟩
  joined := List.isChain_nil
  linked _ := .nil
  whole _ hd := absurd hd List.not_mem_nil

/-- What happens on the line is accounted for. -/
theorem Intact.receive {cb : κ} {w : UartWorld cfg κ} (h : Intact cb w) (bs : List UInt8) :
    Intact cb (uartExec w (.receive bs)) where
  traces := h.traces
  joined := h.joined
  linked hne := by
    have hacc := (h.linked hne).receive bs.length
    rw [List.append_assoc, ← wireBytes_pos, ← List.map_append] at hacc
    show Accounted (w.driver.receive bs).gaps _ _
    rw [gaps_receive]
    exact hacc
  whole := h.whole

theorem Intact.overflow {cb : κ} {w : UartWorld cfg κ} (h : Intact cb w) (full : Bool)
    (lost : Nat) (hlost : 0 < lost) : Intact cb (uartExec w (.overflow full lost hlost)) where
  traces := h.traces
  joined := h.joined
  linked hne := by
    show Accounted (w.driver.overflow full lost).gaps _ _
    rw [gaps_overflow]
    exact (h.linked hne).lose lost
  whole := h.whole

theorem Intact.signal {cb : κ} {w : UartWorld cfg κ} (h : Intact cb w) (e : LineEvent) :
    Intact cb (uartExec w (.signal e)) where
  traces := h.traces
  joined := h.joined
  linked hne := by
    show Accounted (w.driver.signal e).gaps _ _
    rw [gaps_signal]
    exact h.linked hne
  whole := h.whole

/-! ## The task -/

/-- At the head of the read loop nothing is in hand. -/
theorem handed_whileRemaining (w : UartWorld cfg κ) (remaining : UInt32) :
    ({ w with task := whileRemaining remaining } : UartWorld cfg κ).handed = w.fed := by
  unfold UartWorld.handed whileRemaining
  by_cases hpos : remaining > 0
  · simp only [if_pos hpos]
  · simp only [if_neg hpos]

/-- What is read continues what was fed, if every waiting loss lies behind it. -/
theorem Intact.read {cb : κ} {w : UartWorld cfg κ} (h : Intact cb w) {remaining : UInt32}
    (htask : w.task = .read remaining)
    (hread : ∀ b ∈ w.popped, ∀ g ∈ w.driver.gaps, b.pos < g) : Intact cb (uartExec w .task) := by
  obtain ⟨driver, task, stream, fed, delivered⟩ := w
  obtain rfl : task = .read remaining := htask
  obtain ⟨htraces, hjoined, hlinked, hwhole⟩ := h
  have hacc : Accounted driver.gaps (fed.map WireByte.pos ++
      ((driver.buffered.take (toRead remaining)).map WireByte.pos ++
        (driver.buffered.drop (toRead remaining)).map WireByte.pos)) driver.wirePos := by
    rw [← List.map_append, List.take_append_drop]
    exact hlinked nofun
  show Intact cb (if (driver.buffered.take (toRead remaining)).length = 0 then _ else _)
  split
  · next hempty =>
    -- nothing was buffered: the read loop ends
    refine ⟨htraces, hjoined, fun _ => ?_, hwhole⟩
    rw [List.length_eq_zero_iff.mp hempty] at hacc
    exact hacc
  · refine ⟨htraces, ?_, fun _ => ?_, hwhole⟩
    · show Consecutive ((fed ++ driver.buffered.take (toRead remaining)).map WireByte.pos)
      rw [List.map_append]
      refine hacc.consecutive_append hjoined fun q hq g hg => ?_
      obtain ⟨b, hb, rfl⟩ := List.mem_map.mp hq
      exact hread b hb g hg
    · show Accounted driver.gaps ((fed ++ driver.buffered.take (toRead remaining)).map
        WireByte.pos ++ (driver.buffered.drop (toRead remaining)).map WireByte.pos) driver.wirePos
      rw [List.map_append, List.append_assoc]
      exact hacc

/-- What the parser completes is cut from what it was handed. -/
theorem Intact.feed {cb : κ} {w : UartWorld cfg κ} (h : Intact cb w) {remaining : UInt32}
    {chunk : List WireByte} (htask : w.task = .feed remaining chunk) :
    Intact cb (uartExec w .task) := by
  obtain ⟨driver, task, stream, fed, delivered⟩ := w
  obtain rfl : task = .feed remaining chunk := htask
  obtain ⟨htraces, hjoined, hlinked, hwhole⟩ := h
  obtain ⟨hfinal, hcut⟩ := htraces.run chunk
  rw [traced_final] at hfinal
  refine ⟨hfinal, hjoined, fun _ => hlinked nofun, fun d hd => ?_⟩
  rcases List.mem_append.mp hd with hd | hd
  · exact hwhole d hd
  · obtain ⟨hframe, horigin⟩ := hcut d hd
    exact ⟨hframe, hjoined.infix (horigin.map WireByte.pos)⟩

/-- An event is taken: a count opens the read loop, an overflow gives up what
the parser was fed. -/
theorem Intact.dispatch {cb : κ} {w : UartWorld cfg κ} (h : Intact cb w)
    (htask : w.task = .receive) : Intact cb (uartExec w .task) := by
  obtain ⟨⟨wirePos, buffered, events⟩, task, stream, fed, delivered⟩ := w
  obtain rfl : task = .receive := htask
  obtain ⟨htraces, hjoined, hlinked, hwhole⟩ := h
  have hfed := hlinked nofun
  cases events with
  | nil => exact ⟨htraces, hjoined, fun _ => hfed, hwhole⟩
  | cons e events =>
    cases e with
    | data size =>
      have hhanded := handed_whileRemaining
        ⟨⟨wirePos, buffered, events⟩, .receive, stream, fed, delivered⟩ size
      exact ⟨htraces, hhanded.symm ▸ hjoined, fun _ => hhanded.symm ▸ hfed, hwhole⟩
    | fifoOvf gap => exact ⟨htraces, List.isChain_nil, fun hne => absurd rfl hne, hwhole⟩
    | bufferFull gap => exact ⟨htraces, List.isChain_nil, fun hne => absurd rfl hne, hwhole⟩
    | line e => exact ⟨htraces, hjoined, fun _ => hfed, hwhole⟩

/-- The overflow branch ends with a fresh parser. -/
theorem Intact.reset {cb : κ} {w : UartWorld cfg κ} (h : Intact cb w)
    (htask : w.task = .streamReset) : Intact cb (uartExec w .task) := by
  obtain ⟨driver, task, stream, fed, delivered⟩ := w
  obtain rfl : task = .streamReset := htask
  obtain ⟨held, ⟨-, hcb, hsrc⟩, -⟩ := h.traces
  exact ⟨⟨[], hsrc ▸ tlvStreamReset_refines hcb, List.nil_suffix⟩, List.isChain_nil,
    fun _ => h.linked nofun, h.whole⟩

/-- **One call of the task keeps the invariant**, if it heeds the losses. -/
theorem Intact.task {cb : κ} {w : UartWorld cfg κ} (h : Intact cb w)
    (hop : HeedsOverflow w .task) : Intact cb (uartExec w .task) := by
  obtain ⟨hread, hreset⟩ := hop rfl
  obtain ⟨driver, task, stream, fed, delivered⟩ := w
  cases task with
  | receive => exact h.dispatch rfl
  | read remaining => exact h.read rfl hread
  | feed remaining chunk => exact h.feed rfl
  | bufferedLen remaining =>
    have hhanded := handed_whileRemaining ⟨driver, .receive, stream, fed, delivered⟩
      (if driver.buffered.length > 0 then remaining + UInt32.ofNat driver.buffered.length
        else remaining)
    exact ⟨h.traces, hhanded.symm ▸ h.joined, fun _ => hhanded.symm ▸ h.linked nofun, h.whole⟩
  | flushInput => exact ⟨h.traces, List.isChain_nil, fun _ => .nil, h.whole⟩
  | queueReset =>
    -- the events go, so the buffer has to do without their marks
    have hacc : Accounted driver.gaps (driver.buffered.map WireByte.pos) driver.wirePos :=
      h.linked nofun
    refine ⟨h.traces, List.isChain_nil, fun _ => hacc.settle fun p hp g hg => ?_, h.whole⟩
    obtain ⟨b, hb, rfl⟩ := List.mem_map.mp hp
    exact hreset rfl b hb g hg
  | streamReset => exact h.reset rfl

/-- One step keeps the invariant, if it heeds the losses. -/
theorem Intact.exec {cb : κ} {w : UartWorld cfg κ} (h : Intact cb w) {op : UartOp}
    (hop : HeedsOverflow w op) : Intact cb (uartExec w op) := by
  cases op with
  | receive bs => exact h.receive bs
  | overflow full lost hlost => exact h.overflow full lost hlost
  | signal e => exact h.signal e
  | task => exact h.task hop

/-! ## Runs -/

/-- **No delivered frame spans a loss**, in any state of a run whose steps heed
the losses: its bytes are the bytes of consecutive positions on the wire. -/
theorem frames_consecutive (cfg : Config) (cb : κ) {ops : List UartOp}
    (hsteps : AllSteps uartExec HeedsOverflow (uartTransportStart cfg cb) ops) :
    ∀ pre, pre <+: ops →
      ∀ d ∈ (runSteps uartExec (uartTransportStart cfg cb) pre).delivered,
        d.call.frame = d.origin.map WireByte.byte ∧ Consecutive (d.origin.map WireByte.pos) := by
  intro pre hpre
  have hintact : Intact cb (runSteps uartExec (uartTransportStart cfg cb) pre) :=
    AllSteps.inv (I := Intact cb) (fun w op h hop => h.exec hop) (intact_start cfg cb)
      (hsteps.of_prefix hpre)
  exact hintact.whole

/-- The head of a keyboard frame: all but its last four bytes. -/
def keyFrameHead : List UInt8 := [0xD5, 0xAA, 0x01, 0x00, 0x08, 0x02, 0x00, 0x04, 0x00]

/-- Half a frame, a loss, and a whole frame: the task meets the overflow event
in between, and the whole frame is delivered. -/
theorem frames_consecutive_overflow :
    let ops : List UartOp :=
      [.receive keyFrameHead, .task, .task, .task, .task, .overflow false 4 (by decide),
        .task, .task, .task, .task, .receive (keyFrameHead ++ [0, 0, 0, 0]), .task, .task, .task]
    let w := runSteps uartExec (uartTransportStart Config.minimal ()) ops
    w.delivered.map (fun d => d.call.frame) = [[1, 0, 8, 2, 0, 4, 0, 0, 0, 0, 0]] ∧
    ∀ d ∈ w.delivered,
      d.call.frame = d.origin.map WireByte.byte ∧ Consecutive (d.origin.map WireByte.pos) := by
  intro ops w
  refine ⟨by decide, frames_consecutive Config.minimal () ?_ ops List.prefix_rfl⟩
  decide

/-- **A frame made of two halves.** Five bytes are lost in the middle of a
keyboard frame. The bytes behind them are buffered before the task reads the
count of the bytes in front, so the read loop goes on to them. -/
theorem frame_spliced :
    let ops : List UartOp :=
      [.receive keyFrameHead, .overflow false 5 (by decide), .receive [5, 6, 7, 8],
        .task, .task, .task, .task, .task, .task]
    let w := runSteps uartExec (uartTransportStart Config.minimal ()) ops
    w.delivered.map (fun d => (d.call.frame, d.origin.map WireByte.pos))
      = [([1, 0, 8, 2, 0, 4, 0, 5, 6, 7, 8], [2, 3, 4, 5, 6, 7, 8, 14, 15, 16, 17])] ∧
    ¬∀ d ∈ w.delivered, Consecutive (d.origin.map WireByte.pos) := by
  decide

end CaptureKVMBridge.Uart
