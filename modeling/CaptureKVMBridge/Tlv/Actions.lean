import CaptureKVMBridge.Machine.Run
import CaptureKVMBridge.Tlv.Stream

/-!
# `tlv_stream_feed`, one statement at a time

`tlvStreamFeedByte` says what a byte does to the stream. `feedActions` says how:
the statements of the loop body that are executed for the byte, with the index
of every write to `frame` and the value of every assignment to a 16-bit counter
as it is before it is stored. `feedActions_run`: executing them one after the
other is `tlvStreamFeedByte`, for every stream and byte, so none is left out.

`FeedAction.Safe` is what C asks of such a statement, and what the code counts
on. It is not true of every stream; `Invariant` shows it for those that
can be reached.

Mirroring notes:
- `received`, `expected` and `byte` are promoted to `int` before they are added
  or shifted, hence the `Nat` of an assignment; storing it takes it modulo 2^16.
- `enterDefault` and `enterZeroLength` mark two places in the code and do nothing.
- The warning counters are `uint32_t` and may wrap.
-/

namespace CaptureKVMBridge.Tlv

open CaptureKVMBridge.Machine

variable {cfg : Config} {κ : Type}

/-- A statement of the loop body, with its operands evaluated. -/
inductive FeedAction where
  /-- `stream->state = state` -/
  | state (state : UInt8)
  /-- `stream->type = type` -/
  | type (type : UInt8)
  /-- `stream->expected = value` -/
  | expected (value : Nat)
  /-- `stream->received = value` -/
  | received (value : Nat)
  /-- `stream->frame[index] = byte` -/
  | frame (index : Nat) (byte : UInt8)
  /-- `stream->invalid_type_counter = value` -/
  | invalidTypeCounter (value : UInt32)
  /-- `stream->invalid_length_counter = value` -/
  | invalidLengthCounter (value : UInt32)
  /-- `if (stream->callback) stream->callback(stream->source, stream->frame, length)` -/
  | call (length : Nat)
  /-- `tlv_stream_reset(stream)` -/
  | reset
  /-- the `default` label of the `switch` -/
  | enterDefault
  /-- the branch of `stream->expected == 0` -/
  | enterZeroLength
  deriving DecidableEq, Repr

/-- Execute a statement. -/
def FeedAction.exec (r : TlvStream cfg κ × Option (CallbackCall κ)) :
    FeedAction → TlvStream cfg κ × Option (CallbackCall κ)
  | .state st => ({ r.1 with state := st }, r.2)
  | .type t => ({ r.1 with type := t }, r.2)
  | .expected n => ({ r.1 with expected := UInt16.ofNat n }, r.2)
  | .received n => ({ r.1 with received := UInt16.ofNat n }, r.2)
  | .frame i b => (r.1.write i b, r.2)
  | .invalidTypeCounter n => ({ r.1 with invalidTypeCounter := n }, r.2)
  | .invalidLengthCounter n => ({ r.1 with invalidLengthCounter := n }, r.2)
  | .call n => (r.1, r.1.call n)
  | .reset => (tlvStreamReset r.1, r.2)
  | .enterDefault => r
  | .enterZeroLength => r

/-- The statements that the body of the loop of `tlv_stream_feed` executes. -/
def feedActions (s : TlvStream cfg κ) (byte : UInt8) : List FeedAction :=
  if s.state = tlvStateSync0 then
    if byte = protocolTlvSync0 then [.state tlvStateSync1] else []
  else if s.state = tlvStateSync1 then
    if byte = protocolTlvSync1 then [.state tlvStateType]
    else if byte = protocolTlvSync0 then [.state tlvStateSync1]
    else [.state tlvStateSync0]
  else if s.state = tlvStateType then
    if protocolTlvTypeIsValid byte = false then
      .invalidTypeCounter (s.invalidTypeCounter + 1) ::
        (if byte = protocolTlvSync0 then [.state tlvStateSync1] else [.state tlvStateSync0])
    else [.invalidTypeCounter 0, .type byte, .frame 0 byte, .state tlvStateLenMsb]
  else if s.state = tlvStateLenMsb then
    [.expected (byte.toNat <<< 8), .frame 1 byte, .state tlvStateLenLsb]
  else if s.state = tlvStateLenLsb then
    let expected := s.expected ||| byte.toUInt16
    .expected (s.expected.toNat ||| byte.toNat) :: .frame 2 byte ::
      match tlvLengthIsSane cfg s.type expected with
      | .error _ => [.invalidLengthCounter (s.invalidLengthCounter + 1), .reset]
      | .ok () =>
        .invalidLengthCounter 0 ::
          if expected = 0 then [.enterZeroLength, .call 3, .reset]
          else [.received 0, .state tlvStatePayload]
  else if s.state = tlvStatePayload then
    .frame (3 + s.received.toNat) byte :: .received (s.received.toNat + 1) ::
      if s.received + 1 ≥ s.expected then [.call (3 + s.expected.toNat), .reset] else []
  else [.enterDefault, .reset]

/-! ## The statements are the step -/

/-- `((uint16_t)byte) << 8` fits into 16 bits. -/
theorem ofNat_shiftLeft (byte : UInt8) : UInt16.ofNat (byte.toNat <<< 8) = byte.toUInt16 <<< 8 := by
  apply UInt16.toNat.inj
  rw [UInt16.toNat_ofNat', UInt16.toNat_shiftLeft, UInt8.toNat_toUInt16]
  rfl

theorem ofNat_or (n : UInt16) (byte : UInt8) :
    UInt16.ofNat (n.toNat ||| byte.toNat) = n ||| byte.toUInt16 := by
  have hbyte : byte.toNat < 2 ^ 16 := Nat.lt_trans byte.toNat_lt (by decide)
  apply UInt16.toNat.inj
  rw [UInt16.toNat_ofNat', Nat.mod_eq_of_lt (Nat.or_lt_two_pow n.toNat_lt hbyte), UInt16.toNat_or,
    UInt8.toNat_toUInt16]

/-- `received++`, modulo 2^16. -/
theorem ofNat_succ (n : UInt16) : UInt16.ofNat (n.toNat + 1) = n + 1 := by
  apply UInt16.toNat.inj
  rw [UInt16.toNat_ofNat', UInt16.toNat_add]
  rfl

/-- **The statements, executed in order, are the step.** -/
theorem feedActions_run (s : TlvStream cfg κ) (byte : UInt8) :
    runSteps FeedAction.exec (s, none) (feedActions s byte) = tlvStreamFeedByte s byte := by
  unfold feedActions tlvStreamFeedByte
  split
  · split <;> rfl
  split
  · split
    · rfl
    · split <;> rfl
  split
  · split
    · split <;> rfl
    · rfl
  split
  -- the statements compute in `Nat`; the step in 16 bits
  · rw [← ofNat_shiftLeft]
    rfl
  split
  · dsimp only [TlvStream.write]
    rw [runSteps_cons, FeedAction.exec, ofNat_or]
    cases tlvLengthIsSane cfg s.type (s.expected ||| byte.toUInt16) with
    | error _ => rfl
    | ok u =>
      dsimp only
      split <;> rfl
  split
  · rw [runSteps_cons, runSteps_cons, FeedAction.exec, FeedAction.exec, ofNat_succ]
    dsimp only [TlvStream.write]
    split <;> rfl
  · rfl

/-! ## What is asked of a statement -/

/-- A write is inside `frame`, and so is what the callback is given to read; a
counter gets the value that is assigned to it; and neither the `default` label
nor the branch of the zero length is entered. -/
def FeedAction.Safe (cfg : Config) : FeedAction → Prop
  | .frame i _ => i < cfg.appTlvMaxPayload + 3
  | .expected n => n < 2 ^ 16
  | .received n => n < 2 ^ 16
  | .call n => n ≤ cfg.appTlvMaxPayload + 3
  | .enterDefault => False
  | .enterZeroLength => False
  | .state _ => True
  | .type _ => True
  | .invalidTypeCounter _ => True
  | .invalidLengthCounter _ => True
  | .reset => True

/-- A stream that no run reaches writes behind a `frame` of 67 bytes. -/
example : FeedAction.frame 67 0 ∈ feedActions
    { tlvStreamInit Config.minimal (none : Option Unit) .uart with
      state := tlvStatePayload
      received := 64 } 0 := by decide

end CaptureKVMBridge.Tlv
