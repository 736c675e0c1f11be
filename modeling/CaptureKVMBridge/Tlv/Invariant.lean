import CaptureKVMBridge.Tlv.Actions
import CaptureKVMBridge.Tlv.Refine

/-!
# The representation invariant of `tlv_stream_t`

`Represents s fed` says what the fields of a stream mean that has been fed
`fed`: in each parser state, those that the next bytes will be read against. Of
the others nothing is said; `tlv_stream_reset`, for one, leaves the `type` of the
frame before where it was, and not every way back to `SYNC0` goes through it.

The invariant is not carried from byte to byte itself. What is carried is that
the stream holds a suffix of the bytes it was fed (`Current`), by the step lemma
of the refinement; in every such stream the fields are as they should be
(`Current.represents`), and so are the statements that the next byte executes
(`Represents.safe`). `tlvStream_represents` is the invariant of every run, and
the safety of every byte in it.
-/

namespace CaptureKVMBridge.Tlv

open CaptureKVMBridge.Machine

variable {cfg : Config} {κ κ' : Type}

/-! ## Runs -/

/-- A call on the stream. -/
inductive StreamOp where
  | reset
  | feed (data : List UInt8)

/-- The stream after the call. -/
def streamExec (s : TlvStream cfg κ) : StreamOp → TlvStream cfg κ
  | .reset => tlvStreamReset s
  | .feed data => (tlvStreamFeed s data).1

/-- The bytes that the calls feed. -/
def fedBytes : List StreamOp → List UInt8
  | [] => []
  | .reset :: ops => fedBytes ops
  | .feed data :: ops => data ++ fedBytes ops

/-! ## The invariant -/

/-- What the fields of a stream mean that has been fed `fed`. -/
structure Represents (s : TlvStream cfg κ) (fed : List UInt8) : Prop where
  /-- there are six states -/
  state : s.state ∈ [tlvStateSync0, tlvStateSync1, tlvStateType, tlvStateLenMsb, tlvStateLenLsb,
    tlvStatePayload]
  /-- from `LEN_MSB` on there is a type -/
  type : tlvStateLenMsb ≤ s.state →
    protocolTlvTypeIsValid s.type = true ∧ s.frame[0] = s.type
  /-- in `LEN_LSB` there is half a length -/
  lenLsb : s.state = tlvStateLenLsb → s.expected.toNat = s.frame[1].toNat * 256
  /-- in `PAYLOAD` there is a length, and it is one that the type may have -/
  expected : s.state = tlvStatePayload →
    s.expected.toNat = s.frame[1].toNat * 256 + s.frame[2].toNat ∧ LengthSane cfg s.type s.expected
  /-- the payload is not complete, and will fit -/
  received : s.state = tlvStatePayload →
    s.received.toNat < s.expected.toNat ∧ s.expected.toNat ≤ cfg.appTlvMaxPayload
  /-- what there is of it are the last bytes fed -/
  payload : s.state = tlvStatePayload →
    s.received.toNat ≤ fed.length ∧
      (s.frame.toList.drop 3).take s.received.toNat = fed.drop (fed.length - s.received.toNat)

/-- The stream holds a suffix of the bytes it was fed. -/
def Current (s : TlvStream cfg κ) (fed : List UInt8) : Prop := ∃ held, Holds s held ∧ held <:+ fed

/-! ## What a stream holds, without its callback -/

/-- The stream with another callback, or none. -/
def TlvStream.withCallback (s : TlvStream cfg κ) (cb : Option κ') : TlvStream cfg κ' where
  state := s.state
  type := s.type
  expected := s.expected
  received := s.received
  frame := s.frame
  callback := cb
  source := s.source
  invalidTypeCounter := s.invalidTypeCounter
  invalidLengthCounter := s.invalidLengthCounter

/-- A statement does the same to a stream with another callback. -/
theorem exec_withCallback (cb : Option κ') (r : TlvStream cfg κ × Option (CallbackCall κ))
    (r' : TlvStream cfg κ' × Option (CallbackCall κ')) (a : FeedAction)
    (h : r'.1 = r.1.withCallback cb) : (a.exec r').1 = (a.exec r).1.withCallback cb := by
  obtain ⟨s', out'⟩ := r'
  obtain rfl : s' = r.1.withCallback cb := h
  cases a <;> rfl

/-- **The parser does not look at the callback**: the statements are the same,
and do the same. -/
theorem feedByte_withCallback (s : TlvStream cfg κ) (cb : Option κ') (byte : UInt8) :
    (tlvStreamFeedByte (s.withCallback cb) byte).1
      = (tlvStreamFeedByte s byte).1.withCallback cb := by
  have hactions : feedActions (s.withCallback cb) byte = feedActions s byte := rfl
  rw [← feedActions_run, ← feedActions_run, hactions]
  exact runSteps_related (s := (s, none)) (t := (s.withCallback cb, none))
    (R := fun (r : TlvStream cfg κ × Option (CallbackCall κ))
      (r' : TlvStream cfg κ' × Option (CallbackCall κ')) => r'.1 = r.1.withCallback cb)
    (exec_withCallback cb) rfl (feedActions s byte)

theorem Holds.withCallback {s : TlvStream cfg κ} {held : List UInt8} (h : Holds s held)
    (cb : Option κ') : Holds (s.withCallback cb) held := by
  cases h with
  | sync0 hst => exact .sync0 hst
  | sync1 hst => exact .sync1 hst
  | type hst => exact .type hst
  | lenMsb hst ht hfr => exact .lenMsb (s := s.withCallback cb) hst ht hfr
  | lenLsb hst ht hexp hfr => exact .lenLsb (s := s.withCallback cb) hst ht hexp hfr
  | payload hst ht hexp hsane hrec hlt hfr =>
    exact .payload (s := s.withCallback cb) hst ht hexp hsane hrec hlt hfr

/-- A byte takes what the stream holds where it takes what the framer holds. -/
theorem holds_feedByte {s : TlvStream cfg κ} {held : List UInt8} (h : Holds s held) (byte : UInt8) :
    Holds (tlvStreamFeedByte s byte).1 (framerStep cfg held byte).1 := by
  have hrefines : Refines () s.source (s.withCallback (some ())) held :=
    ⟨h.withCallback (some ()), rfl, rfl⟩
  obtain ⟨-, hnext, -, -⟩ := tlvStreamFeedByte_refines () s.source _ _ byte hrefines
  rw [feedByte_withCallback] at hnext
  exact hnext.withCallback (tlvStreamFeedByte s byte).1.callback

/-! ## What every run keeps -/

theorem current_reset (s : TlvStream cfg κ) (fed : List UInt8) : Current (tlvStreamReset s) fed :=
  ⟨[], .sync0 rfl, List.nil_suffix⟩

theorem Current.feedByte {s : TlvStream cfg κ} {fed : List UInt8} (h : Current s fed)
    (byte : UInt8) : Current (tlvStreamFeedByte s byte).1 (fed ++ [byte]) := by
  obtain ⟨held, hholds, before, rfl⟩ := h
  refine ⟨(framerStep cfg held byte).1, holds_feedByte hholds byte, ?_⟩
  rw [List.append_assoc]
  exact List.suffix_append_of_suffix (framerStep_suffix hholds.held byte)

theorem Current.feedBytes {s : TlvStream cfg κ} {fed : List UInt8} (h : Current s fed)
    (data : List UInt8) : Current (final tlvStreamFeedByte s data) (fed ++ data) := by
  induction data generalizing s fed with
  | nil =>
    rw [List.append_nil]
    exact h
  | cons byte data ih =>
    have hnext := ih (h.feedByte byte)
    rw [List.append_assoc, List.singleton_append] at hnext
    exact hnext

theorem Current.run {s : TlvStream cfg κ} {fed : List UInt8} (h : Current s fed)
    (ops : List StreamOp) : Current (runSteps streamExec s ops) (fed ++ fedBytes ops) := by
  induction ops generalizing s fed with
  | nil =>
    rw [fedBytes, List.append_nil]
    exact h
  | cons op ops ih =>
    cases op with
    | reset => exact ih (current_reset s fed)
    | feed data =>
      have hfeed : Current (streamExec s (.feed data)) (fed ++ data) := by
        rw [streamExec, tlvStreamFeed_eq]
        exact h.feedBytes data
      rw [fedBytes, ← List.append_assoc]
      exact ih hfeed

/-! ## What it comes to -/

theorem frame_getElem {s : TlvStream cfg κ} {n : Nat} {bytes : List UInt8}
    (h : s.frame.toList.take n = bytes) {i : Nat} (hi : i < bytes.length)
    (hbound : i < cfg.appTlvMaxPayload + 3) : s.frame[i] = bytes[i] := by
  subst h
  rw [List.getElem_take, Vector.getElem_toList]

/-- Half a length is the upper byte of it. -/
theorem lenMsb_toNat (m : UInt8) : (m.toUInt16 <<< 8).toNat = m.toNat * 256 := by
  have hzero : be16 m 0 = m.toUInt16 <<< 8 := UInt16.or_zero
  rw [← hzero, be16_toNat, UInt8.toNat_zero, Nat.add_zero]

/-- A stream in one state is in no other. -/
theorem state_ne {s : TlvStream cfg κ} {st st' : UInt8} (hst : s.state = st) (hne : st ≠ st') :
    s.state ≠ st' := by
  rw [hst]
  exact hne

/-- Before `LEN_MSB` the other fields mean nothing. -/
theorem represents_early {s : TlvStream cfg κ} (fed : List UInt8) {st : UInt8}
    (hst : s.state = st) (hmem : st ∈ [tlvStateSync0, tlvStateSync1, tlvStateType,
      tlvStateLenMsb, tlvStateLenLsb, tlvStatePayload]) (hlt : st < tlvStateLenMsb) :
    Represents s fed := by
  have hlate : ∀ st', tlvStateLenMsb ≤ st' → s.state ≠ st' := by
    intro st' hle
    exact state_ne hst (UInt8.ne_of_lt (UInt8.lt_of_lt_of_le hlt hle))
  refine ⟨?_, fun h => absurd rfl (hlate s.state h), fun h => absurd h (hlate _ (by decide)),
    fun h => absurd h (hlate _ (by decide)), fun h => absurd h (hlate _ (by decide)),
    fun h => absurd h (hlate _ (by decide))⟩
  rw [hst]
  exact hmem

/-- **The fields of a stream that holds what it was fed last.** -/
theorem Current.represents {s : TlvStream cfg κ} {fed : List UInt8} (h : Current s fed) :
    Represents s fed := by
  obtain ⟨held, hholds, hsuffix⟩ := h
  cases hholds with
  | sync0 hst => exact represents_early fed hst (by decide) (by decide)
  | sync1 hst => exact represents_early fed hst (by decide) (by decide)
  | type hst => exact represents_early fed hst (by decide) (by decide)
  | lenMsb hst ht hfr =>
    have hpayload : s.state ≠ tlvStatePayload := state_ne hst (by decide)
    refine ⟨by rw [hst]; decide, fun _ => ⟨ht, ?_⟩, fun h => absurd h (state_ne hst (by decide)),
      fun h => absurd h hpayload, fun h => absurd h hpayload, fun h => absurd h hpayload⟩
    exact frame_getElem hfr (Nat.succ_pos _) (by omega)
  | @lenLsb m hst ht hexp hfr =>
    have hpayload : s.state ≠ tlvStatePayload := state_ne hst (by decide)
    have hmsb : s.frame[1] = m := frame_getElem hfr (Nat.lt_succ_self 1) (by omega)
    refine ⟨by rw [hst]; decide, fun _ => ⟨ht, ?_⟩, fun _ => ?_, fun h => absurd h hpayload,
      fun h => absurd h hpayload, fun h => absurd h hpayload⟩
    · exact frame_getElem hfr (Nat.succ_pos _) (by omega)
    · rw [hexp, hmsb, lenMsb_toNat]
  | @payload m l p hst ht hexp hsane hrec hlt hfr =>
    have hhead : ∀ i, i < 3 → i < (s.type :: m :: l :: p).length := by
      intro i hi
      exact Nat.lt_of_lt_of_le hi (Nat.le_add_left 3 p.length)
    have hmsb : s.frame[1] = m := frame_getElem hfr (hhead 1 (by decide)) (by omega)
    have hlsb : s.frame[2] = l := frame_getElem hfr (hhead 2 (by decide)) (by omega)
    -- the payload so far is the end of what was fed
    have hlast : p <:+ fed :=
      List.IsSuffix.trans ⟨[protocolTlvSync0, protocolTlvSync1, s.type, m, l], rfl⟩ hsuffix
    refine ⟨by rw [hst]; decide, fun _ => ⟨ht, ?_⟩, fun h => absurd h (state_ne hst (by decide)),
      fun _ => ⟨?_, hsane⟩, fun _ => ⟨UInt16.lt_iff_toNat_lt.mp hlt, hsane.le⟩, fun _ => ⟨?_, ?_⟩⟩
    · exact frame_getElem hfr (hhead 0 (by decide)) (by omega)
    · rw [hexp, hmsb, hlsb, be16_toNat]
    · rw [hrec]
      exact hlast.length_le
    · rw [List.take_drop, hfr, hrec]
      exact List.suffix_iff_eq_drop.mp hlast

/-! ## The statements of the next byte -/

section Branches

variable {s : TlvStream cfg κ} (byte : UInt8)

theorem safe_sync0 (h : s.state = tlvStateSync0) : ∀ a ∈ feedActions s byte, a.Safe cfg := by
  unfold feedActions
  rw [if_pos h]
  split <;> simp [FeedAction.Safe]

theorem safe_sync1 (h : s.state = tlvStateSync1) : ∀ a ∈ feedActions s byte, a.Safe cfg := by
  unfold feedActions
  rw [switch_sync1 h]
  split
  · simp [FeedAction.Safe]
  · split <;> simp [FeedAction.Safe]

theorem safe_type (h : s.state = tlvStateType) : ∀ a ∈ feedActions s byte, a.Safe cfg := by
  unfold feedActions
  rw [switch_type h]
  split
  · split <;> simp [FeedAction.Safe]
  · simp [FeedAction.Safe]

theorem safe_lenMsb (h : s.state = tlvStateLenMsb) : ∀ a ∈ feedActions s byte, a.Safe cfg := by
  unfold feedActions
  rw [switch_lenMsb h]
  have hshift : byte.toNat <<< 8 < 2 ^ 16 := by
    have hbyte := byte.toNat_lt
    rw [Nat.shiftLeft_eq]
    omega
  rw [List.forall_mem_cons, List.forall_mem_cons, List.forall_mem_singleton]
  exact ⟨hshift, show 1 < cfg.appTlvMaxPayload + 3 by omega, trivial⟩

/-- A length that is accepted is not zero. -/
theorem safe_lenLsb (h : s.state = tlvStateLenLsb) : ∀ a ∈ feedActions s byte, a.Safe cfg := by
  unfold feedActions
  rw [switch_lenLsb h]
  have hor : s.expected.toNat ||| byte.toNat < 2 ^ 16 :=
    Nat.or_lt_two_pow s.expected.toNat_lt (Nat.lt_trans byte.toNat_lt (by decide))
  rw [List.forall_mem_cons, List.forall_mem_cons]
  refine ⟨hor, show 2 < cfg.appTlvMaxPayload + 3 by omega, ?_⟩
  cases hsane : tlvLengthIsSane cfg s.type (s.expected ||| byte.toUInt16) with
  | error _ => simp [FeedAction.Safe]
  | ok u =>
    have hne : s.expected ||| byte.toUInt16 ≠ 0 := by
      intro hzero
      have hpos := LengthSane.pos hsane
      rw [hzero] at hpos
      exact absurd hpos (by decide)
    dsimp only
    rw [if_neg hne]
    simp [FeedAction.Safe]

/-- An incomplete payload has room for a byte, and its length for a count. -/
theorem safe_payload (h : s.state = tlvStatePayload) (hlt : s.received.toNat < s.expected.toNat)
    (hle : s.expected.toNat ≤ cfg.appTlvMaxPayload) : ∀ a ∈ feedActions s byte, a.Safe cfg := by
  unfold feedActions
  rw [switch_payload h]
  have hindex : 3 + s.received.toNat < cfg.appTlvMaxPayload + 3 := by omega
  have hcount : s.received.toNat + 1 < 2 ^ 16 := Nat.lt_of_le_of_lt hlt s.expected.toNat_lt
  rw [List.forall_mem_cons, List.forall_mem_cons]
  refine ⟨hindex, hcount, ?_⟩
  split
  · rw [List.forall_mem_cons, List.forall_mem_singleton]
    exact ⟨show 3 + s.expected.toNat ≤ cfg.appTlvMaxPayload + 3 by omega, trivial⟩
  · nofun

end Branches

/-- **The statements that the next byte executes are safe**: there is no seventh
state, and in the six of them each has what it needs. -/
theorem Represents.safe {s : TlvStream cfg κ} {fed : List UInt8} (h : Represents s fed)
    (byte : UInt8) : ∀ a ∈ feedActions s byte, a.Safe cfg := by
  have hstate := h.state
  simp only [List.mem_cons, List.not_mem_nil, or_false] at hstate
  rcases hstate with hst | hst | hst | hst | hst | hst
  · exact safe_sync0 byte hst
  · exact safe_sync1 byte hst
  · exact safe_type byte hst
  · exact safe_lenMsb byte hst
  · exact safe_lenLsb byte hst
  · obtain ⟨hlt, hle⟩ := h.received hst
    exact safe_payload byte hst hlt hle

/-- **The representation invariant, and the safety of the buffer.** After
`tlv_stream_init`, any calls of `tlv_stream_reset` and `tlv_stream_feed`, and
the first bytes `pre` of a call of `tlv_stream_feed` that is under way, the
fields are what `Represents` says; and whatever the next byte is, the statements
that are executed for it write inside `frame`, wrap no counter, and enter
neither the `default` label nor the branch of the zero length. -/
theorem tlvStream_represents (cfg : Config) (cb : Option κ) (src : AppInputSource)
    (ops : List StreamOp) (pre : List UInt8) (byte : UInt8) :
    let s := final tlvStreamFeedByte (runSteps streamExec (tlvStreamInit cfg cb src) ops) pre
    Represents s (fedBytes ops ++ pre) ∧
    runSteps FeedAction.exec (s, none) (feedActions s byte) = tlvStreamFeedByte s byte ∧
    ∀ a ∈ feedActions s byte, a.Safe cfg := by
  intro s
  have hinit : Current (tlvStreamInit cfg cb src) [] := current_reset _ []
  have hrepresents : Represents s (fedBytes ops ++ pre) := ((hinit.run ops).feedBytes pre).represents
  exact ⟨hrepresents, feedActions_run s byte, hrepresents.safe byte⟩

end CaptureKVMBridge.Tlv
