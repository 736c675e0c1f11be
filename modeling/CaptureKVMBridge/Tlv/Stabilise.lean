import CaptureKVMBridge.Tlv.Resync

/-!
# Self-stabilisation

Whatever a stream has been fed before, it finds its way back into a well-formed
transmission, and what that costs is bounded by the state it was in
(`resyncLoss`): the rest of the payload it is waiting for, or the one frame
whose sync word it takes for a length.

The transmission is a `Layout`: frames with garbage behind each, in which a
typed header begins at the frames only. `layout_drop` is the scanner lemma: a
framer put down anywhere in a layout delivers the frames that begin later.
-/

namespace CaptureKVMBridge.Tlv

open CaptureKVMBridge.Machine

variable {cfg : Config} {κ : Type}

/-! ## Layouts -/

/-- Frames, each with the garbage sent behind it. -/
abbrev Layout := List (List UInt8 × List UInt8)

/-- The bytes of a layout. -/
def layoutBytes : Layout → List UInt8
  | [] => []
  | (f, g) :: L => (wire f ++ g) ++ layoutBytes L

/-- The frames of a layout at their offsets, the first one at `o`. -/
def layoutPlaced : Nat → Layout → List (Nat × List UInt8)
  | _, [] => []
  | o, (f, g) :: L => (o, f) :: layoutPlaced (o + (wire f ++ g).length) L

/-- The frames that begin at offset `k` or later. -/
def framesFrom (k : Nat) (placed : List (Nat × List UInt8)) : List (List UInt8) :=
  (placed.filter fun q => k ≤ q.1).map Prod.snd

/-- In the layout, which begins at offset `o`, `D5 AA type` is found at the
starts of the frames only. -/
def TypedAtStarts (o : Nat) (L : Layout) : Prop :=
  ∀ i, StartsTyped ((layoutBytes L).drop i) → o + i ∈ (layoutPlaced o L).map Prod.fst

theorem wire_append_length (f g : List UInt8) : 2 ≤ (wire f ++ g).length := by
  simp only [wire, List.length_append, List.length_cons]
  omega

theorem layoutPlaced_ge : ∀ (L : Layout) {o : Nat}, ∀ q ∈ layoutPlaced o L, o ≤ q.1 := by
  intro L
  induction L with
  | nil => intro o q hq; exact absurd hq (by simp [layoutPlaced])
  | cons fg L ih =>
    intro o q hq
    rcases List.mem_cons.mp hq with rfl | hq
    · exact le_rfl
    · have := ih q hq
      omega

/-- Frames that all begin at `k` or later are all counted. -/
theorem framesFrom_of_ge {k o : Nat} {L : Layout} (h : k ≤ o) :
    framesFrom k (layoutPlaced o L) = (layoutPlaced o L).map Prod.snd := by
  unfold framesFrom
  rw [List.filter_eq_self.mpr]
  intro q hq
  have := layoutPlaced_ge L q hq
  exact decide_eq_true (by omega)

/-- Past its first frame and the garbage behind it, a layout is a layout. -/
theorem TypedAtStarts.tail {o : Nat} {f g : List UInt8} {L : Layout}
    (h : TypedAtStarts o ((f, g) :: L)) : TypedAtStarts (o + (wire f ++ g).length) L := by
  intro i hi
  have h2 := wire_append_length f g
  have hat := h ((wire f ++ g).length + i) (by
    rw [layoutBytes, List.drop_length_add_append]
    exact hi)
  rw [layoutPlaced, List.map_cons, ← Nat.add_assoc] at hat
  rcases List.mem_cons.mp hat with heq | hmem
  · dsimp only at heq
    omega
  · exact hmem

/-- Between a frame's start and the next one's no typed header begins. -/
theorem TypedAtStarts.gap {o : Nat} {f g : List UInt8} {L : Layout}
    (h : TypedAtStarts o ((f, g) :: L)) {i : Nat} (hpos : 0 < i) (hi : i < (wire f ++ g).length) :
    ¬StartsTyped ((layoutBytes ((f, g) :: L)).drop i) := by
  intro htyped
  rcases List.mem_cons.mp (h i htyped) with heq | hmem
  · dsimp only at heq
    omega
  · obtain ⟨q, hq, heq⟩ := List.mem_map.mp hmem
    have := layoutPlaced_ge L q hq
    omega

/-! ## Scanning a layout -/

/-- Garbage in which no typed header begins, not even one that reads on into
what follows, is invisible. -/
theorem framer_gap (w : List UInt8) :
    ∀ (x : List UInt8), (∀ i < x.length, ¬StartsTyped ((x ++ w).drop i)) →
      outputs (framerStep cfg) [] (x ++ w) = outputs (framerStep cfg) [] w := by
  intro x
  induction x with
  | nil => intro _; rfl
  | cons b x ih =>
    intro hx
    have hrest := ih fun i hi => hx (i + 1) (Nat.succ_lt_succ hi)
    rw [← hrest, List.cons_append]
    have h0 : ¬StartsTyped (b :: (x ++ w)) := hx 0 (Nat.zero_lt_succ _)
    match x ++ w, h0 with
    | s1 :: t :: rest, h0 => exact congrArg Prod.snd (framer_skip cfg h0 rest)
    | [s1], _ =>
      rw [framer_few (w := [b, s1]) (by simp), framer_few (w := [s1]) (by simp)]
    | [], _ => rw [framer_few (w := [b]) (by simp), outputs_nil]

/-- **A framer put down at any offset of a layout** delivers exactly the frames
that begin there or later. -/
theorem layout_drop : ∀ (L : Layout) (o k : Nat), (∀ q ∈ L, WellFormedFrame cfg q.1) →
    TypedAtStarts o L →
      outputs (framerStep cfg) [] ((layoutBytes L).drop k)
        = framesFrom (o + k) (layoutPlaced o L) := by
  intro L
  induction L with
  | nil => intro o k _ _; rw [layoutBytes, List.drop_nil]; rfl
  | cons fg L ih =>
    intro o k hwf htyped
    obtain ⟨f, g⟩ := fg
    have h2 := wire_append_length f g
    have htail := fun k => ih (o + (wire f ++ g).length) k
      (fun q hq => hwf q (List.mem_cons_of_mem _ hq)) htyped.tail
    -- garbage that ends where the tail begins
    have hgap : ∀ j, 0 < j → j ≤ (wire f ++ g).length →
        outputs (framerStep cfg) [] ((wire f ++ g).drop j ++ layoutBytes L)
          = outputs (framerStep cfg) [] (layoutBytes L) := by
      intro j hj hle
      refine framer_gap (layoutBytes L) _ fun i hi => ?_
      rw [List.length_drop] at hi
      have hno := htyped.gap (i := j + i) (by omega) (by omega)
      rwa [layoutBytes, ← List.drop_drop, List.drop_append_of_le_length hle] at hno
    have hall : outputs (framerStep cfg) [] (layoutBytes L)
        = (layoutPlaced (o + (wire f ++ g).length) L).map Prod.snd := by
      have h0 := htail 0
      rwa [List.drop_zero, Nat.add_zero, framesFrom_of_ge le_rfl] at h0
    rcases Nat.eq_zero_or_pos k with rfl | hk
    · rw [List.drop_zero, Nat.add_zero, framesFrom_of_ge le_rfl, layoutBytes, List.append_assoc,
        framer_wire_append (hwf (f, g) (List.mem_cons_self ..)), layoutPlaced, List.map_cons, ← hall]
      have hg := hgap (wire f).length (by simp [wire]) (by simp)
      rw [List.drop_left] at hg
      rw [hg]
    · have hskip : framesFrom (o + k) (layoutPlaced o ((f, g) :: L))
          = framesFrom (o + k) (layoutPlaced (o + (wire f ++ g).length) L) := by
        unfold framesFrom
        rw [layoutPlaced, List.filter_cons_of_neg (by simp only [decide_eq_true_eq]; omega)]
      rw [hskip, layoutBytes]
      by_cases hle : k ≤ (wire f ++ g).length
      · rw [List.drop_append_of_le_length hle, hgap k hk hle, hall, framesFrom_of_ge (by omega)]
      · rw [List.drop_append, List.drop_of_length_le (by omega), List.nil_append,
          htail (k - (wire f ++ g).length)]
        congr 1
        omega

/-! ## From any state -/

/-- The bytes of the input that go to what the stream is in the middle of. -/
def resyncLoss (s : TlvStream cfg κ) : Nat :=
  if s.state = tlvStatePayload then s.expected.toNat - s.received.toNat
  else if s.state = tlvStateLenMsb ∨ s.state = tlvStateLenLsb then 1
  else 0

/-- The frame that the input completes, if the stream is waiting for a payload
and the input is long enough. -/
def partialFrame (s : TlvStream cfg κ) (w : List UInt8) : List (List UInt8) :=
  if s.state = tlvStatePayload ∧ resyncLoss s ≤ w.length then
    [s.frame.toList.take (3 + s.received.toNat) ++ w.take (resyncLoss s)]
  else []

/-- A sync word is never a length. -/
theorem not_lengthSane_sync (hmic : ∀ n, LengthSane cfg protocolEventMicrophone n →
    n.toNat < 0xD5AA) (t : UInt8) : ¬LengthSane cfg t (be16 protocolTlvSync0 protocolTlvSync1) := by
  intro hs
  rcases (lengthSane_iff.mp hs).2 with ⟨-, h⟩ | ⟨-, h⟩ | ⟨-, h⟩ | ⟨rfl, -⟩
  · exact absurd h (by decide)
  · exact absurd h (by decide)
  · exact absurd h (by decide)
  · exact absurd (hmic _ hs) (by decide)

/-- No accepted length ends in the first sync byte: it is odd and too large. -/
theorem not_lengthSane_sync0 (t m : UInt8) : ¬LengthSane cfg t (be16 m protocolTlvSync0) := by
  intro hs
  have hval : (be16 m protocolTlvSync0).toNat = m.toNat * 256 + 213 := be16_toNat m _
  rcases (lengthSane_iff.mp hs).2 with ⟨-, h⟩ | ⟨-, h⟩ | ⟨-, h⟩ | ⟨-, -, hz, -⟩
  · have := hval.symm.trans (congrArg UInt16.toNat h)
    exact absurd this (by show ¬(m.toNat * 256 + 213 = 8); omega)
  · have := hval.symm.trans (congrArg UInt16.toNat h)
    exact absurd this (by show ¬(m.toNat * 256 + 213 = 5); omega)
  · have := hval.symm.trans (congrArg UInt16.toNat h)
    exact absurd this (by show ¬(m.toNat * 256 + 213 = 7); omega)
  · refine hz (Or.inr fun heven => ?_)
    rw [and_one_eq_zero_iff, hval] at heven
    omega

/-- A layout is empty or begins with a sync word. -/
theorem layoutBytes_head (L : Layout) :
    L = [] ∨ ∃ w, layoutBytes L = protocolTlvSync0 :: protocolTlvSync1 :: w := by
  match L with
  | [] => exact Or.inl rfl
  | (f, g) :: L => exact Or.inr ⟨(f ++ g) ++ layoutBytes L, rfl⟩

/-- **The framer of a stream, put in front of a layout**, state by state. -/
theorem layout_from_held (hmic : ∀ n, LengthSane cfg protocolEventMicrophone n →
    n.toNat < 0xD5AA) {s : TlvStream cfg κ} {held : List UInt8} (h : Holds s held) {L : Layout}
    (hL : ∀ q ∈ L, WellFormedFrame cfg q.1) (htyped : TypedAtStarts 0 L) :
    outputs (framerStep cfg) held (layoutBytes L)
      = partialFrame s (layoutBytes L) ++ framesFrom (resyncLoss s) (layoutPlaced 0 L) := by
  have hdrop := fun k => layout_drop L 0 k hL htyped
  -- nothing held but a sync word: the next frame starts over
  have hidle : held.length ≤ 2 → s.state ≠ tlvStatePayload → resyncLoss s = 0 →
      outputs (framerStep cfg) held (layoutBytes L)
        = partialFrame s (layoutBytes L) ++ framesFrom (resyncLoss s) (layoutPlaced 0 L) := by
    intro hlen hst hloss
    have h0 := hdrop 0
    rw [List.drop_zero] at h0
    rw [partialFrame, if_neg (fun hp => hst hp.1), List.nil_append, hloss, ← h0]
    rcases layoutBytes_head L with rfl | ⟨w, hw⟩
    · rfl
    · rw [hw]
      exact congrArg Prod.snd (framer_restart h.held hlen (protocolTlvSync1 :: w))
  cases h with
  | sync0 hst => exact hidle (Nat.zero_le 2) (by rw [hst]; decide) (by rw [resyncLoss, hst]; rfl)
  | sync1 hst => exact hidle (Nat.le_succ 1) (by rw [hst]; decide) (by rw [resyncLoss, hst]; rfl)
  | type hst => exact hidle le_rfl (by rw [hst]; decide) (by rw [resyncLoss, hst]; rfl)
  | lenMsb hst =>
    rw [partialFrame, if_neg (fun hp => absurd (hst.symm.trans hp.1) (by decide)), List.nil_append,
      show resyncLoss s = 1 by rw [resyncLoss, hst]; rfl, ← hdrop 1]
    rcases layoutBytes_head L with rfl | ⟨w, hw⟩
    · rfl
    · -- the sync word is the length
      rw [hw]
      exact congrArg Prod.snd (framer_reject_lsb (not_lengthSane_sync hmic s.type) w)
  | @lenLsb m hst =>
    rw [partialFrame, if_neg (fun hp => absurd (hst.symm.trans hp.1) (by decide)), List.nil_append,
      show resyncLoss s = 1 by rw [resyncLoss, hst]; rfl, ← hdrop 1]
    rcases layoutBytes_head L with rfl | ⟨w, hw⟩
    · rfl
    · -- its first byte is the low byte of the length
      rw [hw]
      exact congrArg Prod.snd
        (framer_reject_lsb (not_lengthSane_sync0 s.type m) (protocolTlvSync1 :: w))
  | @payload m l p hst ht hexp hsane hrec hlt hfr =>
    -- the layout begins with the rest of the old payload, if it is long enough
    have hlt' : s.received.toNat < s.expected.toNat := UInt16.lt_iff_toNat_lt.mp hlt
    have hloss : resyncLoss s = (be16 m l).toNat - p.length := by
      rw [resyncLoss, if_pos hst, hexp, hrec]
    rw [hexp, hrec] at hlt'
    by_cases hlen : resyncLoss s ≤ (layoutBytes L).length
    · have hcut := framer_payload cfg (t := s.type) (m := m) (l := l)
        ((layoutBytes L).take (resyncLoss s)) p
        (by
          intro hnil
          have := congrArg List.length hnil
          rw [List.length_take, List.length_nil] at this
          omega)
        (by
          rw [List.length_take]
          omega)
      rw [run_eq, Prod.mk.injEq] at hcut
      have hk := hdrop (resyncLoss s)
      rw [Nat.zero_add] at hk
      rw [partialFrame, if_pos ⟨hst, hlen⟩, hfr, ← hk, List.singleton_append]
      conv_lhs => rw [← List.take_append_drop (resyncLoss s) (layoutBytes L)]
      rw [outputs_append, hcut.1, hcut.2]
      rfl
    · rw [partialFrame, if_neg (fun hp => hlen hp.2), List.nil_append,
        framer_payload_more _ _ (by omega)]
      have hk := hdrop (resyncLoss s)
      rw [Nat.zero_add, List.drop_of_length_le (by omega)] at hk
      exact hk

/-- **Self-stabilisation.** From any state that a stream with a callback can
reach, a transmission in any chunking delivers first the frame that completes
the payload the stream was waiting for, if there is one and the input is long
enough, and then exactly the frames that begin behind the loss. -/
theorem tlvStreamFeedAll_stabilises (cfg : Config)
    (hmic : ∀ n, LengthSane cfg protocolEventMicrophone n → n.toNat < 0xD5AA)
    (cb : κ) (src : AppInputSource) (before : List (List UInt8)) {L : Layout}
    (hL : ∀ q ∈ L, WellFormedFrame cfg q.1) (htyped : TypedAtStarts 0 L)
    {chunks : List (List UInt8)} (hchunks : chunks.flatten = layoutBytes L) :
    let s := (tlvStreamFeedAll (tlvStreamInit cfg (some cb) src) before).1
    (tlvStreamFeedAll s chunks).2
      = (partialFrame s (layoutBytes L) ++ framesFrom (resyncLoss s) (layoutPlaced 0 L)).map
          fun f => { callback := cb, source := src, frame := f } := by
  intro s
  have hs : Refines cb src s (final (framerStep cfg) [] before.flatten) :=
    (tlvStreamFeedAll_refines (tlvStreamInit_refines cfg cb src) before).2
  rw [(tlvStreamFeedAll_refines hs chunks).1, hchunks, layout_from_held hmic hs.1 hL htyped]

/-- A stream left in the length of a header: the key press is lost, the mouse
report behind it arrives. -/
theorem tlvStreamFeedAll_stabilises_lenLsb :
    let key : List UInt8 := [1, 0, 8, 2, 0, 4, 0, 0, 0, 0, 0]
    let mouse : List UInt8 := [2, 0, 5, 1, 3, 0xFF, 0, 0]
    (tlvStreamFeedAll
      (tlvStreamFeedAll (tlvStreamInit Config.minimal (some ()) .uart) [[0xD5, 0xAA, 1, 0]]).1
      [wire key, 0xD5 :: wire mouse]).2 = [⟨(), .uart, mouse⟩] := by
  intro key mouse
  have hmic : ∀ n, LengthSane Config.minimal protocolEventMicrophone n → n.toNat < 0xD5AA := by
    intro n hn
    have hle : n.toNat ≤ 64 := hn.le
    omega
  have htyped : TypedAtStarts 0 [(key, [0xD5]), (mouse, [])] := by
    have hfew : ∀ i < 24, StartsTyped ((layoutBytes [(key, [0xD5]), (mouse, [])]).drop i) →
        0 + i ∈ (layoutPlaced 0 [(key, [0xD5]), (mouse, [])]).map Prod.fst := by decide
    intro i hi
    by_cases hlt : i < 24
    · exact hfew i hlt hi
    · have hlen : (layoutBytes [(key, [0xD5]), (mouse, [])]).length ≤ i := by
        rw [show (layoutBytes [(key, [0xD5]), (mouse, [])]).length = 24 by decide]
        omega
      rw [List.drop_of_length_le hlen] at hi
      exact absurd hi id
  have hchunks : [wire key, 0xD5 :: wire mouse].flatten
      = layoutBytes [(key, [0xD5]), (mouse, [])] := by decide
  have h := tlvStreamFeedAll_stabilises Config.minimal hmic () .uart [[0xD5, 0xAA, 1, 0]]
    (by decide) htyped hchunks
  rw [h]
  decide +kernel

end CaptureKVMBridge.Tlv
