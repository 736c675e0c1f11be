import Mathlib.Logic.Function.Basic
import CaptureKVMBridge.Machine.LossyQueue
import CaptureKVMBridge.Machine.Run
import CaptureKVMBridge.Usb.Microphone

/-!
# The microphone path under interleaving

Tasks that forward microphone frames and the audio task that serves the host
share the ring, and between two calls of the ring buffer any of the others may
run. Here each of them is where it is in its function, at a call of the ring
buffer, and a step is one of these calls with the code up to the next.

The bytes in the ring are tagged: with the number of the sample they are of,
counted over all samples that were stored, and with the half of it. The tags are
what the theorem speaks about; no step looks at them. `audio_keeps_samples`: what
the host gets, between the silence, is whole samples, each at most once, in the
order in which they were stored. `items_exclusive`: no task returns an item that
another one holds. A task that is not interrupted does what the function does
(`frame_alone`, `input_alone`).

Mirroring notes:
- A frame goes through `xRingbufferSend` and, if that fails, `xRingbufferReceiveUpTo`,
  `vRingbufferReturnItem` and `xRingbufferSend`; a request through pairs of
  `xRingbufferReceiveUpTo` and `vRingbufferReturnItem`.
- A task that calls has returned from its last call, and there is one audio task;
  any number of tasks may forward frames.
- `out` is a ghost: what the audio task wrote to its buffers, request by request.
- The activity marks, the display and the log line about a drop are left out.
-/

namespace CaptureKVMBridge.Usb

open CaptureKVMBridge.Machine CaptureKVMBridge.Tlv

variable {ι : Type}

/-! ## Samples as bytes -/

/-- A byte of the sample with a number. -/
structure SampleByte where
  serial : Nat
  high : Bool
  byte : UInt8
  deriving DecidableEq, Repr

/-- The bytes of a numbered sample, low byte first. -/
def sampleBytes (s : UInt16 × Nat) : List SampleByte :=
  [⟨s.2, false, loByte s.1⟩, ⟨s.2, true, hiByte s.1⟩]

/-- The samples of a frame, numbered from `start`. -/
def numbered (start : Nat) (samples : List UInt16) : List SampleByte :=
  (samples.zipIdx start).flatMap sampleBytes

theorem sampleBytes_length (s : UInt16 × Nat) : (sampleBytes s).length = 2 := rfl

theorem numbered_length (start : Nat) (samples : List UInt16) :
    (numbered start samples).length = 2 * samples.length := by
  rw [numbered, ByteRing.length_records sampleBytes_length, List.length_zipIdx]

/-- Without the tags they are the samples on the wire. -/
theorem sampleBytes_byte (l : List (UInt16 × Nat)) :
    (l.flatMap sampleBytes).map SampleByte.byte = bytesLE (l.map Prod.fst) := by
  induction l with
  | nil => rfl
  | cons s l ih => rw [List.flatMap_cons, List.map_append, ih]; rfl

theorem numbered_byte (start : Nat) (samples : List UInt16) :
    (numbered start samples).map SampleByte.byte = bytesLE samples := by
  rw [numbered, sampleBytes_byte, List.zipIdx_map_fst]

/-- What the audio task writes. -/
inductive OutByte where
  | audio (b : SampleByte)
  | padding
  deriving DecidableEq, Repr

def OutByte.sample : OutByte → Option SampleByte
  | .audio b => some b
  | .padding => none

/-- As the host sees it. -/
def OutByte.byte : OutByte → UInt8
  | .audio b => b.byte
  | .padding => 0

/-! ## The machine -/

/-- Where a task is in `usb_hs_handle_microphone_frame`: before the call named. -/
inductive FramePc where
  | idle
  | send (samples : List UInt16)
  | receive (samples : List UInt16)
  | returnItem (samples : List UInt16)
  | resend (samples : List UInt16)
  deriving DecidableEq, Repr

/-- Where the audio task is in `uac_input_cb`, with its `len` and `total`. -/
inductive InputPc where
  | idle
  | receive (len total : Nat)
  | returnItem (len total fetched : Nat)
  deriving DecidableEq, Repr

/-- The ring and the tasks at it; `sent` are the samples stored so far. -/
structure AudioWorld (ι : Type) where
  ring : ByteRing SampleByte
  frame : ι → FramePc
  input : InputPc
  sent : List UInt16
  out : List OutByte

/-- The bytes of `out` that are not silence. -/
def AudioWorld.audio (w : AudioWorld ι) : List SampleByte :=
  w.out.filterMap OutByte.sample

/-- `xRingbufferSend(s_mic_ring, samples, bytes, 0)`. -/
def AudioWorld.send (samples : List UInt16) (w : AudioWorld ι) : Bool × AudioWorld ι :=
  let r := w.ring.send (numbered w.sent.length samples)
  (r.1, { w with ring := r.2, sent := if r.1 then w.sent ++ samples else w.sent })

def AudioWorld.setFrame [DecidableEq ι] (w : AudioWorld ι) (i : ι) (pc : FramePc) : AudioWorld ι :=
  { w with frame := Function.update w.frame i pc }

@[simp] theorem setFrame_frame [DecidableEq ι] (w : AudioWorld ι) (i : ι) (pc : FramePc) :
    (w.setFrame i pc).frame i = pc := Function.update_self ..

theorem setFrame_frame_ne [DecidableEq ι] (w : AudioWorld ι) {i j : ι} (hj : j ≠ i)
    (pc : FramePc) : (w.setFrame i pc).frame j = w.frame j := Function.update_of_ne hj ..

@[simp] theorem setFrame_setFrame [DecidableEq ι] (w : AudioWorld ι) (i : ι) (pc pc' : FramePc) :
    (w.setFrame i pc).setFrame i pc' = w.setFrame i pc' := by
  unfold AudioWorld.setFrame
  rw [Function.update_idem]

/-- A call of `usb_hs_handle_microphone_frame`, up to its first call of the
ring buffer. -/
def callFrame [DecidableEq ι] (i : ι) (samples : List UInt16) (w : AudioWorld ι) : AudioWorld ι :=
  match w.frame i with
  | .idle => if samples = [] then w else w.setFrame i (.send samples)
  | _ => w

/-- The next call of the ring buffer by a task with a frame. -/
def frameStep [DecidableEq ι] (i : ι) (w : AudioWorld ι) : AudioWorld ι :=
  match w.frame i with
  | .idle => w
  | .send samples =>
    let r := w.send samples
    if r.1 then r.2.setFrame i .idle else r.2.setFrame i (.receive samples)
  | .receive samples =>
    match w.ring.receiveUpTo .full (2 * samples.length) with
    | none => w.setFrame i .idle
    | some (_, ring) => { w with ring := ring }.setFrame i (.returnItem samples)
  | .returnItem samples => { w with ring := w.ring.returnItem }.setFrame i (.resend samples)
  | .resend samples => (w.send samples).2.setFrame i .idle

/-- `while (total < len)`. -/
def whileTotal (len total : Nat) : InputPc := if total < len then .receive len total else .idle

/-- A call of `uac_input_cb`, up to its first call of the ring buffer. -/
def callInput (len : Nat) (w : AudioWorld ι) : AudioWorld ι :=
  match w.input with
  | .idle => { w with input := whileTotal len 0 }
  | _ => w

/-- The next call of the ring buffer by the audio task. -/
def inputStep (w : AudioWorld ι) : AudioWorld ι :=
  match w.input with
  | .idle => w
  | .receive len total =>
    match w.ring.receiveUpTo .full (len - total) with
    | none => { w with out := w.out ++ List.replicate (len - total) .padding, input := .idle }
    | some (chunk, ring) =>
      { w with
        ring := ring
        out := w.out ++ chunk.map .audio
        input := .returnItem len total chunk.length }
  | .returnItem len total fetched =>
    { w with ring := w.ring.returnItem, input := whileTotal len (total + fetched) }

/-- A task is called, or makes its next call. The host requests whole samples. -/
inductive AudioOp (ι : Type) where
  | callFrame (i : ι) (samples : List UInt16)
  | frame (i : ι)
  | callInput (len : Nat) (heven : 2 ∣ len)
  | input

def audioExec [DecidableEq ι] (w : AudioWorld ι) : AudioOp ι → AudioWorld ι
  | .callFrame i samples => callFrame i samples w
  | .frame i => frameStep i w
  | .callInput len _ => callInput len w
  | .input => inputStep w

/-- Nobody has called, and the ring is new. -/
def audioBoot (cfg : Config) : AudioWorld ι where
  ring := ByteRing.create (micRingBufferBytes cfg) (micRingBufferBytes_pos cfg)
  frame := fun _ => .idle
  input := .idle
  sent := []
  out := []

/-! ## The ring carries a queue of samples -/

/-- The audio task is at an even place of an even request. -/
def InputPc.Even : InputPc → Prop
  | .idle => True
  | .receive len total => 2 ∣ len ∧ 2 ∣ total
  | .returnItem len total fetched => 2 ∣ len ∧ 2 ∣ total ∧ 2 ∣ fetched

theorem whileTotal_even {len total : Nat} (hlen : 2 ∣ len) (htotal : 2 ∣ total) :
    (whileTotal len total).Even := by
  unfold whileTotal
  split
  · exact ⟨hlen, htotal⟩
  · trivial

/-- The ring holds the numbered samples of a queue, the queue was sent what was
stored, and the host got what was received from it. -/
structure Carries (w : AudioWorld ι) (q : LossyQueue (UInt16 × Nat)) : Prop where
  aligned : w.ring.Aligned 2
  even : w.input.Even
  sent : q.sent = w.sent.zipIdx
  content : w.ring.content = q.content.flatMap sampleBytes
  audio : w.audio = q.received.flatMap sampleBytes

section Steps

variable {w : AudioWorld ι} {q : LossyQueue (UInt16 × Nat)}

/-- Where a task with a frame is does not matter. -/
theorem Carries.setFrame [DecidableEq ι] (h : Carries w q) (i : ι) (pc : FramePc) :
    Carries (w.setFrame i pc) q :=
  ⟨h.aligned, h.even, h.sent, h.content, h.audio⟩

/-- The room of an item does not matter. -/
theorem Carries.returnItem (h : Carries w q) : Carries { w with ring := w.ring.returnItem } q :=
  ⟨h.aligned.returnItem, h.even, h.sent, h.content, h.audio⟩

/-- A frame is stored whole, or not at all. -/
theorem Carries.send (h : Carries w q) (samples : List UInt16) :
    ∃ q', Carries (w.send samples).2 q' := by
  have heven : 2 ∣ (numbered w.sent.length samples).length := by
    rw [numbered_length]
    exact Nat.dvd_mul_right ..
  have haligned := h.aligned.send heven
  rcases Nat.lt_or_ge w.ring.free (numbered w.sent.length samples).length with hgt | hle
  · have hsend : w.send samples = (false, w) := by
      unfold AudioWorld.send
      rw [ByteRing.send_of_gt hgt]
      rfl
    rw [hsend]
    exact ⟨q, h⟩
  · obtain ⟨hok, hcontent, -⟩ := ByteRing.send_of_le hle
    refine ⟨q.send (samples.zipIdx w.sent.length), haligned, h.even, ?_, ?_, h.audio⟩
    · show q.sent ++ _ = (if _ then w.sent ++ samples else w.sent).zipIdx
      rw [if_pos hok, List.zipIdx_append, h.sent, Nat.zero_add]
    · show (w.ring.send _).2.content = _
      rw [hcontent, LossyQueue.content_send, List.flatMap_append, h.content]
      rfl

/-- What a receive of whole samples hands out. -/
theorem Carries.receive (h : Carries w q) {max : Nat} (hmax : 2 ∣ max) {chunk : List SampleByte}
    {ring : ByteRing SampleByte}
    (hreceive : w.ring.receiveUpTo .full max = some (chunk, ring)) :
    ∃ m, ∃ _ : m ≤ q.content.length, chunk = (q.content.take m).flatMap sampleBytes ∧
      ring.content = (q.content.drop m).flatMap sampleBytes ∧ ring.Aligned 2 := by
  obtain ⟨m, hle, hchunk, hrest, haligned⟩ :=
    h.aligned.receive_records (by decide) sampleBytes_length h.content hmax hreceive
  exact ⟨m, hle, hchunk, hrest, haligned⟩

/-- A task with a frame stores it, or drops old samples. -/
theorem Carries.frameStep [DecidableEq ι] (h : Carries w q) (i : ι) :
    ∃ q', Carries (frameStep i w) q' := by
  unfold CaptureKVMBridge.Usb.frameStep
  split
  · exact ⟨q, h⟩
  next samples _ =>
    obtain ⟨q', h'⟩ := h.send samples
    dsimp only
    split
    · exact ⟨q', h'.setFrame i _⟩
    · exact ⟨q', h'.setFrame i _⟩
  next samples _ =>
    split
    · exact ⟨q, h.setFrame i _⟩
    next chunk ring hreceive =>
      obtain ⟨m, hle, -, hrest, haligned⟩ := h.receive (Nat.dvd_mul_right ..) hreceive
      have hdropped : Carries { w with ring := ring } (q.drop m hle) := by
        refine ⟨haligned, h.even, h.sent, ?_, h.audio⟩
        rw [q.content_drop]
        exact hrest
      exact ⟨_, hdropped.setFrame i _⟩
  next samples _ => exact ⟨q, h.returnItem.setFrame i _⟩
  next samples _ =>
    obtain ⟨q', h'⟩ := h.send samples
    exact ⟨q', h'.setFrame i _⟩

/-- The audio task receives the oldest samples, or writes silence. -/
theorem Carries.inputStep (h : Carries w q) : ∃ q', Carries (inputStep w) q' := by
  have heven := h.even
  unfold CaptureKVMBridge.Usb.inputStep
  split
  · exact ⟨q, h⟩
  next len total hpc =>
    rw [hpc] at heven
    obtain ⟨hlen, htotal⟩ := heven
    split
    · -- silence is not audio
      refine ⟨q, h.aligned, trivial, h.sent, h.content, ?_⟩
      show (w.out ++ _).filterMap OutByte.sample = _
      rw [List.filterMap_append, List.filterMap_replicate]
      exact (List.append_nil _).trans h.audio
    next chunk ring hreceive =>
      obtain ⟨m, hle, hchunk, hrest, haligned⟩ := h.receive (Nat.dvd_sub hlen htotal) hreceive
      refine ⟨q.receive m hle, haligned, ⟨hlen, htotal, ?_⟩, h.sent, ?_, ?_⟩
      · rw [hchunk, ByteRing.length_records sampleBytes_length]
        exact Nat.dvd_mul_right ..
      · rw [q.content_receive]
        exact hrest
      · show (w.out ++ _).filterMap OutByte.sample = (q.received ++ _).flatMap sampleBytes
        have hall : (chunk.map OutByte.audio).filterMap OutByte.sample = chunk := by
          rw [List.filterMap_map]
          exact List.filterMap_some
        rw [List.filterMap_append, hall, List.flatMap_append, ← hchunk]
        exact congrArg (· ++ chunk) h.audio
  next len total fetched hpc =>
    rw [hpc] at heven
    obtain ⟨hlen, htotal, hfetched⟩ := heven
    exact ⟨q, h.aligned.returnItem, whileTotal_even hlen (Nat.dvd_add htotal hfetched), h.sent,
      h.content, h.audio⟩

/-- **Every step keeps the ring carrying a queue of samples.** -/
theorem Carries.exec [DecidableEq ι] (h : Carries w q) (op : AudioOp ι) :
    ∃ q', Carries (audioExec w op) q' := by
  cases op with
  | callFrame i samples =>
    show ∃ q', Carries (callFrame i samples w) q'
    unfold callFrame
    split
    · split
      · exact ⟨q, h⟩
      · exact ⟨q, h.setFrame i _⟩
    · exact ⟨q, h⟩
  | frame i => exact h.frameStep i
  | callInput len heven =>
    show ∃ q', Carries (callInput len w) q'
    unfold callInput
    split
    · exact ⟨q, h.aligned, whileTotal_even heven (Nat.dvd_zero 2), h.sent, h.content, h.audio⟩
    · exact ⟨q, h⟩
  | input => exact h.inputStep

end Steps

/-- **The microphone path keeps samples whole, in order and unduplicated.** In
every run, with any number of tasks that forward frames of any length and a host
that requests whole samples, under any interleaving of their calls: what the
host has been given between the silence are whole samples, and these are, in
order, some of the samples that were stored, none of them twice. -/
theorem audio_keeps_samples [DecidableEq ι] (cfg : Config) (ops : List (AudioOp ι)) :
    let w := runSteps audioExec (audioBoot cfg) ops
    ∃ ds : List (UInt16 × Nat),
      w.audio = ds.flatMap sampleBytes ∧
      ds.Sublist w.sent.zipIdx ∧
      (ds.map Prod.snd).Pairwise (· < ·) ∧
      w.audio.map SampleByte.byte = bytesLE (ds.map Prod.fst) ∧
      (ds.map Prod.fst).Sublist w.sent := by
  intro w
  have hstart : Carries (audioBoot (ι := ι) cfg) .empty :=
    ⟨ByteRing.aligned_create _ (micRingBufferBytes_spec cfg).2, trivial, rfl, rfl, rfl⟩
  obtain ⟨q, h⟩ : ∃ q, Carries w q :=
    runSteps_inv (I := fun w : AudioWorld ι => ∃ q, Carries w q)
      (fun w op h => h.elim fun q h => h.exec op) ⟨_, hstart⟩ ops
  have hsub : q.received.Sublist w.sent.zipIdx := by
    rw [← h.sent]
    exact q.received_sublist_sent
  refine ⟨q.received, h.audio, hsub, ?_, ?_, ?_⟩
  · have hserials : (w.sent.zipIdx.map Prod.snd).Pairwise (· < ·) := by
      rw [List.zipIdx_map_snd]
      exact List.pairwise_lt_range'
    exact hserials.sublist (hsub.map Prod.snd)
  · rw [h.audio, sampleBytes_byte]
  · have hfst := hsub.map Prod.fst
    rwa [List.zipIdx_map_fst] at hfst

/-! ## Items

The ring hands out one item at a time and takes back what it is given; that a
task only gives back the item that it holds is up to the tasks. -/

/-- The task is about to return an item: `none` is the audio task. -/
def AudioWorld.Holds (w : AudioWorld ι) : Option ι → Prop
  | some i => ∃ samples, w.frame i = .returnItem samples
  | none => ∃ len total fetched, w.input = .returnItem len total fetched

/-- A task that holds an item has it checked out, and is alone in that. -/
structure Exclusive (w : AudioWorld ι) : Prop where
  out : ∀ t, w.Holds t → w.ring.out ≠ 0
  one : ∀ t t', w.Holds t → w.Holds t' → t = t'

section Items

variable {w w' : AudioWorld ι} {t : Option ι}

/-- Nobody comes to hold an item. -/
theorem Exclusive.quiet (h : Exclusive w) (hout : w'.ring.out = w.ring.out)
    (hholds : ∀ t, w'.Holds t → w.Holds t) : Exclusive w' where
  out := by
    intro t ht
    rw [hout]
    exact h.out t (hholds t ht)
  one := fun t t' ht ht' => h.one t t' (hholds t ht) (hholds t' ht')

/-- A task takes an item when there is none out. -/
theorem Exclusive.take (h : Exclusive w) (hzero : w.ring.out = 0) (hout : w'.ring.out ≠ 0)
    (hholds : ∀ t', w'.Holds t' → t' = t ∨ w.Holds t') : Exclusive w' := by
  have halone : ∀ t', w'.Holds t' → t' = t := fun t' ht' =>
    (hholds t' ht').resolve_right fun hold => h.out t' hold hzero
  exact ⟨fun _ _ => hout, fun t t' ht ht' => (halone t ht).trans (halone t' ht').symm⟩

/-- The task that holds the item gives it back. -/
theorem Exclusive.give (h : Exclusive w) (ht : w.Holds t)
    (hholds : ∀ t', w'.Holds t' → t' ≠ t ∧ w.Holds t') : Exclusive w' := by
  have hnone : ∀ t', ¬w'.Holds t' := by
    intro t' ht'
    obtain ⟨hne, hold⟩ := hholds t' ht'
    exact hne (h.one t' t hold ht)
  exact ⟨fun t' ht' => absurd ht' (hnone t'), fun t' _ ht' => absurd ht' (hnone t')⟩

/-- A task with a frame that has moved to another call. -/
theorem setFrame_holds [DecidableEq ι] {i : ι} {pc : FramePc} {t : Option ι}
    (h : (w.setFrame i pc).Holds t) :
    (t = some i ∧ ∃ samples, pc = .returnItem samples) ∨ (t ≠ some i ∧ w.Holds t) := by
  cases t with
  | none => exact Or.inr ⟨nofun, h⟩
  | some j =>
    obtain ⟨samples, hpc⟩ := h
    by_cases hj : j = i
    · subst hj
      rw [setFrame_frame] at hpc
      exact Or.inl ⟨rfl, samples, hpc⟩
    · refine Or.inr ⟨fun hji => hj (Option.some.inj hji), samples, ?_⟩
      rwa [setFrame_frame_ne w hj] at hpc

/-- A call that leaves the task without an item, and the ring with what was out. -/
theorem Exclusive.setFrame [DecidableEq ι] (h : Exclusive w) {i : ι} {pc : FramePc}
    (hpc : ∀ samples, pc ≠ .returnItem samples) (hout : w'.ring.out = w.ring.out)
    (hholds : ∀ t, w'.Holds t → w.Holds t) : Exclusive (w'.setFrame i pc) := by
  refine h.quiet hout fun t ht => ?_
  rcases setFrame_holds ht with ⟨-, samples, hitem⟩ | ⟨-, hold⟩
  · exact absurd hitem (hpc samples)
  · exact hholds t hold

theorem Exclusive.frameStep [DecidableEq ι] (h : Exclusive w) (i : ι) :
    Exclusive (frameStep i w) := by
  have hsend : ∀ samples, (w.send samples).2.ring.out = w.ring.out := fun samples =>
    (ByteRing.send_frame ..).2.2
  unfold CaptureKVMBridge.Usb.frameStep
  split
  · exact h
  next samples _ =>
    dsimp only
    split
    · exact h.setFrame nofun (hsend samples) fun _ => id
    · exact h.setFrame nofun (hsend samples) fun _ => id
  next samples _ =>
    split
    · exact h.setFrame nofun rfl fun _ => id
    next chunk ring hreceive =>
      obtain ⟨hmax, hzero, hne, -, rfl⟩ := ByteRing.receiveUpTo_eq_some hreceive
      have hpos := GrantPolicy.full.pos w.ring _ (Nat.pos_of_ne_zero hmax) hne
      refine h.take hzero (Nat.ne_of_gt hpos) (t := some i) fun t ht => ?_
      rcases setFrame_holds ht with ⟨heq, -⟩ | ⟨-, hold⟩
      · exact Or.inl heq
      · exact Or.inr hold
  next samples hpc =>
    refine h.give (t := some i) ⟨samples, hpc⟩ fun t ht => ?_
    rcases setFrame_holds ht with ⟨-, samples', hitem⟩ | ⟨hne, hold⟩
    · cases hitem
    · exact ⟨hne, hold⟩
  next samples _ => exact h.setFrame nofun (hsend samples) fun _ => id

/-- The loop of a request is not about to return. -/
theorem whileTotal_ne (len total len' total' fetched : Nat) :
    whileTotal len total ≠ .returnItem len' total' fetched := by
  unfold whileTotal
  split
  · nofun
  · nofun

/-- The audio task has moved to a call at which it holds nothing. -/
theorem holds_of_input {ring : ByteRing SampleByte} {out : List OutByte} {pc : InputPc}
    (hpc : ∀ len total fetched, pc ≠ .returnItem len total fetched)
    (h : AudioWorld.Holds { w with ring := ring, out := out, input := pc } t) :
    t ≠ none ∧ w.Holds t := by
  cases t with
  | none =>
    obtain ⟨len, total, fetched, hitem⟩ := h
    exact absurd hitem (hpc len total fetched)
  | some i => exact ⟨nofun, h⟩

theorem Exclusive.inputStep (h : Exclusive w) : Exclusive (inputStep w) := by
  unfold CaptureKVMBridge.Usb.inputStep
  split
  · exact h
  next len total _ =>
    split
    · refine h.quiet rfl fun t ht => (holds_of_input ?_ ht).2
      nofun
    next chunk ring hreceive =>
      obtain ⟨hmax, hzero, hne, -, rfl⟩ := ByteRing.receiveUpTo_eq_some hreceive
      have hpos := GrantPolicy.full.pos w.ring _ (Nat.pos_of_ne_zero hmax) hne
      refine h.take hzero (Nat.ne_of_gt hpos) (t := none) fun t ht => ?_
      cases t with
      | none => exact Or.inl rfl
      | some i => exact Or.inr ht
  next len total fetched hpc =>
    refine h.give (t := none) ⟨len, total, fetched, hpc⟩ fun t ht => holds_of_input ?_ ht
    exact whileTotal_ne len (total + fetched)

theorem Exclusive.exec [DecidableEq ι] (h : Exclusive w) (op : AudioOp ι) :
    Exclusive (audioExec w op) := by
  cases op with
  | callFrame i samples =>
    show Exclusive (callFrame i samples w)
    unfold callFrame
    split
    · split
      · exact h
      · exact h.setFrame nofun rfl fun _ => id
    · exact h
  | frame i => exact h.frameStep i
  | callInput len heven =>
    show Exclusive (callInput len w)
    unfold callInput
    split
    · refine h.quiet rfl fun t ht => (holds_of_input ?_ ht).2
      exact whileTotal_ne len 0
    · exact h
  | input => exact h.inputStep

end Items

/-! ## A task that is not interrupted -/

section Frame

variable [DecidableEq ι] {w : AudioWorld ι} {i : ι} {samples : List UInt16}

theorem frameStep_idle (h : w.frame i = .idle) : frameStep i w = w := by
  simp only [frameStep, h]

theorem frameStep_send (w : AudioWorld ι) (i : ι) (samples : List UInt16) :
    frameStep i (w.setFrame i (.send samples)) = (w.send samples).2.setFrame i
      (if (w.send samples).1 then .idle else .receive samples) := by
  have hsend : ∀ pc pc', ((w.setFrame i pc).send samples).2.setFrame i pc'
      = (w.send samples).2.setFrame i pc' := fun _ _ => setFrame_setFrame (w.send samples).2 ..
  simp only [frameStep, setFrame_frame]
  split
  next hok => rw [if_pos (show (w.send samples).1 = true from hok), hsend]
  next hno => rw [if_neg (show ¬(w.send samples).1 = true from hno), hsend]

theorem frameStep_receive_none (h : w.ring.receiveUpTo .full (2 * samples.length) = none) :
    frameStep i (w.setFrame i (.receive samples)) = w.setFrame i .idle := by
  have hring : (w.setFrame i (.receive samples)).ring.receiveUpTo .full (2 * samples.length)
      = none := h
  simp only [frameStep, setFrame_frame, hring, setFrame_setFrame]

theorem frameStep_receive_some {chunk : List SampleByte} {ring : ByteRing SampleByte}
    (h : w.ring.receiveUpTo .full (2 * samples.length) = some (chunk, ring)) :
    frameStep i (w.setFrame i (.receive samples))
      = { w with ring := ring }.setFrame i (.returnItem samples) := by
  have hring : (w.setFrame i (.receive samples)).ring.receiveUpTo .full (2 * samples.length)
      = some (chunk, ring) := h
  simp only [frameStep, setFrame_frame, hring]
  exact setFrame_setFrame { w with ring := ring } i _ _

theorem frameStep_returnItem (w : AudioWorld ι) (i : ι) (samples : List UInt16) :
    frameStep i (w.setFrame i (.returnItem samples))
      = { w with ring := w.ring.returnItem }.setFrame i (.resend samples) := by
  simp only [frameStep, setFrame_frame]
  exact setFrame_setFrame { w with ring := w.ring.returnItem } i _ _

theorem frameStep_resend (w : AudioWorld ι) (i : ι) (samples : List UInt16) :
    frameStep i (w.setFrame i (.resend samples)) = (w.send samples).2.setFrame i .idle := by
  simp only [frameStep, setFrame_frame]
  exact setFrame_setFrame (w.send samples).2 i _ _

/-- The calls of a frame that is not interrupted are the sends of the handler. -/
theorem frameCalls_alone (hidle : w.frame i = .idle) (hne : samples ≠ []) :
    let w' := runSteps audioExec w (.callFrame i samples :: List.replicate 4 (.frame i))
    let r := sendDropOldest .full w.ring (numbered w.sent.length samples)
    w'.ring = r.2 ∧ w'.sent = (if r.1 then w.sent ++ samples else w.sent) ∧
      w'.frame i = .idle := by
  intro w' r
  have hrun : w' = frameStep i (frameStep i (frameStep i (frameStep i
      (w.setFrame i (.send samples))))) := by
    show frameStep i (frameStep i (frameStep i (frameStep i (callFrame i samples w)))) = _
    unfold callFrame
    rw [hidle]
    dsimp only
    rw [if_neg hne]
  have hidles : ∀ v : AudioWorld ι, frameStep i (v.setFrame i .idle) = v.setFrame i .idle :=
    fun v => frameStep_idle (setFrame_frame ..)
  have hlen := numbered_length w.sent.length samples
  rw [hrun, frameStep_send]
  -- with room the first send is the only call; else it receives, returns and sends again
  rcases Nat.lt_or_ge w.ring.free (numbered w.sent.length samples).length with hfull | hroom
  · have hsend : w.send samples = (false, w) := by
      unfold AudioWorld.send
      rw [ByteRing.send_of_gt hfull]
      rfl
    rw [hsend, if_neg Bool.false_ne_true]
    cases hreceive : w.ring.receiveUpTo .full (2 * samples.length) with
    | none =>
      have hr : r = (false, w.ring) := sendDropOldest_none hfull (by rw [hlen, hreceive])
      rw [frameStep_receive_none hreceive, hidles, hidles, hr]
      exact ⟨rfl, rfl, setFrame_frame ..⟩
    | some given =>
      obtain ⟨chunk, ring⟩ := given
      have hr : r = ring.returnItem.send (numbered w.sent.length samples) :=
        sendDropOldest_some hfull (by rw [hlen, hreceive])
      rw [frameStep_receive_some hreceive, frameStep_returnItem, frameStep_resend, hr]
      exact ⟨rfl, rfl, setFrame_frame ..⟩
  · have hr : r = w.ring.send (numbered w.sent.length samples) := sendDropOldest_room hroom
    have hok : (w.send samples).1 = true := (ByteRing.send_of_le hroom).1
    rw [if_pos hok, hidles, hidles, hidles, hr]
    exact ⟨rfl, rfl, setFrame_frame ..⟩

/-- **A frame that is not interrupted** does to the ring what
`usb_hs_handle_microphone_frame` does to the ring without tags, and its samples
are stored exactly if the last send succeeds. -/
theorem frame_alone (hidle : w.frame i = .idle) (hne : samples ≠ []) :
    let w' := runSteps audioExec w (.callFrame i samples :: List.replicate 4 (.frame i))
    let r := sendDropOldest .full w.ring (numbered w.sent.length samples)
    w'.frame i = .idle ∧ w'.sent = (if r.1 then w.sent ++ samples else w.sent) ∧
      ∀ m : MicWorld, m.ring = w.ring.map SampleByte.byte →
        (usbHsHandleMicrophoneFrame .full (some ⟨samples⟩) m).ring
          = w'.ring.map SampleByte.byte := by
  intro w' r
  obtain ⟨hring, hsent, hidle'⟩ := frameCalls_alone hidle hne
  refine ⟨hidle', hsent, fun m hm => ?_⟩
  have hmap := sendDropOldest_map SampleByte.byte w.ring (numbered w.sent.length samples)
  rw [numbered_byte, ← hm] at hmap
  rw [handleMicrophoneFrame_ring, hmap]
  exact congrArg (ByteRing.map SampleByte.byte) hring.symm

end Frame

section Input

variable {w : AudioWorld ι} {len total fetched : Nat}

theorem inputStep_receive_none (hpc : w.input = .receive len total)
    (h : w.ring.receiveUpTo .full (len - total) = none) :
    inputStep w
      = { w with out := w.out ++ List.replicate (len - total) .padding, input := .idle } := by
  simp only [inputStep, hpc, h]

theorem inputStep_receive_some (hpc : w.input = .receive len total) {chunk : List SampleByte}
    {ring : ByteRing SampleByte}
    (h : w.ring.receiveUpTo .full (len - total) = some (chunk, ring)) :
    inputStep w
      = { w with
          ring := ring
          out := w.out ++ chunk.map .audio
          input := .returnItem len total chunk.length } := by
  simp only [inputStep, hpc, h]

theorem inputStep_returnItem (hpc : w.input = .returnItem len total fetched) :
    inputStep w
      = { w with ring := w.ring.returnItem, input := whileTotal len (total + fetched) } := by
  simp only [inputStep, hpc]

/-- The loop of a request that is not interrupted. The induction is on a bound
of the content, which every round shortens. -/
theorem inputLoop_alone [DecidableEq ι] (len : Nat) :
    ∀ (bound : Nat) (w : AudioWorld ι) (total : Nat), w.ring.content.length < bound →
      w.ring.out = 0 → w.input = whileTotal len total → total ≤ len →
      ∃ n w', runSteps audioExec w (List.replicate n .input) = w' ∧ w'.input = .idle ∧
        w'.ring.content = w.ring.content.drop (len - total) ∧
        w'.out = w.out ++ (w.ring.content.take (len - total)).map .audio
          ++ List.replicate (len - total - w.ring.content.length) .padding := by
  intro bound
  induction bound with
  | zero => intro w total hbound; exact absurd hbound (Nat.not_lt_zero _)
  | succ bound ih =>
    intro w total hbound hout hpc htotal
    unfold whileTotal at hpc
    rcases Nat.lt_or_ge total len with hlt | hge
    · rw [if_pos hlt] at hpc
      by_cases hempty : w.ring.content = []
      · -- nothing to receive: the rest is silence
        have hstep := inputStep_receive_none hpc
          (ByteRing.receiveUpTo_none (Or.inr (Or.inr hempty)))
        refine ⟨1, inputStep w, rfl, ?_⟩
        rw [hstep]
        simp [hempty]
      · obtain ⟨n, hcontig, hpos, hmax, -, hreceive⟩ :=
          ByteRing.receiveUpTo_grants .full (Nat.sub_ne_zero_of_lt hlt) hout hempty
        have hle := Nat.le_trans hcontig w.ring.contiguous_le
        have hchunk : (w.ring.content.take n).length = n := List.length_take_of_le hle
        have hrest : (w.ring.checkOut n hcontig).returnItem.content = w.ring.content.drop n := rfl
        -- one round: a piece is copied and returned
        have hround : inputStep (inputStep w)
            = { w with
                ring := (w.ring.checkOut n hcontig).returnItem
                out := w.out ++ (w.ring.content.take n).map .audio
                input := whileTotal len (total + n) } := by
          rw [inputStep_receive_some hpc hreceive, inputStep_returnItem rfl, hchunk]
        obtain ⟨k, w', hrun, hidle, hcontent, hbytes⟩ := ih (inputStep (inputStep w)) (total + n)
          (by rw [hround, hrest, List.length_drop]; omega) (by rw [hround]; rfl)
          (by rw [hround]) (by omega)
        have hlen : len - total = n + (len - (total + n)) := by omega
        refine ⟨k + 2, w', hrun, hidle, ?_, ?_⟩
        · rw [hcontent, hround, hrest, List.drop_drop, ← hlen]
        · rw [hbytes, hround, hrest]
          dsimp only
          rw [List.append_assoc w.out, ← List.map_append, hlen, List.take_add, List.length_drop]
          congr 2
          omega
    · rw [if_neg (Nat.not_lt.mpr hge)] at hpc
      have hzero : len - total = 0 := by omega
      refine ⟨0, w, rfl, hpc, ?_, ?_⟩
      · rw [hzero, List.drop_zero]
      · rw [hzero, Nat.zero_sub, List.take_zero]
        simp

/-- **A request that is not interrupted** takes from the ring and writes what
`uac_input_cb` does, for any policy of the receives. -/
theorem input_alone [DecidableEq ι] (hidle : w.input = .idle) (hout : w.ring.out = 0)
    (heven : 2 ∣ len) :
    ∃ n w' written,
      runSteps audioExec w (.callInput len heven :: List.replicate n .input) = w' ∧
      w'.input = .idle ∧ w'.out = w.out ++ written ∧
      ∀ (pol : GrantPolicy UInt8) (fuel : Nat) (buf : Memory) (m : MicWorld), m.ring.out = 0 →
        m.ring.content = w.ring.content.map SampleByte.byte → m.ring.content.length < fuel →
        ∃ m', uacInputCb pol fuel len buf m
            = some (m', buf.write 0 (written.map OutByte.byte), len) ∧
          m'.ring.content = w'.ring.content.map SampleByte.byte := by
  have hcall : callInput len w = { w with input := whileTotal len 0 } := by
    simp only [callInput, hidle]
  obtain ⟨n, w', hrun, hidle', hcontent, hbytes⟩ := inputLoop_alone len _
    { w with input := whileTotal len 0 } 0 (Nat.lt_succ_self _) hout rfl (Nat.zero_le _)
  rw [Nat.sub_zero] at hcontent
  rw [Nat.sub_zero, List.append_assoc] at hbytes
  dsimp only at hcontent hbytes
  refine ⟨n, w', _, ?_, hidle', hbytes, ?_⟩
  · rw [← hrun, ← hcall]
    rfl
  · intro pol fuel buf m hm hsame hfuel
    obtain ⟨ring', hcb, hcontent', -⟩ := uacInputCb_run pol m hm buf len fuel hfuel
    have hwritten : m.ring.content.take len ++ List.replicate (len - m.ring.content.length) 0
        = ((w.ring.content.take len).map OutByte.audio
          ++ List.replicate (len - w.ring.content.length) OutByte.padding).map OutByte.byte := by
      rw [List.map_append, List.map_map, List.map_replicate, hsame, List.length_map,
        ← List.map_take]
      rfl
    rw [hwritten] at hcb
    refine ⟨_, hcb, ?_⟩
    rw [hcontent', hcontent, hsame, List.map_drop]

end Input

end CaptureKVMBridge.Usb
