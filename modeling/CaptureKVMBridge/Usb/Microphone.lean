import Mathlib.Data.Stream.Init
import CaptureKVMBridge.Machine.ByteRing
import CaptureKVMBridge.Tlv.Protocol

/-!
# `usb_hs_device.c`: the microphone half

`usb_hs_handle_microphone_frame` puts the bytes of a frame into a ring buffer and
drops the oldest ones when they do not fit; `uac_input_cb` takes what the host
asks for out of it and pads with silence.

Both are specified here for a caller that has the ring to itself.
`uacInputCb_spec`: the callback delivers the front of the ring, across the
physical end, whatever size the pieces have. `dropsOldest_iff`: the drop makes
room for the new frame unless the front of the ring is cut off by the physical
end too early, in which case both the old and the new audio are lost
(`dropsOldest_fails`).

Mirroring notes:
- `s_mic_ring` has been created. What `xRingbufferReceiveUpTo` hands out is the
  policy `pol`; the driver's is `GrantPolicy.full`.
- `buf` is the memory behind the pointer. The loop has fuel, and `none` is out of
  fuel.
- The log line about a drop is left out, with the free size it prints; the time
  of the last one is kept.
-/

namespace CaptureKVMBridge.Usb

open CaptureKVMBridge.Machine CaptureKVMBridge.Tlv

/-! ## State -/

/-- `MIC_RING_BUFFER_BYTES_RAW`; a symbol that is not defined is `0` in an `#if`. -/
def micRingBufferBytesRaw : Option UacConfig → Nat
  | some u => (u.sampleRate + 999) / 1000 * u.micChannelNum * 2 * u.micIntervalMs * 24
  | none => 0

/-- `MIC_RING_BUFFER_BYTES`. -/
def micRingBufferBytes (cfg : Config) : Nat :=
  if cfg.appEnableUsbAudio then
    if micRingBufferBytesRaw cfg.uac < 4096 then 4096 else micRingBufferBytesRaw cfg.uac
  else 16 * 1024

/-- The ring holds whole samples, and at least 4 kB of them. -/
theorem micRingBufferBytes_spec (cfg : Config) :
    4096 ≤ micRingBufferBytes cfg ∧ 2 ∣ micRingBufferBytes cfg := by
  have heven : 2 ∣ micRingBufferBytesRaw cfg.uac := by
    cases cfg.uac with
    | none => exact Nat.dvd_zero 2
    | some u => exact Dvd.dvd.mul_left (by decide) _
  unfold micRingBufferBytes
  split
  · split
    · decide
    next hge => exact ⟨Nat.le_of_not_lt hge, heven⟩
  · decide

theorem micRingBufferBytes_pos (cfg : Config) : 0 < micRingBufferBytes cfg :=
  Nat.lt_of_lt_of_le (by decide) (micRingBufferBytes_spec cfg).1

/-- The ring, the statics of the microphone half, and the state they act on. -/
structure MicWorld where
  ring : ByteRing UInt8
  lastMicDropLogUs : Int
  app : AppState
  timer : Stream' Int

/-- After the ring was created. -/
def micBoot (cfg : Config) (app : AppState) (timer : Stream' Int) : MicWorld where
  ring := ByteRing.create (micRingBufferBytes cfg) (micRingBufferBytes_pos cfg)
  lastMicDropLogUs := 0
  app := app
  timer := timer

/-! ## Into the ring -/

/-- `xRingbufferSend`, and once more after the oldest bytes were received and
returned; the answer is the final `sent`. -/
def sendDropOldest {β : Type} (pol : GrantPolicy β) (ring : ByteRing β) (bytes : List β) :
    Bool × ByteRing β :=
  let first := ring.send bytes
  if first.1 then first
  else
    match first.2.receiveUpTo pol bytes.length with
    | none => first
    | some (_, ring) => ring.returnItem.send bytes

/-- What is left of the drop's log line: at most one every half second. -/
def noteMicDrop (w : MicWorld) : MicWorld :=
  { w with
    timer := w.timer.tail
    lastMicDropLogUs :=
      if w.timer.head - w.lastMicDropLogUs > 500000 then w.timer.head else w.lastMicDropLogUs }

/-- `usb_hs_handle_microphone_frame`. -/
def usbHsHandleMicrophoneFrame (pol : GrantPolicy UInt8) (frame : Option UsbMicrophoneFrame)
    (w : MicWorld) : MicWorld :=
  match frame with
  | none => w
  | some frame =>
    if frame.samples = [] then w
    else
      let r := sendDropOldest pol w.ring (bytesLE frame.samples)
      if r.1 = false then noteMicDrop { w with ring := r.2 }
      else
        { w with
          ring := r.2
          app := appStateMarkFeatureUsage w.app w.timer.head false false true
          timer := w.timer.tail }

/-! ## Out of the ring -/

/-- The loop of `uac_input_cb`: the ring, the memory and `total` behind it. -/
def uacInputLoop (pol : GrantPolicy UInt8) (len : Nat) :
    Nat → ByteRing UInt8 → Memory → Nat → Option (ByteRing UInt8 × Memory × Nat)
  | 0, _, _, _ => none
  | fuel + 1, ring, buf, total =>
    if total < len then
      match ring.receiveUpTo pol (len - total) with
      | none => some (ring, buf, total)
      | some (chunk, ring) =>
        uacInputLoop pol len fuel ring.returnItem (buf.write total chunk) (total + chunk.length)
    else some (ring, buf, total)

/-- `uac_input_cb`; the last component is `*bytes_read`. -/
def uacInputCb (pol : GrantPolicy UInt8) (fuel len : Nat) (buf : Memory) (w : MicWorld) :
    Option (MicWorld × Memory × Nat) :=
  (uacInputLoop pol len fuel w.ring buf 0).map fun (ring, buf, total) =>
    if total < len then
      ({ w with ring := ring }, buf.write total (List.replicate (len - total) 0), len)
    else
      ({ w with ring := ring, app := appStateUpdateUsbState w.app .streaming }, buf, len)

/-! ## The callback alone with the ring -/

/-- **The loop takes the front of the content**, in pieces of any size. The
induction is on the fuel; each piece shortens the content. -/
theorem uacInputLoop_spec (pol : GrantPolicy UInt8) (len : Nat) :
    ∀ (fuel : Nat) (ring : ByteRing UInt8) (buf : Memory) (total : Nat), ring.out = 0 →
      ring.content.length < fuel → total ≤ len →
      ∃ ring', uacInputLoop pol len fuel ring buf total
          = some (ring', buf.write total (ring.content.take (len - total)),
              total + min (len - total) ring.content.length) ∧
        ring'.content = ring.content.drop (len - total) ∧ ring'.capacity = ring.capacity ∧
        ring'.out = 0 ∧
        ring'.readPos = (ring.readPos + min (len - total) ring.content.length) % ring.capacity := by
  intro fuel
  induction fuel with
  | zero => intro ring buf total _ hfuel; exact absurd hfuel (Nat.not_lt_zero _)
  | succ fuel ih =>
    intro ring buf total hout hfuel htotal
    have hpos0 : ring.readPos = (ring.readPos + 0) % ring.capacity :=
      (Nat.mod_eq_of_lt ring.readPos_lt).symm
    unfold uacInputLoop
    rcases Nat.lt_or_ge total len with hlt | hge
    · rw [if_pos hlt]
      by_cases hempty : ring.content = []
      · rw [ByteRing.receiveUpTo_none (Or.inr (Or.inr hempty)), hempty, List.take_nil,
          List.drop_nil, Memory.write_nil, List.length_nil, Nat.min_zero, Nat.add_zero]
        exact ⟨ring, rfl, hempty, rfl, hout, hpos0⟩
      -- a piece of some length; the rest of the loop is on a shorter content
      · obtain ⟨n, hcontig, hpos, hmax, -, hreceive⟩ :=
          ByteRing.receiveUpTo_grants pol (Nat.sub_ne_zero_of_lt hlt) hout hempty
        rw [hreceive]
        dsimp only
        have hle := Nat.le_trans hcontig ring.contiguous_le
        have hchunk : (ring.content.take n).length = n := List.length_take_of_le hle
        have hrest : (ring.checkOut n hcontig).returnItem.content = ring.content.drop n := rfl
        obtain ⟨ring', hrun, hcontent, hcap, hout', hreadPos⟩ :=
          ih (ring.checkOut n hcontig).returnItem (buf.write total (ring.content.take n))
            (total + n) rfl (by rw [hrest, List.length_drop]; omega) (by omega)
        have hlen : len - total = n + (len - (total + n)) := by omega
        refine ⟨ring', ?_, ?_, hcap, hout', ?_⟩
        · rw [hchunk, hrun, hrest, List.length_drop]
          have hwrite := Memory.write_write buf total (ring.content.take n)
            ((ring.content.drop n).take (len - (total + n)))
          rw [hchunk, ← List.take_add, ← hlen] at hwrite
          rw [hwrite]
          congr 3
          omega
        · rw [hcontent, hrest, List.drop_drop, ← hlen]
        · rw [hreadPos, hrest, List.length_drop]
          show ((ring.readPos + n) % ring.capacity + _) % ring.capacity = _
          rw [Nat.mod_add_mod, Nat.add_assoc]
          congr 2
          omega
    · rw [if_neg (Nat.not_lt.mpr hge)]
      have hzero : len - total = 0 := by omega
      rw [hzero, List.take_zero, List.drop_zero, Memory.write_nil, Nat.zero_min, Nat.add_zero]
      exact ⟨ring, rfl, rfl, rfl, hout, hpos0⟩

/-- What a call of `uac_input_cb` leaves: the front of the ring in the memory,
padded, and the display at streaming if there was enough. -/
theorem uacInputCb_run (pol : GrantPolicy UInt8) (w : MicWorld) (hout : w.ring.out = 0)
    (buf : Memory) (len fuel : Nat) (hfuel : w.ring.content.length < fuel) :
    ∃ ring', uacInputCb pol fuel len buf w
        = some ({ w with
              ring := ring'
              app := if len ≤ w.ring.content.length then appStateUpdateUsbState w.app .streaming
                else w.app },
            buf.write 0
              (w.ring.content.take len ++ List.replicate (len - w.ring.content.length) 0), len) ∧
      ring'.content = w.ring.content.drop len ∧ ring'.capacity = w.ring.capacity ∧
      ring'.out = 0 ∧
      ring'.readPos = (w.ring.readPos + min len w.ring.content.length) % w.ring.capacity := by
  obtain ⟨ring', hrun, hrest⟩ :=
    uacInputLoop_spec pol len fuel w.ring buf 0 hout hfuel (Nat.zero_le _)
  rw [Nat.sub_zero] at hrun hrest
  refine ⟨ring', ?_, hrest⟩
  unfold uacInputCb
  rw [hrun, Option.map_some]
  dsimp only
  rcases Nat.lt_or_ge w.ring.content.length len with hlt | hge
  · have hwrite := Memory.write_write buf 0 (w.ring.content.take len)
      (List.replicate (len - w.ring.content.length) 0)
    rw [List.length_take, Nat.min_eq_right (Nat.le_of_lt hlt)] at hwrite
    rw [Nat.min_eq_right (Nat.le_of_lt hlt), if_pos (by omega), if_neg (Nat.not_le.mpr hlt),
      Nat.zero_add, ← hwrite, Nat.zero_add]
  · rw [Nat.min_eq_left hge, if_neg (by omega), if_pos hge, Nat.sub_eq_zero_of_le hge,
      List.replicate_zero, List.append_nil]

/-- **`uac_input_cb` reads the oldest available audio and pads the rest.** With
nothing checked out and more fuel than the ring has bytes the loop ends; `buf`
holds the first `min len available` bytes of the ring and zeros up to `len`, and
nothing behind `len` is written; the ring holds the remaining bytes;
`*bytes_read` is `len`; and the published state becomes `STREAMING` if there were
at least `len` bytes, and is left alone if there were fewer. Nothing else of the
status is written. -/
theorem uacInputCb_spec (pol : GrantPolicy UInt8) (w : MicWorld) (hout : w.ring.out = 0)
    (buf : Memory) (len fuel : Nat) (hfuel : w.ring.content.length < fuel) :
    ∃ w' buf', uacInputCb pol fuel len buf w = some (w', buf', len) ∧
      buf' = buf.write 0
        (w.ring.content.take len ++ List.replicate (len - w.ring.content.length) 0) ∧
      (∀ i, len ≤ i → buf' i = buf i) ∧
      w'.ring.content = w.ring.content.drop len ∧ w'.ring.capacity = w.ring.capacity ∧
      w'.ring.out = 0 ∧
      w'.ring.readPos = (w.ring.readPos + min len w.ring.content.length) % w.ring.capacity ∧
      w'.app.snapshot.hsState = (if len ≤ w.ring.content.length then .streaming
        else w.app.snapshot.hsState) ∧
      w'.app = (if len ≤ w.ring.content.length then appStateUpdateUsbState w.app .streaming
        else w.app) ∧
      w'.timer = w.timer ∧ w'.lastMicDropLogUs = w.lastMicDropLogUs := by
  obtain ⟨ring', hrun, hcontent, hcap, hout', hreadPos⟩ :=
    uacInputCb_run pol w hout buf len fuel hfuel
  refine ⟨_, _, hrun, rfl, fun i hi => ?_, hcontent, hcap, hout', hreadPos, ?_, rfl, rfl, rfl⟩
  · apply Memory.write_of_ge
    rw [List.length_append, List.length_take, List.length_replicate]
    omega
  · dsimp only
    split
    · rfl
    · rfl

/-- Three bytes across the physical end: four asked for, and two. -/
theorem uacInputCb_spec_wrapped :
    let ring : ByteRing UInt8 := ⟨4, 3, [1, 2, 3], 0, by decide, by decide⟩
    let w : MicWorld := ⟨ring, 0, appStateInit 0, Stream'.const 0⟩
    (∃ w' buf', uacInputCb GrantPolicy.full 4 4 (fun _ => 0xFF) w = some (w', buf', 4) ∧
      (List.range 5).map buf' = [1, 2, 3, 0, 0xFF] ∧ w'.ring.content = [] ∧
      w'.app.snapshot.hsState = .disconnected) ∧
    ∃ w' buf', uacInputCb GrantPolicy.full 4 2 (fun _ => 0xFF) w = some (w', buf', 2) ∧
      (List.range 5).map buf' = [1, 2, 0xFF, 0xFF, 0xFF] ∧ w'.ring.content = [3] ∧
      w'.app.snapshot.hsState = .streaming := by
  intro ring w
  constructor
  · obtain ⟨w', buf', hrun, hbuf, -, hcontent, -, -, -, hstate, -⟩ :=
      uacInputCb_spec GrantPolicy.full w rfl (fun _ => 0xFF) 4 4 (by decide)
    refine ⟨w', buf', hrun, ?_, hcontent, hstate⟩
    rw [hbuf]
    decide
  · obtain ⟨w', buf', hrun, hbuf, -, hcontent, -, -, -, hstate, -⟩ :=
      uacInputCb_spec GrantPolicy.full w rfl (fun _ => 0xFF) 2 4 (by decide)
    refine ⟨w', buf', hrun, ?_, hcontent, hstate⟩
    rw [hbuf]
    decide

/-! ## The handler alone with the ring -/

/-- What the drop of old audio is for: a frame that can fit at all is stored,
behind what is left of the old content; and a frame that is not stored costs
nothing. -/
structure DropsOldest {β : Type} (ring : ByteRing β) (bytes : List β) (sent : Bool)
    (ring' : ByteRing β) : Prop where
  stored : bytes.length ≤ ring.capacity →
    sent = true ∧ ∃ kept, kept <:+ ring.content ∧ ring'.content = kept ++ bytes
  kept : sent = false → ring'.content = ring.content

section SendDropOldest

variable {β : Type} {pol : GrantPolicy β} {ring : ByteRing β} {bytes : List β}

theorem sendDropOldest_room (h : bytes.length ≤ ring.free) :
    sendDropOldest pol ring bytes = ring.send bytes := by
  unfold sendDropOldest
  exact if_pos (ByteRing.send_of_le h).1

theorem sendDropOldest_none (hfull : ring.free < bytes.length)
    (h : ring.receiveUpTo pol bytes.length = none) :
    sendDropOldest pol ring bytes = (false, ring) := by
  unfold sendDropOldest
  rw [ByteRing.send_of_gt hfull]
  dsimp only
  rw [if_neg Bool.false_ne_true, h]

theorem sendDropOldest_some (hfull : ring.free < bytes.length) {chunk : List β}
    {ring' : ByteRing β} (h : ring.receiveUpTo pol bytes.length = some (chunk, ring')) :
    sendDropOldest pol ring bytes = ring'.returnItem.send bytes := by
  unfold sendDropOldest
  rw [ByteRing.send_of_gt hfull]
  dsimp only
  rw [if_neg Bool.false_ne_true, h]

/-- Nothing stays checked out. -/
theorem sendDropOldest_out (pol : GrantPolicy β) (ring : ByteRing β) (bytes : List β)
    (hout : ring.out = 0) : (sendDropOldest pol ring bytes).2.out = 0 := by
  rcases Nat.lt_or_ge ring.free bytes.length with hfull | hroom
  · cases hreceive : ring.receiveUpTo pol bytes.length with
    | none =>
      rw [sendDropOldest_none hfull hreceive]
      exact hout
    | some given =>
      rw [sendDropOldest_some hfull hreceive]
      exact (ByteRing.send_frame ..).2.2
  · rw [sendDropOldest_room hroom]
    exact (ByteRing.send_frame ..).2.2.trans hout

/-- Whatever the bytes are tagged with, the sends do the same. -/
theorem sendDropOldest_map {γ : Type} (f : β → γ) (ring : ByteRing β) (bytes : List β) :
    sendDropOldest .full (ring.map f) (bytes.map f)
      = ((sendDropOldest .full ring bytes).1, (sendDropOldest .full ring bytes).2.map f) := by
  have hlen : (bytes.map f).length = bytes.length := List.length_map f
  rcases Nat.lt_or_ge ring.free bytes.length with hfull | hroom
  · have hfull' : (ring.map f).free < (bytes.map f).length := by rwa [hlen, ByteRing.map_free]
    have hmap := ByteRing.receiveUpTo_map f ring bytes.length
    cases hreceive : ring.receiveUpTo .full bytes.length with
    | none =>
      rw [hreceive] at hmap
      rw [sendDropOldest_none hfull hreceive, sendDropOldest_none hfull' (by rw [hlen]; exact hmap)]
    | some given =>
      rw [hreceive] at hmap
      rw [sendDropOldest_some hfull hreceive, sendDropOldest_some hfull' (by rw [hlen]; exact hmap)]
      exact ByteRing.send_map f given.2.returnItem bytes
  · rw [sendDropOldest_room hroom, sendDropOldest_room (by rwa [hlen, ByteRing.map_free])]
    exact ByteRing.send_map f ring bytes

end SendDropOldest

/-- One eviction frees what lies before the physical end, but no more than the
frame needs. -/
theorem sendDropOldest_evicts {β : Type} {ring : ByteRing β} (hout : ring.out = 0)
    (hne : ring.content ≠ []) {bytes : List β} (hfull : ring.free < bytes.length) :
    ∃ n, n = min bytes.length ring.contiguous ∧ 0 < n ∧
      (bytes.length ≤ ring.free + n →
        (sendDropOldest GrantPolicy.full ring bytes).1 = true ∧
        (sendDropOldest GrantPolicy.full ring bytes).2.content = ring.content.drop n ++ bytes) ∧
      (ring.free + n < bytes.length →
        (sendDropOldest GrantPolicy.full ring bytes).1 = false ∧
        (sendDropOldest GrantPolicy.full ring bytes).2.content = ring.content.drop n) := by
  obtain ⟨n, hcontig, hpos, -, hn, hreceive⟩ :=
    ByteRing.receiveUpTo_grants GrantPolicy.full (Nat.ne_zero_of_lt hfull) hout hne
  have hle := Nat.le_trans hcontig ring.contiguous_le
  have hfits := ring.fits
  have hfree : (ring.checkOut n hcontig).returnItem.free = ring.free + n := by
    show ring.capacity - (0 + (ring.content.drop n).length)
      = ring.capacity - (ring.out + ring.content.length) + n
    rw [List.length_drop]
    omega
  rw [sendDropOldest_some hfull hreceive]
  refine ⟨n, hn, hpos, fun h => ?_, fun h => ?_⟩
  · obtain ⟨hsent, hcontent, -⟩ := ByteRing.send_of_le (hfree ▸ h)
    exact ⟨hsent, hcontent⟩
  · rw [ByteRing.send_of_gt (hfree ▸ h)]
    exact ⟨rfl, rfl⟩

/-- **When dropping the oldest makes room.** Exactly when the free space and the
content up to the physical end can hold the frame, or there is no old content. -/
theorem dropsOldest_iff {β : Type} (ring : ByteRing β) (hout : ring.out = 0) (bytes : List β) :
    DropsOldest ring bytes (sendDropOldest GrantPolicy.full ring bytes).1
        (sendDropOldest GrantPolicy.full ring bytes).2 ↔
      bytes.length ≤ ring.free + ring.contiguous ∨ ring.content = [] := by
  rcases Nat.lt_or_ge ring.free bytes.length with hfull | hroom
  · by_cases hempty : ring.content = []
    · -- nothing to drop: the frame is larger than the ring
      have hnone := (ByteRing.receiveUpTo_none (Or.inr (Or.inr hempty)) :
        ring.receiveUpTo GrantPolicy.full bytes.length = none)
      have hcap : ring.free = ring.capacity := by
        rw [ByteRing.free, hout, hempty]
        rfl
      rw [sendDropOldest_none hfull hnone]
      refine iff_of_true ⟨fun hle => ?_, fun _ => rfl⟩ (Or.inr hempty)
      omega
    · obtain ⟨n, hn, hpos, hstored, hlost⟩ := sendDropOldest_evicts hout hempty hfull
      have hcontiguous := ring.contiguous_le
      have hfits := ring.fits
      have hfree : ring.free + ring.content.length = ring.capacity := by
        unfold ByteRing.free
        omega
      -- what was dropped may still be too little: then the frame is lost as well
      rcases Nat.lt_or_ge (ring.free + n) bytes.length with hlt | hle
      · obtain ⟨hsent, hcontent⟩ := hlost hlt
        refine iff_of_false (fun h => ?_) (fun h => ?_)
        · have hkept := congrArg List.length (h.kept hsent)
          rw [hcontent, List.length_drop] at hkept
          omega
        · rcases h with h | h
          · omega
          · exact hempty h
      · obtain ⟨hsent, hcontent⟩ := hstored hle
        refine iff_of_true ⟨fun _ => ⟨hsent, _, List.drop_suffix _ _, hcontent⟩, fun h => ?_⟩ ?_
        · rw [hsent] at h
          cases h
        · left
          omega
  · obtain ⟨hsent, hcontent, -⟩ := ByteRing.send_of_le hroom
    rw [sendDropOldest_room hroom]
    refine iff_of_true ⟨fun _ => ⟨hsent, _, List.suffix_rfl, hcontent⟩, fun h => ?_⟩ ?_
    · rw [hsent] at h
      cases h
    · left
      omega

/-- The handler leaves the ring as the two sends do; a frame without samples,
which it ignores, would not change it. -/
theorem handleMicrophoneFrame_ring (pol : GrantPolicy UInt8) (frame : UsbMicrophoneFrame)
    (w : MicWorld) :
    (usbHsHandleMicrophoneFrame pol (some frame) w).ring
      = (sendDropOldest pol w.ring (bytesLE frame.samples)).2 := by
  unfold usbHsHandleMicrophoneFrame
  dsimp only
  split
  next hnil =>
    rw [hnil, bytesLE, sendDropOldest, ByteRing.send_nil]
    rfl
  · split <;> rfl

/-- A frame marks an activity at most: the published state is as before, and
nothing stays checked out. -/
theorem handleMicrophoneFrame_frame (pol : GrantPolicy UInt8) (frame : Option UsbMicrophoneFrame)
    (w : MicWorld) :
    (usbHsHandleMicrophoneFrame pol frame w).app.snapshot.hsState = w.app.snapshot.hsState ∧
    (w.ring.out = 0 → (usbHsHandleMicrophoneFrame pol frame w).ring.out = 0) := by
  cases frame with
  | none => exact ⟨rfl, id⟩
  | some frame =>
    constructor
    · unfold usbHsHandleMicrophoneFrame
      dsimp only
      split
      · rfl
      · split <;> rfl
    · intro hout
      rw [handleMicrophoneFrame_ring]
      exact sendDropOldest_out pol w.ring _ hout

/-- **`usb_hs_handle_microphone_frame` keeps the newest audio** exactly when the
free space and the content up to the physical end can hold the frame, or the ring
is empty. -/
theorem handleMicrophoneFrame_dropsOldest_iff (w : MicWorld) (hout : w.ring.out = 0)
    (frame : UsbMicrophoneFrame) :
    DropsOldest w.ring (bytesLE frame.samples)
        (sendDropOldest GrantPolicy.full w.ring (bytesLE frame.samples)).1
        (usbHsHandleMicrophoneFrame GrantPolicy.full (some frame) w).ring ↔
      (bytesLE frame.samples).length ≤ w.ring.free + w.ring.contiguous ∨ w.ring.content = [] := by
  rw [handleMicrophoneFrame_ring]
  exact dropsOldest_iff w.ring hout (bytesLE frame.samples)

/-- A full ring whose front is not cut off. -/
theorem handleMicrophoneFrame_dropsOldest_full :
    let ring : ByteRing UInt8 := ⟨4, 0, [1, 2, 3, 4], 0, by decide, by decide⟩
    let w : MicWorld := ⟨ring, 0, appStateInit 0, Stream'.const 0⟩
    DropsOldest ring [0xCD, 0xAB] true
      (usbHsHandleMicrophoneFrame GrantPolicy.full (some ⟨[0xABCD]⟩) w).ring := by
  intro ring w
  exact (handleMicrophoneFrame_dropsOldest_iff w rfl ⟨[0xABCD]⟩).mpr (Or.inl (by decide))

/-! ## A full ring that is about to wrap -/

/-- The states that frames and audio requests lead to. -/
inductive MicReachable (cfg : Config) : MicWorld → Prop where
  | boot (app : AppState) (timer : Stream' Int) : MicReachable cfg (micBoot cfg app timer)
  | frame {w : MicWorld} (hw : MicReachable cfg w) (frame : UsbMicrophoneFrame) :
    MicReachable cfg (usbHsHandleMicrophoneFrame GrantPolicy.full (some frame) w)
  | request {w w' : MicWorld} {buf buf' : Memory} {fuel len bytesRead : Nat}
    (hw : MicReachable cfg w)
    (hrun : uacInputCb GrantPolicy.full fuel len buf w = some (w', buf', bytesRead)) :
    MicReachable cfg w'

/-- A reachable state with so many bytes in the ring from a position on. -/
structure AtLevel (cfg : Config) (w : MicWorld) (readPos level : Nat) : Prop where
  reachable : MicReachable cfg w
  capacity : w.ring.capacity = micRingBufferBytes cfg
  readPos : w.ring.readPos = readPos
  level : w.ring.content.length = level
  out : w.ring.out = 0

theorem atLevel_boot (cfg : Config) (app : AppState) (timer : Stream' Int) :
    AtLevel cfg (micBoot cfg app timer) 0 0 :=
  ⟨.boot app timer, rfl, rfl, rfl, rfl⟩

/-- A frame that fits raises the level. -/
theorem AtLevel.frame {cfg : Config} {w : MicWorld} {readPos level : Nat}
    (h : AtLevel cfg w readPos level) (samples : Nat)
    (hfits : level + 2 * samples ≤ micRingBufferBytes cfg) :
    ∃ w', AtLevel cfg w' readPos (level + 2 * samples) := by
  have hlen : (bytesLE (List.replicate samples 0)).length = 2 * samples := by
    rw [bytesLE_length, List.length_replicate]
  have hroom : (bytesLE (List.replicate samples 0)).length ≤ w.ring.free := by
    rw [hlen, ByteRing.free, h.capacity, h.level, h.out]
    omega
  obtain ⟨-, hcontent, hpos, hcap, hout⟩ := ByteRing.send_of_le hroom
  have hring :
      (usbHsHandleMicrophoneFrame GrantPolicy.full (some ⟨List.replicate samples 0⟩) w).ring
        = (w.ring.send (bytesLE (List.replicate samples 0))).2 := by
    rw [handleMicrophoneFrame_ring, sendDropOldest_room hroom]
  refine ⟨_, h.reachable.frame ⟨List.replicate samples 0⟩, ?_, ?_, ?_, ?_⟩
  · rw [hring, hcap, h.capacity]
  · rw [hring, hpos, h.readPos]
  · rw [hring, hcontent, List.length_append, h.level, hlen]
  · rw [hring, hout, h.out]

/-- A request that can be served lowers it and moves on. -/
theorem AtLevel.request {cfg : Config} {w : MicWorld} {readPos level : Nat}
    (h : AtLevel cfg w readPos level) {len : Nat} (hlen : len ≤ level) :
    ∃ w', AtLevel cfg w' ((readPos + len) % micRingBufferBytes cfg) (level - len) := by
  obtain ⟨ring', hrun, hcontent, hcap, hout, hreadPos⟩ :=
    uacInputLoop_spec GrantPolicy.full len (w.ring.content.length + 1) w.ring (fun _ => 0) 0 h.out
      (Nat.lt_succ_self _) (Nat.zero_le _)
  rw [Nat.sub_zero, h.level, Nat.min_eq_left hlen] at hrun hreadPos
  rw [Nat.sub_zero] at hcontent
  have hcall : uacInputCb GrantPolicy.full (w.ring.content.length + 1) len (fun _ => 0) w
      = some ({ w with ring := ring', app := appStateUpdateUsbState w.app .streaming },
          Memory.write (fun _ => 0) 0 (w.ring.content.take len), len) := by
    rw [uacInputCb, h.level, hrun, Option.map_some]
    dsimp only
    rw [if_neg (by omega)]
  refine ⟨_, h.reachable.request hcall, hcap.trans h.capacity, ?_, ?_, hout⟩
  · show ring'.readPos = _
    rw [hreadPos, h.readPos, h.capacity]
  · show ring'.content.length = _
    rw [hcontent, List.length_drop, h.level]

/-- **Both old and new audio are thrown away.** In the shipped build three frames
of the largest size fill the ring; after a request that leaves the front two
bytes before the physical end and three frames more, a frame of two samples costs
the oldest sample and is not stored. -/
theorem dropsOldest_fails :
    ∃ w, MicReachable Config.shipped w ∧ w.ring.out = 0 ∧ w.ring.content.length = 23040 ∧
      (usbHsHandleMicrophoneFrame GrantPolicy.full (some ⟨[1, 2]⟩) w).ring.content
        = w.ring.content.drop 2 ∧
      ¬DropsOldest w.ring (bytesLE [1, 2])
        (sendDropOldest GrantPolicy.full w.ring (bytesLE [1, 2])).1
        (usbHsHandleMicrophoneFrame GrantPolicy.full (some ⟨[1, 2]⟩) w).ring := by
  have hcap : micRingBufferBytes Config.shipped = 23040 := by decide
  obtain ⟨w1, h1⟩ := (atLevel_boot Config.shipped (appStateInit 0) (Stream'.const 0)).frame 3840
    (by decide)
  obtain ⟨w2, h2⟩ := h1.frame 3840 (by decide)
  obtain ⟨w3, h3⟩ := h2.frame 3839 (by decide)
  obtain ⟨w4, h4⟩ := h3.request (show 23038 ≤ _ by decide)
  obtain ⟨w5, h5⟩ := h4.frame 3840 (by decide)
  obtain ⟨w6, h6⟩ := h5.frame 3840 (by decide)
  obtain ⟨w, h⟩ := h6.frame 3840 (by decide)
  have hlevel : w.ring.content.length = 23040 := h.level
  have hreadPos : w.ring.readPos = 23038 := by
    rw [h.readPos, hcap]
  have hcapacity : w.ring.capacity = 23040 := h.capacity.trans hcap
  have hne : w.ring.content ≠ [] := List.ne_nil_of_length_eq_add_one hlevel
  have hfree : w.ring.free = 0 := by
    rw [ByteRing.free, hcapacity, hlevel, h.out]
  have hcontiguous : w.ring.contiguous = 2 := by
    rw [ByteRing.contiguous, hcapacity, hlevel, hreadPos]
    rfl
  have hfull : w.ring.free < (bytesLE [1, 2]).length := by
    rw [hfree]
    decide
  obtain ⟨n, hn, -, -, hlost⟩ := sendDropOldest_evicts h.out hne hfull
  have hn2 : n = 2 := by
    rw [hn, hcontiguous]
    rfl
  obtain ⟨-, hcontent⟩ := hlost (by rw [hfree, hn2]; decide)
  refine ⟨w, h.reachable, h.out, hlevel, ?_, ?_⟩
  · rw [handleMicrophoneFrame_ring, hcontent, hn2]
  · rw [handleMicrophoneFrame_ring, dropsOldest_iff w.ring h.out, hfree, hcontiguous]
    intro hbad
    rcases hbad with hbad | hbad
    · exact absurd hbad (by decide)
    · exact hne hbad

end CaptureKVMBridge.Usb
