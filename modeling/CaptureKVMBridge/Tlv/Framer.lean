import CaptureKVMBridge.Tlv.Stream

/-!
# The framer: what the byte machine is for

The abstract model of the stream parser. A framer has one thing to remember,
the bytes it *holds*: everything read since the sync word it is working on
(`framerStep`). There are no states, counters, buffers or stale fields, and a
frame is delivered by cutting the sync word off the held bytes.

* `framerStep_cases` says once what a step can do: the held bytes either stay
  a suffix of what was read, or they are a sync word and a well-formed frame,
  which is delivered.
* `framer_wire`: a frame sent on its own is delivered, and nothing is left.
* `framer_sliced`: on any input the delivered frames are cut out of it, one
  after the other, each behind a sync word.
* `framer_weight`: what is delivered is not longer than what was read.

`Refine` connects this model to `tlv_stream.c`.
-/

namespace CaptureKVMBridge.Tlv

open CaptureKVMBridge.Machine

variable {cfg : Config}

/-- One byte, given the bytes held. A rejected header is dropped whole. -/
def framerStep (cfg : Config) : List UInt8 → UInt8 → List UInt8 × Option (List UInt8)
  | [], b => (if b = protocolTlvSync0 then [b] else [], none)
  | [s0], b =>
    (if b = protocolTlvSync1 then [s0, b] else if b = protocolTlvSync0 then [b] else [], none)
  | [s0, s1], b =>
    (if protocolTlvTypeIsValid b = true then [s0, s1, b]
      else if b = protocolTlvSync0 then [b] else [], none)
  | [s0, s1, t], b => ([s0, s1, t, b], none)
  | [s0, s1, t, m], b =>
    (if LengthSane cfg t (be16 m b) then [s0, s1, t, m, b] else [], none)
  | s0 :: s1 :: t :: m :: l :: p, b =>
    if p.length + 1 < (be16 m l).toNat then (s0 :: s1 :: t :: m :: l :: (p ++ [b]), none)
    else ([], some (t :: m :: l :: (p ++ [b])))

/-- Type, big-endian length, payload: the length is the payload's and is one
that the type may have. -/
def WellFormedFrame (cfg : Config) : List UInt8 → Prop
  | t :: m :: l :: p =>
    protocolTlvTypeIsValid t = true ∧ LengthSane cfg t (be16 m l) ∧ p.length = (be16 m l).toNat
  | _ => False

instance : DecidablePred (WellFormedFrame cfg)
  | [] => isFalse id
  | [_] => isFalse id
  | [_, _] => isFalse id
  | t :: m :: l :: p =>
    inferInstanceAs (Decidable (protocolTlvTypeIsValid t = true ∧ LengthSane cfg t (be16 m l) ∧
      p.length = (be16 m l).toNat))

/-- A well-formed frame has a header. -/
theorem WellFormedFrame.split {f : List UInt8} (hf : WellFormedFrame cfg f) :
    ∃ t m l p, f = t :: m :: l :: p := by
  match f, hf with
  | t :: m :: l :: p, _ => exact ⟨t, m, l, p, rfl⟩

/-- A frame as it travels: behind the sync word. -/
def wire (f : List UInt8) : List UInt8 := protocolTlvSync0 :: protocolTlvSync1 :: f

/-- What a framer can hold: a proper beginning of the wire form of a
well-formed frame. -/
def Held (cfg : Config) : List UInt8 → Prop
  | [] => True
  | [s0] => s0 = protocolTlvSync0
  | [s0, s1] => s0 = protocolTlvSync0 ∧ s1 = protocolTlvSync1
  | [s0, s1, t] => s0 = protocolTlvSync0 ∧ s1 = protocolTlvSync1 ∧ protocolTlvTypeIsValid t = true
  | [s0, s1, t, _] => s0 = protocolTlvSync0 ∧ s1 = protocolTlvSync1 ∧ protocolTlvTypeIsValid t = true
  | s0 :: s1 :: t :: m :: l :: p =>
    s0 = protocolTlvSync0 ∧ s1 = protocolTlvSync1 ∧ protocolTlvTypeIsValid t = true ∧
    LengthSane cfg t (be16 m l) ∧ p.length < (be16 m l).toNat

/-- A fresh framer holds nothing. -/
theorem held_nil (cfg : Config) : Held cfg [] := trivial

/-! ## One step -/

/-- **What one byte can do.** Nothing is delivered and the held bytes are a
suffix of those read, or the bytes read are a frame on the wire. -/
theorem framerStep_cases {held : List UInt8} (h : Held cfg held) (b : UInt8) :
    ((framerStep cfg held b).2 = none ∧ (framerStep cfg held b).1 <:+ held ++ [b] ∧
      Held cfg (framerStep cfg held b).1) ∨
    ∃ f, framerStep cfg held b = ([], some f) ∧ held ++ [b] = wire f ∧ WellFormedFrame cfg f := by
  match held, h with
  | [], _ =>
    left
    by_cases hb : b = protocolTlvSync0
    · simp [framerStep, hb, Held]
    · simp [framerStep, hb, Held]
  | [s0], h =>
    left
    obtain rfl : s0 = protocolTlvSync0 := h
    by_cases h1 : b = protocolTlvSync1
    · simp [framerStep, h1, Held]
    · by_cases h0 : b = protocolTlvSync0
      · subst h0
        exact ⟨rfl, ⟨[protocolTlvSync0], rfl⟩, rfl⟩
      · simp [framerStep, h1, h0, Held]
  | [s0, s1], h =>
    left
    obtain ⟨rfl, rfl⟩ := h
    by_cases ht : protocolTlvTypeIsValid b = true
    · simp [framerStep, ht, Held]
    · by_cases h0 : b = protocolTlvSync0
      · subst h0
        exact ⟨rfl, ⟨[protocolTlvSync0, protocolTlvSync1], rfl⟩, rfl⟩
      · simp [framerStep, ht, h0, Held]
  | [s0, s1, t], h =>
    left
    obtain ⟨rfl, rfl, ht⟩ := h
    simp [framerStep, Held, ht]
  | [s0, s1, t, m], h =>
    left
    obtain ⟨rfl, rfl, ht⟩ := h
    by_cases hs : LengthSane cfg t (be16 m b)
    · simp [framerStep, hs, Held, ht, hs.pos]
    · simp [framerStep, hs, Held]
  | s0 :: s1 :: t :: m :: l :: p, h =>
    obtain ⟨rfl, rfl, ht, hs, hp⟩ := h
    -- the frame is complete with the byte that makes up its length
    by_cases hlt : p.length + 1 < (be16 m l).toNat
    · left
      simp [framerStep, hlt, Held, ht, hs]
    · right
      refine ⟨t :: m :: l :: (p ++ [b]), ?_, rfl, ht, hs, ?_⟩
      · simp only [framerStep, if_neg hlt]
      · rw [List.length_append, List.length_singleton]
        omega

/-- What is held is the end of what was read. -/
theorem framerStep_suffix {held : List UInt8} (h : Held cfg held) (b : UInt8) :
    (framerStep cfg held b).1 <:+ held ++ [b] := by
  rcases framerStep_cases h b with ⟨-, hsuffix, -⟩ | ⟨f, hf, -, -⟩
  · exact hsuffix
  · rw [hf]
    exact List.nil_suffix

theorem framerStep_held {held : List UInt8} (h : Held cfg held) (b : UInt8) :
    Held cfg (framerStep cfg held b).1 := by
  rcases framerStep_cases h b with ⟨-, -, hh⟩ | ⟨f, hf, -, -⟩
  · exact hh
  · rw [hf]
    trivial

/-! ## A frame on the wire -/

/-- The five bytes of an accepted header are held. -/
theorem framer_header {t m l : UInt8} (ht : protocolTlvTypeIsValid t = true)
    (hs : LengthSane cfg t (be16 m l)) :
    run (framerStep cfg) [] [protocolTlvSync0, protocolTlvSync1, t, m, l]
      = ([protocolTlvSync0, protocolTlvSync1, t, m, l], []) := by
  have h2 : framerStep cfg [protocolTlvSync0, protocolTlvSync1] t
      = ([protocolTlvSync0, protocolTlvSync1, t], none) := by simp only [framerStep, if_pos ht]
  have h4 : framerStep cfg [protocolTlvSync0, protocolTlvSync1, t, m] l
      = ([protocolTlvSync0, protocolTlvSync1, t, m, l], none) := by simp only [framerStep, if_pos hs]
  rw [run, show framerStep cfg [] protocolTlvSync0 = ([protocolTlvSync0], none) from rfl,
    run, show framerStep cfg [protocolTlvSync0] protocolTlvSync1
      = ([protocolTlvSync0, protocolTlvSync1], none) from rfl,
    run, h2, run, show framerStep cfg [protocolTlvSync0, protocolTlvSync1, t] m
      = ([protocolTlvSync0, protocolTlvSync1, t, m], none) from rfl, run, h4]
  rfl

/-- The payload of an accepted header: everything is held until the last byte
delivers it. -/
theorem framer_payload (cfg : Config) {t m l : UInt8} :
    ∀ (q p : List UInt8), q ≠ [] → p.length + q.length = (be16 m l).toNat →
      run (framerStep cfg) (protocolTlvSync0 :: protocolTlvSync1 :: t :: m :: l :: p) q
        = ([], [t :: m :: l :: (p ++ q)]) := by
  intro q
  induction q with
  | nil => intro p hq; exact absurd rfl hq
  | cons b q ih =>
    intro p _ hlen
    rw [List.length_cons] at hlen
    rw [run]
    cases q with
    | nil =>
      have hge : ¬p.length + 1 < (be16 m l).toNat := by
        simp only [List.length_nil] at hlen
        omega
      simp only [framerStep, if_neg hge]
      rfl
    | cons c q =>
      have hlt : p.length + 1 < (be16 m l).toNat := by
        rw [List.length_cons] at hlen
        omega
      simp only [framerStep, if_pos hlt]
      rw [ih (p ++ [b]) (by simp) (by
        rw [List.length_append, List.length_singleton]
        omega)]
      simp

/-- A payload that is not complete delivers nothing. -/
theorem framer_payload_more {t m l : UInt8} :
    ∀ (q p : List UInt8), p.length + q.length < (be16 m l).toNat →
      outputs (framerStep cfg) (protocolTlvSync0 :: protocolTlvSync1 :: t :: m :: l :: p) q = [] := by
  intro q
  induction q with
  | nil => intro p _; rfl
  | cons b q ih =>
    intro p hlen
    rw [List.length_cons] at hlen
    rw [outputs_cons]
    simp only [framerStep, if_pos (show p.length + 1 < (be16 m l).toNat by omega)]
    rw [ih (p ++ [b]) (by rw [List.length_append, List.length_singleton]; omega)]
    rfl

/-- **A well-formed frame on the wire is delivered and leaves nothing held.** -/
theorem framer_wire {f : List UInt8} (hf : WellFormedFrame cfg f) :
    run (framerStep cfg) [] (wire f) = ([], [f]) := by
  obtain ⟨t, m, l, p, rfl⟩ := hf.split
  obtain ⟨ht, hs, hp⟩ := hf
  have hne : p ≠ [] := by
    have := hs.pos
    intro hnil
    rw [hnil] at hp
    exact absurd hp (by simp only [List.length_nil]; omega)
  have hhdr := framer_header ht hs
  have hpay := framer_payload cfg (t := t) p [] hne (by simpa using hp)
  rw [run_eq, Prod.mk.injEq] at hhdr hpay
  rw [show wire (t :: m :: l :: p) = [protocolTlvSync0, protocolTlvSync1, t, m, l] ++ p from rfl,
    run_append, hhdr.1, hhdr.2, hpay.1, hpay.2]
  rfl

theorem framer_wire_append {f : List UInt8} (hf : WellFormedFrame cfg f) (w : List UInt8) :
    outputs (framerStep cfg) [] (wire f ++ w) = f :: outputs (framerStep cfg) [] w := by
  have h := framer_wire hf
  rw [run_eq, Prod.mk.injEq] at h
  rw [outputs_append, h.1, h.2]
  rfl

/-- A run of frames on the wire. -/
def wires (F : List (List UInt8)) : List UInt8 := (F.map wire).flatten

@[simp] theorem wires_nil : wires [] = [] := rfl

@[simp] theorem wires_cons (f : List UInt8) (F : List (List UInt8)) :
    wires (f :: F) = wire f ++ wires F := rfl

/-- Frames sent back to back are delivered one by one. -/
theorem framer_wires : ∀ {F : List (List UInt8)}, (∀ f ∈ F, WellFormedFrame cfg f) →
    outputs (framerStep cfg) [] (wires F) = F
  | [], _ => rfl
  | f :: F, h => by
    rw [wires_cons, framer_wire_append (h f (List.mem_cons_self ..)),
      framer_wires fun g hg => h g (List.mem_cons_of_mem _ hg)]

/-! ## Any input -/

/-- The input is `gap₁ D5 AA frame₁ gap₂ D5 AA frame₂ … tail`. -/
inductive Sliced : List UInt8 → List (List UInt8) → Prop
  | tail (g : List UInt8) : Sliced g []
  | frame (g f : List UInt8) {w : List UInt8} {F : List (List UInt8)} (h : Sliced w F) :
      Sliced (g ++ (wire f ++ w)) (f :: F)

/-- Bytes in front only widen the first gap. -/
theorem Sliced.prepend {w : List UInt8} {F : List (List UInt8)} (h : Sliced w F) (x : List UInt8) :
    Sliced (x ++ w) F := by
  cases h with
  | tail g => exact .tail _
  | frame g f h =>
    rw [← List.append_assoc]
    exact .frame (x ++ g) f h

/-- **Every delivered frame is a slice of the input behind a sync word**, the
slices are disjoint and in order, and every frame is well formed. -/
theorem framer_sliced : ∀ (w : List UInt8) {held : List UInt8}, Held cfg held →
    Sliced (held ++ w) (outputs (framerStep cfg) held w) ∧
    ∀ f ∈ outputs (framerStep cfg) held w, WellFormedFrame cfg f := by
  intro w
  induction w with
  | nil => intro held _; exact ⟨.tail _, fun f hf => absurd hf (by simp)⟩
  | cons b w ih =>
    intro held h
    rw [outputs_cons]
    rcases framerStep_cases h b with ⟨hnone, ⟨x, hx⟩, hh⟩ | ⟨f, hf, hwire, hwf⟩
    · obtain ⟨hs, hall⟩ := ih hh
      rw [hnone]
      refine ⟨?_, hall⟩
      rw [show held ++ b :: w = x ++ ((framerStep cfg held b).1 ++ w) by
        rw [← List.append_assoc, hx, List.append_assoc]
        rfl]
      exact hs.prepend x
    · obtain ⟨hs, hall⟩ := ih (held_nil cfg)
      rw [hf]
      refine ⟨?_, ?_⟩
      · rw [show held ++ b :: w = [] ++ (wire f ++ ([] ++ w)) by
          rw [← hwire, List.nil_append, List.append_assoc]
          rfl]
        exact .frame [] f hs
      · intro g hg
        rcases List.mem_cons.mp hg with rfl | hg
        · exact hwf
        · exact hall g hg

/-- Slices fit into what they are cut from. -/
theorem Sliced.length_le {w : List UInt8} {F : List (List UInt8)} (h : Sliced w F) :
    (wires F).length ≤ w.length := by
  induction h with
  | tail g => exact Nat.zero_le _
  | frame g f _ ih =>
    rw [wires_cons]
    simp only [List.length_append]
    omega

/-- What is delivered is not longer than what was read. -/
theorem framer_weight (cfg : Config) (w : List UInt8) :
    (wires (outputs (framerStep cfg) [] w)).length ≤ w.length :=
  (framer_sliced w (held_nil cfg)).1.length_le

end CaptureKVMBridge.Tlv
