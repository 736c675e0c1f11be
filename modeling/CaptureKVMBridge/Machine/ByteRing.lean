import Mathlib.Data.List.Basic
import Mathlib.Order.MinMax

/-!
# Ring buffers of bytes

A ring buffer seen from outside: what is in it, where in the physical buffer
that begins, and how much of the buffer an item that is checked out still takes
up. Sending stores all bytes or none and wraps around the end; receiving hands
out a piece of the front that does not reach over the physical end, and only one
piece at a time; returning it frees its room. The fields carry what every such
buffer keeps, so that no operation has to prove it.

How much of what it may hand out a receive does hand out is left open
(`GrantPolicy`); `GrantPolicy.full` is the policy of handing out all of it.
`Aligned` is the invariant of a ring that is only ever used in multiples of some
unit: pieces, positions and contents stay multiples of it, at every wrap.

The last section is the memory that pieces are copied to.
-/

namespace CaptureKVMBridge.Machine

variable {β γ : Type}

/-- A ring buffer. The item that is checked out lies before `readPos`. -/
structure ByteRing (β : Type) where
  capacity : Nat
  /-- where in the physical buffer the content begins -/
  readPos : Nat
  /-- what was sent and not received, oldest first -/
  content : List β
  /-- the size of the item that is checked out, `0` without -/
  out : Nat
  readPos_lt : readPos < capacity
  fits : out + content.length ≤ capacity

namespace ByteRing

/-- The empty ring of a capacity. -/
def create (capacity : Nat) (h : 0 < capacity) : ByteRing β where
  capacity := capacity
  readPos := 0
  content := []
  out := 0
  readPos_lt := h
  fits := Nat.zero_le _

/-- The room for new bytes. -/
def free (r : ByteRing β) : Nat := r.capacity - (r.out + r.content.length)

/-- The bytes of the content up to the physical end. -/
def contiguous (r : ByteRing β) : Nat := min (r.capacity - r.readPos) r.content.length

theorem contiguous_le (r : ByteRing β) : r.contiguous ≤ r.content.length := Nat.min_le_right _ _

theorem contiguous_pos {r : ByteRing β} (h : r.content ≠ []) : 0 < r.contiguous := by
  have hlt := r.readPos_lt
  have hpos := List.length_pos_iff.mpr h
  unfold contiguous
  omega

/-- Store all of the bytes, or none. -/
def send (r : ByteRing β) (bs : List β) : Bool × ByteRing β :=
  if h : bs.length ≤ r.free then
    (true,
      { r with
        content := r.content ++ bs
        fits := by
          have := r.fits
          rw [List.length_append]
          unfold free at h
          omega })
  else (false, r)

/-- Take a piece from the front, at most up to the physical end, and check it
out. -/
def checkOut (r : ByteRing β) (n : Nat) (h : n ≤ r.contiguous) : ByteRing β where
  capacity := r.capacity
  readPos := (r.readPos + n) % r.capacity
  content := r.content.drop n
  out := n
  readPos_lt := Nat.mod_lt _ (Nat.zero_lt_of_lt r.readPos_lt)
  fits := by
    have := r.fits
    have := r.contiguous_le
    rw [List.length_drop]
    omega

/-- Give the item back. -/
def returnItem (r : ByteRing β) : ByteRing β :=
  { r with
    out := 0
    fits := by
      have := r.fits
      omega }

end ByteRing

/-- How many bytes a receive of at most `max` bytes hands out: at least one, at
most `max`, and none behind the physical end. -/
structure GrantPolicy (β : Type) where
  grant : ByteRing β → Nat → Nat
  pos : ∀ r max, 0 < max → r.content ≠ [] → 0 < grant r max
  le_max : ∀ r max, grant r max ≤ max
  le_contiguous : ∀ r max, grant r max ≤ r.contiguous

/-- Hand out as much as possible. -/
def GrantPolicy.full : GrantPolicy β where
  grant r max := min max r.contiguous
  pos r max hmax hne := by
    have := ByteRing.contiguous_pos hne
    omega
  le_max _ _ := Nat.min_le_left _ _
  le_contiguous _ _ := Nat.min_le_right _ _

namespace ByteRing

/-- Receive at most `max` bytes: a piece and the ring behind it, unless there is
nothing, nothing is asked for, or an item is checked out. -/
def receiveUpTo (pol : GrantPolicy β) (r : ByteRing β) (max : Nat) :
    Option (List β × ByteRing β) :=
  if max = 0 ∨ r.out ≠ 0 ∨ r.content = [] then none
  else
    some (r.content.take (pol.grant r max),
      r.checkOut (pol.grant r max) (pol.le_contiguous r max))

/-! ## What the operations do -/

section Operations

variable {r : ByteRing β} {bs : List β} {pol : GrantPolicy β} {max : Nat}

theorem send_of_le (h : bs.length ≤ r.free) :
    (r.send bs).1 = true ∧ (r.send bs).2.content = r.content ++ bs ∧
    (r.send bs).2.readPos = r.readPos ∧ (r.send bs).2.capacity = r.capacity ∧
    (r.send bs).2.out = r.out := by
  unfold send
  rw [dif_pos h]
  exact ⟨rfl, rfl, rfl, rfl, rfl⟩

theorem send_of_gt (h : r.free < bs.length) : r.send bs = (false, r) := by
  unfold send
  rw [dif_neg (Nat.not_le.mpr h)]

@[simp] theorem send_nil (r : ByteRing β) : r.send [] = (true, r) := by
  obtain ⟨capacity, readPos, content, out, hpos, hfits⟩ := r
  unfold send
  rw [dif_pos (show ([] : List β).length ≤ _ from Nat.zero_le _)]
  simp only [List.append_nil]

/-- Whether it was stored or not, the ring stays where it is. -/
theorem send_frame (r : ByteRing β) (bs : List β) :
    (r.send bs).2.readPos = r.readPos ∧ (r.send bs).2.capacity = r.capacity ∧
    (r.send bs).2.out = r.out := by
  rcases Nat.lt_or_ge r.free bs.length with hgt | hle
  · rw [send_of_gt hgt]
    exact ⟨rfl, rfl, rfl⟩
  · exact (send_of_le hle).2.2

theorem receiveUpTo_none (h : max = 0 ∨ r.out ≠ 0 ∨ r.content = []) :
    r.receiveUpTo pol max = none :=
  if_pos h

theorem receiveUpTo_some (hmax : max ≠ 0) (hout : r.out = 0) (hne : r.content ≠ []) :
    r.receiveUpTo pol max
      = some (r.content.take (pol.grant r max),
          r.checkOut (pol.grant r max) (pol.le_contiguous r max)) := by
  unfold receiveUpTo
  rw [if_neg]
  rw [not_or, not_or, not_not]
  exact ⟨hmax, hout, hne⟩

/-- A receive that is not refused hands out a piece of the front. -/
theorem receiveUpTo_grants (pol : GrantPolicy β) (hmax : max ≠ 0) (hout : r.out = 0)
    (hne : r.content ≠ []) :
    ∃ n, ∃ h : n ≤ r.contiguous, 0 < n ∧ n ≤ max ∧ n = pol.grant r max ∧
      r.receiveUpTo pol max = some (r.content.take n, r.checkOut n h) :=
  ⟨pol.grant r max, pol.le_contiguous r max, pol.pos r max (Nat.pos_of_ne_zero hmax) hne,
    pol.le_max r max, rfl, receiveUpTo_some hmax hout hne⟩

/-- **What a receive hands out** is the front of the content. -/
theorem receiveUpTo_eq_some {chunk : List β} {r' : ByteRing β}
    (h : r.receiveUpTo pol max = some (chunk, r')) :
    max ≠ 0 ∧ r.out = 0 ∧ r.content ≠ [] ∧ chunk = r.content.take (pol.grant r max) ∧
    r' = r.checkOut (pol.grant r max) (pol.le_contiguous r max) := by
  unfold receiveUpTo at h
  split at h
  · cases h
  next hnot =>
    rw [not_or, not_or, not_not] at hnot
    obtain ⟨hchunk, hr'⟩ := Prod.mk.inj (Option.some.inj h)
    exact ⟨hnot.1, hnot.2.1, hnot.2.2, hchunk.symm, hr'.symm⟩

end Operations

/-! ## Rings do not look at what they carry -/

section Map

variable (f : β → γ) (r : ByteRing β)

/-- The ring with each byte renamed. -/
def map : ByteRing γ where
  capacity := r.capacity
  readPos := r.readPos
  content := r.content.map f
  out := r.out
  readPos_lt := r.readPos_lt
  fits := by
    rw [List.length_map]
    exact r.fits

@[simp] theorem map_free : (r.map f).free = r.free := by
  show r.capacity - (r.out + (r.content.map f).length) = _
  rw [List.length_map]
  rfl

@[simp] theorem map_contiguous : (r.map f).contiguous = r.contiguous := by
  show min (r.capacity - r.readPos) (r.content.map f).length = _
  rw [List.length_map]
  rfl

theorem checkOut_map {n : Nat} (h : n ≤ (r.map f).contiguous) (h' : n ≤ r.contiguous) :
    (r.map f).checkOut n h = (r.checkOut n h').map f := by
  unfold checkOut map
  simp only [List.map_drop]

theorem send_map (bs : List β) :
    (r.map f).send (bs.map f) = ((r.send bs).1, (r.send bs).2.map f) := by
  unfold send
  by_cases h : bs.length ≤ r.free
  · rw [dif_pos h, dif_pos (by rwa [List.length_map, map_free])]
    simp only [map, List.map_append]
  · rw [dif_neg h, dif_neg (by rwa [List.length_map, map_free])]

/-- A full receive hands out the renamed piece. -/
theorem receiveUpTo_map (max : Nat) :
    (r.map f).receiveUpTo .full max
      = (r.receiveUpTo .full max).map fun given => (given.1.map f, given.2.map f) := by
  have hempty : (r.map f).content = [] ↔ r.content = [] := List.map_eq_nil_iff
  by_cases h : max = 0 ∨ r.out ≠ 0 ∨ r.content = []
  · rw [receiveUpTo_none h, receiveUpTo_none]
    · rfl
    · rwa [hempty]
  · have hgrant : GrantPolicy.full.grant (r.map f) max = GrantPolicy.full.grant r max := by
      show min max (r.map f).contiguous = min max r.contiguous
      rw [map_contiguous]
    rw [not_or, not_or, not_not] at h
    obtain ⟨hmax, hout, hne⟩ := h
    rw [receiveUpTo_some hmax hout hne,
      receiveUpTo_some (r := r.map f) hmax hout fun hnil => hne (hempty.mp hnil), Option.map_some]
    simp only [hgrant]
    rw [checkOut_map f r _ (GrantPolicy.full.le_contiguous r max)]
    simp only [map, List.map_take]

end Map

/-! ## Rings used in multiples of a unit -/

/-- Capacity, position and content are multiples of the unit. -/
structure Aligned (unit : Nat) (r : ByteRing β) : Prop where
  capacity : unit ∣ r.capacity
  readPos : unit ∣ r.readPos
  content : unit ∣ r.content.length

section Alignment

variable {unit : Nat} {r : ByteRing β}

theorem aligned_create {capacity : Nat} (h : 0 < capacity) (hunit : unit ∣ capacity) :
    Aligned unit (create (β := β) capacity h) :=
  ⟨hunit, Nat.dvd_zero unit, Nat.dvd_zero unit⟩

theorem Aligned.send (h : Aligned unit r) {bs : List β} (hbs : unit ∣ bs.length) :
    Aligned unit (r.send bs).2 := by
  rcases Nat.lt_or_ge r.free bs.length with hgt | hle
  · rw [send_of_gt hgt]
    exact h
  · obtain ⟨-, hcontent, hpos, hcap, -⟩ := send_of_le hle
    refine ⟨hcap ▸ h.capacity, hpos ▸ h.readPos, ?_⟩
    rw [hcontent, List.length_append]
    exact Nat.dvd_add h.content hbs

/-- A full receive of a multiple of the unit hands out a multiple of the unit:
what is cut off at the physical end is one too. -/
theorem Aligned.full_grant (h : Aligned unit r) {max : Nat} (hmax : unit ∣ max) :
    unit ∣ GrantPolicy.full.grant r max := by
  have hend : unit ∣ r.capacity - r.readPos := Nat.dvd_sub h.capacity h.readPos
  show unit ∣ min max (min (r.capacity - r.readPos) r.content.length)
  rcases min_choice max (min (r.capacity - r.readPos) r.content.length) with heq | heq
  · rw [heq]
    exact hmax
  · rw [heq]
    rcases min_choice (r.capacity - r.readPos) r.content.length with heq' | heq'
    · rw [heq']
      exact hend
    · rw [heq']
      exact h.content

theorem Aligned.checkOut (h : Aligned unit r) {n : Nat} (hn : unit ∣ n) (hle : n ≤ r.contiguous) :
    Aligned unit (r.checkOut n hle) := by
  refine ⟨h.capacity, ?_, ?_⟩
  · exact (Nat.dvd_mod_iff h.capacity).mpr (Nat.dvd_add h.readPos hn)
  · show unit ∣ (r.content.drop n).length
    rw [List.length_drop]
    exact Nat.dvd_sub h.content hn

theorem Aligned.returnItem (h : Aligned unit r) : Aligned unit r.returnItem :=
  ⟨h.capacity, h.readPos, h.content⟩

end Alignment

/-! ## Rings of records

A ring that carries records of one size, as their bytes. -/

section Records

variable {α : Type} {f : α → List β} {unit : Nat} {l : List α} {r r' : ByteRing β}

theorem length_records (hf : ∀ a, (f a).length = unit) (l : List α) :
    (l.flatMap f).length = unit * l.length := by
  induction l with
  | nil => rfl
  | cons a l ih =>
    rw [List.flatMap_cons, List.length_append, hf, ih, List.length_cons, Nat.mul_succ, Nat.add_comm]

/-- Whole records from the front. -/
theorem take_records (hf : ∀ a, (f a).length = unit) (l : List α) (m : Nat) :
    (l.flatMap f).take (unit * m) = (l.take m).flatMap f := by
  induction m generalizing l with
  | zero => rfl
  | succ m ih =>
    cases l with
    | nil => rw [List.flatMap_nil, List.take_nil, List.take_nil, List.flatMap_nil]
    | cons a l =>
      rw [Nat.mul_succ, Nat.add_comm, List.flatMap_cons, ← hf a, List.take_length_add_append, hf a,
        ih, List.take_succ_cons, List.flatMap_cons]

/-- The records behind them. -/
theorem drop_records (hf : ∀ a, (f a).length = unit) (l : List α) (m : Nat) :
    (l.flatMap f).drop (unit * m) = (l.drop m).flatMap f := by
  induction m generalizing l with
  | zero => rfl
  | succ m ih =>
    cases l with
    | nil => rw [List.flatMap_nil, List.drop_nil, List.drop_nil, List.flatMap_nil]
    | cons a l =>
      rw [Nat.mul_succ, Nat.add_comm, List.flatMap_cons, ← hf a, List.drop_length_add_append, hf a,
        ih, List.drop_succ_cons]

/-- **A full receive hands out whole records**, if the ring is only ever used in
multiples of their size. -/
theorem Aligned.receive_records (h : Aligned unit r) (hunit : 0 < unit)
    (hf : ∀ a, (f a).length = unit) (hcontent : r.content = l.flatMap f) {max : Nat}
    (hmax : unit ∣ max) {chunk : List β} (hreceive : r.receiveUpTo .full max = some (chunk, r')) :
    ∃ m, m ≤ l.length ∧ chunk = (l.take m).flatMap f ∧ r'.content = (l.drop m).flatMap f ∧
      Aligned unit r' := by
  obtain ⟨-, -, -, rfl, rfl⟩ := receiveUpTo_eq_some hreceive
  have hgrant := h.full_grant hmax
  have hle := Nat.le_trans (GrantPolicy.full.le_contiguous r max) r.contiguous_le
  have haligned := h.checkOut hgrant (GrantPolicy.full.le_contiguous r max)
  obtain ⟨m, hm⟩ := hgrant
  refine ⟨m, ?_, ?_, ?_, haligned⟩
  · rw [hm, hcontent, length_records hf] at hle
    exact Nat.le_of_mul_le_mul_left hle hunit
  · rw [hm, hcontent, take_records hf]
  · show r.content.drop (GrantPolicy.full.grant r max) = _
    rw [hm, hcontent, drop_records hf]

end Records

end ByteRing

/-! ## Memory -/

/-- The memory behind a pointer. -/
abbrev Memory := Nat → UInt8

/-- Copy bytes to an offset. -/
def Memory.write (m : Memory) (offset : Nat) (bs : List UInt8) : Memory :=
  fun i => if offset ≤ i then (bs[i - offset]?).getD (m i) else m i

theorem Memory.write_nil (m : Memory) (offset : Nat) : m.write offset [] = m := by
  funext i
  unfold Memory.write
  split <;> rfl

/-- Copies that follow one another are one copy. -/
theorem Memory.write_write (m : Memory) (offset : Nat) (as bs : List UInt8) :
    (m.write offset as).write (offset + as.length) bs = m.write offset (as ++ bs) := by
  funext i
  unfold Memory.write
  by_cases hlow : offset ≤ i
  · rw [if_pos hlow, if_pos hlow]
    by_cases hhigh : offset + as.length ≤ i
    · have hbehind : as[i - offset]? = none := List.getElem?_eq_none (by omega)
      rw [if_pos hhigh, List.getElem?_append_right (by omega), hbehind, Option.getD_none,
        Nat.sub_add_eq]
    · rw [if_neg hhigh, List.getElem?_append_left (by omega)]
  · rw [if_neg hlow, if_neg hlow, if_neg (by omega)]

/-- Nothing behind the copied bytes is touched. -/
theorem Memory.write_of_ge (m : Memory) {offset i : Nat} {bs : List UInt8}
    (h : offset + bs.length ≤ i) : m.write offset bs i = m i := by
  unfold Memory.write
  rw [if_pos (by omega), List.getElem?_eq_none (by omega), Option.getD_none]

end CaptureKVMBridge.Machine
