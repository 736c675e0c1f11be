import Mathlib.Data.Nat.Bitwise
import Mathlib.Data.List.Basic

/-!
# Halfwords on the wire

The two layouts of a 16-bit word in a byte stream: big-endian as two bytes
read by a shift and an or (`be16`), little-endian as a run of byte pairs
(`halfwordsLE`). Each comes with its inverse, and the round trips hold in
both directions (`be16_hiByte_loByte`, `halfwordsLE_bytesLE`,
`bytesLE_halfwordsLE`).
-/

namespace CaptureKVMBridge.Machine

/-- `((uint16_t)hi << 8) | lo`. -/
def be16 (hi lo : UInt8) : UInt16 := (hi.toUInt16 <<< 8) ||| lo.toUInt16

/-- The high byte of a halfword. -/
def hiByte (n : UInt16) : UInt8 := (n >>> 8).toUInt8

/-- The low byte of a halfword. -/
def loByte (n : UInt16) : UInt8 := n.toUInt8

/-- The shift-and-or is positional notation in base 256. -/
theorem be16_toNat (hi lo : UInt8) : (be16 hi lo).toNat = hi.toNat * 256 + lo.toNat := by
  have hh := hi.toNat_lt
  have hl := lo.toNat_lt
  unfold be16
  rw [UInt16.toNat_or, UInt16.toNat_shiftLeft]
  simp only [UInt8.toNat_toUInt16]
  rw [show UInt16.toNat 8 % 16 = 8 from rfl,
    Nat.mod_eq_of_lt (by rw [Nat.shiftLeft_eq]; omega),
    ← Nat.shiftLeft_add_eq_or_of_lt hl, Nat.shiftLeft_eq]

@[simp] theorem be16_hiByte_loByte (n : UInt16) : be16 (hiByte n) (loByte n) = n := by
  apply UInt16.toNat.inj
  rw [be16_toNat]
  simp only [hiByte, loByte, UInt16.toNat_toUInt8, UInt16.toNat_shiftRight,
    Nat.shiftRight_eq_div_pow]
  have hn := n.toNat_lt
  rw [show UInt16.toNat 8 % 16 = 8 from rfl]
  omega

@[simp] theorem hiByte_be16 (hi lo : UInt8) : hiByte (be16 hi lo) = hi := by
  apply UInt8.toNat.inj
  simp only [hiByte, UInt16.toNat_toUInt8, UInt16.toNat_shiftRight, be16_toNat,
    Nat.shiftRight_eq_div_pow]
  have hh := hi.toNat_lt
  have hl := lo.toNat_lt
  rw [show UInt16.toNat 8 % 16 = 8 from rfl]
  omega

@[simp] theorem loByte_be16 (hi lo : UInt8) : loByte (be16 hi lo) = lo := by
  apply UInt8.toNat.inj
  simp only [loByte, UInt16.toNat_toUInt8, be16_toNat]
  have hl := lo.toNat_lt
  omega

/-- The low bit says whether a halfword is even. -/
theorem and_one_eq_zero_iff {n : UInt16} : n &&& 1 = 0 ↔ n.toNat % 2 = 0 := by
  rw [← UInt16.toNat_inj, UInt16.toNat_and, show UInt16.toNat 1 = 1 from rfl, Nat.and_one_is_mod]
  rfl

/-- A run of bytes read as little-endian halfwords; an odd last byte is not
part of any. -/
def halfwordsLE : List UInt8 → List UInt16
  | lo :: hi :: rest => be16 hi lo :: halfwordsLE rest
  | _ => []

/-- A run of halfwords laid out little-endian. -/
def bytesLE : List UInt16 → List UInt8
  | [] => []
  | n :: ns => loByte n :: hiByte n :: bytesLE ns

@[simp] theorem bytesLE_length : ∀ ns : List UInt16, (bytesLE ns).length = 2 * ns.length
  | [] => rfl
  | n :: ns => by
    simp only [bytesLE, List.length_cons, bytesLE_length ns]
    omega

@[simp] theorem halfwordsLE_bytesLE : ∀ ns : List UInt16, halfwordsLE (bytesLE ns) = ns
  | [] => rfl
  | n :: ns => by
    simp only [bytesLE, halfwordsLE, be16_hiByte_loByte, halfwordsLE_bytesLE ns]

/-- Bytes that come in pairs are the layout of the halfwords read from them. -/
theorem bytesLE_halfwordsLE : ∀ bs : List UInt8, bs.length % 2 = 0 → bytesLE (halfwordsLE bs) = bs
  | [], _ => rfl
  | [_], h => absurd h (by simp)
  | lo :: hi :: rest, h => by
    have hrest : rest.length % 2 = 0 := by
      simp only [List.length_cons] at h
      omega
    simp only [halfwordsLE, bytesLE, hiByte_be16, loByte_be16, bytesLE_halfwordsLE rest hrest]

end CaptureKVMBridge.Machine
