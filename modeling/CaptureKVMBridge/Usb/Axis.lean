import CaptureKVMBridge.Machine.Rescale
import CaptureKVMBridge.Usb.Device

/-!
# `scale_abs_axis` over the whole Kconfig range

The coordinate of an absolute report is rescaled from `0..max_cfg - 1` to the
`0..0x7FFF` of the report descriptor in signed 32-bit arithmetic, and the
result is stored in 16 bits. `scaleAbsAxis` computes with wrap-around;
`scaleAbsAxisChecked` is the same function with every signed operation failing
where C leaves it undefined or loses a bit. `scaleAbsAxis_tight` shows that for
every maximum of the Kconfig range the two agree, and that the result is the
rescaling of `Machine.rescale` with all it brings.
-/

namespace CaptureKVMBridge.Usb

open CaptureKVMBridge.Machine

/-- `scale_abs_axis` with its signed operations checked. -/
def scaleAbsAxisChecked (value maxCfg : UInt32) : Option Int16 :=
  if maxCfg ≤ 1 then some (if value ≠ 0 then 32767 else 0)
  else do
    let value := if value ≥ maxCfg then maxCfg - 1 else value
    let signedValue ← signedOf value
    let product ← signedMul signedValue 32767
    let divisor ← signedOf (maxCfg - 1)
    let scaled ← signedDiv product divisor
    narrow16 scaled

/-- The coordinate that `send_mouse_abs_report_now` makes of `report->x`
(or `y`) under a maximum. -/
def scaledCoordinate (maxCfg : Nat) (value : UInt16) : Int16 :=
  scaleAbsAxis value.toUInt32 (UInt32.ofNat maxCfg)

section Range

variable {maxCfg : Nat} (hlo : 2 ≤ maxCfg) (hhi : maxCfg ≤ 65536)
include hlo hhi

/-- The maximum and its predecessor as 32-bit numbers. -/
theorem maxCfg_toNat :
    (UInt32.ofNat maxCfg).toNat = maxCfg ∧ (UInt32.ofNat maxCfg - 1).toNat = maxCfg - 1 := by
  have hmax : (UInt32.ofNat maxCfg).toNat = maxCfg := by
    rw [UInt32.toNat_ofNat']
    omega
  have hle : (1 : UInt32) ≤ UInt32.ofNat maxCfg := by
    rw [UInt32.le_iff_toNat_le, hmax]
    exact Nat.le_of_succ_le hlo
  refine ⟨hmax, ?_⟩
  rw [UInt32.toNat_sub_of_le _ _ hle, hmax]
  rfl

/-- The clamped value as a number. -/
theorem clamped_toNat (value : UInt16) :
    (if value.toUInt32 ≥ UInt32.ofNat maxCfg then UInt32.ofNat maxCfg - 1
      else value.toUInt32).toNat = min value.toNat (maxCfg - 1) := by
  obtain ⟨hmax, hpred⟩ := maxCfg_toNat hlo hhi
  split
  next hge =>
    rw [ge_iff_le, UInt32.le_iff_toNat_le, hmax, UInt16.toNat_toUInt32] at hge
    rw [hpred]
    omega
  next hlt =>
    rw [ge_iff_le, UInt32.le_iff_toNat_le, hmax, UInt16.toNat_toUInt32] at hlt
    rw [UInt16.toNat_toUInt32]
    omega

/-- **Every operation has its result**, and the result is the rescaling of the
clamped value. The product stays below `2 ^ 31` because `65535 * 32767` does. -/
theorem scaleAbsAxis_spec (value : UInt16) :
    scaleAbsAxisChecked value.toUInt32 (UInt32.ofNat maxCfg)
      = some (scaledCoordinate maxCfg value) ∧
    (scaledCoordinate maxCfg value).toInt
      = rescale 32767 (maxCfg - 1) (min value.toNat (maxCfg - 1)) := by
  obtain ⟨hmax, hpred⟩ := maxCfg_toNat hlo hhi
  have hclamp := clamped_toNat hlo hhi value
  have hbig : ¬UInt32.ofNat maxCfg ≤ 1 := by
    rw [UInt32.le_iff_toNat_le, hmax]
    exact Nat.not_le.mpr hlo
  unfold scaleAbsAxisChecked scaledCoordinate scaleAbsAxis
  rw [if_neg hbig, if_neg hbig]
  generalize (if value.toUInt32 ≥ UInt32.ofNat maxCfg then UInt32.ofNat maxCfg - 1
    else value.toUInt32) = clamped at hclamp
  dsimp only
  have hle : min value.toNat (maxCfg - 1) ≤ maxCfg - 1 := Nat.min_le_right _ _
  have hfit : min value.toNat (maxCfg - 1) * 32767 < 2 ^ 31 := by omega
  have hv : clamped.toInt32.toInt = (min value.toNat (maxCfg - 1) : Nat) := by
    rw [toInt_toInt32 (by omega), hclamp]
  have hd : (UInt32.ofNat maxCfg - 1).toInt32.toInt = (maxCfg - 1 : Nat) := by
    rw [toInt_toInt32 (by omega), hpred]
  have hp := toInt_mul_of_nat hv (show (32767 : Int32).toInt = (32767 : Nat) from rfl) hfit
  have hq := toInt_div_of_nat hp hd
  have hr := rescale_le (by omega) hle 32767
  constructor
  · have hsigned := signedOf_eq_some (x := clamped) (by omega)
    have hproduct := signedMul_eq_some hv (show (32767 : Int32).toInt = (32767 : Nat) from rfl) hfit
    have hdivisor := signedOf_eq_some (x := UInt32.ofNat maxCfg - 1) (by omega)
    have hscaled := signedDiv_eq_some hp hd (by omega)
    simp only [Option.bind_eq_bind, hsigned, hproduct, hdivisor, hscaled, Option.bind_some]
    exact narrow16_eq_some hq (Nat.lt_succ_of_le hr)
  · exact toInt_toInt16_of_nat hq (Nat.lt_succ_of_le hr)

end Range

/-- **Scaling is overflow-free, monotone and tight.** For every maximum of the
Kconfig range and all 16-bit values: no signed operation overflows, divides by
zero or loses a bit; the result is in the logical range of the descriptor, is
monotone and reaches both ends; below the maximum it is the exact quotient
rounded down; it is injective up to 32768 and surjective from 32768 on. -/
theorem scaleAbsAxis_tight (maxCfg : Nat) (hlo : 2 ≤ maxCfg) (hhi : maxCfg ≤ 65536) :
    (∀ v : UInt16, scaleAbsAxisChecked v.toUInt32 (UInt32.ofNat maxCfg)
      = some (scaleAbsAxis v.toUInt32 (UInt32.ofNat maxCfg))) ∧
    (∀ v : UInt16, 0 ≤ (scaledCoordinate maxCfg v).toInt ∧
      (scaledCoordinate maxCfg v).toInt ≤ 32767) ∧
    (∀ v w : UInt16, v ≤ w → scaledCoordinate maxCfg v ≤ scaledCoordinate maxCfg w) ∧
    scaledCoordinate maxCfg 0 = 0 ∧
    (∀ v : UInt16, maxCfg - 1 ≤ v.toNat → scaledCoordinate maxCfg v = 32767) ∧
    (∀ v : UInt16, v.toNat < maxCfg →
      0 ≤ (v.toNat : Int) * 32767 - (scaledCoordinate maxCfg v).toInt * ((maxCfg : Int) - 1) ∧
      (v.toNat : Int) * 32767 - (scaledCoordinate maxCfg v).toInt * ((maxCfg : Int) - 1)
        < (maxCfg : Int) - 1) ∧
    (maxCfg ≤ 32768 → ∀ v w : UInt16, v.toNat < maxCfg → w.toNat < maxCfg →
      scaledCoordinate maxCfg v = scaledCoordinate maxCfg w → v = w) ∧
    (32768 ≤ maxCfg → ∀ r : Int, 0 ≤ r → r ≤ 32767 →
      ∃ v : UInt16, v.toNat < maxCfg ∧ (scaledCoordinate maxCfg v).toInt = r) := by
  have hval : ∀ v : UInt16, (scaledCoordinate maxCfg v).toInt
      = rescale 32767 (maxCfg - 1) (min v.toNat (maxCfg - 1)) := by
    intro v
    exact (scaleAbsAxis_spec hlo hhi v).2
  have hpos : 0 < maxCfg - 1 := by omega
  have hbelow : ∀ v : UInt16, v.toNat < maxCfg → min v.toNat (maxCfg - 1) = v.toNat := by
    intro v hv
    omega
  refine ⟨?_, ?_, ?_, ?_, ?_, ?_, ?_, ?_⟩
  · intro v
    exact (scaleAbsAxis_spec hlo hhi v).1
  · intro v
    have hle := rescale_le hpos (Nat.min_le_right v.toNat (maxCfg - 1)) 32767
    rw [hval]
    omega
  · intro v w hvw
    rw [Int16.le_iff_toInt_le, hval, hval, Int.ofNat_le]
    apply rescale_mono
    rw [UInt16.le_iff_toNat_le] at hvw
    omega
  · apply Int16.toInt.inj
    rw [hval, show (0 : UInt16).toNat = 0 from rfl, Nat.zero_min, rescale_zero]
    rfl
  · intro v hv
    apply Int16.toInt.inj
    rw [hval, Nat.min_eq_right hv, rescale_top hpos]
    rfl
  · intro v hv
    have herr := rescale_error hpos 32767 v.toNat
    rw [hval, hbelow v hv, show (maxCfg : Int) - 1 = ((maxCfg - 1 : Nat) : Int) by omega]
    generalize rescale 32767 (maxCfg - 1) v.toNat = r at herr
    have hcast : (r : Int) * ((maxCfg - 1 : Nat) : Int) = ((r * (maxCfg - 1) : Nat) : Int) :=
      (Int.natCast_mul r (maxCfg - 1)).symm
    rw [hcast]
    omega
  -- up to 32768 a step of the input is at least one of the output
  · intro hfine v w hv hw heq
    have hnat : rescale 32767 (maxCfg - 1) v.toNat = rescale 32767 (maxCfg - 1) w.toNat := by
      have h := congrArg Int16.toInt heq
      rw [hval, hval, hbelow v hv, hbelow w hw] at h
      exact Int.ofNat.inj h
    exact UInt16.toNat.inj (rescale_injective hpos (by omega) hnat)
  -- from 32768 on it is at most one
  · intro hcoarse r hr0 hr
    obtain ⟨v, hv, hr'⟩ :=
      rescale_surjective (n := 32767) (m := maxCfg - 1) (r := r.toNat) (by omega) (by omega)
        (by omega)
    have hv' : (UInt16.ofNat v).toNat = v := by
      rw [UInt16.toNat_ofNat']
      omega
    refine ⟨UInt16.ofNat v, by omega, ?_⟩
    rw [hval, hv', Nat.min_eq_left hv, hr']
    omega

/-- The widest range and its last coordinate, where the product is largest. -/
theorem scaleAbsAxis_tight_widest :
    scaleAbsAxisChecked 65535 65536 = some (scaleAbsAxis 65535 65536) ∧
    scaledCoordinate 65536 65535 = 32767 := by
  have h := scaleAbsAxis_tight 65536 (by decide) (by decide)
  exact ⟨h.1 65535, h.2.2.2.2.1 65535 (by decide)⟩

end CaptureKVMBridge.Usb
