import Framecast.Clock.Calibration

/-!
# Calibrations keep the order of times

Both translations of a calibration go through `carry`: a distance is scaled, rounded down and
clipped, then added on one side of the anchor and subtracted on the other. None of this can bring
two times out of order, whatever the slope and however much is clipped. With slope one nothing is
rounded, and a translation is an addition and a subtraction.
-/

namespace Framecast

namespace Word

theorem sub?_eq_none_iff {a b : Word} : a.sub? b = none ↔ a < b := by
  rw [← UInt64.not_le]
  simp [sub?]

theorem satAdd_le_satAdd (a : Word) {b c : Word} (h : b ≤ c) : a.satAdd b ≤ a.satAdd c := by
  rw [UInt64.le_iff_toNat_le] at h ⊢
  rw [toNat_satAdd, toNat_satAdd]
  omega

theorem satSub_le_satSub_left (a : Word) {b c : Word} (h : b ≤ c) : a.satSub c ≤ a.satSub b := by
  rw [UInt64.le_iff_toNat_le] at h ⊢
  rw [toNat_satSub, toNat_satSub]
  omega

theorem satSub_le_satSub_right {a b : Word} (h : a ≤ b) (c : Word) : a.satSub c ≤ b.satSub c := by
  rw [UInt64.le_iff_toNat_le] at h ⊢
  rw [toNat_satSub, toNat_satSub]
  omega

theorem satSub_le_satAdd (a b c : Word) : a.satSub b ≤ a.satAdd c := by
  have := a.toNat_lt
  rw [UInt64.le_iff_toNat_le, toNat_satSub, toNat_satAdd]
  omega

end Word

namespace Calibration

variable {s t : Word}

/-- Scaling keeps the order of times. -/
theorem scale_mono (h : s ≤ t) (num denom : Word) : scale s num denom ≤ scale t num denom := by
  by_cases hdenom : denom = 0
  · simp [scale, hdenom]
  · have hscaled : s.toNat * num.toNat / denom.toNat ≤ t.toNat * num.toNat / denom.toNat :=
      Nat.div_le_div_right (Nat.mul_le_mul_right _ (UInt64.le_iff_toNat_le.mp h))
    rw [UInt64.le_iff_toNat_le, toNat_scale hdenom, toNat_scale hdenom]
    omega

/-- Times on either side of the anchor, or on one side of it, stay in order. -/
theorem carry_mono (h : s ≤ t) (base image num denom : Word) :
    carry base image num denom s ≤ carry base image num denom t := by
  unfold carry
  by_cases hs : base ≤ s
  · have ht : base ≤ t := UInt64.le_trans hs h
    rw [if_pos hs, if_pos ht]
    apply Word.satAdd_le_satAdd
    apply scale_mono
    rw [UInt64.le_iff_toNat_le] at h ⊢
    rw [UInt64.toNat_sub_of_le _ _ hs, UInt64.toNat_sub_of_le _ _ ht]
    omega
  · rw [if_neg hs]
    split
    · exact Word.satSub_le_satAdd ..
    · rename_i ht
      -- Below the anchor it is the smaller time that has the larger distance.
      apply Word.satSub_le_satSub_left
      apply scale_mono
      rw [UInt64.not_le] at hs ht
      have hs' := UInt64.le_of_lt hs
      have ht' := UInt64.le_of_lt ht
      rw [UInt64.le_iff_toNat_le] at h ⊢
      rw [UInt64.toNat_sub_of_le _ _ hs', UInt64.toNat_sub_of_le _ _ ht']
      omega

/-- The translation to the master's time keeps the order of times. -/
theorem adjust_mono (c : Calibration) (h : s ≤ t) : c.adjust s ≤ c.adjust t :=
  carry_mono h ..

theorem unadjust_mono (c : Calibration) (h : s ≤ t) : c.unadjust s ≤ c.unadjust t :=
  carry_mono h ..

/-! ### Slope one -/

theorem scale_one_one (value : Word) : scale value 1 1 = value := by
  have := value.toNat_lt
  have hone : (1 : Word).toNat = 1 := rfl
  rw [← UInt64.toNat_inj, toNat_scale (by decide), hone]
  omega

/-- At slope one, a translation moves all times by the same amount, within the range of words. -/
theorem toNat_carry_one_one (base image time : Word) :
    (carry base image 1 1 time).toNat =
      min (time.toNat + image.toNat - base.toNat) 0xffffffffffffffff := by
  have := image.toNat_lt
  unfold carry
  rw [scale_one_one, scale_one_one]
  split
  · rename_i h
    have hle := UInt64.le_iff_toNat_le.mp h
    rw [Word.toNat_satAdd, UInt64.toNat_sub_of_le _ _ h]
    omega
  · rename_i h
    rw [UInt64.not_le] at h
    have hlt := UInt64.lt_iff_toNat_lt.mp h
    rw [Word.toNat_satSub, UInt64.toNat_sub_of_le _ _ (UInt64.le_of_lt h)]
    omega

variable (internal external time : Word)

theorem toNat_adjust_through : ((through internal external).adjust time).toNat =
    min (time.toNat + external.toNat - internal.toNat) 0xffffffffffffffff :=
  toNat_carry_one_one ..

theorem toNat_unadjust_through : ((through internal external).unadjust time).toNat =
    min (time.toNat + internal.toNat - external.toNat) 0xffffffffffffffff :=
  toNat_carry_one_one ..

end Calibration

end Framecast
