import Mathlib.Algebra.Order.Floor.Div
import Framecast.Proofs.Clock.Carry

/-!
# There and back

A time that is carried to the other scale of a calibration and back is rounded twice, each time
towards the anchor, and the second way takes its side of the anchor from what the first one gave. If
nothing is clipped on the first way, the time comes back between the anchor and where it was, at
most one step of the other scale away (`Clear.returns`); `returns_both_ways` says so for both
orders.
-/

namespace Framecast.Calibration

/-! ### Scaling there and back -/

/-- A distance that is scaled there and back is no longer than it was. -/
theorem scaled_back_le (d num denom : Nat) : d * num / denom * denom / num ≤ d := by
  apply Nat.div_le_of_le_mul
  rw [Nat.mul_comm num d]
  exact Nat.div_mul_le_self (d * num) denom

/-- It is shorter by at most one step of the other scale, rounded up. -/
theorem le_scaled_back_add (d : Nat) {num denom : Nat} (hnum : 0 < num) (hdenom : 0 < denom) :
    d ≤ d * num / denom * denom / num + denom ⌈/⌉ num := by
  have hthere : d * num < d * num / denom * denom + denom := Nat.lt_div_mul_add hdenom
  have hback : d * num / denom * denom < d * num / denom * denom / num * num + num :=
    Nat.lt_div_mul_add hnum
  have hstep : denom ≤ num * (denom ⌈/⌉ num) := le_smul_ceilDiv hnum
  generalize d * num / denom * denom = scaled at hthere hback ⊢
  generalize scaled / num = back at hback ⊢
  generalize denom ⌈/⌉ num = step at hstep ⊢
  have hlt : d * num < (back + step + 1) * num := by
    rw [Nat.add_one_mul, Nat.add_mul, Nat.mul_comm step]
    omega
  exact Nat.le_of_lt_succ (Nat.lt_of_mul_lt_mul_right hlt)

/-- Nothing is lost if the slope is a whole number. -/
theorem scaled_back_of_dvd (d : Nat) {num denom : Nat} (hnum : 0 < num) (h : denom ∣ num) :
    d * num / denom * denom / num = d := by
  rw [Nat.div_mul_cancel (Dvd.dvd.mul_left h d), Nat.mul_div_cancel d hnum]

/-! ### Products -/

/-- A word with room for a product. -/
def wide (w : Word) : BitVec 128 :=
  w.toBitVec.setWidth 128

theorem toNat_wide (w : Word) : (wide w).toNat = w.toNat := by
  have hw := w.toNat_lt
  rw [wide, BitVec.toNat_setWidth, UInt64.toNat_toBitVec]
  omega

/-- The product of two words in 128 bits. -/
def product (value num : Word) : BitVec 128 :=
  wide value * wide num

/-- No product of words leaves its 128 bits. -/
theorem toNat_product (value num : Word) :
    (product value num).toNat = value.toNat * num.toNat := by
  have hvalue := value.toNat_lt
  have hnum := num.toNat_lt
  have hlt : value.toNat * num.toNat < 2 ^ 64 * 2 ^ 64 := Nat.mul_lt_mul'' hvalue hnum
  rw [product, BitVec.toNat_mul, toNat_wide, toNat_wide]
  exact Nat.mod_eq_of_lt hlt

/-- Scaling as it is done in 128 bits. -/
def wideScale (value num denom : Word) : Word :=
  if denom = 0 then Word.top else Word.ofNatSat (product value num / wide denom).toNat

/-- The scaled product of the machine is the exact one. -/
theorem wideScale_eq (value num denom : Word) :
    wideScale value num denom = scale value num denom := by
  rw [wideScale, scale, BitVec.toNat_udiv, toNat_product, toNat_wide]

/-! ### Carrying there and back -/

/-- How far apart two times are. -/
def gap (s t : Word) : Nat :=
  (s.toNat - t.toNat) + (t.toNat - s.toNat)

/-- How far the image of a time is from the image of the anchor, if nothing is clipped. -/
def reach (base num denom time : Word) : Nat :=
  gap base time * num.toNat / denom.toNat

variable {base image num denom time : Word}

/-- Behind the base, times go forward from its image. -/
theorem toNat_carry_of_le (hdenom : denom ≠ 0) (h : base ≤ time) :
    (carry base image num denom time).toNat =
      min (image.toNat + min (reach base num denom time) 0xffffffffffffffff)
        0xffffffffffffffff := by
  have hle := UInt64.le_iff_toNat_le.mp h
  have hgap : gap base time = time.toNat - base.toNat := by
    unfold gap
    omega
  rw [carry, if_pos h, Word.toNat_satAdd, toNat_scale hdenom, UInt64.toNat_sub_of_le _ _ h, reach,
    hgap]

theorem toNat_carry_of_lt (hdenom : denom ≠ 0) (h : time < base) :
    (carry base image num denom time).toNat =
      image.toNat - min (reach base num denom time) 0xffffffffffffffff := by
  have hlt := UInt64.lt_iff_toNat_lt.mp h
  have hgap : gap base time = base.toNat - time.toNat := by
    unfold gap
    omega
  rw [carry, if_neg (UInt64.not_le.mpr h), Word.toNat_satSub, toNat_scale hdenom,
    UInt64.toNat_sub_of_le _ _ (UInt64.le_of_lt h), reach, hgap]

/-- Nothing is clipped when a time is carried. -/
structure Clear (base image num denom time : Word) : Prop where
  reach_lt : reach base num denom time < 0x10000000000000000
  sum_lt : base ≤ time → image.toNat + reach base num denom time < 0x10000000000000000
  le_image : time < base → reach base num denom time ≤ image.toNat

/-- A time that came back: on its side of the anchor, between the anchor and where it was, and at
most so far away. -/
structure Returns (base time back : Word) (loss : Nat) : Prop where
  above : base ≤ time → base ≤ back ∧ back ≤ time
  below : time ≤ base → time ≤ back ∧ back ≤ base
  near : gap time back ≤ loss

/-- A time that comes back at a shorter distance on its side of the anchor. -/
theorem Returns.of_toNat {back : Word} {d loss : Nat}
    (habove : base ≤ time → back.toNat = base.toNat + d)
    (hbelow : time < base → back.toNat = base.toNat - d)
    (hle : d ≤ gap base time) (hloss : gap base time ≤ d + loss) : Returns base time back loss := by
  unfold gap at hle hloss
  constructor
  · intro h
    have hback := habove h
    simp only [UInt64.le_iff_toNat_le] at h ⊢
    omega
  · intro h
    rcases UInt64.lt_or_eq_of_le h with hlt | rfl
    · have hback := hbelow hlt
      simp only [UInt64.le_iff_toNat_le, UInt64.lt_iff_toNat_lt] at hlt ⊢
      omega
    · have hback := habove h
      simp only [UInt64.le_iff_toNat_le] at h ⊢
      omega
  · unfold gap
    rcases UInt64.lt_or_le time base with hlt | hge
    · have hback := hbelow hlt
      rw [UInt64.lt_iff_toNat_lt] at hlt
      omega
    · have hback := habove hge
      rw [UInt64.le_iff_toNat_le] at hge
      omega

/-- The distance at which a time comes back. -/
def returned (base num denom time : Word) : Nat :=
  reach base num denom time * denom.toNat / num.toNat

/-- What comes back is no more than what went out. -/
theorem returned_le_gap (base num denom time : Word) :
    returned base num denom time ≤ gap base time :=
  scaled_back_le ..

variable (hnum : num ≠ 0) (hdenom : denom ≠ 0)
include hnum hdenom

theorem Clear.back_of_le (hclear : Clear base image num denom time) (h : base ≤ time) :
    (carry image base denom num (carry base image num denom time)).toNat =
      base.toNat + returned base num denom time := by
  have hthere : (carry base image num denom time).toNat = _ := toNat_carry_of_le hdenom h
  have hreach := hclear.reach_lt
  have hsum := hclear.sum_lt h
  have hback := returned_le_gap base num denom time
  have htime := time.toNat_lt
  have hle : image ≤ carry base image num denom time := by
    rw [UInt64.le_iff_toNat_le, hthere]
    omega
  have hsame : reach image denom num (carry base image num denom time) =
      returned base num denom time := by
    have hgap : gap image (carry base image num denom time) = reach base num denom time := by
      unfold gap
      omega
    rw [reach, hgap, returned]
  rw [UInt64.le_iff_toNat_le] at h
  unfold gap at hback
  rw [toNat_carry_of_le hnum hle, hsame]
  omega

theorem Clear.back_of_lt (hclear : Clear base image num denom time) (h : time < base) :
    (carry image base denom num (carry base image num denom time)).toNat =
      base.toNat - returned base num denom time := by
  have hthere : (carry base image num denom time).toNat = _ := toNat_carry_of_lt hdenom h
  have hreach := hclear.reach_lt
  have hle := hclear.le_image h
  have hback := returned_le_gap base num denom time
  have hbase := base.toNat_lt
  have hgap : gap image (carry base image num denom time) = reach base num denom time := by
    unfold gap
    omega
  have hsame : reach image denom num (carry base image num denom time) =
      returned base num denom time := by
    rw [reach, hgap, returned]
  unfold gap at hback
  rcases UInt64.lt_or_le (carry base image num denom time) image with hlt | hge
  · rw [toNat_carry_of_lt hnum hlt, hsame]
    rw [UInt64.lt_iff_toNat_lt] at h
    omega
  · -- Rounded down to nothing, the image is that of the anchor, which is carried upwards.
    have hzero : reach base num denom time = 0 := by
      rw [UInt64.le_iff_toNat_le] at hge
      omega
    have hreturned : returned base num denom time = 0 := by
      rw [returned, hzero, Nat.zero_mul, Nat.zero_div]
    rw [toNat_carry_of_le hnum hge, hsame, hreturned]
    omega

/-- A time that is not clipped on the way there comes back. -/
theorem Clear.returns (hclear : Clear base image num denom time) :
    Returns base time (carry image base denom num (carry base image num denom time))
      (denom.toNat ⌈/⌉ num.toNat) := by
  have hnum' : 0 < num.toNat := UInt64.lt_iff_toNat_lt.mp (UInt64.pos_iff_ne_zero.mpr hnum)
  have hdenom' : 0 < denom.toNat := UInt64.lt_iff_toNat_lt.mp (UInt64.pos_iff_ne_zero.mpr hdenom)
  exact .of_toNat (hclear.back_of_le hnum hdenom) (hclear.back_of_lt hnum hdenom)
    (returned_le_gap base num denom time) (le_scaled_back_add (gap base time) hnum' hdenom')

/-- It comes back as it was if the slope is a whole number. -/
theorem Clear.back_eq (hclear : Clear base image num denom time) (h : denom.toNat ∣ num.toNat) :
    carry image base denom num (carry base image num denom time) = time := by
  have hnum' : 0 < num.toNat := UInt64.lt_iff_toNat_lt.mp (UInt64.pos_iff_ne_zero.mpr hnum)
  have hwhole : returned base num denom time = gap base time :=
    scaled_back_of_dvd (gap base time) hnum' h
  rw [← UInt64.toNat_inj]
  rcases UInt64.lt_or_le time base with hlt | hge
  · rw [hclear.back_of_lt hnum hdenom hlt, hwhole, gap]
    rw [UInt64.lt_iff_toNat_lt] at hlt
    omega
  · rw [hclear.back_of_le hnum hdenom hge, hwhole, gap]
    rw [UInt64.le_iff_toNat_le] at hge
    omega

omit hnum hdenom

/-- **Calibrations can be undone up to rounding.** Whatever the anchor and the slope, a time of
either scale that is not clipped on the way to the other one comes back on its side of the anchor,
not beyond where it was, and at most one step of the other scale away from it, rounded up; exactly
if that scale is a whole number of times finer. All products on the way are those of 128 bits. -/
theorem returns_both_ways (c : Calibration) (hnum : 0 < c.num) (hdenom : 0 < c.denom) :
    (∀ t, Clear c.internal c.external c.num c.denom t →
      let back := c.unadjust (c.adjust t)
      Returns c.internal t back (c.denom.toNat ⌈/⌉ c.num.toNat) ∧
        (c.denom.toNat ∣ c.num.toNat → back = t)) ∧
    (∀ e, Clear c.external c.internal c.denom c.num e →
      let back := c.adjust (c.unadjust e)
      Returns c.external e back (c.num.toNat ⌈/⌉ c.denom.toNat) ∧
        (c.num.toNat ∣ c.denom.toNat → back = e)) ∧
    ∀ value num denom, (product value num).toNat = value.toNat * num.toNat ∧
      wideScale value num denom = scale value num denom := by
  have hnum := UInt64.pos_iff_ne_zero.mp hnum
  have hdenom := UInt64.pos_iff_ne_zero.mp hdenom
  refine ⟨?_, ?_, ?_⟩
  · intro t hclear
    exact ⟨hclear.returns hnum hdenom, hclear.back_eq hnum hdenom⟩
  · intro e hclear
    exact ⟨hclear.returns hdenom hnum, hclear.back_eq hdenom hnum⟩
  · intro value num denom
    exact ⟨toNat_product value num, wideScale_eq value num denom⟩

/-- Three steps for every seven: a time below the anchor is one off when it comes back, and so is
one above the anchor of the other scale. -/
theorem returns_both_ways_threeSevenths :
    let c : Calibration := ⟨1000, 50000, 3, 7⟩
    0 < c.num ∧ 0 < c.denom ∧
    Clear c.internal c.external c.num c.denom 990 ∧ c.unadjust (c.adjust 990) = 991 ∧
    Returns c.internal 990 991 3 ∧
    Clear c.external c.internal c.denom c.num 50010 ∧ c.adjust (c.unadjust 50010) = 50009 ∧
    Returns c.external 50010 50009 1 := by
  intro c
  have hbelow : Clear c.internal c.external c.num c.denom 990 :=
    ⟨by decide, by decide, by decide⟩
  have habove : Clear c.external c.internal c.denom c.num 50010 :=
    ⟨by decide, by decide, by decide⟩
  obtain ⟨hinternal, hexternal, -⟩ := returns_both_ways c (by decide) (by decide)
  have hback : c.unadjust (c.adjust 990) = 991 := by decide
  have hthere : c.adjust (c.unadjust 50010) = 50009 := by decide
  have hstep : c.denom.toNat ⌈/⌉ c.num.toNat = 3 := Nat.ceilDiv_eq_add_pred_div 7 3
  have hinverse : c.num.toNat ⌈/⌉ c.denom.toNat = 1 := Nat.ceilDiv_eq_add_pred_div 3 7
  refine ⟨by decide, by decide, hbelow, hback, ?_, habove, hthere, ?_⟩
  · rw [← hback, ← hstep]
    exact (hinternal 990 hbelow).1
  · rw [← hthere, ← hinverse]
    exact (hexternal 50010 habove).1

end Framecast.Calibration
