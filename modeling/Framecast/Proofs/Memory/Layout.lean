import Framecast.Arena.Layout

/-!
# Layouts in exact numbers

`pad` rounds up and `layout?` rounds up twice, with four checked operations on the way. In exact
numbers there is one condition under which a layout exists (`layout?_eq_none_iff`), and both
roundings are told by three facts that leave one number (`RoundsTo.unique`).
-/

namespace Framecast.Arena

/-- The least multiple of `unit` from `n` on is `m`. -/
structure RoundsTo (unit n m : Nat) : Prop where
  dvd : unit ∣ m
  le : n ≤ m
  lt : m < n + unit

namespace RoundsTo

variable {unit n m k : Nat}

/-- A rounded number is below every other multiple that is no less than the number. -/
theorem le_of_dvd (h : RoundsTo unit n m) (hdvd : unit ∣ k) (hle : n ≤ k) : m ≤ k := by
  obtain ⟨a, rfl⟩ := h.dvd
  obtain ⟨b, rfl⟩ := hdvd
  have hlt : unit * a < unit * (b + 1) := by
    rw [Nat.mul_add_one]
    exact Nat.lt_of_lt_of_le h.lt (Nat.add_le_add_right hle unit)
  exact Nat.mul_le_mul_left unit (Nat.le_of_lt_succ (Nat.lt_of_mul_lt_mul_left hlt))

/-- There is one number to round to. -/
theorem unique (hm : RoundsTo unit n m) (hk : RoundsTo unit n k) : m = k :=
  Nat.le_antisymm (hm.le_of_dvd hk.dvd hk.le) (hk.le_of_dvd hm.dvd hm.le)

/-- Whole units below a number of whole units leave room for one more. -/
theorem add_unit_le (h : RoundsTo unit n m) (hdvd : unit ∣ k) (hlt : m < k) : m + unit ≤ k := by
  obtain ⟨a, rfl⟩ := h.dvd
  obtain ⟨b, rfl⟩ := hdvd
  rw [← Nat.mul_add_one]
  exact Nat.mul_le_mul_left unit (Nat.lt_of_mul_lt_mul_left hlt)

end RoundsTo

theorem roundsTo_div_mul (n mask : Nat) :
    RoundsTo (mask + 1) n ((n + mask) / (mask + 1) * (mask + 1)) := by
  have hsplit := Nat.div_add_mod' (n + mask) (mask + 1)
  have hrest : (n + mask) % (mask + 1) < mask + 1 := Nat.mod_lt _ (Nat.succ_pos mask)
  exact ⟨Nat.dvd_mul_left .., by omega, by omega⟩

/-- Padding succeeds where its sums are words, and then it rounds. -/
theorem pad_eq_some_iff {offset mask w : Word} :
    pad offset mask = some w ↔ mask.toNat + 1 < 0x10000000000000000 ∧
      offset.toNat + mask.toNat < 0x10000000000000000 ∧
      RoundsTo (mask.toNat + 1) offset.toNat w.toNat := by
  have hone : (1 : Word).toNat = 1 := rfl
  have hround := roundsTo_div_mul offset.toNat mask.toNat
  have hvalue {unit reach : Word} (hunit : mask.add? 1 = some unit)
      (hreach : offset.add? mask = some reach) : (reach / unit * unit).toNat =
        (offset.toNat + mask.toNat) / (mask.toNat + 1) * (mask.toNat + 1) := by
    have hunit := Word.add?_eq_some_iff.mp hunit
    have hreach := Word.add?_eq_some_iff.mp hreach
    have hword := reach.toNat_lt
    have hle := Nat.div_mul_le_self reach.toNat unit.toNat
    rw [UInt64.toNat_mul, UInt64.toNat_div, Nat.mod_eq_of_lt (by omega), ← hreach, ← hunit, hone]
  simp only [pad, Option.bind_eq_bind, Option.bind_eq_some_iff, Option.pure_def, Option.some.injEq]
  constructor
  · rintro ⟨unit, hunit, reach, hreach, rfl⟩
    have hunitLt := unit.toNat_lt
    have hreachLt := reach.toNat_lt
    rw [← Word.add?_eq_some_iff.mp hunit, hone] at hunitLt
    rw [← Word.add?_eq_some_iff.mp hreach] at hreachLt
    rw [hvalue hunit hreach]
    exact ⟨hunitLt, hreachLt, hround⟩
  · rintro ⟨hunitLt, hreachLt, hw⟩
    have hunit : mask.add? 1 = some (mask + 1) := by
      rw [Word.add?, hone, if_pos hunitLt]
    have hreach : offset.add? mask = some (offset + mask) := by
      rw [Word.add?, if_pos hreachLt]
    refine ⟨_, hunit, _, hreach, ?_⟩
    rw [← UInt64.toNat_inj, hvalue hunit hreach]
    exact hround.unique hw

/-- Rounding up needs the unit and the last number that could be meant as words. -/
theorem pad_eq_none_iff {offset mask : Word} :
    pad offset mask = none ↔ 0x10000000000000000 ≤ mask.toNat + 1 ∨
      0x10000000000000000 ≤ offset.toNat + mask.toNat := by
  have hunit : mask.add? 1 = none ↔ 0x10000000000000000 ≤ mask.toNat + 1 := Word.add?_eq_none_iff
  rw [← hunit, ← Word.add?_eq_none_iff, pad]
  cases mask.add? 1 with
  | none => simp
  | some unit => cases offset.add? mask <;> simp

/-! ### The whole layout -/

/-- The visible range cannot be placed, or the backing file of whole pages would be too long, for
words. -/
def Overflows (page : Nat) (size : Word) (params : Params) : Prop :=
  pad params.lead params.align = none ∨
    ∃ start whole, pad params.lead params.align = some start ∧
      RoundsTo page (size.toNat + start.toNat + params.padding.toNat) whole ∧
      0x10000000000000000 ≤ whole

section

variable {page : Nat} {pageMask size : Word} {params : Params}
  (hmask : pageMask.toNat + 1 = page) (hpages : page ∣ 0x8000000000000000)
include hmask hpages

/-- A layout starts behind the lead and ends at a page. -/
theorem layout?_eq_some_iff {layout : Layout} :
    layout? pageMask size params = some layout ↔
      pad params.lead params.align = some layout.offset ∧
      RoundsTo page (size.toNat + layout.offset.toNat + params.padding.toNat)
        layout.capacity.toNat := by
  simp only [layout?, Option.bind_eq_bind, Option.bind_eq_some_iff, Option.pure_def,
    Option.some.injEq]
  constructor
  · rintro ⟨offset, hoffset, used, hused, padded, hpadded, capacity, hcapacity, rfl⟩
    obtain ⟨-, -, hround⟩ := pad_eq_some_iff.mp hcapacity
    rw [← Word.add?_eq_some_iff.mp hpadded, ← Word.add?_eq_some_iff.mp hused, hmask] at hround
    exact ⟨hoffset, hround⟩
  · rintro ⟨hoffset, hround⟩
    have hword := layout.capacity.toNat_lt
    have hle := hround.le
    have hunit := Nat.le_of_dvd (by decide) hpages
    have hroom := hround.add_unit_le (Nat.dvd_trans hpages ⟨2, rfl⟩) hword
    have hused : size.add? layout.offset = some (size + layout.offset) := by
      rw [Word.add?, if_pos (by omega)]
    have hsum := Word.add?_eq_some_iff.mp hused
    have hpadded : (size + layout.offset).add? params.padding =
        some (size + layout.offset + params.padding) := by
      rw [Word.add?, if_pos (by omega)]
    have htotal := Word.add?_eq_some_iff.mp hpadded
    refine ⟨_, hoffset, _, hused, _, hpadded, layout.capacity, pad_eq_some_iff.mpr ?_, rfl⟩
    rw [← htotal, ← hsum, hmask]
    exact ⟨by omega, by omega, hround⟩

/-- There is no layout exactly where a sum overflows. -/
theorem layout?_eq_none_iff :
    layout? pageMask size params = none ↔ Overflows page size params := by
  rw [Option.eq_none_iff_forall_ne_some]
  constructor
  · intro hnone
    cases hstart : pad params.lead params.align with
    | none => exact .inl hstart
    | some start =>
      obtain ⟨whole, hround⟩ :
          ∃ whole, RoundsTo page (size.toNat + start.toNat + params.padding.toNat) whole :=
        ⟨_, hmask ▸ roundsTo_div_mul _ pageMask.toNat⟩
      rcases Nat.lt_or_ge whole 0x10000000000000000 with hfits | hlarge
      · refine absurd ((layout?_eq_some_iff hmask hpages).mpr ⟨hstart, ?_⟩)
          (hnone ⟨start, UInt64.ofNat whole⟩)
        rw [UInt64.toNat_ofNat_of_lt' hfits]
        exact hround
      · exact .inr ⟨start, whole, hstart, hround, hlarge⟩
  · rintro (hstart | ⟨start, whole, hstart, hwhole, hlarge⟩) layout hlayout
    · rw [((layout?_eq_some_iff hmask hpages).mp hlayout).1] at hstart
      cases hstart
    · obtain ⟨hoffset, hround⟩ := (layout?_eq_some_iff hmask hpages).mp hlayout
      have hword := layout.capacity.toNat_lt
      rw [hstart, Option.some.injEq] at hoffset
      subst hoffset
      have hsame := hround.unique hwhole
      omega

end

end Framecast.Arena
