import Framecast.Word

/-!
# Calibrations

A calibration is a line between two time scales: it passes through the point
(`internal`, `external`) with slope `num / denom`. `adjust` goes from the internal scale to the
external one, `unadjust` back; both work on the distance from the point, round it down, and clip
the result to the range of words.
-/

namespace Framecast

/-- A line between an internal and an external time scale. -/
structure Calibration where
  internal : Word
  external : Word
  num : Word
  denom : Word
  deriving DecidableEq, Repr, Inhabited

namespace Calibration

/-- Both clocks show the same time. -/
def identity : Calibration := ⟨0, 0, 1, 1⟩

/-- The line of slope one through a point. -/
def through (internal external : Word) : Calibration := ⟨internal, external, 1, 1⟩

/-- The distance `value * num / denom` rounded down and clipped; without a denominator it is the
largest word. -/
def scale (value num denom : Word) : Word :=
  if denom = 0 then Word.top
  else Word.ofNatSat (value.toNat * num.toNat / denom.toNat)

/-- The point `image` moved by the scaled distance of `time` from `base`, to the side `time` lies
on. -/
def carry (base image num denom time : Word) : Word :=
  if base ≤ time then image.satAdd (scale (time - base) num denom)
  else image.satSub (scale (base - time) num denom)

/-- The master's time at an internal time. -/
def adjust (c : Calibration) (time : Word) : Word :=
  carry c.internal c.external c.num c.denom time

/-- The internal time at a time of the master. -/
def unadjust (c : Calibration) (time : Word) : Word :=
  carry c.external c.internal c.denom c.num time

/-- Scaling rounds down, and stays at the greatest word where the result is no word. -/
theorem toNat_scale {value num denom : Word} (h : denom ≠ 0) :
    (scale value num denom).toNat =
      min (value.toNat * num.toNat / denom.toNat) 0xffffffffffffffff := by
  rw [scale, if_neg h, Word.toNat_ofNatSat]

end Calibration

end Framecast
