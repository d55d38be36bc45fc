import Framecast.Clock.Calibration

/-!
# Fitting a calibration to samples

The least-squares line through pairs of clock readings, computed in double precision in a fixed
order of operations. Times are taken relative to the oldest sample, so that the sums stay small.
-/

namespace Framecast.Clock

/-- One pair of readings taken together. -/
structure Sample where
  internal : Word
  external : Word
  deriving DecidableEq, Repr, Inhabited

/-- The signed distance of two readings, modulo the range of words, as a double. -/
def distance (time base : Word) : Float :=
  (time - base).toInt64.toFloat

/-- A double rounded to the nearest word, halves away from zero, clipped to the range. -/
def roundedWord (x : Float) : Word :=
  x.round.toUInt64

/-- A reading moved by a rounded number of nanoseconds, clipped to the range of words. -/
def displaced (base : Word) (shift : Float) : Word :=
  if 0 ≤ shift then base.satAdd (roundedWord shift) else base.satSub (roundedWord (-shift))

/-- A fitted slope is a whole number of parts of this. -/
def slopeDenom : Word := 0x100000

/-- The least-squares line through the samples, oldest first, unless there are fewer than two, they
all have one internal time, or the slope is not a positive number. -/
def fit : List Sample → Option Calibration
  | [] => none
  | [_] => none
  | first :: others =>
    let samples := first :: others
    let count := samples.length.toFloat
    let meanX := samples.foldl (fun sum s => sum + distance s.internal first.internal) 0 / count
    let meanY := samples.foldl (fun sum s => sum + distance s.external first.external) 0 / count
    let (sxx, sxy) := samples.foldl (fun (sums : Float × Float) s =>
      let dx := distance s.internal first.internal - meanX
      let dy := distance s.external first.external - meanY
      (sums.1 + dx * dx, sums.2 + dx * dy)) (0, 0)
    if sxx ≤ 0 then none
    else
      let slope := sxy / sxx
      if !slope.isFinite || slope ≤ 0 then none
      else some {
        internal := displaced first.internal meanX
        external := displaced first.external meanY
        num := roundedWord (slope * slopeDenom.toFloat)
        denom := slopeDenom }

end Framecast.Clock
