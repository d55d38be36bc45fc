import Framecast.Clock.Fit
import Framecast.Duration

/-!
# Following a master clock

A follower translates between its own internal clock and the time of a master. Attaching a master
calibrates it one to one through a single pair of readings; after that `sync` takes a further pair
whenever the sampling interval has passed and refits the line through the most recent ones.

The clocks themselves are outside: every operation is given what they show.
-/

namespace Framecast

/-- When a follower takes samples, and how many of them it fits its line to. -/
structure ClockConfig where
  /-- Least internal time between two samples. -/
  interval : Duration := .ofSeconds 1
  /-- Samples kept for the fit; at least two are kept whatever is asked for. -/
  window : Nat := 32
  deriving DecidableEq, Repr, Inhabited

/-- What the clocks show at one moment. -/
structure Readings where
  internal : Word
  masters : Nat → Word

instance : Inhabited Readings := ⟨⟨0, fun _ => 0⟩⟩

/-- An internal clock calibrated against a master. -/
structure ClockFollower where
  config : ClockConfig := {}
  master : Option Nat := none
  calibration : Calibration := .identity
  samples : List Clock.Sample := []
  lastSample : Option Word := none
  deriving Repr, Inhabited

namespace ClockFollower

/-- The sampling interval in nanoseconds, of which a word keeps the lower bits. -/
def intervalWord (c : ClockConfig) : Word :=
  UInt64.ofNat c.interval.nanos

/-- What the internal clock and a master's clock show at one time. -/
def sampleOf (now : Readings) (master : Nat) : Clock.Sample :=
  ⟨now.internal, now.masters master⟩

/-- Follow a master, starting one to one at its present reading. -/
def attach (now : Readings) (master : Nat) (f : ClockFollower) : ClockFollower :=
  let sample := sampleOf now master
  { f with
    master := some master
    calibration := .through sample.internal sample.external
    samples := [sample]
    lastSample := some sample.internal }

/-- Follow no master any more; the calibration stays. -/
def detach (f : ClockFollower) : ClockFollower :=
  { f with master := none, samples := [], lastSample := none }

/-- Attach to a master, or to none. -/
def follow (now : Readings) (master : Option Nat) (f : ClockFollower) : ClockFollower :=
  match master with
  | some m => f.attach now m
  | none => f.detach

/-- Translate by another line from now on. -/
def calibrate (c : Calibration) (f : ClockFollower) : ClockFollower :=
  { f with calibration := c }

/-- Whether the sampling interval has passed since the newest sample. -/
def isDue (now : Readings) (f : ClockFollower) : Bool :=
  match f.lastSample with
  | none => true
  | some last => !(now.internal.satSub last < intervalWord f.config)

/-- The newest samples, as many as the window has room for, and never fewer than two. -/
def keep (window : Nat) (samples : List Clock.Sample) : List Clock.Sample :=
  samples.drop (samples.length - max window 2)

/-- Take a sample if one is due, and refit with the given fit. -/
def syncWith (fit : List Clock.Sample → Option Calibration) (now : Readings)
    (f : ClockFollower) : ClockFollower :=
  match f.master with
  | none => f
  | some m =>
    if f.isDue now then
      let samples := keep f.config.window (f.samples ++ [sampleOf now m])
      { f with
        samples := samples
        lastSample := some now.internal
        calibration := (fit samples).getD f.calibration }
    else f

/-- Take a sample if one is due, and refit by least squares. -/
def sync (now : Readings) (f : ClockFollower) : ClockFollower :=
  f.syncWith Clock.fit now

/-- The follower's reading at an internal time. -/
def adjust (f : ClockFollower) (time : Word) : Word :=
  f.calibration.adjust time

/-- The internal time at which the follower reads this. -/
def unadjust (f : ClockFollower) (time : Word) : Word :=
  f.calibration.unadjust time

/-- The present time of the master, as far as the calibration tells. -/
def now (reading : Readings) (f : ClockFollower) : Word :=
  f.adjust reading.internal

end ClockFollower

end Framecast
