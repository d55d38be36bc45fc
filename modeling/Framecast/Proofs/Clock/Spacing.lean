import Mathlib.Algebra.Ring.Nat
import Mathlib.Data.List.Chain
import Framecast.Proofs.Clock.Samples

/-!
# How far apart samples are taken

A follower holds the sampling interval as a word, so that it compares with the remainder of the
interval modulo `2 ^ 64` nanoseconds. This remainder keeps the samples apart (`apart_run`), and it
is the interval itself exactly if that is less than `2 ^ 64` nanoseconds, about 584 years: only then
is no sample taken before the interval has passed (`samples_apart_iff`).
-/

namespace Framecast.ClockFollower

open Clock (Sample)

/-- The second of two samples was taken at least so many nanoseconds after the first. -/
def Apart (nanos : Nat) (first second : Sample) : Prop :=
  nanos ≤ second.internal.toNat - first.internal.toNat

/-- The nanoseconds that a follower waits for between two samples. -/
def waited (config : ClockConfig) : Nat :=
  config.interval.nanos % 2 ^ 64

theorem toNat_intervalWord (config : ClockConfig) :
    (intervalWord config).toNat = waited config :=
  UInt64.toNat_ofNat'

/-- A sample is too early for a follower if less than the remainder has passed. -/
theorem satSub_lt_intervalWord {config : ClockConfig} {time last : Word} :
    time.satSub last < intervalWord config ↔ time.toNat - last.toNat < waited config := by
  rw [UInt64.lt_iff_toNat_lt, Word.toNat_satSub, toNat_intervalWord]

theorem waited_of_lt {config : ClockConfig} (h : config.interval.nanos < 2 ^ 64) :
    waited config = config.interval.nanos :=
  Nat.mod_eq_of_lt h

/-- No two readings are further apart than the range of words. -/
theorem not_apart {nanos : Nat} (h : 2 ^ 64 ≤ nanos) (first second : Sample) :
    ¬Apart nanos first second := by
  have := second.internal.toNat_lt
  unfold Apart
  omega

/-- Samples that a follower takes are the remainder apart. -/
theorem isChain_spaced (config : ClockConfig) (last : Sample) (pairs : List Sample) :
    (last :: Tenure.spaced (intervalWord config) last pairs).IsChain (Apart (waited config)) := by
  induction pairs generalizing last with
  | nil => exact .singleton last
  | cons s rest ih =>
    rw [Tenure.spaced]
    split
    · exact ih last
    · rename_i hlate
      rw [satSub_lt_intervalWord, Nat.not_lt] at hlate
      exact .cons_cons hlate (ih s)

variable {config : ClockConfig} {f : ClockFollower}

theorem Knows.isChain_samples {t : Option Tenure} (h : Knows config f t) :
    f.samples.IsChain (Apart (waited config)) := by
  cases h with
  | idle _ _ hsamples =>
    rw [hsamples]
    exact .nil
  | following t _ _ hsamples =>
    rw [hsamples]
    exact (isChain_spaced config t.first t.later).suffix (keep_suffix ..)

/-- Whatever a follower was told, its samples are as far apart as it waits. -/
theorem apart_run (config : ClockConfig) (fit : List Sample → Option Calibration)
    (acts : List Act) :
    (run fit acts { config := config }).samples.IsChain (Apart (waited config)) :=
  (knows_run config fit acts).isChain_samples

/-- The follower of a master with one more pair of readings, and the line fitted anew. -/
def resampled (fit : List Sample → Option Calibration) (now : Readings) (master : Nat)
    (f : ClockFollower) : ClockFollower :=
  let samples := keep f.config.window (f.samples ++ [sampleOf now master])
  { f with
    samples := samples
    lastSample := some now.internal
    calibration := (fit samples).getD f.calibration }

/-- A sync takes a pair exactly if the follower has waited since the newest one. -/
theorem Knows.sync_eq {t : Option Tenure} (h : Knows config f t)
    (fit : List Sample → Option Calibration) {m : Nat} {last : Sample}
    (hmaster : f.master = some m) (hlast : f.samples.getLast? = some last) (now : Readings) :
    f.syncWith fit now =
      if waited config ≤ now.internal.toNat - last.internal.toNat then f.resampled fit now m
      else f := by
  cases h with
  | idle _ hnone =>
    rw [hnone] at hmaster
    cases hmaster
  | following t hconfig _ hsamples hnewest =>
    rw [hsamples, getLast?_keep_taken, Option.some.injEq] at hlast
    rw [hlast] at hnewest
    split
    · rename_i hdue
      rw [← Nat.not_lt, ← satSub_lt_intervalWord, ← hconfig] at hdue
      exact syncWith_of_due hmaster hnewest hdue
    · rename_i hearly
      rw [Nat.not_le, ← satSub_lt_intervalWord, ← hconfig] at hearly
      exact syncWith_of_not_due hmaster hnewest hearly

/-- When it cannot happen that a follower has waited, but less than the whole interval. -/
theorem waits_whole_iff (config : ClockConfig) (last : Sample) :
    (∀ now : Word, waited config ≤ now.toNat - last.internal.toNat →
      config.interval.nanos ≤ now.toNat - last.internal.toNat) ↔
    config.interval.nanos < 2 ^ 64 ∨ 2 ^ 64 ≤ waited config + last.internal.toNat := by
  constructor
  · intro hwhole
    by_contra hshort
    rw [not_or, Nat.not_lt, Nat.not_le] at hshort
    obtain ⟨hlong, hreached⟩ := hshort
    -- The latest time at which a sample is due, if one ever is.
    have hnow : (UInt64.ofNat (waited config + last.internal.toNat)).toNat =
        waited config + last.internal.toNat := UInt64.toNat_ofNat_of_lt' hreached
    have := hwhole (UInt64.ofNat (waited config + last.internal.toNat))
    rw [hnow] at this
    omega
  · rintro (hshort | hnever) now hdue
    · rwa [waited_of_lt hshort] at hdue
    · have := now.toNat_lt
      have := last.internal.toNat_lt
      omega

/-- **The interval between samples is kept modulo the range of words.** Whatever a follower was told
and whatever the clocks showed, and for every fit, window and interval: consecutive samples that it
keeps are at least the interval apart if and only if the interval is less than `2 ^ 64` nanoseconds
or it keeps fewer than two, and always the remainder of the interval modulo `2 ^ 64`. A sync takes a
pair and fits the line anew exactly if that remainder has passed since the newest sample, and
changes nothing otherwise; so that the whole interval has passed whenever a sync takes a pair if and
only if it is less than `2 ^ 64` nanoseconds, or the internal clock never gets to where one would be
due. -/
theorem samples_apart_iff (config : ClockConfig) (fit : List Sample → Option Calibration)
    (acts : List Act) :
    let f := run fit acts { config := config }
    let interval := config.interval.nanos
    (f.samples.IsChain (fun a b => interval ≤ b.internal.toNat - a.internal.toNat) ↔
      interval < 2 ^ 64 ∨ f.samples.length ≤ 1) ∧
    f.samples.IsChain (fun a b => interval % 2 ^ 64 ≤ b.internal.toNat - a.internal.toNat) ∧
    ∀ m last, f.master = some m → f.samples.getLast? = some last →
      (∀ now, f.syncWith fit now =
        if interval % 2 ^ 64 ≤ now.internal.toNat - last.internal.toNat then f.resampled fit now m
        else f) ∧
      ((∀ now : Word, interval % 2 ^ 64 ≤ now.toNat - last.internal.toNat →
          interval ≤ now.toNat - last.internal.toNat) ↔
        interval < 2 ^ 64 ∨ 2 ^ 64 ≤ interval % 2 ^ 64 + last.internal.toNat) := by
  intro f interval
  have hknows : Knows config f (tenure acts) := knows_run config fit acts
  have hapart : f.samples.IsChain (Apart (waited config)) := apart_run config fit acts
  refine ⟨⟨?_, ?_⟩, hapart, ?_⟩
  · intro hchain
    by_contra hboth
    rw [not_or, Nat.not_lt, Nat.not_le] at hboth
    obtain ⟨hlong, htwo⟩ := hboth
    match hsamples : f.samples with
    | [] | [_] =>
      rw [hsamples] at htwo
      simp at htwo
    | first :: second :: rest =>
      rw [hsamples] at hchain
      exact not_apart hlong first second (List.isChain_cons_cons.mp hchain).1
  · rintro (hshort | hfew)
    · rwa [waited_of_lt hshort] at hapart
    · match hsamples : f.samples with
      | [] => exact .nil
      | [s] => exact .singleton s
      | _ :: _ :: _ =>
        rw [hsamples] at hfew
        simp at hfew
  · intro m last hmaster hlast
    exact ⟨fun now => hknows.sync_eq fit hmaster hlast now, waits_whole_iff config last⟩

/-- An interval of `2 ^ 64` nanoseconds is no interval at all. -/
example : (run (fun _ => none)
    [.follow ⟨0, fun _ => 0⟩ (some 0), .sync ⟨1000000, fun _ => 5000000⟩]
    { config := { interval := ⟨2 ^ 64⟩ } }).samples = [⟨0, 0⟩, ⟨1000000, 5000000⟩] := by
  decide

end Framecast.ClockFollower
