import Framecast.Clock.Follower

/-!
# Whose samples a follower keeps

A follower is told to follow a master or none, to sync, or by which line to translate, in any order.
`tenure` reads off these acts what the present master could offer since it was attached, and `taken`
which of these pairs of readings are far enough apart to be taken. A follower keeps the newest of
these and nothing else (`Knows.act`, `knows_run`), so that no sample outlives a change of the
master; `samples_of_one_master` says so for every fit.
-/

namespace Framecast.ClockFollower

open Clock (Sample)

/-- What is done to a follower. -/
inductive Act where
  | follow (now : Readings) (master : Option Nat)
  | sync (now : Readings)
  | calibrate (c : Calibration)

/-- Do one act, refitting with the given fit. -/
def act (fit : List Sample → Option Calibration) (a : Act) (f : ClockFollower) : ClockFollower :=
  match a with
  | .follow now master => f.follow now master
  | .sync now => f.syncWith fit now
  | .calibrate c => f.calibrate c

/-- Do several things to a follower, one after the other. -/
def run (fit : List Sample → Option Calibration) (acts : List Act) (f : ClockFollower) :
    ClockFollower :=
  acts.foldl (fun f a => f.act fit a) f

/-! ### What a master offers -/

/-- The time with one master: what the clocks showed when it was attached, and at every sync
since. -/
structure Tenure where
  master : Nat
  attached : Readings
  syncs : List Readings := []

namespace Tenure

/-- The pair of readings by which the master was attached. -/
def first (t : Tenure) : Sample :=
  sampleOf t.attached t.master

/-- The pairs of readings that could be taken at the syncs. -/
def later (t : Tenure) : List Sample :=
  t.syncs.map (sampleOf · t.master)

/-- All pairs of readings that could be taken, oldest first. -/
def offered (t : Tenure) : List Sample :=
  t.first :: t.later

/-- Of some pairs, those that are taken after the given one: each comes at least an interval after
the one that was taken before it. -/
def spaced (interval : Word) : Sample → List Sample → List Sample
  | _, [] => []
  | last, s :: rest =>
    if s.internal.satSub last.internal < interval then spaced interval last rest
    else s :: spaced interval s rest

/-- The pairs of readings that are taken, oldest first. -/
def taken (interval : Word) (t : Tenure) : List Sample :=
  t.first :: spaced interval t.first t.later

/-- The newest pair that was taken. -/
def newest (interval : Word) (t : Tenure) : Sample :=
  (spaced interval t.first t.later).getLastD t.first

/-- One more look at the clocks while the follower is attached. -/
def sync (now : Readings) (t : Tenure) : Tenure :=
  { t with syncs := t.syncs ++ [now] }

/-- The time with the present master, if there is one, after one more act. -/
def after : Option Tenure → Act → Option Tenure
  | _, .follow now (some m) => some ⟨m, now, []⟩
  | _, .follow _ none => none
  | some t, .sync now => some (t.sync now)
  | none, .sync _ => none
  | t, .calibrate _ => t

theorem spaced_sublist (interval : Word) (last : Sample) (pairs : List Sample) :
    (spaced interval last pairs).Sublist pairs := by
  induction pairs generalizing last with
  | nil => exact .slnil
  | cons s rest ih =>
    rw [spaced]
    split
    · exact (ih last).cons s
    · exact (ih s).cons_cons s

theorem taken_sublist (interval : Word) (t : Tenure) : (t.taken interval).Sublist t.offered :=
  (spaced_sublist interval _ t.later).cons_cons _

/-- Whether one more pair is taken depends on the newest one that was. -/
theorem spaced_concat (interval : Word) (last s : Sample) (pairs : List Sample) :
    spaced interval last (pairs ++ [s]) =
      if s.internal.satSub ((spaced interval last pairs).getLastD last).internal < interval then
        spaced interval last pairs
      else spaced interval last pairs ++ [s] := by
  induction pairs generalizing last with
  | nil =>
    rw [List.nil_append, spaced]
    rfl
  | cons p rest ih =>
    rw [List.cons_append, spaced, spaced]
    by_cases hp : p.internal.satSub last.internal < interval
    · rw [if_pos hp, if_pos hp]
      exact ih last
    · rw [if_neg hp, if_neg hp, ih p, List.getLastD_cons]
      exact apply_ite (List.cons p) ..

/-- A look at the clocks adds a sample if the interval has passed, and nothing otherwise. -/
theorem taken_sync (interval : Word) (now : Readings) (t : Tenure) :
    (t.sync now).taken interval =
      if now.internal.satSub (t.newest interval).internal < interval then t.taken interval
      else t.taken interval ++ [sampleOf now t.master] := by
  have hlater : (t.sync now).later = t.later ++ [sampleOf now t.master] := List.map_append
  have hfirst : (t.sync now).first = t.first := rfl
  rw [taken, hlater, hfirst, spaced_concat]
  exact apply_ite (List.cons t.first) ..

theorem newest_sync (interval : Word) (now : Readings) (t : Tenure) :
    (t.sync now).newest interval =
      if now.internal.satSub (t.newest interval).internal < interval then t.newest interval
      else sampleOf now t.master := by
  have hlater : (t.sync now).later = t.later ++ [sampleOf now t.master] := List.map_append
  have hfirst : (t.sync now).first = t.first := rfl
  rw [newest, hlater, hfirst, spaced_concat, apply_ite (List.getLastD · t.first),
    List.getLastD_concat]
  rfl

end Tenure

/-- The time with the present master, if there is one, after some acts. -/
def tenure (acts : List Act) : Option Tenure :=
  acts.foldl Tenure.after none

/-- The pairs of readings that were taken of the present master. -/
def samplesTaken (config : ClockConfig) (acts : List Act) : List Sample :=
  ((tenure acts).map (Tenure.taken (intervalWord config))).getD []

/-! ### What a follower keeps -/

theorem keep_suffix (window : Nat) (samples : List Sample) : keep window samples <:+ samples :=
  List.drop_suffix ..

theorem length_keep (window : Nat) (samples : List Sample) :
    (keep window samples).length = min samples.length (max window 2) := by
  rw [keep, List.length_drop]
  omega

/-- What was dropped earlier would be dropped now. -/
theorem keep_keep_append (window : Nat) (samples : List Sample) (s : Sample) :
    keep window (keep window samples ++ [s]) = keep window (samples ++ [s]) := by
  rcases Nat.le_total samples.length (max window 2) with hshort | hlong
  · have hall : keep window samples = samples := by
      rw [keep, Nat.sub_eq_zero_of_le hshort, List.drop_zero]
    rw [hall]
  · have hlength := length_keep window samples
    rw [keep, List.length_append, hlength, keep, keep, List.length_append, List.length_singleton,
      List.drop_append_of_le_length (by rw [List.length_drop]; omega),
      List.drop_append_of_le_length (by omega), List.drop_drop]
    congr 2
    omega

variable {config : ClockConfig} {f : ClockFollower}

/-- A follower knows of its master the newest pairs that it took, and nothing of any other. -/
inductive Knows (config : ClockConfig) (f : ClockFollower) : Option Tenure → Prop
  | idle (hconfig : f.config = config) (hmaster : f.master = none) (hsamples : f.samples = [])
      (hlast : f.lastSample = none) : Knows config f none
  | following (t : Tenure) (hconfig : f.config = config) (hmaster : f.master = some t.master)
      (hsamples : f.samples = keep config.window (t.taken (intervalWord config)))
      (hlast : f.lastSample = some (t.newest (intervalWord config)).internal) :
      Knows config f (some t)

/-- A follower that was just attached to a master. -/
theorem knows_attach (now : Readings) (m : Nat) (hconfig : f.config = config) :
    Knows config (f.attach now m) (some ⟨m, now, []⟩) := by
  have hkeep : keep config.window [sampleOf now m] = [sampleOf now m] := by
    rw [keep, List.length_singleton, Nat.sub_eq_zero_of_le (by omega), List.drop_zero]
  exact .following ⟨m, now, []⟩ hconfig rfl hkeep.symm rfl

/-- A follower of a master takes a sample when one is due. -/
theorem syncWith_of_due {fit : List Sample → Option Calibration} {now : Readings} {m : Nat}
    {last : Word} (hmaster : f.master = some m) (hlast : f.lastSample = some last)
    (hdue : ¬now.internal.satSub last < intervalWord f.config) :
    f.syncWith fit now =
      let samples := keep f.config.window (f.samples ++ [sampleOf now m])
      { f with
        samples := samples
        lastSample := some now.internal
        calibration := (fit samples).getD f.calibration } := by
  have hisDue : f.isDue now = true := by
    simp [isDue, hlast, hdue]
  rw [syncWith, hmaster]
  exact if_pos hisDue

theorem syncWith_of_not_due {fit : List Sample → Option Calibration} {now : Readings} {m : Nat}
    {last : Word} (hmaster : f.master = some m) (hlast : f.lastSample = some last)
    (hdue : now.internal.satSub last < intervalWord f.config) : f.syncWith fit now = f := by
  have hisDue : ¬f.isDue now = true := by
    simp [isDue, hlast, hdue]
  rw [syncWith, hmaster]
  exact if_neg hisDue

theorem syncWith_of_idle (fit : List Sample → Option Calibration) (now : Readings)
    (hmaster : f.master = none) : f.syncWith fit now = f := by
  rw [syncWith, hmaster]

/-- Whatever is done, a follower knows its tenure. -/
theorem Knows.act {tenure : Option Tenure} (h : Knows config f tenure)
    (fit : List Sample → Option Calibration) (a : Act) :
    Knows config (f.act fit a) (Tenure.after tenure a) := by
  have hconfig : f.config = config := by
    cases h with
    | idle hconfig | following t hconfig => exact hconfig
  cases a with
  | follow now master =>
    cases master with
    | none => exact .idle hconfig rfl rfl rfl
    | some m => exact knows_attach now m hconfig
  | calibrate c =>
    cases h with
    | idle _ hmaster hsamples hlast => exact .idle hconfig hmaster hsamples hlast
    | following t _ hmaster hsamples hlast => exact .following t hconfig hmaster hsamples hlast
  | sync now =>
    show Knows config (f.syncWith fit now) _
    cases h with
    | idle _ hmaster hsamples hlast =>
      rw [syncWith_of_idle fit now hmaster]
      exact .idle hconfig hmaster hsamples hlast
    | following t _ hmaster hsamples hlast =>
      have htaken := t.taken_sync (intervalWord config) now
      have hnewest := t.newest_sync (intervalWord config) now
      by_cases hdue : now.internal.satSub (t.newest (intervalWord config)).internal <
          intervalWord config
      · rw [if_pos hdue] at htaken hnewest
        rw [syncWith_of_not_due hmaster hlast (hconfig ▸ hdue)]
        exact .following (t.sync now) hconfig hmaster (htaken ▸ hsamples) (hnewest ▸ hlast)
      · rw [if_neg hdue] at htaken hnewest
        rw [syncWith_of_due hmaster hlast (hconfig ▸ hdue)]
        refine .following (t.sync now) hconfig hmaster ?_ ?_
        · show keep f.config.window (f.samples ++ _) = _
          rw [hconfig, hsamples, keep_keep_append, htaken]
        · rw [hnewest]
          rfl

/-- In every run, a follower knows its tenure. -/
theorem knows_run (config : ClockConfig) (fit : List Sample → Option Calibration)
    (acts : List Act) : Knows config (run fit acts { config := config }) (tenure acts) := by
  have hfresh : Knows config { config := config } none := .idle rfl rfl rfl rfl
  unfold run tenure
  generalize ({ config := config } : ClockFollower) = f at hfresh ⊢
  generalize (none : Option Tenure) = t at hfresh ⊢
  induction acts generalizing f t with
  | nil => exact hfresh
  | cons a rest ih => exact ih _ _ (hfresh.act fit a)

/-- The newest pair that was taken is the newest that is kept. -/
theorem getLast?_keep_taken (window : Nat) (interval : Word) (t : Tenure) :
    (keep window (t.taken interval)).getLast? = some (t.newest interval) := by
  have hlength : 0 < (t.taken interval).length := Nat.succ_pos _
  rw [keep, List.getLast?_drop, if_neg (by omega), Tenure.taken, List.getLast?_cons,
    ← List.getLastD_eq_getLast?]
  rfl

theorem Knows.master {t : Option Tenure} (h : Knows config f t) :
    f.master = t.map (·.master) := by
  cases h with
  | idle _ hmaster | following _ _ hmaster => exact hmaster

/-- What a follower of a master keeps. -/
structure KeepsNewest (config : ClockConfig) (t : Tenure) (f : ClockFollower) : Prop where
  master : f.master = some t.master
  nonempty : f.samples ≠ []
  newest : f.samples <:+ t.taken (intervalWord config)
  length : f.samples.length =
    min (t.taken (intervalWord config)).length (max config.window 2)
  last : f.lastSample = f.samples.getLast?.map (·.internal)

/-- A follower keeps the newest samples of its tenure. -/
theorem Knows.keepsNewest {t : Tenure} (h : Knows config f (some t)) : KeepsNewest config t f := by
  cases h with
  | following _ _ hmaster hsamples hlast =>
    have hlength := length_keep config.window (t.taken (intervalWord config))
    have hpos : 0 < (t.taken (intervalWord config)).length := Nat.succ_pos _
    rw [← hsamples] at hlength
    refine ⟨hmaster, ?_, ?_, hlength, ?_⟩
    · rw [← List.length_pos_iff]
      omega
    · rw [hsamples]
      exact keep_suffix ..
    · rw [hlast, hsamples, getLast?_keep_taken, Option.map_some]

/-- A sync takes a pair or leaves the follower as it was. -/
theorem Knows.sync (fit : List Sample → Option Calibration) {acts : List Act}
    (h : Knows config f (tenure acts)) (now : Readings) :
    let taken := samplesTaken config acts
    let taken' := samplesTaken config (acts ++ [.sync now])
    taken' = taken ∧ f.syncWith fit now = f ∨
      (∃ m, f.master = some m ∧ taken' = taken ++ [sampleOf now m]) ∧
        (f.syncWith fit now).calibration =
          (fit (f.syncWith fit now).samples).getD f.calibration := by
  have hafter : tenure (acts ++ [.sync now]) = Tenure.after (tenure acts) (.sync now) := by
    rw [tenure, List.foldl_append]
    rfl
  unfold samplesTaken
  rw [hafter]
  generalize tenure acts = t at h ⊢
  cases h with
  | idle _ hmaster => exact .inl ⟨rfl, syncWith_of_idle fit now hmaster⟩
  | following t hconfig hmaster hsamples hlast =>
    have htaken := t.taken_sync (intervalWord config) now
    by_cases hdue : now.internal.satSub (t.newest (intervalWord config)).internal <
        intervalWord config
    · rw [if_pos hdue] at htaken
      exact .inl ⟨htaken, syncWith_of_not_due hmaster hlast (hconfig ▸ hdue)⟩
    · rw [if_neg hdue] at htaken
      refine .inr ⟨⟨t.master, hmaster, htaken⟩, ?_⟩
      rw [syncWith_of_due hmaster hlast (hconfig ▸ hdue)]

/-- **A follower never mixes masters.** Whatever it was told and whatever the clocks showed, and for
every fit, window and interval: without a master it has no samples and a sync does nothing. With one
it keeps, oldest first, the newest pairs that it took of this master since it was attached, as many
as the window allows but at least two of them, and knows when the last was taken. Attaching starts
with one pair and the line of slope one through it, and detaching keeps the line. A sync that takes
no pair changes nothing, and one that does changes the line only for the one that was fitted. -/
theorem samples_of_one_master (config : ClockConfig) (fit : List Sample → Option Calibration)
    (acts : List Act) :
    let f := run fit acts { config := config }
    f.master = (tenure acts).map (·.master) ∧
    (tenure acts = none →
      f.samples = [] ∧ f.lastSample = none ∧ ∀ now, f.syncWith fit now = f) ∧
    (∀ t, tenure acts = some t → KeepsNewest config t f ∧
      (t.taken (intervalWord config)).Sublist t.offered) ∧
    (∀ now m, f.follow now (some m) = { f with
      master := some m
      calibration := ⟨now.internal, now.masters m, 1, 1⟩
      samples := [⟨now.internal, now.masters m⟩]
      lastSample := some now.internal }) ∧
    (∀ now, (f.follow now none).calibration = f.calibration) ∧
    ∀ now, let taken := samplesTaken config acts
      let taken' := samplesTaken config (acts ++ [.sync now])
      taken' = taken ∧ f.syncWith fit now = f ∨
        (∃ m, f.master = some m ∧ taken' = taken ++ [⟨now.internal, now.masters m⟩]) ∧
          (f.syncWith fit now).calibration =
            (fit (f.syncWith fit now).samples).getD f.calibration := by
  intro f
  have hknows : Knows config f (tenure acts) := knows_run config fit acts
  refine ⟨hknows.master, ?_, ?_, fun _ _ => rfl, fun _ => rfl, hknows.sync fit⟩
  · intro hnone
    rw [hnone] at hknows
    cases hknows with
    | idle _ hmaster hsamples hlast =>
      exact ⟨hsamples, hlast, fun now => syncWith_of_idle fit now hmaster⟩
  · intro t ht
    rw [ht] at hknows
    exact ⟨hknows.keepsNewest, t.taken_sublist _⟩

end Framecast.ClockFollower
