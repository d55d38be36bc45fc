import Framecast.Proofs.Checkpoint.Script

/-!
# Several callers at one checkpoint

Checks take the commands of a script one at a time, and between two commands of one check another
caller may take some. Whoever takes what, the commands go out in the order of the script, each to
one check, and what a check has done is what its commands say (`sound_run`); a check that nobody
comes between is one of `Checkpoint.check` (`run_undisturbed`).
-/

namespace Framecast

open CheckpointCommand

/-- Take the next command of the script. -/
def Checkpoint.next (c : Checkpoint) : Option CheckpointCommand × Checkpoint :=
  (c.script.head?, { c with script := c.script.tail })

/-- A check by one of several callers. -/
structure Passage where
  caller : Nat
  slept : List Duration := []
  /-- How the check ended, if it has. -/
  outcome : Option Outcome := none
  deriving DecidableEq, Repr

namespace Passage

/-- Go on with the command that was taken, if there was one. -/
def goOn (point : Checkpoint) (got : Option CheckpointCommand) (p : Passage) : Passage :=
  match got with
  | some (.sleep time) => { p with slept := p.slept ++ [time] }
  | some .skip | none => { p with outcome := some .passed }
  | some .fail => { p with outcome := some (.failed point.fault) }
  | some .abort => { p with outcome := some .aborted }

/-- Whether the caller is in the middle of the check. -/
def isAt (caller : Nat) (p : Passage) : Bool :=
  p.caller = caller && p.outcome.isNone

/-- Whether the check has failed. -/
def hasFailed (p : Passage) : Bool :=
  match p.outcome with
  | some (.failed _) => true
  | _ => false

end Passage

/-- A checkpoint with all checks that were ever made there. -/
structure Gate where
  point : Checkpoint
  /-- The checks in the order in which they began. -/
  passages : List Passage := []
  /-- The commands that were taken, oldest first, each with the number of the check that took it. -/
  taken : List (Nat × CheckpointCommand) := []

namespace Gate

/-- Whether a check has ended the program. -/
def isOver (g : Gate) : Bool :=
  g.passages.any (·.outcome = some .aborted)

/-- The number of the check that a caller is in the middle of. -/
def current? (caller : Nat) (g : Gate) : Option Nat :=
  g.passages.findIdx? (·.isAt caller)

/-- A caller begins a check. -/
def enter (caller : Nat) (g : Gate) : Gate :=
  { g with passages := g.passages ++ [{ caller := caller }] }

/-- The check with the given number takes the next command and goes on with it. -/
def feed (number : Nat) (g : Gate) : Gate :=
  let (got, point) := g.point.next
  { point := point
    passages := g.passages.modify number (Passage.goOn g.point got)
    taken := g.taken ++ (got.map (number, ·)).toList }

/-- A caller takes the next command for the check that it is in, or for a new one. -/
def step (g : Gate) (caller : Nat) : Gate :=
  if g.isOver then g
  else
    match g.current? caller with
    | some number => g.feed number
    | none => (g.enter caller).feed g.passages.length

/-- The callers take commands in this order. -/
def run (schedule : List Nat) (g : Gate) : Gate :=
  schedule.foldl step g

/-- The commands that one check took. -/
def takenBy (number : Nat) (g : Gate) : List CheckpointCommand :=
  (g.taken.filter (·.1 = number)).map Prod.snd

/-! ### What holds at every moment -/

/-- What a check has done is what the commands that it took say. -/
inductive Obeys (point : Checkpoint) (p : Passage) : List CheckpointCommand → Prop
  | going (h : p.outcome = none) : Obeys point p (sleeps p.slept)
  | ended {c : CheckpointCommand} {verdict : Verdict} (hc : c.verdict? = some verdict)
      (h : p.outcome = some (point.outcome verdict)) : Obeys point p (sleeps p.slept ++ [c])
  | usedUp (h : p.outcome = some .passed) (hscript : point.script = []) :
      Obeys point p (sleeps p.slept)

/-- What holds of a gate whatever the callers did: the commands that were taken are the first of the
script, and every caller did what its own commands say. -/
structure Sound (start : Checkpoint) (g : Gate) : Prop where
  name : g.point.name = start.name
  script : g.taken.map Prod.snd ++ g.point.script = start.script
  begun : ∀ t ∈ g.taken, t.1 < g.passages.length
  obeys : ∀ number p, g.passages[number]? = some p → Obeys g.point p (g.takenBy number)
  failures : g.passages.countP (·.hasFailed) = (g.taken.map Prod.snd).count .fail

variable {start : Checkpoint} {g : Gate} {caller number : Nat} {p : Passage}

theorem outcome_of_name {a b : Checkpoint} (h : a.name = b.name) (verdict : Verdict) :
    a.outcome verdict = b.outcome verdict := by
  cases verdict with
  | passed | aborted => rfl
  | failed =>
    show Outcome.failed ⟨a.name⟩ = Outcome.failed ⟨b.name⟩
    rw [h]

/-- A check that has ended, or waits, is not touched by what others take. -/
theorem Obeys.later {point point' : Checkpoint} {commands : List CheckpointCommand}
    (h : Obeys point p commands) (hname : point'.name = point.name)
    (hscript : point.script = [] → point'.script = []) : Obeys point' p commands := by
  cases h with
  | going h => exact .going h
  | ended hc h => exact .ended hc (outcome_of_name hname _ ▸ h)
  | usedUp h hempty => exact .usedUp h (hscript hempty)

theorem takenBy_of_begun (h : ∀ t ∈ g.taken, t.1 < g.passages.length)
    (hnumber : g.passages.length ≤ number) : g.takenBy number = [] := by
  have hnone : g.taken.filter (·.1 = number) = [] := by
    rw [List.filter_eq_nil_iff]
    intro t ht
    have := h t ht
    simp only [decide_eq_true_eq]
    omega
  rw [takenBy, hnone, List.map_nil]

theorem Sound.enter (h : Sound start g) (caller : Nat) : Sound start (g.enter caller) := by
  refine ⟨h.name, h.script, ?_, ?_, ?_⟩
  · intro t ht
    have := h.begun t ht
    rw [Gate.enter, List.length_append]
    omega
  · intro number p hp
    rw [Gate.enter, List.getElem?_append] at hp
    split at hp
    · exact h.obeys number p hp
    · rename_i hnew
      have hp : p = { caller := caller } := by
        rw [List.getElem?_singleton] at hp
        grind
      have htaken : g.takenBy number = [] := takenBy_of_begun h.begun (by omega)
      show Obeys g.point p (g.takenBy number)
      rw [htaken, hp]
      exact .going rfl
  · rw [Gate.enter, List.countP_append, h.failures]
    rfl

/-! ### Taking a command -/

/-- With nothing left to take, the check goes on as one that has passed. -/
theorem feed_usedUp (hscript : g.point.script = []) (number : Nat) :
    g.feed number =
      { g with passages := g.passages.modify number (Passage.goOn g.point none) } := by
  obtain ⟨⟨name, script⟩, passages, taken⟩ := g
  cases hscript
  simp [feed, Checkpoint.next]

/-- The check takes the next command, and does what it says. -/
theorem feed_command {c : CheckpointCommand} {rest : List CheckpointCommand}
    (hscript : g.point.script = c :: rest) (number : Nat) :
    g.feed number =
      { point := { g.point with script := rest }
        passages := g.passages.modify number (Passage.goOn g.point (some c))
        taken := g.taken ++ [(number, c)] } := by
  obtain ⟨⟨name, script⟩, passages, taken⟩ := g
  cases hscript
  rfl

/-- A check that has not ended took nothing but sleeps. -/
theorem Obeys.eq_sleeps {point : Checkpoint} {commands : List CheckpointCommand}
    (h : Obeys point p commands) (hgoing : p.outcome = none) : commands = sleeps p.slept := by
  cases h with
  | going | usedUp => rfl
  | ended _ h =>
    rw [hgoing] at h
    cases h

/-- A check that takes a command does what it says. -/
theorem Obeys.goOn {point : Checkpoint} {commands : List CheckpointCommand}
    (h : Obeys point p commands) (hgoing : p.outcome = none) (c : CheckpointCommand)
    (rest : List CheckpointCommand) :
    Obeys { point with script := rest } (p.goOn point (some c)) (commands ++ [c]) := by
  rw [h.eq_sleeps hgoing]
  cases c with
  | sleep time =>
    have hmore : sleeps p.slept ++ [.sleep time] = sleeps (p.slept ++ [time]) := by
      simp [sleeps]
    rw [hmore]
    exact .going (p := { p with slept := p.slept ++ [time] }) hgoing
  | skip => exact .ended (p := { p with outcome := some .passed }) rfl rfl
  | fail => exact .ended (p := { p with outcome := some (.failed point.fault) }) rfl rfl
  | abort => exact .ended (p := { p with outcome := some .aborted }) rfl rfl

/-- A check that is going on fails by taking a command to fail, and by nothing else. -/
theorem hasFailed_goOn (point : Checkpoint) (hgoing : p.outcome = none)
    (got : Option CheckpointCommand) :
    (p.goOn point got).hasFailed = true ↔ got = some .fail := by
  cases got with
  | none => simp [Passage.goOn, Passage.hasFailed]
  | some c => cases c <;> simp [Passage.goOn, Passage.hasFailed, hgoing]

theorem countP_modify_goOn (point : Checkpoint) {passages : List Passage}
    (hp : passages[number]? = some p) (hgoing : p.outcome = none)
    (got : Option CheckpointCommand) :
    (passages.modify number (Passage.goOn point got)).countP (·.hasFailed) =
      passages.countP (·.hasFailed) + if got = some .fail then 1 else 0 := by
  have hnot : p.hasFailed = false := by simp [Passage.hasFailed, hgoing]
  have hgot := hasFailed_goOn point hgoing got
  induction passages generalizing number with
  | nil => cases hp
  | cons q passages ih =>
    cases number with
    | zero =>
      rw [List.getElem?_cons_zero, Option.some.injEq] at hp
      subst hp
      rw [List.modify_zero_cons, List.countP_cons, List.countP_cons, hnot]
      simp [hgot]
    | succ number =>
      rw [List.getElem?_cons_succ] at hp
      rw [List.modify_succ_cons, List.countP_cons, List.countP_cons, ih hp]
      omega

theorem takenBy_concat (number other : Nat) (c : CheckpointCommand)
    (taken : List (Nat × CheckpointCommand)) :
    ((taken ++ [(other, c)]).filter (·.1 = number)).map Prod.snd =
      (taken.filter (·.1 = number)).map Prod.snd ++ if other = number then [c] else [] := by
  rw [List.filter_append, List.map_append]
  by_cases h : other = number <;> simp [h]

theorem Sound.feed (h : Sound start g) (hp : g.passages[number]? = some p)
    (hgoing : p.outcome = none) : Sound start (g.feed number) := by
  have hnumber : number < g.passages.length := (List.getElem?_eq_some_iff.mp hp).1
  cases hscript : g.point.script with
  | nil =>
    rw [feed_usedUp hscript]
    refine ⟨h.name, h.script, ?_, ?_, ?_⟩
    · intro t ht
      rw [List.length_modify]
      exact h.begun t ht
    · intro other q hq
      rw [List.getElem?_modify] at hq
      obtain ⟨old, hold, rfl⟩ := Option.map_eq_some_iff.mp hq
      have hobeys := h.obeys other old hold
      split
      · rename_i heq
        subst heq
        rw [hp, Option.some.injEq] at hold
        subst hold
        show Obeys g.point _ (g.takenBy number)
        rw [hobeys.eq_sleeps hgoing]
        exact .usedUp (p := { p with outcome := some .passed }) rfl hscript
      · exact hobeys
    · rw [countP_modify_goOn g.point hp hgoing, h.failures]
      rfl
  | cons c rest =>
    rw [feed_command hscript]
    refine ⟨h.name, ?_, ?_, ?_, ?_⟩
    · rw [List.map_append, List.append_assoc, ← h.script, hscript]
      rfl
    · intro t ht
      rw [List.length_modify]
      rcases List.mem_append.mp ht with ht | ht
      · exact h.begun t ht
      · rw [List.mem_singleton.mp ht]
        exact hnumber
    · intro other q hq
      rw [List.getElem?_modify] at hq
      obtain ⟨old, hold, rfl⟩ := Option.map_eq_some_iff.mp hq
      have hobeys := h.obeys other old hold
      rw [takenBy, takenBy_concat]
      split
      · rename_i heq
        subst heq
        rw [hp, Option.some.injEq] at hold
        subst hold
        exact hobeys.goOn hgoing c rest
      · rw [List.append_nil]
        exact hobeys.later rfl (fun hempty => by rw [hscript] at hempty; cases hempty)
    · rw [countP_modify_goOn g.point hp hgoing, h.failures, List.map_append, List.count_append]
      cases c <;> rfl

/-! ### Whole runs -/

theorem current?_some (h : g.current? caller = some number) :
    ∃ p, g.passages[number]? = some p ∧ p.caller = caller ∧ p.outcome = none := by
  obtain ⟨hlt, hfound, -⟩ := List.findIdx?_eq_some_iff_getElem.mp h
  refine ⟨g.passages[number], List.getElem?_eq_getElem hlt, ?_⟩
  simpa [Passage.isAt] using hfound

theorem Sound.step (h : Sound start g) (caller : Nat) : Sound start (g.step caller) := by
  unfold Gate.step
  split
  · exact h
  · split
    · rename_i number hcurrent
      obtain ⟨p, hp, -, hgoing⟩ := current?_some hcurrent
      exact h.feed hp hgoing
    · exact (h.enter caller).feed List.getElem?_concat_length rfl

theorem sound_start (point : Checkpoint) : Sound point { point := point } :=
  ⟨rfl, rfl, by simp, by simp, rfl⟩

/-- The gate is sound whatever the order in which callers go on. -/
theorem sound_run (point : Checkpoint) (schedule : List Nat) :
    Sound point (run schedule { point := point }) := by
  have hstart := sound_start point
  unfold run
  generalize ({ point := point } : Gate) = g at hstart ⊢
  induction schedule generalizing g with
  | nil => exact hstart
  | cons caller schedule ih => exact ih _ (hstart.step caller)

/-- No more checks fail than the script has commands to fail. -/
theorem Sound.failures_le (h : Sound start g) :
    g.passages.countP (·.hasFailed) ≤ start.script.count .fail := by
  rw [h.failures, ← h.script, List.count_append]
  exact Nat.le_add_right ..

/-! ### A check that nobody comes between -/

theorem modify_concat (f : Passage → Passage) (before : List Passage) (p : Passage) :
    (before ++ [p]).modify before.length f = before ++ [f p] := by
  induction before with
  | nil => rfl
  | cons q before ih =>
    rw [List.cons_append, List.length_cons, List.modify_succ_cons, ih, List.cons_append]

section

variable {before : List Passage} (hgoesOn : before.any (·.outcome = some .aborted) = false)
  (hothers : before.findIdx? (·.isAt caller) = none)

include hgoesOn hothers

/-- A caller whose check is the last that began goes on with it. -/
theorem step_last (point : Checkpoint) (slept : List Duration)
    (taken : List (Nat × CheckpointCommand)) :
    step ⟨point, before ++ [⟨caller, slept, none⟩], taken⟩ caller =
      ⟨point.next.2, before ++ [Passage.goOn point point.next.1 ⟨caller, slept, none⟩],
        taken ++ (point.next.1.map (before.length, ·)).toList⟩ := by
  have hover : isOver ⟨point, before ++ [⟨caller, slept, none⟩], taken⟩ = false := by
    rw [isOver, List.any_append, hgoesOn]
    rfl
  have hcurrent :
      current? caller ⟨point, before ++ [⟨caller, slept, none⟩], taken⟩ = some before.length := by
    rw [current?, List.findIdx?_append, hothers]
    simp [Passage.isAt]
  rw [step, hover, if_neg Bool.false_ne_true, hcurrent]
  dsimp only [feed]
  rw [modify_concat]

/-- A caller that is left alone takes what the check takes from the script. -/
theorem run_last (name : String) (script : List CheckpointCommand) (slept : List Duration)
    (taken : List (Nat × CheckpointCommand)) :
    let (times, verdict, left) := Checkpoint.consume script
    ∃ taken', run (List.replicate (times.length + 1) caller)
        ⟨⟨name, script⟩, before ++ [⟨caller, slept, none⟩], taken⟩ =
      ⟨⟨name, left⟩, before ++ [⟨caller, slept ++ times,
        some (Checkpoint.outcome ⟨name, script⟩ verdict)⟩], taken'⟩ := by
  have hfirst (script : List CheckpointCommand) (slept : List Duration)
      (taken : List (Nat × CheckpointCommand)) (times : List Duration) :
      run (List.replicate (times.length + 1) caller)
          ⟨⟨name, script⟩, before ++ [⟨caller, slept, none⟩], taken⟩ =
        run (List.replicate times.length caller) _ :=
    congrArg (run (List.replicate times.length caller))
      (step_last hgoesOn hothers ⟨name, script⟩ slept taken)
  induction script generalizing slept taken with
  | nil =>
    dsimp only [Checkpoint.consume]
    rw [List.append_nil]
    exact ⟨_, hfirst [] slept taken []⟩
  | cons c script ih =>
    cases c with
    | skip | fail | abort =>
      dsimp only [Checkpoint.consume]
      rw [List.append_nil]
      exact ⟨_, hfirst _ slept taken []⟩
    | sleep time =>
      have hrest := ih (slept ++ [time]) (taken ++ [(before.length, .sleep time)])
      rw [Checkpoint.consume]
      generalize Checkpoint.consume script = consumed at hrest ⊢
      obtain ⟨times, verdict, left⟩ := consumed
      obtain ⟨taken', hrest⟩ := hrest
      refine ⟨taken', (hfirst _ slept taken (time :: times)).trans (hrest.trans ?_)⟩
      rw [List.append_assoc]
      rfl

end

/-- A check that is made when its caller is in no other, and that nobody comes between, is the one
that `Checkpoint.check` makes. -/
theorem run_undisturbed (hover : g.isOver = false) (hidle : g.current? caller = none) :
    let (times, verdict, left) := g.point.check
    let g' := run (List.replicate (times.length + 1) caller) g
    g'.point = left ∧ g'.passages = g.passages ++ [⟨caller, times, some (left.outcome verdict)⟩] := by
  obtain ⟨⟨name, script⟩, passages, taken⟩ := g
  have hlast := run_last hover hidle name script [] taken
  -- The caller's first step begins its check.
  have hfirst : step ⟨⟨name, script⟩, passages, taken⟩ caller =
      step ⟨⟨name, script⟩, passages ++ [⟨caller, [], none⟩], taken⟩ caller := by
    rw [step_last hover hidle, step, hover, if_neg Bool.false_ne_true, hidle]
    dsimp only [feed, enter]
    rw [modify_concat]
  rw [Checkpoint.check]
  generalize Checkpoint.consume script = consumed at hlast ⊢
  obtain ⟨times, verdict, left⟩ := consumed
  obtain ⟨taken', hlast⟩ := hlast
  have hrun : run (List.replicate (times.length + 1) caller) ⟨⟨name, script⟩, passages, taken⟩ =
      _ :=
    (congrArg (run (List.replicate times.length caller)) hfirst).trans hlast
  dsimp only
  rw [hrun]
  exact ⟨rfl, rfl⟩

end Gate

/-- **A text at a checkpoint means what it says.** It gives the script that its longest beginning of
words names which are all commands. Of checks one after another, each sleeps for the sleeps that
stand in front of its command and passes, fails under the name of the checkpoint or ends the program
as this command says, or passes after the last sleeps when no command is left for it; after the
program has ended there are no checks. Whatever callers come between each other, the commands go out
in the order of the script, each to one check, and every check sleeps and ends as those that it took
say; no more checks fail than there are words for it, and a check that nobody comes between is like
one of those that are made one after another. -/
theorem Checkpoint.script_governs_checks (name text : String) :
    ∃ words script, CheckpointCommand.Follows text words script ∧
      (∀ checks i, (visits checks (scripted name text))[i]? =
        if i < checks ∧ .abort ∉ (script.filter endsCheck).take i then some (share name script i)
        else none) ∧
      ∀ schedule, let g := Gate.run schedule { point := scripted name text }
        g.point.name = name ∧
        g.taken.map Prod.snd ++ g.point.script = script ∧
        (∀ number p, g.passages[number]? = some p →
          Gate.Obeys g.point p (g.takenBy number)) ∧
        g.passages.countP (·.hasFailed) ≤ words.countP isErrorWord ∧
        ∀ caller, g.isOver = false → g.current? caller = none →
          let (times, verdict, left) := g.point.check
          let g' := Gate.run (List.replicate (times.length + 1) caller) g
          g'.point = left ∧
            g'.passages = g.passages ++ [⟨caller, times, some (left.outcome verdict)⟩] := by
  obtain ⟨words, hfollows⟩ := follows_parse text
  refine ⟨words, parse text, hfollows,
    fun checks i => getElem?_visits name (parse text) checks i, ?_⟩
  intro schedule g
  have hsound : Gate.Sound (scripted name text) g := Gate.sound_run (scripted name text) schedule
  refine ⟨hsound.name, hsound.script, hsound.obeys, ?_, ?_⟩
  · rw [← count_fail hfollows.named]
    exact hsound.failures_le
  · exact fun caller hover hidle => Gate.run_undisturbed hover hidle

/-- The second check sleeps before it fails, and the word after the one that is no command is not
read. -/
example : Checkpoint.visits 3 (Checkpoint.scripted "gate" "skip usleep=5 gerror bogus abort") =
    [([], .passed), ([.ofMicros 5], .failed ⟨"gate"⟩), ([], .passed)] := by
  decide

end Framecast
