import Mathlib.Data.List.Forall2
import Framecast.Checkpoint
import Framecast.Proofs.Text.Reading

/-!
# Scripts and the checks they govern

A text means the script of its longest beginning of words that all name commands
(`follows_parse`). Of a script every check takes the sleeps up to the next other command and that
command, or the sleeps at the end once there is no other (`consumes_consume`); so that what the
check with a given number does can be read off the script (`getElem?_visits`).
-/

namespace Framecast

namespace CheckpointCommand

/-! ### Texts -/

/-- Which words name a command. -/
inductive Names : List Char → CheckpointCommand → Prop
  | skip : Names "skip".toList .skip
  | error : Names "error".toList .fail
  | gerror : Names "gerror".toList .fail
  | abort : Names "abort".toList .abort
  | usleep {numeral : List Char} {n : Nat} (hnumeral : Text.Spells numeral n)
      (hword : n < 0x10000000000000000) :
      Names ("usleep=".toList ++ numeral) (.sleep (.ofMicros n))

theorem ofWord?_usleep (numeral : List Char) :
    ofWord? ("usleep=".toList ++ numeral) =
      (Text.bounded? 0x10000000000000000 numeral).map fun n => sleep (.ofMicros n) := by
  simp [ofWord?]

/-- A word stands for a command exactly if the grammar says so. -/
theorem ofWord?_eq_some_iff {word : List Char} {c : CheckpointCommand} :
    ofWord? word = some c ↔ Names word c := by
  constructor
  · intro h
    unfold ofWord? at h
    split at h
    · rename_i hword
      cases h
      exact hword ▸ .skip
    split at h
    · rename_i hword
      cases h
      rcases hword with rfl | rfl
      · exact .error
      · exact .gerror
    split at h
    · rename_i hword
      cases h
      exact hword ▸ .abort
    split at h
    · rename_i hstart
      obtain ⟨n, hn, rfl⟩ := Option.map_eq_some_iff.mp h
      obtain ⟨hspells, hlt⟩ := Text.bounded?_eq_some_iff.mp hn
      obtain ⟨numeral, rfl⟩ := List.isPrefixOf_iff_prefix.mp hstart
      exact .usleep hspells hlt
    · cases h
  · intro h
    cases h with
    | skip | error | gerror | abort => rfl
    | @usleep numeral n hnumeral hword =>
      have hread : Text.bounded? 0x10000000000000000 numeral = some n :=
        Text.bounded?_eq_some_iff.mpr ⟨hnumeral, hword⟩
      rw [ofWord?_usleep, hread]
      rfl

/-- A text gives a script: its longest beginning of words that all name commands names these. -/
structure Follows (text : String) (words : List (List Char)) (script : List CheckpointCommand) :
    Prop where
  named : List.Forall₂ Names words script
  longest : ∃ rest, (text.toList.splitOnP Text.isBlank).filter (· ≠ []) = words ++ rest ∧
    ∀ word ∈ rest.head?, ∀ c, ¬Names word c

/-- The words up to the first that is no command, and what they name. -/
theorem takeWhile_named (words : List (List Char)) :
    ∃ named rest, words = named ++ rest ∧
      List.Forall₂ Names named (((words.map ofWord?).takeWhile Option.isSome).filterMap id) ∧
      ∀ word ∈ rest.head?, ∀ c, ¬Names word c := by
  induction words with
  | nil => exact ⟨[], [], rfl, .nil, by simp⟩
  | cons word words ih =>
    cases hword : ofWord? word with
    | none =>
      refine ⟨[], word :: words, rfl, ?_, ?_⟩
      · rw [List.map_cons, hword]
        exact .nil
      · intro first hfirst c hnames
        cases hfirst
        rw [ofWord?_eq_some_iff.mpr hnames] at hword
        cases hword
    | some c =>
      obtain ⟨named, rest, rfl, hnamed, hrest⟩ := ih
      refine ⟨word :: named, rest, rfl, ?_, hrest⟩
      rw [List.map_cons, hword]
      exact .cons (ofWord?_eq_some_iff.mp hword) hnamed

/-- A script is read up to its first word that names no command. -/
theorem follows_parse (text : String) : ∃ words, Follows text words (parse text) := by
  obtain ⟨named, rest, hwords, hnamed, hrest⟩ := takeWhile_named (Text.words text.toList)
  exact ⟨named, hnamed, rest, (Text.words_eq _).symm.trans hwords, hrest⟩

/-- The words that make a check fail. -/
def isErrorWord (word : List Char) : Bool :=
  word = "error".toList || word = "gerror".toList

theorem isErrorWord_of_names {word : List Char} {c : CheckpointCommand} (h : Names word c) :
    isErrorWord word = decide (c = .fail) := by
  cases h with
  | skip | error | gerror | abort => rfl
  | usleep => simp [isErrorWord]

/-- Every word for an error is a command to fail, and no other word is. -/
theorem count_fail {words : List (List Char)} {script : List CheckpointCommand}
    (h : List.Forall₂ Names words script) : script.count .fail = words.countP isErrorWord := by
  induction h with
  | nil => rfl
  | cons hnames _ ih =>
    rw [List.count_cons, List.countP_cons, ih, isErrorWord_of_names hnames]
    simp

/-! ### Commands -/

/-- How a check ends that takes the command, if it ends. -/
def verdict? : CheckpointCommand → Option Verdict
  | .skip => some .passed
  | .fail => some .failed
  | .abort => some .aborted
  | .sleep _ => none

/-- Whether a check ends with this command. -/
def endsCheck (c : CheckpointCommand) : Bool :=
  c.verdict?.isSome

/-- How long the command sleeps, if it sleeps. -/
def time? : CheckpointCommand → Option Duration
  | .sleep time => some time
  | _ => none

/-- The commands for some sleeps. -/
def sleeps (times : List Duration) : List CheckpointCommand :=
  times.map sleep

theorem endsCheck_of_mem_sleeps {times : List Duration} {c : CheckpointCommand}
    (h : c ∈ sleeps times) : c.endsCheck = false := by
  obtain ⟨time, -, rfl⟩ := List.mem_map.mp h
  rfl

@[simp] theorem filterMap_time?_sleeps (times : List Duration) :
    (sleeps times).filterMap time? = times := by
  induction times with
  | nil => rfl
  | cons time times ih => exact congrArg (time :: ·) ih

@[simp] theorem filter_endsCheck_sleeps (times : List Duration) :
    (sleeps times).filter endsCheck = [] := by
  rw [List.filter_eq_nil_iff]
  intro c hc
  simp [endsCheck_of_mem_sleeps hc]

end CheckpointCommand

open CheckpointCommand

/-- How a check ends for the one who made it. -/
inductive Outcome where
  | passed
  | failed (fault : InjectedFault)
  /-- The program ends with the check. -/
  | aborted
  deriving DecidableEq, Repr

namespace Checkpoint

/-- A verdict as the caller of the check sees it. -/
def outcome (c : Checkpoint) : Verdict → Outcome
  | .passed => .passed
  | .failed => .failed c.fault
  | .aborted => .aborted

/-- What checks one after another do, until one of them ends the program: how long each sleeps and
how it ends. -/
def visits : Nat → Checkpoint → List (List Duration × Outcome)
  | 0, _ => []
  | checks + 1, c =>
    let (times, verdict, left) := c.check
    (times, left.outcome verdict) :: if verdict = .aborted then [] else visits checks left

/-! ### One check -/

/-- What a check takes from a script: some sleeps, what it ends with, and the rest. -/
inductive Consumes :
    List CheckpointCommand → List Duration × Verdict × List CheckpointCommand → Prop
  | ended (times : List Duration) {c : CheckpointCommand} {verdict : Verdict}
      (hc : c.verdict? = some verdict) (left : List CheckpointCommand) :
      Consumes (sleeps times ++ c :: left) (times, verdict, left)
  | usedUp (times : List Duration) : Consumes (sleeps times) (times, .passed, [])

/-- A check takes commands up to the first that ends it. -/
theorem consumes_consume (script : List CheckpointCommand) : Consumes script (consume script) := by
  induction script with
  | nil => exact .usedUp []
  | cons c script ih =>
    cases c with
    | skip | fail | abort => exact .ended [] rfl script
    | sleep time =>
      rw [consume]
      generalize consume script = consumed at ih ⊢
      cases ih with
      | ended times hc left => exact .ended (time :: times) hc left
      | usedUp times => exact .usedUp (time :: times)

/-! ### Many checks -/

/-- How a check of that name ends which takes a command that is no sleep, or finds none. -/
def ending (name : String) : Option CheckpointCommand → Outcome
  | some .fail => .failed ⟨name⟩
  | some .abort => .aborted
  | some .skip | some (.sleep _) | none => .passed

theorem outcome_eq_ending {c : CheckpointCommand} {verdict : Verdict}
    (hc : c.verdict? = some verdict) (point : Checkpoint) :
    point.outcome verdict = ending point.name (some c) := by
  cases c <;> cases hc <;> rfl

theorem eq_aborted_iff {c : CheckpointCommand} {verdict : Verdict}
    (hc : c.verdict? = some verdict) : verdict = .aborted ↔ c = .abort := by
  cases c <;> cases hc <;> simp

/-- What the script has for the check with a given number: the sleeps in front of the command with
that number among those that are no sleeps, and this command. -/
def share (name : String) (script : List CheckpointCommand) (i : Nat) : List Duration × Outcome :=
  (((script.splitOnP endsCheck)[i]?.getD []).filterMap time?,
    ending name (script.filter endsCheck)[i]?)

section

variable (name : String) (times : List Duration) {c : CheckpointCommand}
  (left : List CheckpointCommand)

/-- The commands of the first check are those before the first command that ends a check. -/
theorem splitOnP_sleeps_append (hc : c.endsCheck = true) :
    (sleeps times ++ c :: left).splitOnP endsCheck = sleeps times :: left.splitOnP endsCheck :=
  List.splitOnP_append_cons_of_forall_mem (fun _ => endsCheck_of_mem_sleeps) c hc left

theorem filter_sleeps_append (hc : c.endsCheck = true) :
    (sleeps times ++ c :: left).filter endsCheck = c :: left.filter endsCheck := by
  rw [List.filter_append, filter_endsCheck_sleeps, List.filter_cons_of_pos hc, List.nil_append]

/-- The first check sleeps as the script says and ends as its command says. -/
theorem share_zero (hc : c.endsCheck = true) :
    share name (sleeps times ++ c :: left) 0 = (times, ending name (some c)) := by
  rw [share, splitOnP_sleeps_append times left hc, filter_sleeps_append times left hc,
    List.getElem?_cons_zero, List.getElem?_cons_zero, Option.getD_some, filterMap_time?_sleeps]

/-- Later checks follow what the first has left. -/
theorem share_succ (hc : c.endsCheck = true) (i : Nat) :
    share name (sleeps times ++ c :: left) (i + 1) = share name left i := by
  rw [share, splitOnP_sleeps_append times left hc, filter_sleeps_append times left hc,
    List.getElem?_cons_succ, List.getElem?_cons_succ, share]

/-- A check that comes to the end of the script passes. -/
theorem share_usedUp_zero : share name (sleeps times) 0 = (times, .passed) := by
  rw [share, List.splitOnP_eq_singleton (fun _ => endsCheck_of_mem_sleeps),
    filter_endsCheck_sleeps, List.getElem?_cons_zero, Option.getD_some, filterMap_time?_sleeps]
  rfl

theorem share_usedUp_succ (i : Nat) :
    share name (sleeps times) (i + 1) = share name [] i := by
  rw [share, List.splitOnP_eq_singleton (fun _ => endsCheck_of_mem_sleeps),
    filter_endsCheck_sleeps, share]
  cases i <;> rfl

end

/-- Each check does what the script has for it, as long as no earlier one ended the program. -/
theorem getElem?_visits (name : String) (script : List CheckpointCommand) (checks i : Nat) :
    (visits checks ⟨name, script⟩)[i]? =
      if i < checks ∧ .abort ∉ (script.filter endsCheck).take i then some (share name script i)
      else none := by
  induction checks generalizing script i with
  | zero => simp [visits]
  | succ checks ih =>
    have hconsumes := consumes_consume script
    rw [visits, check]
    generalize consume script = consumed at hconsumes ⊢
    cases hconsumes with
    | @ended times c verdict hc left =>
      have hends : c.endsCheck = true := by rw [endsCheck, hc, Option.isSome_some]
      rw [filter_sleeps_append times left hends]
      dsimp only
      cases i with
      | zero =>
        rw [share_zero name times left hends, outcome_eq_ending hc]
        simp
      | succ i =>
        rw [share_succ name times left hends]
        by_cases habort : c = .abort
        · simp [eq_aborted_iff hc, habort]
        · simp [eq_aborted_iff hc, habort, ih, Ne.symm habort]
    | usedUp times =>
      rw [filter_endsCheck_sleeps]
      cases i with
      | zero =>
        rw [share_usedUp_zero]
        simp [outcome]
      | succ i =>
        rw [share_usedUp_succ]
        simp [ih]

end Checkpoint

end Framecast
