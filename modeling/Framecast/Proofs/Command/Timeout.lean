import Framecast.Command.Failure
import Framecast.Proofs.Text.Reading

/-!
# Timeouts

A timeout is a numeral with or without a unit of time. `Measures` is the grammar of such texts, in
which the unit is told by the end of the text, and `measures_iff` says that cutting the unit off
first reads them all. With it `timeout?` accepts exactly the texts that measure a time which is not
zero and a word, and refuses every other text with a message of its kind
(`timeouts_follow_grammar`).
-/

namespace Framecast.Command

open Text (Spells IsTrimmed)

/-- The texts that stand for a number of units of time, and how long these last. -/
inductive Measures : List Char → Nat → Duration → Prop
  | millis {digits : List Char} {n : Nat} (h : Spells digits n) :
      Measures (digits ++ ['m', 's']) n (.ofMillis n)
  | seconds {digits : List Char} {n : Nat} (h : Spells digits n) :
      Measures (digits ++ ['s']) n (.ofSeconds n)
  | bare {digits : List Char} {n : Nat} (h : Spells digits n) :
      Measures digits n (.ofSeconds n)

/-- The texts that stand for a timeout: it is not zero, and the number is a word. -/
def StandsFor (rest : List Char) (d : Duration) : Prop :=
  ∃ n, Measures rest n d ∧ 1 ≤ n ∧ n ≤ Word.top.toNat

/-- What is told of the other texts. -/
inductive Refused (rest : List Char) : String → Prop
  | empty (h : rest = []) : Refused rest "timeout must not be empty"
  | zero (d : Duration) (h : Measures rest 0 d) : Refused rest "timeout must be greater than zero"
  | invalid (hsome : rest ≠ []) (h : ∀ n d, Measures rest n d → Word.top.toNat < n) :
      Refused rest ("invalid timeout value: " ++ String.ofList rest)

/-- What is in front of the unit, and how long a number of units lasts. -/
def splitUnit (rest : List Char) : List Char × (Nat → Duration) :=
  if ['m', 's'].isSuffixOf rest then (rest.dropLast.dropLast, .ofMillis)
  else if ['s'].isSuffixOf rest then (rest.dropLast, .ofSeconds)
  else (rest, .ofSeconds)

theorem timeout?_eq (text : String) :
    timeout? text =
      let rest := Text.trim text.toList
      if rest.isEmpty then .error ⟨ExitCode.usage, "timeout must not be empty"⟩
      else
        match Text.bounded? 0x10000000000000000 (splitUnit rest).1 with
        | none => .error ⟨ExitCode.usage, "invalid timeout value: " ++ String.ofList rest⟩
        | some 0 => .error ⟨ExitCode.usage, "timeout must be greater than zero"⟩
        | some n => .ok ((splitUnit rest).2 n) := rfl

/-! ### The unit -/

variable {rest digits : List Char} {n : Nat} {d : Duration}

theorem not_mem_of_spells (h : Spells digits n) {c : Char} (hdigit : c.isDigit = false)
    (hplus : c ≠ '+') : c ∉ digits := by
  intro hmem
  rcases h.isDigit_of_mem hmem with hc | hc
  · rw [hdigit] at hc
    cases hc
  · exact hplus hc

/-- A text that ends in the sign for milliseconds is measured in these. -/
theorem splitUnit_millis (digits : List Char) :
    splitUnit (digits ++ ['m', 's']) = (digits, .ofMillis) := by
  have hending : ['m', 's'].isSuffixOf (digits ++ ['m', 's']) = true :=
    List.isSuffixOf_iff_suffix.mpr (List.suffix_append ..)
  rw [splitUnit, if_pos hending]
  simp

/-- Text that ends in `ms` ends in `s`; a numeral has no `m`. -/
theorem splitUnit_seconds (h : Spells digits n) :
    splitUnit (digits ++ ['s']) = (digits, .ofSeconds) := by
  have hother : ¬['m', 's'].isSuffixOf (digits ++ ['s']) = true := by
    rw [List.isSuffixOf_iff_suffix]
    rintro ⟨before, hbefore⟩
    have hsame : before ++ ['m'] = digits := by
      have hends : before ++ ['m'] ++ ['s'] = digits ++ ['s'] := by
        rw [← hbefore, List.append_assoc]
        rfl
      exact List.append_cancel_right hends
    apply not_mem_of_spells h (c := 'm') rfl (by decide)
    simp [← hsame]
  have hending : ['s'].isSuffixOf (digits ++ ['s']) = true :=
    List.isSuffixOf_iff_suffix.mpr (List.suffix_append ..)
  rw [splitUnit, if_neg hother, if_pos hending, List.dropLast_concat]

/-- Digits alone are seconds. -/
theorem splitUnit_bare (h : Spells digits n) : splitUnit digits = (digits, .ofSeconds) := by
  have hnone : 's' ∉ digits := not_mem_of_spells h rfl (by decide)
  have hother (unit : List Char) (hunit : 's' ∈ unit) : ¬unit.isSuffixOf digits = true := by
    rw [List.isSuffixOf_iff_suffix]
    intro hsuffix
    exact hnone (hsuffix.subset hunit)
  rw [splitUnit, if_neg (hother _ (by decide)), if_neg (hother _ (by decide))]

/-- Every text of the grammar is read by cutting its unit off, and no other is. -/
theorem measures_iff :
    Measures rest n d ↔ Spells (splitUnit rest).1 n ∧ (splitUnit rest).2 n = d := by
  constructor
  · intro h
    cases h with
    | millis h =>
      rw [splitUnit_millis]
      exact ⟨h, rfl⟩
    | seconds h =>
      rw [splitUnit_seconds h]
      exact ⟨h, rfl⟩
    | bare h =>
      rw [splitUnit_bare h]
      exact ⟨h, rfl⟩
  · rintro ⟨hspells, rfl⟩
    unfold splitUnit at hspells ⊢
    split at hspells
    · rename_i hmillis
      obtain ⟨digits, rfl⟩ := List.isSuffixOf_iff_suffix.mp hmillis
      have hcut : (digits ++ ['m', 's']).dropLast.dropLast = digits := by simp
      rw [hcut] at hspells
      rw [if_pos hmillis]
      exact .millis hspells
    · rename_i hother
      rw [if_neg hother]
      split at hspells
      · rename_i hseconds
        obtain ⟨digits, rfl⟩ := List.isSuffixOf_iff_suffix.mp hseconds
        rw [List.dropLast_concat] at hspells
        rw [if_pos hseconds]
        exact .seconds hspells
      · rename_i hneither
        rw [if_neg hneither]
        exact .bare hspells

/-- A text measures one number of units only. -/
theorem Measures.unique {m : Nat} {e : Duration} (hn : Measures rest n d)
    (hm : Measures rest m e) : n = m ∧ d = e := by
  obtain ⟨hspells, rfl⟩ := measures_iff.mp hn
  obtain ⟨hspells', rfl⟩ := measures_iff.mp hm
  cases hspells.unique hspells'
  exact ⟨rfl, rfl⟩

theorem Measures.ne_nil (h : Measures rest n d) : rest ≠ [] := by
  cases h with
  | millis h | seconds h => simp
  | bare h => exact h.ne_nil

/-- A text stands for one duration at most. -/
theorem StandsFor.unique {e : Duration} (hd : StandsFor rest d) (he : StandsFor rest e) :
    d = e := by
  obtain ⟨n, hn, -⟩ := hd
  obtain ⟨m, hm, -⟩ := he
  exact (hn.unique hm).2

/-- What is refused stands for no duration. -/
theorem Refused.not_standsFor {message : String} (h : Refused rest message) (d : Duration) :
    ¬StandsFor rest d := by
  rintro ⟨n, hmeasures, hone, hword⟩
  cases h with
  | empty hempty => exact hmeasures.ne_nil hempty
  | zero e hzero =>
    have hn := (hmeasures.unique hzero).1
    omega
  | invalid _ hlarge => exact Nat.not_le.mpr (hlarge n d hmeasures) hword

/-! ### Reading a timeout -/

/-- What reading a timeout can come to. -/
inductive TimeoutRead (rest : List Char) : Except Failure Duration → Prop
  | accepted (d : Duration) (h : StandsFor rest d) : TimeoutRead rest (.ok d)
  | refused (message : String) (h : Refused rest message) :
      TimeoutRead rest (.error ⟨ExitCode.usage, message⟩)

/-- Every text is read as the grammar says. -/
theorem timeoutRead_timeout? (text : String) :
    TimeoutRead (Text.trim text.toList) (timeout? text) := by
  have htop : Word.top.toNat = 0xffffffffffffffff := rfl
  rw [timeout?_eq]
  dsimp only
  split
  · rename_i hempty
    exact .refused _ (.empty (List.isEmpty_iff.mp hempty))
  · rename_i hsome
    rw [List.isEmpty_iff] at hsome
    split
    · rename_i hnone
      refine .refused _ (.invalid hsome ?_)
      intro n d hmeasures
      obtain ⟨hspells, -⟩ := measures_iff.mp hmeasures
      apply Nat.lt_of_not_le
      intro hle
      have hread : Text.bounded? 0x10000000000000000 (splitUnit _).1 = some n :=
        Text.bounded?_eq_some_iff.mpr ⟨hspells, by omega⟩
      rw [hnone] at hread
      cases hread
    · rename_i hzero
      obtain ⟨hspells, -⟩ := Text.bounded?_eq_some_iff.mp hzero
      exact .refused _ (.zero _ (measures_iff.mpr ⟨hspells, rfl⟩))
    · rename_i n hpos hread
      obtain ⟨hspells, hword⟩ := Text.bounded?_eq_some_iff.mp hread
      have hone : 1 ≤ n := Nat.one_le_iff_ne_zero.mpr hpos
      exact .accepted _ ⟨n, measures_iff.mpr ⟨hspells, rfl⟩, hone, by omega⟩

/-- **Timeouts are what their grammar says.** Blanks at both ends do not count. What is left is
accepted exactly if it is a numeral from one up to the largest word, with `ms`, `s` or nothing
behind it, and stands for that many milliseconds or seconds. Every other text is refused with the
exit code for wrong usage, and with the message of its kind. -/
theorem timeouts_follow_grammar (text : String) :
    let rest := Text.trim text.toList
    IsTrimmed rest text.toList ∧
    (∀ d, timeout? text = .ok d ↔ StandsFor rest d) ∧
    ((∀ d, ¬StandsFor rest d) → ∃ failure, timeout? text = .error failure ∧
      failure.code = ExitCode.usage ∧ Refused rest failure.message) := by
  intro rest
  have hread : TimeoutRead rest (timeout? text) := timeoutRead_timeout? text
  refine ⟨Text.isTrimmed_trim text.toList, ?_, ?_⟩
  · intro d
    generalize timeout? text = result at hread ⊢
    cases hread with
    | accepted e he =>
      rw [Except.ok.injEq]
      constructor
      · rintro rfl
        exact he
      · intro hd
        exact he.unique hd
    | refused message h => exact iff_of_false nofun (h.not_standsFor d)
  · intro hnone
    generalize timeout? text = result at hread ⊢
    cases hread with
    | accepted d h => exact absurd h (hnone d)
    | refused message h => exact ⟨_, rfl, rfl, h⟩

/-- The longest timeout, between blanks of several kinds. -/
example : (timeout? "\u3000+0018446744073709551615s \n").toOption =
    some (.ofSeconds Word.top.toNat) := by
  decide +kernel

end Framecast.Command
