import Framecast.Text.Blank
import Framecast.Text.Numeral

/-!
# Words and numerals

What the readers of words and of numerals accept, without their loops: the words of a text are the
pieces between blanks that are not empty (`words_eq`), trimming takes the blanks from both ends
(`isTrimmed_trim`), and a text is read as a number exactly if it spells that number in decimal
digits (`bounded?_eq_some_iff`).
-/

namespace Framecast.Text

/-! ### Words -/

theorem modifyHead_nothing (pieces : List (List Char)) :
    pieces.modifyHead (([] : List Char).reverse ++ ·) = pieces := by
  cases pieces <;> rfl

theorem wordsFrom_cons (word : List Char) (c : Char) (cs : List Char) :
    wordsFrom word (c :: cs) =
      if isBlank c then
        if word.isEmpty then wordsFrom [] cs else word.reverse :: wordsFrom [] cs
      else wordsFrom (c :: word) cs := by
  cases word <;> rfl

/-- Words are what stands between blanks. -/
theorem wordsFrom_eq {word : List Char} (hword : ∀ c ∈ word, isBlank c = false)
    (cs : List Char) :
    wordsFrom word cs =
      ((cs.splitOnP isBlank).modifyHead (word.reverse ++ ·)).filter (· ≠ []) := by
  induction cs generalizing word with
  | nil =>
    cases word with
    | nil => rfl
    | cons c word =>
      show [(c :: word).reverse] = _
      simp
  | cons c cs ih =>
    rw [wordsFrom_cons, List.splitOnP_cons_eq_if_modifyHead]
    split
    · rename_i hblank
      have hrest := ih (List.forall_mem_nil _)
      rw [modifyHead_nothing] at hrest
      cases word with
      | nil => simp [hrest]
      | cons d word => simp [hrest]
    · rename_i hplain
      have hword' : ∀ d ∈ c :: word, isBlank d = false :=
        List.forall_mem_cons.mpr ⟨Bool.eq_false_iff.mpr hplain, hword⟩
      rw [ih hword', List.modifyHead_modifyHead]
      congr 2
      funext piece
      simp

/-- The words of a text are what is left of it between blanks. -/
theorem words_eq (cs : List Char) : words cs = (cs.splitOnP isBlank).filter (· ≠ []) := by
  rw [words, wordsFrom_eq (by simp), modifyHead_nothing]

/-! ### Trimming -/

/-- A text without the blanks at its ends. -/
structure IsTrimmed (inner outer : List Char) : Prop where
  split : ∃ before after, outer = before ++ inner ++ after ∧
    (∀ c ∈ before, isBlank c = true) ∧ ∀ c ∈ after, isBlank c = true
  first : ∀ c, inner.head? = some c → isBlank c = false
  last : ∀ c, inner.getLast? = some c → isBlank c = false

theorem head?_dropWhile_isBlank {cs : List Char} {c : Char}
    (h : (cs.dropWhile isBlank).head? = some c) : isBlank c = false := by
  have hnot := List.head?_dropWhile_not isBlank cs
  rw [h] at hnot
  exact hnot

/-- A trimmed text has no blanks at its ends, and nothing else is missing. -/
theorem isTrimmed_trim (cs : List Char) : IsTrimmed (trim cs) cs := by
  have hfront : cs = cs.takeWhile isBlank ++ cs.dropWhile isBlank :=
    List.takeWhile_append_dropWhile.symm
  have hback : cs.dropWhile isBlank =
      trim cs ++ ((cs.dropWhile isBlank).reverse.takeWhile isBlank).reverse := by
    rw [trim, ← List.reverse_append, List.takeWhile_append_dropWhile, List.reverse_reverse]
  have hblank (ds : List Char) : ∀ c ∈ ds.takeWhile isBlank, isBlank c = true :=
    List.all_eq_true.mp List.all_takeWhile
  let after := ((cs.dropWhile isBlank).reverse.takeWhile isBlank).reverse
  refine ⟨⟨cs.takeWhile isBlank, after, ?_, hblank cs, ?_⟩, ?_, ?_⟩
  · rw [List.append_assoc, ← hback]
    exact hfront
  · intro c hc
    exact hblank _ c (List.mem_reverse.mp hc)
  · intro c hc
    have hhead : (cs.dropWhile isBlank).head? = some c := by
      rw [hback, List.head?_append, hc]
      rfl
    exact head?_dropWhile_isBlank hhead
  · intro c hc
    rw [trim, List.getLast?_reverse] at hc
    exact head?_dropWhile_isBlank hc

/-! ### Numerals -/

/-- The texts that stand for a number: digits after an optional plus sign. -/
inductive Spells : List Char → Nat → Prop
  | plain {digits : List Char} (hne : digits ≠ []) (hdigits : ∀ c ∈ digits, c.isDigit = true) :
      Spells digits (Nat.ofDigitChars 10 digits 0)
  | signed {digits : List Char} (hne : digits ≠ []) (hdigits : ∀ c ∈ digits, c.isDigit = true) :
      Spells ('+' :: digits) (Nat.ofDigitChars 10 digits 0)

theorem digit?_eq (c : Char) :
    digit? c = if c.isDigit then some (c.toNat - '0'.toNat) else none := by
  have hdigit : ('0' ≤ c ∧ c ≤ '9') ↔ c.isDigit = true := by
    simp only [Char.isDigit, Bool.and_eq_true, decide_eq_true_eq]
    exact Iff.rfl
  unfold digit?
  simp only [hdigit]

theorem digitsFrom_eq_some_iff {cs : List Char} {acc n : Nat} :
    digitsFrom acc cs = some n ↔
      (∀ c ∈ cs, c.isDigit = true) ∧ Nat.ofDigitChars 10 cs acc = n := by
  induction cs generalizing acc with
  | nil => simp [digitsFrom]
  | cons c cs ih =>
    rw [digitsFrom, digit?_eq]
    by_cases hdigit : c.isDigit = true
    · simp [hdigit, ih, Nat.ofDigitChars_cons]
    · simp [hdigit]

theorem digits?_eq_some_iff {cs : List Char} {n : Nat} :
    digits? cs = some n ↔
      cs ≠ [] ∧ (∀ c ∈ cs, c.isDigit = true) ∧ Nat.ofDigitChars 10 cs 0 = n := by
  cases cs with
  | nil => simp [digits?]
  | cons c cs =>
    rw [digits?, digitsFrom_eq_some_iff]
    · simp
    · simp

/-- A numeral is read exactly if the grammar says so. -/
theorem numeral?_eq_some_iff {cs : List Char} {n : Nat} : numeral? cs = some n ↔ Spells cs n := by
  constructor
  · intro h
    unfold numeral? at h
    split at h
    · obtain ⟨hne, hdigits, rfl⟩ := digits?_eq_some_iff.mp h
      exact .signed hne hdigits
    · obtain ⟨hne, hdigits, rfl⟩ := digits?_eq_some_iff.mp h
      exact .plain hne hdigits
  · intro h
    cases h with
    | signed hne hdigits => exact digits?_eq_some_iff.mpr ⟨hne, hdigits, rfl⟩
    | plain hne hdigits =>
      unfold numeral?
      split
      · -- A plus sign is no digit.
        simp at hdigits
      · exact digits?_eq_some_iff.mpr ⟨hne, hdigits, rfl⟩

/-- A numeral is read if it is below its bound. -/
theorem bounded?_eq_some_iff {bound n : Nat} {cs : List Char} :
    bounded? bound cs = some n ↔ Spells cs n ∧ n < bound := by
  rw [bounded?, Option.filter_eq_some_iff, numeral?_eq_some_iff, decide_eq_true_iff]

/-- A numeral has one value. -/
theorem Spells.unique {cs : List Char} {n m : Nat} (hn : Spells cs n) (hm : Spells cs m) :
    n = m := by
  rw [← numeral?_eq_some_iff] at hn hm
  exact Option.some.inj (hn.symm.trans hm)

theorem Spells.ne_nil {cs : List Char} {n : Nat} (h : Spells cs n) : cs ≠ [] := by
  cases h with
  | plain hne => exact hne
  | signed => exact nofun

/-- No unit of measure is part of a numeral. -/
theorem Spells.isDigit_of_mem {cs : List Char} {n : Nat} (h : Spells cs n) {c : Char}
    (hc : c ∈ cs) : c.isDigit = true ∨ c = '+' := by
  cases h with
  | plain _ hdigits => exact .inl (hdigits c hc)
  | signed _ hdigits =>
    rcases List.mem_cons.mp hc with rfl | hc
    · exact .inr rfl
    · exact .inl (hdigits c hc)

end Framecast.Text
