import Framecast.Json.Number

/-!
# Reading numbers back

A natural number that fits a word is read back from its decimal form, if what follows it does not go
on as a number would. Decimal forms are followed from their last digit: `decimal_of_ge`.
-/

namespace Framecast

theorem Bytes.ofText_append (s t : String) : ofText (s ++ t) = ofText s ++ ofText t := by
  show (s.toByteArray ++ t.toByteArray).data.toList = _
  rw [ByteArray.data_append, Array.toList_append]
  rfl

namespace Json

/-- A number in decimal digits. -/
def decimal (n : Nat) : Bytes :=
  Bytes.ofText (toString n)

theorem decimal_of_lt : ∀ n < 10, decimal n = [UInt8.ofNat (48 + n)] := by
  decide

theorem decimal_of_ge {n : Nat} (hn : 10 ≤ n) :
    decimal n = decimal (n / 10) ++ [UInt8.ofNat (48 + n % 10)] := by
  have hlast := decimal_of_lt (n % 10) (Nat.mod_lt _ (by decide))
  rw [← hlast]
  unfold decimal
  rw [← Bytes.ofText_append]
  exact congrArg Bytes.ofText (Nat.repr_eq_repr_append_repr hn)

theorem isDigit_ofNat : ∀ n < 10, isDigit (UInt8.ofNat (48 + n)) = true := by
  decide

theorem digitOf_ofNat : ∀ n < 10, digitOf (UInt8.ofNat (48 + n)) = n := by
  decide

theorem isDigit_of_mem_decimal (n : Nat) : ∀ b ∈ decimal n, isDigit b = true := by
  induction n using Nat.strongRecOn with
  | ind n ih =>
    intro b hb
    by_cases hn : n < 10
    · rw [decimal_of_lt n hn] at hb
      rw [List.mem_singleton.mp hb]
      exact isDigit_ofNat n hn
    · rw [decimal_of_ge (Nat.le_of_not_lt hn)] at hb
      rcases List.mem_append.mp hb with hb | hb
      · exact ih (n / 10) (by omega) b hb
      · rw [List.mem_singleton.mp hb]
        exact isDigit_ofNat _ (by omega)

theorem ne_zero_of_ofNat : ∀ n < 10, n ≠ 0 → UInt8.ofNat (48 + n) ≠ 48 := by
  decide

/-- A decimal form does not start with a zero, unless it is the form of zero. -/
theorem decimal_head {n : Nat} (hn : n ≠ 0) : ∃ b rest, decimal n = b :: rest ∧ b ≠ 48 := by
  induction n using Nat.strongRecOn with
  | ind n ih =>
    by_cases hlt : n < 10
    · exact ⟨_, [], decimal_of_lt n hlt, ne_zero_of_ofNat n hlt hn⟩
    · obtain ⟨b, rest, hdecimal, hb⟩ := ih (n / 10) (by omega) (by omega)
      rw [decimal_of_ge (Nat.le_of_not_lt hlt), hdecimal]
      exact ⟨b, _, rfl, hb⟩

/-- The digits of a number stand for it. -/
theorem ofWhole_decimal {n : Nat} (hn : n < significandLimit) :
    Magnitude.ofWhole (decimal n) = ⟨n, 0, false⟩ := by
  induction n using Nat.strongRecOn with
  | ind n ih =>
    have htake (m : Nat) (hm : 10 * m + n % 10 = n) :
        Magnitude.takeDigit 0 1 ⟨m, 0, false⟩ (UInt8.ofNat (48 + n % 10)) = ⟨n, 0, false⟩ := by
      have hlonger : 10 * m + digitOf (UInt8.ofNat (48 + n % 10)) = n := by
        rw [digitOf_ofNat (n % 10) (by omega), hm]
      unfold Magnitude.takeDigit
      dsimp only
      rw [hlonger, Bool.not_false, Bool.true_and, if_pos (decide_eq_true hn)]
      rfl
    by_cases hlt : n < 10
    · have hsame : n % 10 = n := Nat.mod_eq_of_lt hlt
      have hfirst := htake 0 (by omega)
      rw [hsame] at hfirst
      rw [decimal_of_lt n hlt]
      exact hfirst
    · have hbefore : Magnitude.ofWhole (decimal (n / 10)) = ⟨n / 10, 0, false⟩ :=
        ih (n / 10) (by omega) (by omega)
      rw [decimal_of_ge (Nat.le_of_not_lt hlt), Magnitude.ofWhole, List.foldl_append]
      rw [Magnitude.ofWhole] at hbefore
      rw [hbefore]
      exact htake (n / 10) (by omega)

/-- What follows is no part of a number. -/
def EndsNumber (rest : Bytes) : Prop :=
  ∀ b more, rest = b :: more → isDigit b = false ∧ b ≠ 46 ∧ isExponentMark b = false

/-- Digits end where the number ends. -/
theorem takeWhile_digits {digits rest : Bytes} (hdigits : ∀ b ∈ digits, isDigit b = true)
    (hrest : EndsNumber rest) : (digits ++ rest).takeWhile isDigit = digits ∧
      (digits ++ rest).dropWhile isDigit = rest := by
  have hstop : rest.takeWhile isDigit = [] ∧ rest.dropWhile isDigit = rest := by
    cases rest with
    | nil => exact ⟨rfl, rfl⟩
    | cons b more =>
      have hb := (hrest b more rfl).1
      simp [hb]
  rw [List.takeWhile_append_of_pos hdigits, List.dropWhile_append_of_pos hdigits, hstop.1, hstop.2]
  simp

theorem readFraction_of_ends {rest : Bytes} (hrest : EndsNumber rest) (n : Nat) :
    readFraction false ⟨n, 0, false⟩ rest = .ok (.natural n, rest) := by
  unfold readFraction
  cases rest with
  | nil => rfl
  | cons b more =>
    obtain ⟨-, hpoint, hmark⟩ := hrest b more rfl
    dsimp only
    rw [if_neg hpoint, hmark]
    rfl

/-- A number that was written in digits is read back. -/
theorem readNumber_decimal {n : Nat} {rest : Bytes} (hn : n < significandLimit)
    (hrest : EndsNumber rest) : readNumber false (decimal n ++ rest) = .ok (.natural n, rest) := by
  by_cases hzero : n = 0
  · have hnone : rest.takeWhile isDigit = [] :=
      (takeWhile_digits (fun _ hb => absurd hb List.not_mem_nil) hrest).1
    rw [hzero, decimal_of_lt 0 (by decide)]
    show readNumber false (48 :: rest) = _
    rw [readNumber, if_pos rfl, hnone]
    exact readFraction_of_ends hrest 0
  · obtain ⟨b, digits, hdecimal, hb⟩ := decimal_head hzero
    have hall := isDigit_of_mem_decimal n
    have hwhole := ofWhole_decimal hn
    rw [hdecimal] at hall hwhole ⊢
    obtain ⟨htake, hdrop⟩ :=
      takeWhile_digits (fun c hc => hall c (List.mem_cons_of_mem _ hc)) hrest
    rw [List.cons_append, readNumber, if_neg hb, if_pos (hall b (List.mem_cons_self ..)), htake,
      hdrop, hwhole]
    exact readFraction_of_ends hrest n

/-- A number contains no line end. -/
theorem newline_not_mem_decimal (n : Nat) : 10 ∉ decimal n := by
  intro hmem
  exact absurd (isDigit_of_mem_decimal n 10 hmem) (by decide)

end Json

end Framecast
