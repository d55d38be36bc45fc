import Framecast.Proofs.Stream.Source

/-!
# Pieces of a stream

A source whose receives are interrupted now and then, but fail in no other way, brings its stream in
pieces. The turns say where the pieces end: `pieceStart` is where the piece starts in which a byte
comes.
-/

namespace Framecast

/-- No receive fails but by an interruption. -/
def Flowing (turns : List Turn) : Prop :=
  ∀ e, .fail e ∈ turns → e.kind = .interrupted

/-- Where the piece starts that brings the byte at a place, if every receive asks for as much. -/
def pieceStart (size : Nat) : List Turn → Nat → Nat
  | [], place => place / size * size
  | .fail _ :: later, place => pieceStart size later place
  | .bring more :: later, place =>
    let count := min (more + 1) size
    if place < count then 0 else count + pieceStart size later (place - count)

variable {size : Nat} {turns : List Turn}

theorem Flowing.tail {turn : Turn} (h : Flowing (turn :: turns)) : Flowing turns :=
  fun e he => h e (List.mem_cons_of_mem _ he)

theorem flowing_replicate (count more : Nat) : Flowing (List.replicate count (.bring more)) := by
  intro e he
  cases List.eq_of_mem_replicate he

namespace Source

variable {unread : Stretch} {closed : Bool}

theorem receiver_of_bring {s t : Source} {count : Nat} (h : s.attempt size = t.bring count) :
    receiver size s = t.bring count := by
  have hdone : ¬interrupted (s.attempt size).1 = true := by
    rw [h, interrupted_bring]
    exact Bool.false_ne_true
  rw [receiver, uninterrupted, dif_neg hdone, h]

/-- A receive that was interrupted is made again. -/
theorem receiver_of_interruption {e : IoError} (he : e.kind = .interrupted) :
    receiver size ⟨unread, closed, .fail e :: turns⟩ = receiver size ⟨unread, closed, turns⟩ := by
  have h : interrupted (attempt size ⟨unread, closed, .fail e :: turns⟩).1 = true := by
    show (e.kind == .interrupted) = true
    rw [he]
    rfl
  rw [receiver, uninterrupted, dif_pos h]
  rfl

/-- A receive does what the first turn says that does not fail. -/
theorem receiver_takes (hsize : 0 < size) (hturns : Flowing turns) (hne : unread ≠ [])
    (closed : Bool) : ∃ count later, 0 < count ∧ Flowing later ∧
      receiver size ⟨unread, closed, turns⟩ =
        (.ok (Stretch.arrival (unread.take count)), ⟨unread.drop count, closed, later⟩) ∧
      ∀ place, pieceStart size turns place =
        if place < count then 0 else count + pieceStart size later (place - count) := by
  have hbring (count : Nat) (later : List Turn) : bring count ⟨unread, closed, later⟩ =
      (.ok (Stretch.arrival (unread.take count)), ⟨unread.drop count, closed, later⟩) :=
    if_neg hne
  induction turns with
  | nil =>
    refine ⟨size, [], hsize, nofun, (receiver_of_bring rfl).trans (hbring size []), ?_⟩
    intro place
    show place / size * size = _
    split
    · rename_i hlt
      rw [Nat.div_eq_of_lt hlt, Nat.zero_mul]
    · rename_i hge
      show _ = size + (place - size) / size * size
      rw [Nat.div_eq_sub_div hsize (Nat.not_lt.mp hge), Nat.add_one_mul, Nat.add_comm]
  | cons turn rest ih =>
    cases turn with
    | fail e =>
      obtain ⟨count, later, hpos, hlater, hreceiver, hstart⟩ := ih hturns.tail
      refine ⟨count, later, hpos, hlater, ?_, hstart⟩
      rw [receiver_of_interruption (hturns e (List.mem_cons_self ..)), hreceiver]
    | bring more =>
      exact ⟨min (more + 1) size, rest, by omega, hturns.tail,
        (receiver_of_bring rfl).trans (hbring _ rest), fun _ => rfl⟩

/-- As long as there are bytes, a receive brings a piece of them. The other pieces are those of what
is left. -/
theorem receiver_brings (hsize : 0 < size) (hturns : Flowing turns) (hne : unread ≠ [])
    (closed : Bool) : ∃ piece rest later, unread = piece ++ rest ∧ piece ≠ [] ∧ Flowing later ∧
      receiver size ⟨unread, closed, turns⟩ = (.ok piece.arrival, ⟨rest, closed, later⟩) ∧
      ∀ place, place < unread.length → pieceStart size turns place =
        if place < piece.length then 0
        else piece.length + pieceStart size later (place - piece.length) := by
  obtain ⟨count, later, hpos, hlater, hreceiver, hstart⟩ := receiver_takes hsize hturns hne closed
  have hpiece : unread.take count ≠ [] := by
    rw [ne_eq, List.take_eq_nil_iff]
    rintro (h | h)
    · omega
    · exact hne h
  refine ⟨_, _, later, (List.take_append_drop count unread).symm, hpiece, hlater, hreceiver, ?_⟩
  intro place hplace
  rw [hstart, List.length_take]
  by_cases hfirst : place < count
  · rw [if_pos hfirst, if_pos (by omega)]
  · rw [if_neg hfirst, if_neg (by omega), Nat.min_eq_left (by omega)]

theorem receiver_at_end (size : Nat) (hturns : Flowing turns) (closed : Bool) :
    ∃ later, receiver size ⟨[], closed, turns⟩ =
      (if closed then .ok ⟨[], []⟩ else .error (.bare .wouldBlock), ⟨[], closed, later⟩) := by
  have hbring (count : Nat) (later : List Turn) : bring count ⟨[], closed, later⟩ =
      (if closed then .ok ⟨[], []⟩ else .error (.bare .wouldBlock), ⟨[], closed, later⟩) := by
    cases closed <;> rfl
  induction turns with
  | nil =>
    refine ⟨[], ?_⟩
    exact (receiver_of_bring rfl).trans (hbring size [])
  | cons turn rest ih =>
    cases turn with
    | fail e =>
      obtain ⟨later, hreceiver⟩ := ih hturns.tail
      refine ⟨later, ?_⟩
      rw [receiver_of_interruption (hturns e (List.mem_cons_self ..)), hreceiver]
    | bring more =>
      refine ⟨rest, ?_⟩
      exact (receiver_of_bring rfl).trans (hbring _ rest)

end Source

/-- A byte comes in the piece that starts at most so many bytes before it. -/
theorem pieceStart_bounds (hsize : 0 < size) (turns : List Turn) (place : Nat) :
    pieceStart size turns place ≤ place ∧ place < pieceStart size turns place + size := by
  induction turns generalizing place with
  | nil =>
    have hsplit := Nat.div_add_mod' place size
    have hrest := Nat.mod_lt place hsize
    show place / size * size ≤ place ∧ place < place / size * size + size
    omega
  | cons turn later ih =>
    cases turn with
    | fail e => exact ih place
    | bring more =>
      have hlater := ih (place - min (more + 1) size)
      rw [pieceStart]
      split
      · omega
      · omega

/-- Single bytes come first. -/
theorem pieceStart_singles (hsize : 0 < size) (count : Nat) (later : List Turn) {place : Nat}
    (hplace : count ≤ place) :
    pieceStart size (List.replicate count (.bring 0) ++ later) place =
      count + pieceStart size later (place - count) := by
  induction count generalizing place with
  | zero => exact (Nat.zero_add _).symm
  | succ count ih =>
    have hone : min (0 + 1) size = 1 := by omega
    rw [List.replicate_succ, List.cons_append, pieceStart, hone, if_neg (by omega), ih (by omega),
      Nat.sub_sub, Nat.add_comm 1 count]
    omega

/-- In single bytes every piece starts at its byte. -/
theorem pieceStart_latest (hsize : 0 < size) (place : Nat) :
    pieceStart size (List.replicate place (.bring 0)) place = place := by
  have hstart := pieceStart_singles hsize place [] (Nat.le_refl _)
  rw [List.append_nil, Nat.sub_self] at hstart
  rw [hstart, pieceStart, Nat.zero_div, Nat.zero_mul, Nat.add_zero]

/-- Whole pieces after so many single bytes start as early as the byte allows. -/
theorem pieceStart_earliest (hsize : 0 < size) (place : Nat) :
    pieceStart size (List.replicate (place + 1 - size) (.bring 0)) place = place + 1 - size := by
  have hle : place + 1 - size ≤ place := by omega
  have hstart := pieceStart_singles hsize (place + 1 - size) [] hle
  have hrest : place - (place + 1 - size) < size := by omega
  rw [List.append_nil] at hstart
  rw [hstart, pieceStart, Nat.div_eq_of_lt hrest, Nat.zero_mul, Nat.add_zero]

end Framecast
