import Framecast.Proofs.Stream.Stretch

/-!
# Sources

A source is a socket that is only read from: the stretch of the stream that has not arrived yet,
whether the stream ends behind it, and what the coming receives will do. A receive that succeeds
brings the next bytes, at least one and at most as many as were asked for, with exactly the
descriptors that ride on them.
-/

namespace Framecast

/-- What a source does at one receive. -/
inductive Turn where
  | fail (error : IoError)
  /-- Bring one byte and at most so many more. -/
  | bring (more : Nat)
  deriving DecidableEq, Repr

/-- A socket to receive from. -/
structure Source where
  unread : Stretch
  /-- Whether the stream ends behind the unread bytes. -/
  closed : Bool
  /-- What the coming receives do. When they are used up, a receive brings all it was asked for. -/
  turns : List Turn := []
  deriving DecidableEq, Repr

namespace Source

/-- Bring at most so many bytes. With none left, the stream ends or the receive would wait. -/
def bring (count : Nat) (s : Source) : Except IoError Arrival × Source :=
  if s.unread = [] then
    if s.closed then (.ok ⟨[], []⟩, s) else (.error (.bare .wouldBlock), s)
  else (.ok (Stretch.arrival (s.unread.take count)), { s with unread := s.unread.drop count })

/-- One receive on a source. -/
def attempt (size : Nat) (s : Source) : Except IoError Arrival × Source :=
  match s.turns with
  | [] => s.bring size
  | .fail e :: rest => (.error e, { s with turns := rest })
  | .bring more :: rest => { s with turns := rest }.bring (min (more + 1) size)

/-- Whether the next receive fails. -/
def failsNext (s : Source) : Bool :=
  match s.turns with
  | .fail _ :: _ => true
  | _ => false

/-- Whether a receive comes to something without waiting. -/
def isReady (s : Source) : Bool :=
  s.unread ≠ [] ∨ s.closed ∨ s.failsNext

/-- How long the source can go on failing or bringing something. -/
def patience (s : Source) : Nat :=
  s.unread.length + s.turns.length

theorem interrupted_bring (count : Nat) (s : Source) : interrupted (s.bring count).1 = false := by
  unfold bring
  split
  · split <;> simp [interrupted, IoError.kind]
  · rfl

theorem turns_lt_of_interrupted {size : Nat} {s : Source}
    (h : interrupted (s.attempt size).1 = true) :
    (s.attempt size).2.turns.length < s.turns.length := by
  unfold attempt at h ⊢
  match hs : s.turns with
  | [] =>
    rw [hs] at h
    exact absurd h (by simp [interrupted_bring])
  | .fail e :: rest => simp
  | .bring more :: rest =>
    rw [hs] at h
    exact absurd h (by simp [interrupted_bring])

/-- The source, to receive from. A call that was interrupted is repeated. -/
def receiver : Receiver (StateM Source) := fun size s =>
  uninterrupted (attempt size) (·.turns.length) (fun _ h => turns_lt_of_interrupted h) s

/-- What a receive comes to. -/
inductive Gives (size : Nat) (s : Source) : Except IoError Arrival → Source → Prop
  | failed (e : IoError) (turns : List Turn) (h : turns.length < s.turns.length) :
      Gives size s (.error e) { s with turns := turns }
  | idle (e : IoError) (turns : List Turn) (h : turns.length ≤ s.turns.length)
      (hunread : s.unread = []) (hopen : s.closed = false) :
      Gives size s (.error e) { s with turns := turns }
  | ended (turns : List Turn) (h : turns.length ≤ s.turns.length) (hunread : s.unread = [])
      (hclosed : s.closed = true) : Gives size s (.ok ⟨[], []⟩) { s with turns := turns }
  | brought (chunk rest : Stretch) (turns : List Turn) (h : turns.length ≤ s.turns.length)
      (hchunk : chunk ≠ []) (hsize : chunk.length ≤ size) (hunread : s.unread = chunk ++ rest) :
      Gives size s (.ok chunk.arrival) { s with unread := rest, turns := turns }

theorem gives_bring {size count : Nat} {s t : Source} (hpos : 0 < count) (hle : count ≤ size)
    (hunread : t.unread = s.unread) (hclosed : t.closed = s.closed)
    (hturns : t.turns.length ≤ s.turns.length) :
    Gives size s (t.bring count).1 (t.bring count).2 := by
  have ht : t = { s with turns := t.turns } := by
    cases t
    cases s
    simp_all
  unfold bring
  split
  · rename_i hempty
    rw [hunread] at hempty
    split
    · rename_i hc
      rw [ht]
      exact .ended t.turns hturns hempty (hclosed ▸ hc)
    · rename_i hc
      rw [ht]
      exact .idle _ t.turns hturns hempty (by simpa [hclosed] using hc)
  · rename_i hne
    rw [hunread] at hne ⊢
    have hs : s.unread = s.unread.take count ++ s.unread.drop count :=
      (List.take_append_drop ..).symm
    have hchunk : s.unread.take count ≠ [] := by
      rw [ne_eq, List.take_eq_nil_iff]
      rintro (h | h)
      · omega
      · exact hne h
    have hsize : (s.unread.take count).length ≤ size :=
      Nat.le_trans (List.length_take_le ..) hle
    rw [hclosed]
    exact .brought _ _ t.turns hturns hchunk hsize hs

/-- A receive gives what is next, in order. -/
theorem gives_attempt {size : Nat} (hsize : 0 < size) (s : Source) :
    Gives size s (s.attempt size).1 (s.attempt size).2 := by
  unfold attempt
  match hs : s.turns with
  | [] => exact gives_bring hsize (Nat.le_refl _) rfl rfl (Nat.le_refl _)
  | .fail e :: rest => exact .failed e rest (by simp [hs])
  | .bring more :: rest =>
    refine gives_bring ?_ (Nat.min_le_right ..) rfl rfl (by simp [hs])
    omega

theorem Gives.of_turns {size : Nat} {s t s' : Source} {result : Except IoError Arrival}
    (ht : t = { s with turns := t.turns }) (hle : t.turns.length ≤ s.turns.length)
    (h : Gives size t result s') : Gives size s result s' := by
  generalize t.turns = turns at ht hle
  subst ht
  cases h with
  | failed e turns' h => exact .failed e turns' (Nat.lt_of_lt_of_le h hle)
  | idle e turns' h hunread hopen => exact .idle e turns' (Nat.le_trans h hle) hunread hopen
  | ended turns' h hunread hclosed => exact .ended turns' (Nat.le_trans h hle) hunread hclosed
  | brought chunk rest turns' h hchunk hsize hunread =>
    exact .brought chunk rest turns' (Nat.le_trans h hle) hchunk hsize hunread

theorem attempt_of_interrupted {size : Nat} {s : Source}
    (h : interrupted (s.attempt size).1 = true) :
    (s.attempt size).2 = { s with turns := (s.attempt size).2.turns } := by
  unfold attempt at h ⊢
  match hs : s.turns with
  | [] =>
    rw [hs] at h
    exact absurd h (by simp [interrupted_bring])
  | .fail e :: rest => rfl
  | .bring more :: rest =>
    rw [hs] at h
    exact absurd h (by simp [interrupted_bring])

/-- What a source has brought until it became another one. -/
def takenBy (s after : Source) : Stretch :=
  s.unread.take (s.unread.length - after.unread.length)

theorem takenBy_of_unread_eq {s after : Source} (h : after.unread = s.unread) :
    s.takenBy after = [] := by
  rw [takenBy, h, Nat.sub_self, List.take_zero]

/-- What a receive took is what it brought. -/
theorem Gives.takenBy {size : Nat} {s s' : Source} {result : Except IoError Arrival}
    (h : Gives size s result s') : (s.takenBy s').length ≤ size ∧
      (∀ arrival, result = .ok arrival → arrival = (s.takenBy s').arrival) ∧
      ∀ e, result = .error e → s.takenBy s' = [] := by
  have hnone (turns : List Turn) : s.takenBy { s with turns := turns } = [] :=
    takenBy_of_unread_eq rfl
  cases h with
  | failed e turns h =>
    rw [hnone]
    exact ⟨Nat.zero_le _, nofun, fun _ _ => rfl⟩
  | idle e turns h hunread hopen =>
    rw [hnone]
    exact ⟨Nat.zero_le _, nofun, fun _ _ => rfl⟩
  | ended turns h hunread hclosed =>
    rw [hnone]
    refine ⟨Nat.zero_le _, ?_, fun _ _ => rfl⟩
    intro arrival heq
    cases heq
    rfl
  | brought chunk rest turns h hchunk hsize hunread =>
    have htaken : s.takenBy { s with unread := rest, turns := turns } = chunk := by
      rw [Source.takenBy, hunread, List.length_append, Nat.add_sub_cancel, List.take_left]
    rw [htaken]
    refine ⟨hsize, ?_, nofun⟩
    intro arrival heq
    cases heq
    rfl

/-- What a receive brings is what was in front. -/
theorem Gives.unread_eq {size : Nat} {s s' : Source} {result : Except IoError Arrival}
    (h : Gives size s result s') : s.unread = s.takenBy s' ++ s'.unread := by
  have hdrop : s'.unread = s.unread.drop (s.unread.length - s'.unread.length) := by
    cases h with
    | failed | idle | ended =>
      show s.unread = s.unread.drop (s.unread.length - s.unread.length)
      rw [Nat.sub_self, List.drop_zero]
    | brought chunk rest turns h hchunk hsize hunread =>
      show rest = s.unread.drop (s.unread.length - rest.length)
      rw [hunread, List.length_append, Nat.add_sub_cancel, List.drop_left]
  rw [Source.takenBy]
  conv => rhs; arg 2; rw [hdrop]
  exact (List.take_append_drop ..).symm

/-- A receive that is made again after interruptions gives what is next, in order. -/
theorem gives_receiver {size : Nat} (hsize : 0 < size) (s : Source) :
    Gives size s (receiver size s).1 (receiver size s).2 := by
  unfold receiver
  fun_induction uninterrupted (attempt size) (·.turns.length) _ s with
  | case1 s h hlt ih =>
    exact ih.of_turns (attempt_of_interrupted h) (Nat.le_of_lt hlt)
  | case2 s h => exact gives_attempt hsize s

/-! ### Sources that do not fail -/

/-- No coming receive fails. -/
def Steady (s : Source) : Prop :=
  ∀ e, .fail e ∉ s.turns

/-- How many bytes the next receive brings at most, if it is asked for so many. -/
def reach (size : Nat) (s : Source) : Nat :=
  match s.turns with
  | .bring more :: _ => min (more + 1) size
  | _ => size

/-- What the next receive brings. -/
def next (size : Nat) (s : Source) : Stretch :=
  s.unread.take (s.reach size)

theorem reach_le (size : Nat) (s : Source) : s.reach size ≤ size := by
  unfold reach
  split
  · exact Nat.min_le_right ..
  · exact Nat.le_refl _

theorem reach_pos {size : Nat} (hsize : 0 < size) (s : Source) : 0 < s.reach size := by
  unfold reach
  split
  · omega
  · exact hsize

theorem length_next_le (size : Nat) (s : Source) : (s.next size).length ≤ size :=
  Nat.le_trans (List.length_take_le ..) (s.reach_le size)

theorem next_ne_nil {size : Nat} (hsize : 0 < size) {s : Source} (hne : s.unread ≠ []) :
    s.next size ≠ [] := by
  have hpos := s.reach_pos hsize
  rw [next, ne_eq, List.take_eq_nil_iff]
  rintro (h | h)
  · omega
  · exact hne h

theorem Steady.not_failsNext {s : Source} (hs : s.Steady) : s.failsNext = false := by
  unfold failsNext
  split
  · rename_i e rest hturns
    exact absurd (hturns ▸ List.mem_cons_self ..) (hs e)
  · rfl

theorem Steady.tail {s : Source} (hs : s.Steady) (unread : Stretch) :
    Steady { s with unread := unread, turns := s.turns.tail } :=
  fun e hmem => hs e (List.mem_of_mem_tail hmem)

theorem Steady.attempt {s : Source} (hs : s.Steady) (size : Nat) :
    s.attempt size = Source.bring (s.reach size) { s with turns := s.turns.tail } := by
  obtain ⟨unread, closed, turns⟩ := s
  match turns, hs with
  | [], _ => rfl
  | .fail e :: rest, hs => exact absurd (List.mem_cons_self ..) (hs e)
  | .bring more :: rest, _ => rfl

/-- A steady source with bytes left brings the next of them. -/
theorem Steady.attempt_of_ne {s : Source} (hs : s.Steady) (hne : s.unread ≠ []) (size : Nat) :
    s.attempt size = (.ok (s.next size).arrival,
      { s with unread := s.unread.drop (s.reach size), turns := s.turns.tail }) := by
  rw [hs.attempt, bring, if_neg hne]
  rfl

/-- A steady source at its end says so. -/
theorem Steady.attempt_of_closed {s : Source} (hs : s.Steady) (hnil : s.unread = [])
    (hclosed : s.closed = true) (size : Nat) :
    s.attempt size = (.ok ⟨[], []⟩, { s with turns := s.turns.tail }) := by
  rw [hs.attempt, bring, if_pos hnil, if_pos hclosed]

/-! ### Sources that make a receive wait -/

theorem turns_bring (count : Nat) (s : Source) : (s.bring count).2.turns = s.turns := by
  unfold bring
  split
  · split <;> rfl
  · rfl

theorem turns_attempt (size : Nat) (s : Source) : (s.attempt size).2.turns = s.turns.tail := by
  obtain ⟨unread, closed, turns⟩ := s
  cases turns with
  | nil => exact turns_bring ..
  | cons turn rest =>
    cases turn with
    | fail e => rfl
    | bring more => exact turns_bring ..

theorem bring_ne_error {count : Nat} {s : Source} (hready : s.unread ≠ [] ∨ s.closed = true)
    (e : IoError) : (s.bring count).1 ≠ .error e := by
  unfold bring
  split
  · rename_i hempty
    have hclosed := hready.resolve_left (absurd hempty)
    rw [if_pos hclosed]
    nofun
  · nofun

/-- No coming receive finds, when it comes to something, that it would have to wait. -/
def Blocking (s : Source) : Prop :=
  ∀ e, .fail e ∈ s.turns → e.kind ≠ .wouldBlock

theorem Blocking.attempt {s : Source} (h : s.Blocking) (size : Nat) :
    (s.attempt size).2.Blocking := by
  intro e hmem
  rw [turns_attempt] at hmem
  exact h e (List.mem_of_mem_tail hmem)

/-- A source that blocks never says that it would have to wait. -/
theorem Blocking.kind_of_attempt {s : Source} {size : Nat} {e : IoError} (hblocks : s.Blocking)
    (hready : s.isReady = true) (h : (s.attempt size).1 = .error e) : e.kind ≠ .wouldBlock := by
  obtain ⟨unread, closed, turns⟩ := s
  have hbrings (count : Nat) (turns' : List Turn) (hsome : unread ≠ [] ∨ closed = true) :
      (bring count ⟨unread, closed, turns'⟩).1 ≠ .error e := bring_ne_error hsome e
  cases turns with
  | nil =>
    refine absurd h (hbrings size [] ?_)
    simpa [isReady, failsNext] using hready
  | cons turn rest =>
    cases turn with
    | fail e' =>
      cases h
      exact hblocks e (List.mem_cons_self ..)
    | bring more =>
      refine absurd h (hbrings (min (more + 1) size) rest ?_)
      simpa [isReady, failsNext] using hready

end Source

end Framecast
