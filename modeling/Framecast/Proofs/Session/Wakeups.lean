import Framecast.Proofs.Session.Lifecycle

/-!
# Waking a reader

Whoever exchanges the socket of a link or cancels its reads first changes the link and then adds a
wake signal, and a reader that waits is to see the change. But the signals of all threads are kept
together, and resuming the reads takes them all.

A cancellation is never missed, for what takes its signal also takes the cancellation back. A new
socket can be missed: `isWoken_iff` says that a reader which waits for an older socket has a signal
exactly if the last that was added or taken was added.
-/

namespace Framecast

namespace Chronicle

variable {c : Chronicle} {size size' : Nat} {w : Watch}

theorem reading_settle {next : ReadPhase}
    (h : (settle size' next c).reading = some (size, .waiting w)) : next = .waiting w := by
  unfold settle at h
  split at h
  · cases h
  · cases h
    rfl

/-- A reader that waits has just looked at the link, or has waited before. -/
inductive Arrives (c : Chronicle) (w : Watch) : Chronicle → Prop
  | still : Arrives c w c
  | entered (hrunning : c.link.cancelled = false) (hgeneration : c.link.generation = w.generation)
      (c' : Chronicle) (hlink : c'.link = c.link) : Arrives c w c'

theorem ofReceive_ne_waiting (w' : Watch) (result : Except IoError Arrival) :
    ReadPhase.ofReceive w' result ≠ .waiting w := by
  unfold ReadPhase.ofReceive
  split
  · split <;> nofun
  · split <;> nofun

theorem arrives_entering (hreading : c.reading = some (size', .entering))
    (h : c.advance.reading = some (size, .waiting w)) : Arrives c w c.advance := by
  have hphase : ReadPhase.entering.advance host size' c =
    some (.ofEntering size' c.link.enter, c) := rfl
  rw [advance_of_some hreading hphase] at h ⊢
  have hnext := reading_settle h
  rw [hnext]
  unfold Link.enter at hnext
  split at hnext
  · cases hnext
  · rename_i hrunning
    split at hnext
    · unfold ReadPhase.ofEntering at hnext
      dsimp only at hnext
      split at hnext
      · cases hnext
      · cases hnext
        exact .entered (by simpa using hrunning) rfl _ rfl
    · cases hnext

/-- How a read comes to wait. -/
theorem arrives_advance (h : c.advance.reading = some (size, .waiting w)) :
    Arrives c w c.advance := by
  cases hreading : c.reading with
  | none =>
    rw [advance_of_idle hreading]
    exact .still
  | some read =>
    obtain ⟨size', phase⟩ := read
    cases phase with
    | entering => exact arrives_entering hreading h
    | waiting w' =>
      have hstepped := stepped_waiting hreading
      generalize c.advance = c' at h hstepped ⊢
      cases hstepped with
      | waited => exact .still
      | signalled => cases h
      | ready => cases h
    | woken =>
      have hstepped := stepped_woken hreading
      generalize c.advance = c' at h hstepped
      cases hstepped <;> cases h
    | draining =>
      have hstepped := stepped_draining hreading
      generalize c.advance = c' at h hstepped
      cases hstepped
      cases h
    | reading w' =>
      have hphase : (ReadPhase.reading w').advance host size' c =
        some (.ofReceive w' (c.receive w' size').1, (c.receive w' size').2) := rfl
      rw [advance_of_some hreading hphase] at h
      exact absurd (reading_settle h) (ofReceive_ne_waiting w' _)
    | ending w' =>
      have hstepped := stepped_ending hreading
      generalize c.advance = c' at h hstepped
      cases hstepped
      cases h
    | concluding w' =>
      have hstepped := stepped_concluding hreading
      generalize c.advance = c' at h hstepped
      cases hstepped <;> cases h
    | done result =>
      have hphase : (ReadPhase.done result).advance host size' c = some (.done result, c) := rfl
      rw [advance_of_some hreading hphase] at h
      cases reading_settle h

/-- A reader that waits looks at the link again if there is a signal, and else only at the socket
that it waits for. -/
theorem reading_advance_waiting (h : c.reading = some (size, .waiting w)) :
    c.advance.reading = some (size,
      if c.link.isWoken then .woken
      else if (c.readiness w.socket).socket then .reading w else .waiting w) := by
  have hwake : (c.readiness w.socket).wake = c.link.isWoken := rfl
  by_cases hready : ((c.readiness w.socket).socket || (c.readiness w.socket).wake) = true
  · rw [advance_of_some h (waiting_of_ready size hready)]
    unfold ReadPhase.ofPoll
    dsimp only
    rw [hwake] at hready ⊢
    by_cases hwoken : c.link.isWoken = true
    · rw [if_pos hwoken, if_pos hwoken]
      rfl
    · have hsocket : (c.readiness w.socket).socket = true := by
        simpa [hwoken] using hready
      rw [if_neg hwoken, if_neg hwoken, if_pos hsocket, if_pos hsocket]
      rfl
  · rw [advance_of_none h (waiting_of_not_ready size hready)]
    rw [Bool.or_eq_true, not_or, hwake] at hready
    rw [if_neg hready.2, if_neg hready.1]
    exact h

end Chronicle

/-- A chronicle with other threads around it, each of which changes the link in one step and adds
its wake signal in a later one. -/
structure Crowd where
  chronicle : Chronicle
  /-- The threads that have changed the link and not signalled yet. -/
  owing : List Nat := []
  /-- Of all wake signals and resumptions the last was a resumption. -/
  hushed : Bool := false

namespace Crowd

/-- A deed of others. -/
def meet (deed : Deed) (c : Crowd) : Crowd :=
  { c with chronicle := c.chronicle.meet deed }

/-- A thread changes the link, unless it still owes a signal. -/
def change (thread : Nat) (act : LinkAct) (c : Crowd) : Crowd :=
  if thread ∈ c.owing then c
  else { c.meet (.onLink act) with owing := thread :: c.owing }

/-- A thread adds the signal that it owes. -/
def signal (thread : Nat) (c : Crowd) : Crowd :=
  if thread ∈ c.owing then
    { c.meet (.onLink .wake) with owing := c.owing.erase thread, hushed := false }
  else c

/-- Reads are allowed again. -/
def resume (c : Crowd) : Crowd :=
  { c.meet (.onLink .resume) with hushed := true }

/-- One step of a crowd. -/
inductive Move where
  /-- A thread begins to exchange the socket. -/
  | install (thread : Nat) (socket : Option SocketId)
  /-- A thread begins to ask for every read to return. -/
  | cancel (thread : Nat)
  | signal (thread : Nat)
  | resume
  | send (socket : SocketId) (chunk : Stretch)
  | close (socket : SocketId)
  | begin (size : Nat)
  | advance
  deriving DecidableEq, Repr

/-- Make a move. -/
def move (m : Move) (c : Crowd) : Crowd :=
  match m with
  | .install thread socket => c.change thread (.install socket)
  | .cancel thread => c.change thread .cancel
  | .signal thread => c.signal thread
  | .resume => c.resume
  | .send socket chunk => c.meet (.send socket chunk)
  | .close socket => c.meet (.close socket)
  | .begin size => { c with chronicle := c.chronicle.begin size }
  | .advance => { c with chronicle := c.chronicle.advance }

/-- Make several moves, one after the other. -/
def run (moves : List Move) (c : Crowd) : Crowd :=
  moves.foldl (fun c m => c.move m) c

/-- A crowd in which nothing was done yet. -/
def start (turns : SocketId → List Turn) (handler : List (List Deed)) : Crowd :=
  { chronicle := .start turns handler }

/-- What is known of the signals when a reader waits that looked at the link in some generation. -/
structure Alert (generation : Nat) (c : Crowd) : Prop where
  cancelled : c.chronicle.link.cancelled = true →
    c.owing ≠ [] ∨ c.chronicle.link.isWoken = true
  exchanged : c.chronicle.link.generation ≠ generation →
    c.owing ≠ [] ∨ (c.chronicle.link.isWoken = true ↔ c.hushed = false)

/-- A reader that waits misses nothing but what a resumption has taken from it. -/
def Watchful (c : Crowd) : Prop :=
  ∀ size w, c.chronicle.reading = some (size, .waiting w) → c.Alert w.generation

variable {c : Crowd} {generation : Nat}

theorem Alert.meet (h : c.Alert generation) {deed : Deed}
    (hlink : (c.meet deed).chronicle.link = c.chronicle.link) :
    (c.meet deed).Alert generation := by
  refine ⟨?_, ?_⟩
  · rw [hlink]
    exact h.cancelled
  · rw [hlink]
    exact h.exchanged

theorem link_send (socket : SocketId) (chunk : Stretch) (c : Crowd) :
    (c.meet (.send socket chunk)).chronicle.link = c.chronicle.link := by
  show (if _ then _ else _ : Chronicle).link = _
  split <;> rfl

/-- A change of the link announces itself. -/
theorem Alert.change (h : c.Alert generation) (thread : Nat) (act : LinkAct) :
    (c.change thread act).Alert generation := by
  unfold Crowd.change
  split
  · exact h
  · exact ⟨fun _ => .inl nofun, fun _ => .inl nofun⟩

/-- A signal wakes, or was called for by nothing. -/
theorem Alert.signal (h : c.Alert generation) (thread : Nat) :
    (c.signal thread).Alert generation := by
  unfold Crowd.signal
  split
  · have hwoken (l : Link) : l.wake.isWoken = true := decide_eq_true (Nat.succ_pos _)
    exact ⟨fun _ => .inr (hwoken _), fun _ => .inr (iff_of_true (hwoken _) rfl)⟩
  · exact h

/-- Where reads are resumed, nobody is promised a wake-up any more. -/
theorem alert_resume (generation : Nat) (c : Crowd) : c.resume.Alert generation :=
  ⟨nofun, fun _ => .inr (iff_of_false nofun nofun)⟩

theorem Watchful.of_alert (h : c.Watchful) {c' : Crowd}
    (hreading : c'.chronicle.reading = c.chronicle.reading)
    (halert : ∀ generation, c.Alert generation → c'.Alert generation) : c'.Watchful := by
  intro size w hwaiting
  rw [hreading] at hwaiting
  exact halert _ (h size w hwaiting)

theorem Watchful.change (h : c.Watchful) (thread : Nat) (act : LinkAct) :
    (c.change thread act).Watchful := by
  refine h.of_alert ?_ fun _ halert => halert.change thread act
  unfold Crowd.change
  split <;> rfl

theorem Watchful.signal (h : c.Watchful) (thread : Nat) : (c.signal thread).Watchful := by
  refine h.of_alert ?_ fun _ halert => halert.signal thread
  unfold Crowd.signal
  split <;> rfl

theorem Watchful.advance (h : c.Watchful) :
    ({ c with chronicle := c.chronicle.advance } : Crowd).Watchful := by
  intro size w hwaiting
  have harrives := Chronicle.arrives_advance hwaiting
  have hstill := h size w
  dsimp only at hwaiting ⊢
  generalize c.chronicle.advance = after at hwaiting harrives ⊢
  cases harrives with
  | still => exact hstill hwaiting
  | entered hrunning hgeneration _ hlink =>
    refine ⟨?_, ?_⟩
    · intro hcancelled
      dsimp only at hcancelled
      rw [hlink, hrunning] at hcancelled
      cases hcancelled
    · intro hexchanged
      dsimp only at hexchanged
      rw [hlink, hgeneration] at hexchanged
      exact absurd rfl hexchanged

theorem Watchful.begin (h : c.Watchful) (size : Nat) :
    ({ c with chronicle := c.chronicle.begin size } : Crowd).Watchful := by
  intro size' w hwaiting
  cases hreading : c.chronicle.reading with
  | none =>
    have hbegun : (c.chronicle.begin size).reading = some (size, .entering) := by
      unfold Chronicle.begin
      rw [hreading]
      rfl
    rw [hbegun] at hwaiting
    cases hwaiting
  | some read =>
    have hsame : c.chronicle.begin size = c.chronicle := by
      unfold Chronicle.begin
      rw [hreading]
    rw [hsame] at hwaiting ⊢
    exact h size' w hwaiting

theorem Watchful.move (h : c.Watchful) (m : Move) : (c.move m).Watchful := by
  cases m with
  | install thread socket => exact h.change thread (.install socket)
  | cancel thread => exact h.change thread .cancel
  | signal thread => exact h.signal thread
  | resume => exact h.of_alert rfl fun generation _ => alert_resume generation c
  | send socket chunk =>
    exact h.of_alert (Chronicle.reading_meet ..) fun _ halert => halert.meet (link_send ..)
  | close socket => exact h.of_alert rfl fun _ halert => halert.meet rfl
  | begin size => exact h.begin size
  | advance => exact h.advance

/-- Every run keeps the crowd watchful. -/
theorem Watchful.run (h : c.Watchful) (moves : List Move) : (c.run moves).Watchful := by
  induction moves generalizing c with
  | nil => exact h
  | cons m rest ih => exact ih (h.move m)

/-- **When a wake-up is lost.** Whatever happens around a link, in whatever order: take a reader
that waits for the socket that it has looked at, and let no thread owe a signal. If the read was
cancelled, there is a signal for it. If the socket was exchanged, there is a signal exactly if the
last that was done with the signals, by anybody but the reader, was to add one and not to resume.
With a signal the reader looks at the link again; without one it goes on with the same socket. -/
theorem isWoken_iff (turns : SocketId → List Turn) (handler : List (List Deed))
    (moves : List Move) {size : Nat} {w : Watch} :
    let c := (start turns handler).run moves
    c.chronicle.reading = some (size, .waiting w) → c.owing = [] →
      (c.chronicle.link.cancelled = true → c.chronicle.link.isWoken = true) ∧
      (c.chronicle.link.generation ≠ w.generation →
        (c.chronicle.link.isWoken = true ↔ c.hushed = false)) ∧
      c.chronicle.advance.reading = some (size,
        if c.chronicle.link.isWoken then .woken
        else if (c.chronicle.readiness w.socket).socket then .reading w else .waiting w) := by
  intro c hwaiting howing
  have hstart : (start turns handler).Watchful := nofun
  obtain ⟨hcancelled, hexchanged⟩ := hstart.run moves size w hwaiting
  refine ⟨?_, ?_, Chronicle.reading_advance_waiting hwaiting⟩
  · intro h
    exact (hcancelled h).resolve_left fun hne => hne howing
  · intro h
    exact (hexchanged h).resolve_left fun hne => hne howing

/-- While a read waits, the socket is exchanged, this is signalled, and somebody resumes the reads
of the link. -/
def lateResumption : List Move :=
  [.install 0 (some 0), .signal 0, .begin 16] ++ List.replicate 5 .advance ++
    [.install 0 (some 1), .signal 0, .resume]

/-- There is no signal left, and the read returns what comes on the older socket. -/
theorem isWoken_iff_lateResumption :
    let c := (start (fun _ => []) []).run lateResumption
    let sent := c.run [.send 0 (Stretch.plain [7]), .advance, .advance]
    c.chronicle.reading = some (16, .waiting ⟨0, 1⟩) ∧ c.owing = [] ∧
    c.chronicle.link.generation ≠ 1 ∧ c.chronicle.link.isWoken ≠ true ∧
    sent.chronicle.notes.head? = some (.returned (.ok (.data ⟨[7], []⟩ 1))) := by
  intro c sent
  have hwaiting : c.chronicle.reading = some (16, .waiting ⟨0, 1⟩) := rfl
  have howing : c.owing = [] := rfl
  have hgeneration : c.chronicle.link.generation ≠ 1 := by decide
  obtain ⟨-, hexchanged, -⟩ := isWoken_iff (fun _ => []) [] lateResumption hwaiting howing
  refine ⟨hwaiting, howing, hgeneration, ?_, rfl⟩
  rw [ne_eq, hexchanged hgeneration]
  decide

end Crowd

end Framecast
