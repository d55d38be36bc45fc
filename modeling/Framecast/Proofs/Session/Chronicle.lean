import Framecast.Proofs.Session.Notes

/-!
# Chronicles

A chronicle is a link with everything that goes on around it, one step after the other. Sockets are
installed and taken away, reads are cancelled and resumed, peers send and close, and a reader
receives, one call after the other; between any two of its steps anything else may happen. The
handler that runs when a socket has ended may do all this too, except receive.

A socket is a queue that its peer may extend and then close. Everything that happens is noted.
-/

namespace Framecast

/-- What is done by somebody else than the reader. Exchanging the socket of a link is an
installation and then a wake signal; asking for every read to return is a cancellation and then a
wake signal. -/
inductive Deed where
  | onLink (act : LinkAct)
  /-- The peer of a socket sends, unless it has closed. -/
  | send (socket : SocketId) (chunk : Stretch)
  /-- The peer of a socket closes. -/
  | close (socket : SocketId)
  deriving DecidableEq, Repr

/-- A link with everything that goes on around it. -/
structure Chronicle where
  link : Link := {}
  /-- What waits in each socket. -/
  queue : SocketId → Source
  /-- What the handler does each time it runs; when this is used up, nothing. -/
  handler : List (List Deed) := []
  /-- The read that is in progress: how many bytes it asks for, and how far it has come. -/
  reading : Option (Nat × ReadPhase) := none
  notes : Notes := []

/-- What is noted of an act on the link. -/
def LinkAct.noted : LinkAct → Notes
  | install socket => [.installed socket]
  | wake | cancel | resume => []

namespace Chronicle

/-- Change what a socket brings. -/
def onQueue (socket : SocketId) (f : Source → Source) (c : Chronicle) : Chronicle :=
  { c with queue := fun id => if id = socket then f (c.queue socket) else c.queue id }

/-- Write down what happened. -/
def note (n : Note) (c : Chronicle) : Chronicle :=
  { c with notes := n :: c.notes }

/-- Somebody does something. -/
def meet (deed : Deed) (c : Chronicle) : Chronicle :=
  match deed with
  | .onLink act => { c with link := act.apply c.link, notes := act.noted ++ c.notes }
  | .send socket chunk =>
    if (c.queue socket).closed then c
    else
      (c.onQueue socket fun q => { q with unread := q.unread ++ chunk }).note (.sent socket chunk)
  | .close socket => (c.onQueue socket ({ · with closed := true })).note (.closed socket)

/-- Several deeds of others, one after the other. -/
def meetAll (deeds : List Deed) (c : Chronicle) : Chronicle :=
  deeds.foldl (fun c deed => c.meet deed) c

/-- The handler runs. -/
def runHandler (c : Chronicle) : Chronicle :=
  ({ c with handler := c.handler.tail }.meetAll (c.handler.headD [])).note .handled

/-- What a poll finds. -/
def readiness (socket : SocketId) (c : Chronicle) : Readiness :=
  let q := c.queue socket
  ⟨q.unread ≠ [] ∨ q.closed ∨ q.failsNext, c.link.isWoken⟩

/-- One receive on a watched socket. -/
def receive (w : Watch) (size : Nat) (c : Chronicle) : Except IoError Arrival × Chronicle :=
  let (result, after) := (c.queue w.socket).attempt size
  let c := c.onQueue w.socket fun _ => after
  match result with
  | .ok arrival => (result, if arrival.bytes.isEmpty then c.note (.drained w) else c)
  | .error _ => (result, c)

/-- The read goes on. -/
def goOn (size : Nat) (phase : ReadPhase) (c : Chronicle) : Chronicle :=
  { c with reading := some (size, phase) }

/-- The read returns. -/
def answer (result : Except SessionError Received) (c : Chronicle) : Chronicle :=
  { c with reading := none }.note (.returned result)

/-- A chronicle, to read in. A step that has to wait is not taken. -/
def host : LinkHost (StateT Chronicle Option) where
  onLink f := fun c => some ((f c.link).1, { c with link := (f c.link).2 })
  poll socket := fun c =>
    let ready := c.readiness socket
    if ready.socket || ready.wake then some (.ok ready, c) else none
  receive w size := fun c => some (c.receive w size)
  runHandler := fun c => some ((), c.runHandler)
  release _ := pure ()

/-- The reader takes a step, if it reads and need not wait. -/
def advance (c : Chronicle) : Chronicle :=
  match c.reading with
  | none => c
  | some (size, phase) =>
    match phase.step host size c with
    | none => c
    | some (.inl next, c) => c.goOn size next
    | some (.inr result, c) => c.answer result

/-- The reader begins to read, unless it is reading. -/
def begin (size : Nat) (c : Chronicle) : Chronicle :=
  match c.reading with
  | none => c.goOn size .entering
  | some _ => c

/-- One step of a chronicle: of others, or of the reader. -/
inductive Move where
  | meet (deed : Deed)
  | begin (size : Nat)
  | advance
  deriving DecidableEq, Repr

/-- Make a move. -/
def move (m : Move) (c : Chronicle) : Chronicle :=
  match m with
  | .meet deed => c.meet deed
  | .begin size => c.begin size
  | .advance => c.advance

/-- Make several moves, one after the other. -/
def run (moves : List Move) (c : Chronicle) : Chronicle :=
  moves.foldl (fun c m => c.move m) c

/-- Nothing has happened yet. It is given how the receives on each socket will go, and what the
handler will do. -/
def start (turns : SocketId → List Turn) (handler : List (List Deed)) : Chronicle :=
  { queue := fun socket => ⟨[], false, turns socket⟩, handler := handler }

/-! ### What a step of the reader can do -/

/-- Everything that a step of the reader can do, by how far the read has come. -/
inductive Stepped (c : Chronicle) (size : Nat) : ReadPhase → Chronicle → Prop
  | cancelled (h : c.link.cancelled = true) : Stepped c size .entering (c.answer (.ok .flushing))
  | missing (hresumed : c.link.cancelled = false) (h : c.link.socket = none) :
      Stepped c size .entering (c.answer (.error (.socket .notConnected)))
  | askedNothing (x : SocketId) (h : c.link.socket = some x) (hsize : size = 0) :
      Stepped c size .entering (c.answer (.ok (.data ⟨[], []⟩ c.link.generation)))
  | watched (x : SocketId) (h : c.link.socket = some x) (hsize : 0 < size) :
      Stepped c size .entering (c.goOn size (.waiting ⟨x, c.link.generation⟩))
  | waited (w : Watch) : Stepped c size (.waiting w) c
  | signalled (w : Watch) : Stepped c size (.waiting w) (c.goOn size .woken)
  | ready (w : Watch) : Stepped c size (.waiting w) (c.goOn size (.reading w))
  | stopped : Stepped c size .woken (c.goOn size .entering)
  | woken : Stepped c size .woken (c.goOn size .draining)
  | silenced : Stepped c size .draining ({ c with link := c.link.drain }.goOn size .entering)
  | failed (w : Watch) (turns : List Turn) (e : IoError) :
      Stepped c size (.reading w)
        ((c.onQueue w.socket ({ · with turns := turns })).answer (.error (.socket (.io e))))
  | retried (w : Watch) (turns : List Turn) :
      Stepped c size (.reading w)
        ((c.onQueue w.socket ({ · with turns := turns })).goOn size .entering)
  | drained (w : Watch) (turns : List Turn) (hunread : (c.queue w.socket).unread = [])
      (hclosed : (c.queue w.socket).closed = true) :
      Stepped c size (.reading w)
        (((c.onQueue w.socket ({ · with turns := turns })).note (.drained w)).goOn size (.ending w))
  | brought (w : Watch) (turns : List Turn) (chunk rest : Stretch)
      (hunread : (c.queue w.socket).unread = chunk ++ rest) :
      Stepped c size (.reading w)
        ((c.onQueue w.socket ({ · with unread := rest, turns := turns })).answer
          (.ok (.data chunk.arrival w.generation)))
  | handled (w : Watch) : Stepped c size (.ending w) (c.runHandler.goOn size (.concluding w))
  | replaced (w : Watch) (h : c.link.isReplaced w = true) :
      Stepped c size (.concluding w) (c.goOn size .entering)
  | ended (w : Watch) (h : c.link.isReplaced w = false) :
      Stepped c size (.concluding w)
        ({ c with link := { c.link with socket := none, ended := true } }.answer
          (.ok .endOfStream))

variable {c c' : Chronicle} {size : Nat} {phase next : ReadPhase} {w : Watch}

/-- What a phase that was gone through leads to. -/
def settle (size : Nat) (next : ReadPhase) (c : Chronicle) : Chronicle :=
  match next with
  | .done result => c.answer result
  | next => c.goOn size next

theorem advance_of_idle (h : c.reading = none) : c.advance = c := by
  unfold advance
  rw [h]

theorem advance_of_some (h : c.reading = some (size, phase))
    (hphase : phase.advance host size c = some (next, c')) : c.advance = settle size next c' := by
  unfold advance ReadPhase.step
  rw [h]
  simp only [bind, StateT.bind, hphase, Option.bind]
  cases next <;> rfl

/-- A read starts: it looks at the socket. -/
theorem stepped_entering (h : c.reading = some (size, .entering)) :
    Stepped c size .entering c.advance := by
  have hphase : ReadPhase.entering.advance host size c =
    some (.ofEntering size c.link.enter, c) := rfl
  rw [advance_of_some h hphase]
  unfold Link.enter
  by_cases hcancelled : c.link.cancelled = true
  · rw [if_pos hcancelled]
    exact .cancelled hcancelled
  · rw [if_neg hcancelled]
    cases hsocket : c.link.socket with
    | none => exact .missing (by simpa using hcancelled) hsocket
    | some x =>
      unfold ReadPhase.ofEntering
      by_cases hsize : size = 0
      · dsimp only
        rw [if_pos hsize]
        exact .askedNothing x hsocket hsize
      · dsimp only
        rw [if_neg hsize]
        exact .watched x hsocket (Nat.pos_of_ne_zero hsize)

/-- A read that finds something goes on. -/
theorem waiting_of_ready (size : Nat)
    (hready : ((c.readiness w.socket).socket || (c.readiness w.socket).wake) = true) :
    (ReadPhase.waiting w).advance host size c =
      some (.ofPoll w (.ok (c.readiness w.socket)), c) := by
  simp only [ReadPhase.advance, host, bind, StateT.bind, hready, if_true]
  rfl

/-- A read that finds nothing stays where it is. -/
theorem waiting_of_not_ready (size : Nat)
    (hready : ¬ ((c.readiness w.socket).socket || (c.readiness w.socket).wake) = true) :
    (ReadPhase.waiting w).advance host size c = none := by
  simp only [ReadPhase.advance, host, bind, StateT.bind, hready]
  rfl

theorem advance_of_none (h : c.reading = some (size, phase))
    (hphase : phase.advance host size c = none) : c.advance = c := by
  unfold advance ReadPhase.step
  rw [h]
  simp only [bind, StateT.bind, hphase, Option.bind]

theorem stepped_waiting (h : c.reading = some (size, .waiting w)) :
    Stepped c size (.waiting w) c.advance := by
  by_cases hready : ((c.readiness w.socket).socket || (c.readiness w.socket).wake) = true
  · rw [advance_of_some h (waiting_of_ready size hready)]
    unfold ReadPhase.ofPoll
    by_cases hwake : (c.readiness w.socket).wake = true
    · dsimp only
      rw [if_pos hwake]
      exact .signalled w
    · have hsocket : (c.readiness w.socket).socket = true := by
        simpa [hwake] using hready
      dsimp only
      rw [if_neg hwake, if_pos hsocket]
      exact .ready w
  · rw [advance_of_none h (waiting_of_not_ready size hready)]
    exact .waited w

theorem stepped_woken (h : c.reading = some (size, .woken)) :
    Stepped c size .woken c.advance := by
  have hphase : ReadPhase.woken.advance host size c =
    some (if c.link.cancelled then .entering else .draining, c) := rfl
  rw [advance_of_some h hphase]
  by_cases hcancelled : c.link.cancelled = true
  · rw [if_pos hcancelled]
    exact .stopped
  · rw [if_neg hcancelled]
    exact .woken

theorem stepped_draining (h : c.reading = some (size, .draining)) :
    Stepped c size .draining c.advance := by
  have hphase : ReadPhase.draining.advance host size c =
    some (.entering, { c with link := c.link.drain }) := rfl
  rw [advance_of_some h hphase]
  exact .silenced

theorem stepped_reading (h : c.reading = some (size, .reading w)) (hsize : 0 < size) :
    Stepped c size (.reading w) c.advance := by
  have hphase : (ReadPhase.reading w).advance host size c =
    some (.ofReceive w (c.receive w size).1, (c.receive w size).2) := rfl
  rw [advance_of_some h hphase]
  unfold receive
  have hgives := Source.gives_attempt hsize (c.queue w.socket)
  generalize (c.queue w.socket).attempt size = attempted at hgives ⊢
  obtain ⟨result, after⟩ := attempted
  have herror (e : IoError) (turns : List Turn) :
      Stepped c size (.reading w) (settle size (.ofReceive w (.error e))
        (c.onQueue w.socket ({ · with turns := turns }))) := by
    unfold ReadPhase.ofReceive
    by_cases hretry : e.kind = .wouldBlock ∨ e.kind = .interrupted
    · dsimp only
      rw [if_pos hretry]
      exact .retried w turns
    · dsimp only
      rw [if_neg hretry]
      exact .failed w turns e
  dsimp only at hgives
  cases hgives with
  | failed e turns => exact herror e turns
  | idle e turns => exact herror e turns
  | ended turns _ hunread hclosed => exact .drained w turns hunread hclosed
  | brought chunk rest turns _ hchunk _ hunread =>
    have hsome : chunk.arrival.bytes.isEmpty = false := by
      cases chunk with
      | nil => exact absurd rfl hchunk
      | cons => rfl
    dsimp only [ReadPhase.ofReceive]
    rw [hsome]
    exact .brought w turns chunk rest hunread

/-- A read at the end of its socket runs the handler. -/
theorem stepped_ending (h : c.reading = some (size, .ending w)) :
    Stepped c size (.ending w) c.advance := by
  have hphase : (ReadPhase.ending w).advance host size c =
    some (.concluding w, c.runHandler) := rfl
  rw [advance_of_some h hphase]
  exact .handled w

/-- A read concludes once the handler has run. -/
theorem stepped_concluding (h : c.reading = some (size, .concluding w)) :
    Stepped c size (.concluding w) c.advance := by
  have hphase : (ReadPhase.concluding w).advance host size c =
    some (.ofEnding (c.link.conclude w).1, { c with link := (c.link.conclude w).2 }) := rfl
  rw [advance_of_some h hphase]
  unfold Link.conclude
  by_cases hreplaced : c.link.isReplaced w = true
  · rw [if_pos hreplaced]
    exact .replaced w hreplaced
  · rw [if_neg hreplaced]
    exact .ended w (by simpa using hreplaced)

end Chronicle

end Framecast
