import Framecast.Proofs.Session.Reading

/-!
# Reading alone

What a read comes to when nobody but the reader and the handler acts, and no receive fails. The read
takes the wake signals that are there, and then the socket decides: it brings its next bytes, or the
read waits for ever, or the stream ends. If the handler puts another socket in the place of one that
has ended, the read goes on with that socket as if it had been there from the start.
-/

namespace Framecast

namespace Scene

/-- In at most so many steps a read comes to its result, or it waits for ever. -/
inductive Ends (size : Nat) : Nat → ReadPhase → Scene →
    Option (Except SessionError Received × Scene) → Prop
  | blocked {k : Nat} {phase : ReadPhase} {s : Scene}
      (h : phase.advance host size s = none) : Ends size k phase s none
  | done {k : Nat} {phase : ReadPhase} {s s' : Scene} {result : Except SessionError Received}
      (h : phase.advance host size s = some (.done result, s')) :
      Ends size (k + 1) phase s (some (result, s'))
  | next {k : Nat} {phase phase' : ReadPhase} {s s' : Scene}
      {o : Option (Except SessionError Received × Scene)}
      (h : phase.advance host size s = some (phase', s'))
      (rest : Ends size k phase' s' o) : Ends size (k + 1) phase s o

variable {size k : Nat} {phase phase' : ReadPhase} {s s' : Scene}
  {o : Option (Except SessionError Received × Scene)}

theorem Ends.of_done (h : Ends size k phase s o) {result : Except SessionError Received}
    (hdone : phase = .done result) : o = some (result, s) := by
  induction h with
  | blocked h =>
    subst hdone
    cases h
  | done h =>
    subst hdone
    cases h
    rfl
  | next h rest ih =>
    subst hdone
    cases h
    exact ih rfl

/-- A read that ends in some steps ends in more. -/
theorem Ends.mono {k' : Nat} (h : Ends size k phase s o) (hle : k ≤ k') :
    Ends size k' phase s o := by
  induction h generalizing k' with
  | blocked h => exact .blocked h
  | done h =>
    obtain ⟨k', rfl⟩ : ∃ n, k' = n + 1 := ⟨k' - 1, by omega⟩
    exact .done h
  | next h rest ih =>
    obtain ⟨k', rfl⟩ : ∃ n, k' = n + 1 := ⟨k' - 1, by omega⟩
    exact .next h (ih (by omega))

/-- A read that ends in some steps comes to its end. -/
theorem Ends.iterate_eq (h : Ends size k phase s o) {steps : Nat} (hle : k ≤ steps) :
    iterate (ReadPhase.step host size) steps phase s = o := by
  induction h generalizing steps with
  | @blocked k phase s h =>
    cases steps with
    | zero => rfl
    | succ n =>
      have hstep : phase.step host size s = none := by
        unfold ReadPhase.step
        rw [bind_scened, h, Option.bind_none]
      rw [iterate, hstep]
  | @done k phase s s' result h =>
    obtain ⟨n, rfl⟩ : ∃ n, steps = n + 1 := ⟨steps - 1, by omega⟩
    have hstep : phase.step host size s = some (.inr result, s') := by
      unfold ReadPhase.step
      rw [bind_scened, h, Option.bind_some]
      rfl
    rw [iterate, hstep]
  | @next k phase phase' s s' o h rest ih =>
    obtain ⟨n, rfl⟩ : ∃ n, steps = n + 1 := ⟨steps - 1, by omega⟩
    rw [iterate, ReadPhase.step, bind_scened, h, Option.bind_some]
    dsimp only
    cases phase' with
    | done result => exact (rest.of_done rfl).symm
    | _ => exact ih (by omega)

/-! ### Until the socket is waited for -/

/-- The scene after the wake signals were taken. -/
def calm (s : Scene) : Scene :=
  { s with link := s.link.drain }

theorem calm_of_not_isWoken (h : s.link.isWoken = false) : s.calm = s := by
  have hwakes : s.link.wakes = 0 := by
    simpa [Link.isWoken] using h
  have hdrain : s.link.drain = s.link := by
    rw [Link.drain, ← hwakes]
  rw [calm, hdrain]

theorem isWoken_calm (s : Scene) : s.calm.link.isWoken = false := rfl

theorem meet_of_alone (halone : s.others = []) : s.meet = s := by
  rw [meet, halone]

variable {x : SocketId}

theorem advance_entering_alone (hsize : 0 < size) (halone : s.others = [])
    (hsocket : s.link.socket = some x) (hrunning : s.link.cancelled = false) :
    ReadPhase.entering.advance host size s =
      some (.waiting ⟨x, s.link.generation⟩, s) := by
  have henter : s.link.enter = .watching ⟨x, s.link.generation⟩ := by
    rw [Link.enter, hrunning, hsocket]
    rfl
  rw [advance_entering, meet_of_alone halone, henter, ReadPhase.ofEntering,
    if_neg (Nat.pos_iff_ne_zero.mp hsize)]

/-- A read takes the wake signals that are there, and then waits for the socket. -/
theorem Ends.of_waiting (hsize : 0 < size) (halone : s.others = [])
    (hsocket : s.link.socket = some x) (hrunning : s.link.cancelled = false)
    (h : Ends size k (.waiting ⟨x, s.link.generation⟩) s.calm o) :
    Ends size (k + 5) .entering s o := by
  have henter := advance_entering_alone hsize halone hsocket hrunning
  have hagain : ReadPhase.entering.advance host size s.calm =
      some (.waiting ⟨x, s.link.generation⟩, s.calm) :=
    advance_entering_alone (s := s.calm) hsize halone hsocket hrunning
  by_cases hwoken : s.link.isWoken = true
  · have hpoll : (ReadPhase.waiting ⟨x, s.link.generation⟩).advance host size s =
        some (.woken, s) := by
      have hwake : (s.readiness x).wake = true := hwoken
      rw [advance_waiting, meet_of_alone halone, awaitAny, hwake, Bool.or_true, if_pos rfl,
        Option.map_some]
      dsimp only [ReadPhase.ofPoll]
      rw [if_pos hwake]
    have hseen : ReadPhase.woken.advance host size s = some (.draining, s) := by
      rw [advance_woken, meet_of_alone halone, hrunning]
      rfl
    have hdrain : ReadPhase.draining.advance host size s = some (.entering, s.calm) := by
      rw [advance_draining, meet_of_alone halone]
      rfl
    exact .next henter (.next hpoll (.next hseen (.next hdrain (.next hagain h))))
  · rw [calm_of_not_isWoken (Bool.eq_false_iff.mpr hwoken)] at h
    exact (Ends.next henter h).mono (by omega)

/-- With nobody else about, a poll finds what is there or waits for ever. -/
theorem awaitAny_alone (halone : s.others = []) (hwoken : s.link.isWoken = false) :
    s.awaitAny x =
      if (s.readiness x).socket then some (.ok (s.readiness x), s) else none := by
  have hwake : (s.readiness x).wake = false := hwoken
  rw [awaitAny, hwake, Bool.or_false]
  split
  · rfl
  · split
    · rfl
    · rename_i acts rest hothers
      rw [halone] at hothers
      cases hothers

/-- A read that has something to receive goes on to receive it. -/
theorem Ends.of_reading (halone : s.others = []) (hwoken : s.link.isWoken = false) {w : Watch}
    (hready : (s.readiness w.socket).socket = true) (h : Ends size k (.reading w) s o) :
    Ends size (k + 1) (.waiting w) s o := by
  have hwake : (s.readiness w.socket).wake = false := hwoken
  have hpoll : (ReadPhase.waiting w).advance host size s = some (.reading w, s) := by
    rw [advance_waiting, meet_of_alone halone, awaitAny_alone halone hwoken, if_pos hready,
      Option.map_some]
    dsimp only [ReadPhase.ofPoll]
    rw [hwake, if_neg Bool.false_ne_true, if_pos hready]
  exact .next hpoll h

theorem receive_source (w : Watch) (s : Scene) :
    (s.receive w size).2.source w.socket = ((s.source w.socket).attempt size).2 :=
  if_pos rfl

theorem receive_source_of_ne {w : Watch} (hother : x ≠ w.socket) (s : Scene) :
    (s.receive w size).2.source x = s.source x :=
  if_neg hother

/-- A read at the end of its socket goes on to the handler. -/
theorem Ends.of_concluding (halone : s.others = []) (hwoken : s.link.isWoken = false) {w : Watch}
    (hsteady : (s.source w.socket).Steady) (hnil : (s.source w.socket).unread = [])
    (hclosed : (s.source w.socket).closed = true)
    (h : Ends size k (.concluding w) (s.receive w size).2.runHandler o) :
    Ends size (k + 3) (.waiting w) s o := by
  have hready : (s.readiness w.socket).socket = true := by
    simp [readiness, hclosed]
  have hresult : (s.receive w size).1 = .ok ⟨[], []⟩ := by
    rw [receive, hsteady.attempt_of_closed hnil hclosed]
  have hread : (ReadPhase.reading w).advance host size s =
      some (.ending w, (s.receive w size).2) := by
    rw [advance_reading, meet_of_alone halone, hresult]
    rfl
  have hrun : (ReadPhase.ending w).advance host size (s.receive w size).2 =
      some (.concluding w, (s.receive w size).2.runHandler) := by
    have hsame : (s.receive w size).2.others = [] := halone
    rw [advance_ending, meet_of_alone hsame]
  exact .of_reading halone hwoken hready (.next hread (.next hrun h))

/-! ### The last socket -/

/-- The link reads from this socket, and nobody is going to exchange it. -/
structure Serves (x : SocketId) (generation : Nat) (source : Source) (s : Scene) : Prop where
  alone : s.others = []
  spent : s.handler = []
  socket : s.link.socket = some x
  running : s.link.cancelled = false
  generation : s.link.generation = generation
  steady : source.Steady
  source : s.source x = source

/-- The link has no socket, and nobody is going to give it one. -/
structure Over (s : Scene) : Prop where
  alone : s.others = []
  socket : s.link.socket = none
  running : s.link.cancelled = false

/-- What a read of so many bytes comes to, if the link reads from this socket. -/
inductive Answers (x : SocketId) (generation : Nat) (source : Source) (size : Nat) :
    Option (Except SessionError Received × Scene) → Prop
  | brought {s : Scene} (hne : source.unread ≠ [])
      (h : s.Serves x generation { source with
        unread := source.unread.drop (source.reach size), turns := source.turns.tail }) :
      Answers x generation source size (some (.ok (.data (source.next size).arrival generation), s))
  | blocked (hnil : source.unread = []) (hopen : source.closed = false) :
      Answers x generation source size none
  | ended {s : Scene} (hnil : source.unread = []) (hclosed : source.closed = true) (h : s.Over) :
      Answers x generation source size (some (.ok .endOfStream, s))

variable {generation : Nat} {source : Source}

theorem Serves.tick (h : s.Serves x generation source) : s.tick.Serves x generation source :=
  ⟨h.alone, h.spent, h.socket, h.running, h.generation, h.steady, h.source⟩

theorem Serves.calm (h : s.Serves x generation source) : s.calm.Serves x generation source :=
  ⟨h.alone, h.spent, h.socket, h.running, h.generation, h.steady, h.source⟩

theorem Over.tick (h : s.Over) : s.tick.Over :=
  ⟨h.alone, h.socket, h.running⟩

/-- With bytes on the socket, a read brings some of them. -/
theorem Serves.ends_of_ne (h : s.Serves x generation source) (hwoken : s.link.isWoken = false)
    (hsize : 0 < size) (hne : source.unread ≠ []) :
    ∃ o, Ends size 4 (.waiting ⟨x, generation⟩) s o ∧ Answers x generation source size o := by
  have hready : (s.readiness x).socket = true := by
    simp [readiness, h.source, hne]
  have hattempt := h.steady.attempt_of_ne hne size
  have hreceive : (s.receive ⟨x, generation⟩ size).1 = .ok (source.next size).arrival := by
    rw [receive, h.source, hattempt]
  have hsome : (source.next size).arrival.bytes.isEmpty = false := by
    rw [Stretch.arrival_bytes, List.isEmpty_eq_false_iff, ne_eq, Stretch.bytes_eq_nil_iff]
    exact Source.next_ne_nil hsize hne
  have hread : (ReadPhase.reading ⟨x, generation⟩).advance host size s =
      some (.done (.ok (.data (source.next size).arrival generation)),
        (s.receive ⟨x, generation⟩ size).2) := by
    rw [advance_reading, meet_of_alone h.alone, hreceive]
    dsimp only [ReadPhase.ofReceive]
    rw [hsome, if_neg Bool.false_ne_true]
  refine ⟨_, .of_reading h.alone hwoken hready (.done hread), .brought hne ?_⟩
  refine ⟨h.alone, h.spent, h.socket, h.running, h.generation, h.steady.tail _, ?_⟩
  rw [receive_source ⟨x, generation⟩ s, h.source, hattempt]

/-- At the end of its socket, a read reports it. -/
theorem Serves.ends_of_closed (h : s.Serves x generation source)
    (hwoken : s.link.isWoken = false) (hnil : source.unread = [])
    (hclosed : source.closed = true) :
    ∃ o, Ends size 4 (.waiting ⟨x, generation⟩) s o ∧ Answers x generation source size o := by
  obtain ⟨halone, hspent, hsocket, hrunning, hgeneration, hsteady, rfl⟩ := h
  have hafter : (s.receive ⟨x, generation⟩ size).2.runHandler =
      (s.receive ⟨x, generation⟩ size).2 := by
    have hsame : (s.receive ⟨x, generation⟩ size).2.handler = [] := hspent
    rw [runHandler, hsame]
  have hkept : s.link.isReplaced ⟨x, generation⟩ = false := by
    rw [Link.isReplaced, hgeneration, bne_self_eq_false, Bool.and_false]
  obtain ⟨s', hconclude, hover⟩ : ∃ s', (ReadPhase.concluding ⟨x, generation⟩).advance host size
      (s.receive ⟨x, generation⟩ size).2 = some (.done (.ok .endOfStream), s') ∧ s'.Over := by
    have hlink : (s.receive ⟨x, generation⟩ size).2.link = s.link := rfl
    have hsame : (s.receive ⟨x, generation⟩ size).2.others = [] := halone
    rw [advance_concluding, meet_of_alone hsame, hlink, Link.conclude, hkept,
      if_neg Bool.false_ne_true]
    exact ⟨_, rfl, halone, rfl, hrunning⟩
  have hends := (Ends.done (k := 0) hconclude)
  rw [← hafter] at hends
  exact ⟨_, .of_concluding halone hwoken hsteady hnil hclosed hends, .ended hnil hclosed hover⟩

/-- On an open socket without bytes, a read waits for ever. -/
theorem Serves.ends_of_open (h : s.Serves x generation source)
    (hwoken : s.link.isWoken = false) (hnil : source.unread = [])
    (hopen : source.closed = false) :
    ∃ o, Ends size 4 (.waiting ⟨x, generation⟩) s o ∧ Answers x generation source size o := by
  have hready : (s.readiness x).socket = false := by
    simp [readiness, h.source, hnil, hopen, h.steady.not_failsNext]
  have hpoll : (ReadPhase.waiting ⟨x, generation⟩).advance host size s = none := by
    rw [advance_waiting, meet_of_alone h.alone, awaitAny_alone h.alone hwoken, hready,
      if_neg Bool.false_ne_true, Option.map_none]
  exact ⟨none, .blocked hpoll, .blocked hnil hopen⟩

/-- On a socket that serves, a read ends as its source says. -/
theorem Serves.ends (h : s.Serves x generation source) (hsize : 0 < size) :
    ∃ o, Ends size 9 .entering s o ∧ Answers x generation source size o := by
  obtain ⟨o, hends, hanswers⟩ : ∃ o, Ends size 4 (.waiting ⟨x, generation⟩) s.calm o ∧
      Answers x generation source size o := by
    have hcalm := h.calm
    have hwoken := s.isWoken_calm
    by_cases hnil : source.unread = []
    · cases hclosed : source.closed with
      | true => exact hcalm.ends_of_closed hwoken hnil hclosed
      | false => exact hcalm.ends_of_open hwoken hnil hclosed
    · exact hcalm.ends_of_ne hwoken hsize hnil
  rw [← h.generation] at hends
  exact ⟨o, .of_waiting hsize h.alone h.socket h.running hends, hanswers⟩

/-- A receive on a socket that serves, within nine steps. -/
theorem Serves.receiveOver (h : s.Serves x generation source) (hsize : 0 < size) {steps : Nat}
    (hsteps : 9 ≤ steps) : Answers x generation source size (receiveOver steps size s) := by
  obtain ⟨o, hends, hanswers⟩ := h.ends hsize
  have heq : Scene.receiveOver steps size s = o := hends.iterate_eq hsteps
  rw [heq]
  exact hanswers

/-- A receive without a socket fails at once. -/
theorem Over.receiveOver (h : s.Over) {steps : Nat} (hsteps : 1 ≤ steps) :
    receiveOver steps size s = some (.error (.socket .notConnected), s) := by
  have henter : s.link.enter = .notConnected := by
    rw [Link.enter, h.running, h.socket]
    rfl
  have hdone : ReadPhase.entering.advance host size s =
      some (.done (.error (.socket .notConnected)), s) := by
    rw [advance_entering, meet_of_alone h.alone, henter]
    rfl
  exact (Ends.done (k := 0) hdone).iterate_eq hsteps

/-! ### The socket before the last one -/

/-- The link's socket has ended, and the handler is going to put another one in its place. -/
structure HandsOver (old new : SocketId) (source : Source) (s : Scene) : Prop where
  alone : s.others = []
  handler : s.handler = [[.install (some new), .wake]]
  socket : s.link.socket = some old
  running : s.link.cancelled = false
  still : (s.source old).Steady
  drained : (s.source old).unread = []
  closed : (s.source old).closed = true
  other : new ≠ old
  steady : source.Steady
  source : s.source new = source

variable {old new : SocketId}

theorem HandsOver.tick (h : s.HandsOver old new source) : s.tick.HandsOver old new source :=
  ⟨h.alone, h.handler, h.socket, h.running, h.still, h.drained, h.closed, h.other, h.steady,
    h.source⟩

/-- A read that finds the socket ended starts again with the one that takes its place. -/
theorem HandsOver.ends_of_serves (h : s.HandsOver old new source) (hsize : 0 < size) :
    ∃ s', s'.Serves new (s.link.generation + 1) source ∧
      ∀ k o, Ends size k .entering s' o → Ends size (k + 9) .entering s o := by
  obtain ⟨halone, hhandler, hsocket, hrunning, hstill, hdrained, hclosed, hother, hsteady, rfl⟩ := h
  let w : Watch := ⟨old, s.link.generation⟩
  let link : Link := (s.link.drain.install (some new)).wake
  obtain ⟨s', hrun, hlink, hserves⟩ : ∃ s', (s.calm.receive w size).2.runHandler = s' ∧
      s'.link = link ∧ s'.Serves new (s.link.generation + 1) (s.source new) := by
    have hsame : (s.calm.receive w size).2.handler = [[.install (some new), .wake]] := hhandler
    rw [runHandler, hsame]
    refine ⟨_, rfl, rfl, halone, rfl, rfl, hrunning, rfl, hsteady, ?_⟩
    exact receive_source_of_ne hother s.calm
  refine ⟨s', hserves, ?_⟩
  intro k o hends
  have hreplaced : s'.link.isReplaced w = true := by
    have hnew : (s.link.generation + 1 != s.link.generation) = true := by
      rw [bne_iff_ne]
      omega
    rw [hlink]
    exact hnew
  have hconclude : (ReadPhase.concluding w).advance host size s' = some (.entering, s') := by
    rw [advance_concluding, meet_of_alone hserves.alone, Link.conclude, if_pos hreplaced]
    rfl
  have hnext : Ends size (k + 1) (.concluding w) (s.calm.receive w size).2.runHandler o := by
    rw [hrun]
    exact .next hconclude hends
  have hwait := Ends.of_concluding (s := s.calm) (w := w) halone s.isWoken_calm hstill hdrained
    hclosed hnext
  exact .of_waiting hsize halone hsocket hrunning hwait

/-- A receive while the socket is handed over, within eighteen steps. -/
theorem HandsOver.receiveOver (h : s.HandsOver old new source) (hsize : 0 < size) {steps : Nat}
    (hsteps : 18 ≤ steps) :
    Answers new (s.link.generation + 1) source size (receiveOver steps size s) := by
  obtain ⟨s', hserves, hends⟩ := h.ends_of_serves hsize
  obtain ⟨o, hrest, hanswers⟩ := hserves.ends hsize
  have heq : Scene.receiveOver steps size s = o := (hends 9 o hrest).iterate_eq hsteps
  rw [heq]
  exact hanswers

end Scene

end Framecast
