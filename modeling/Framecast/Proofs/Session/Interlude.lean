import Framecast.Proofs.Session.Lifecycle

/-!
# Interludes

A link that is used by one thread: sockets are exchanged, peers send and close, and reads and
deframers are called, one after the other. At any point there may be an interlude, in which the
reads of the link are cancelled, some calls are made, and the reads are resumed.

Every call of an interlude returns at once and changes nothing (`interlude_eq`), so an interlude
only takes the wake signals. A read takes these itself before it waits for its socket
(`alike_read`), and so nobody can tell afterwards whether there was an interlude:
`play_apart_from_interludes`.
-/

namespace Framecast

open Deframer (Step)

namespace Chronicle

open ReadPhase (finish_of_some finish_done)

variable {c c' : Chronicle} {size : Nat} {phase next : ReadPhase}

/-- A whole read, when nobody acts but the reader and the handler. -/
def read (size : Nat) : StateT Chronicle Option (Except SessionError Received) :=
  ReadPhase.entering.finish host size

/-! ### Reading without interruption -/

/-- The reads of the link are not cancelled, and the handler does not cancel them. -/
structure Running (c : Chronicle) : Prop where
  link : c.link.cancelled = false
  handler : ∀ deeds ∈ c.handler, .onLink .cancel ∉ deeds

theorem Running.meet (h : c.Running) {deed : Deed} (hdeed : deed ≠ .onLink .cancel) :
    (c.meet deed).Running := by
  cases deed with
  | onLink act =>
    refine ⟨?_, h.handler⟩
    cases act with
    | install socket => exact h.link
    | wake => exact h.link
    | cancel => exact absurd rfl hdeed
    | resume => rfl
  | send x chunk =>
    by_cases hclosed : (c.queue x).closed = true
    · rw [meet_send_of_closed chunk hclosed]
      exact h
    · rw [meet_send_of_open chunk hclosed]
      exact ⟨h.link, h.handler⟩
  | close x => exact ⟨h.link, h.handler⟩

theorem Running.meetAll (h : c.Running) {deeds : List Deed} (hdeeds : .onLink .cancel ∉ deeds) :
    (c.meetAll deeds).Running := by
  induction deeds generalizing c with
  | nil => exact h
  | cons deed rest ih =>
    rw [List.mem_cons, not_or] at hdeeds
    exact ih (h.meet (Ne.symm hdeeds.1)) hdeeds.2

theorem Running.runHandler (h : c.Running) : c.runHandler.Running := by
  have htail : Running { c with handler := c.handler.tail } :=
    ⟨h.link, fun deeds hmem => h.handler deeds (List.mem_of_mem_tail hmem)⟩
  have hhead : .onLink .cancel ∉ c.handler.headD [] := by
    cases hhandler : c.handler with
    | nil => nofun
    | cons deeds rest => exact h.handler deeds (hhandler ▸ List.mem_cons_self ..)
  obtain ⟨hlink, hhandler⟩ := htail.meetAll hhead
  exact ⟨hlink, hhandler⟩

theorem Running.receive (h : c.Running) (w : Watch) (size : Nat) :
    (c.receive w size).2.Running := by
  unfold Chronicle.receive
  dsimp only
  split
  · split
    · exact ⟨h.link, h.handler⟩
    · exact ⟨h.link, h.handler⟩
  · exact ⟨h.link, h.handler⟩

/-- A step of a read cancels nothing. -/
theorem Running.advance (h : c.Running) (hstep : phase.advance host size c = some (next, c')) :
    c'.Running := by
  cases phase with
  | entering | woken | done result =>
    cases hstep
    exact h
  | draining =>
    cases hstep
    exact ⟨h.link, h.handler⟩
  | waiting w =>
    by_cases hready : ((c.readiness w.socket).socket || (c.readiness w.socket).wake) = true
    · rw [waiting_of_ready size hready] at hstep
      cases hstep
      exact h
    · rw [waiting_of_not_ready size hready] at hstep
      cases hstep
  | reading w =>
    cases hstep
    exact h.receive w size
  | ending w =>
    cases hstep
    exact h.runHandler
  | concluding w =>
    cases hstep
    refine ⟨?_, h.handler⟩
    show (c.link.conclude w).2.cancelled = false
    unfold Link.conclude
    split
    · exact h.link
    · exact h.link

theorem Running.read (h : c.Running) {result : Except SessionError Received}
    (hread : c.read size = some (result, c')) : c'.Running :=
  ReadPhase.finish_keeps (fun h hadvance => h.advance hadvance) h hread

/-! ### Wake signals -/

/-- The wake signals were taken. -/
def calm (c : Chronicle) : Chronicle :=
  { c with link := c.link.drain }

@[simp] theorem calm_calm (c : Chronicle) : c.calm.calm = c.calm := rfl

theorem calm_of_not_isWoken (h : c.link.isWoken = false) : c.calm = c := by
  have hwakes : c.link.wakes = 0 := by
    simpa [Link.isWoken] using h
  have hdrain : c.link.drain = c.link := by
    rw [Link.drain, ← hwakes]
  rw [calm, hdrain]

theorem read_of_entering {size : Nat} {result : Except SessionError Received}
    (h : ReadPhase.ofEntering size c.link.enter = .done result) :
    c.read size = some (result, c) := by
  have hadvance : ReadPhase.entering.advance host size c = some (.done result, c) := by
    rw [← h]
    rfl
  rw [read, finish_of_some hadvance, finish_done]

/-- On a cancelled link, a read returns at once and changes nothing. -/
theorem read_of_cancelled (h : c.link.cancelled = true) (size : Nat) :
    c.read size = some (.ok .flushing, c) := by
  apply read_of_entering
  rw [Link.enter, h]
  rfl

/-- A read that is not cancelled takes the signals that are there, and then looks at the link
again. -/
theorem read_of_watching {size : Nat} {w : Watch}
    (h : ReadPhase.ofEntering size c.link.enter = .waiting w) :
    c.read size = c.calm.read size := by
  have hadvance : ReadPhase.entering.advance host size c = some (.waiting w, c) := by
    rw [← h]
    rfl
  by_cases hwoken : c.link.isWoken = true
  · have hrunning : c.link.cancelled = false := by
      cases hcancelled : c.link.cancelled with
      | false => rfl
      | true =>
        rw [Link.enter, hcancelled] at h
        cases h
    have hwake : (c.readiness w.socket).wake = true := hwoken
    have hpoll : (ReadPhase.waiting w).advance host size c = some (.woken, c) := by
      rw [waiting_of_ready size (by rw [hwake, Bool.or_true])]
      unfold ReadPhase.ofPoll
      dsimp only
      rw [if_pos hwake]
    have hseen : ReadPhase.woken.advance host size c = some (.draining, c) := by
      show some (if c.link.cancelled then ReadPhase.entering else .draining, c) = _
      rw [hrunning]
      rfl
    have hdrain : ReadPhase.draining.advance host size c = some (.entering, c.calm) := rfl
    unfold read
    rw [finish_of_some hadvance, finish_of_some hpoll, finish_of_some hseen,
      finish_of_some hdrain]
  · rw [calm_of_not_isWoken (Bool.eq_false_iff.mpr hwoken)]

/-- A read brings what waits in its socket. -/
theorem read_of_unread {x : SocketId} (hrunning : c.link.cancelled = false)
    (hsocket : c.link.socket = some x) (hsize : 0 < size) (hsteady : (c.queue x).Steady)
    (hunread : (c.queue x).unread ≠ []) :
    c.read size = some (.ok (.data ((c.queue x).next size).arrival c.link.generation),
      c.calm.onQueue x fun q =>
        { q with unread := q.unread.drop (q.reach size), turns := q.turns.tail }) := by
  let w : Watch := ⟨x, c.link.generation⟩
  have henter : ReadPhase.ofEntering size c.link.enter = .waiting w := by
    rw [Link.enter, hrunning, hsocket]
    exact if_neg (Nat.pos_iff_ne_zero.mp hsize)
  have hwatch : ReadPhase.entering.advance host size c.calm = some (.waiting w, c.calm) := by
    rw [← henter]
    rfl
  have hready : (c.calm.readiness x).socket = true := by
    simp [readiness, calm, hunread]
  have hpoll : (ReadPhase.waiting w).advance host size c.calm = some (.reading w, c.calm) := by
    rw [waiting_of_ready size (by rw [hready, Bool.true_or])]
    unfold ReadPhase.ofPoll
    dsimp only
    rw [if_neg (by nofun), if_pos hready]
  have hattempt : (c.calm.queue x).attempt size = _ := hsteady.attempt_of_ne hunread size
  have hsome : ((c.queue x).next size).arrival.bytes.isEmpty = false := by
    rw [Stretch.arrival_bytes, List.isEmpty_eq_false_iff, ne_eq, Stretch.bytes_eq_nil_iff]
    exact Source.next_ne_nil hsize hunread
  have hread : (ReadPhase.reading w).advance host size c.calm =
      some (.done (.ok (.data ((c.queue x).next size).arrival c.link.generation)),
        c.calm.onQueue x fun q =>
          { q with unread := q.unread.drop (q.reach size), turns := q.turns.tail }) := by
    show some (ReadPhase.ofReceive w (c.calm.receive w size).1, (c.calm.receive w size).2) = _
    unfold receive
    rw [hattempt]
    dsimp only [ReadPhase.ofReceive]
    rw [hsome]
    rfl
  rw [read_of_watching henter]
  unfold read
  rw [finish_of_some hwatch, finish_of_some hpoll, finish_of_some hread, finish_done]

/-- Two calls come to the same, but for the wake signals that are left. -/
inductive Alike {α : Type} : Option (α × Chronicle) → Option (α × Chronicle) → Prop
  | never : Alike none none
  | returned (a : α) (c c' : Chronicle) (h : c.calm = c'.calm) : Alike (some (a, c)) (some (a, c'))

/-- Whether there are wake signals makes no difference to a read. -/
theorem alike_read (size : Nat) (c : Chronicle) : Alike (c.read size) (c.calm.read size) := by
  have hsame : c.calm.link.enter = c.link.enter := rfl
  have hcases : (∃ result, ReadPhase.ofEntering size c.link.enter = .done result) ∨
      ∃ w, ReadPhase.ofEntering size c.link.enter = .waiting w := by
    unfold ReadPhase.ofEntering
    split
    · exact .inl ⟨_, rfl⟩
    · exact .inl ⟨_, rfl⟩
    · split
      · exact .inl ⟨_, rfl⟩
      · exact .inr ⟨_, rfl⟩
  rcases hcases with ⟨result, h⟩ | ⟨w, h⟩
  · rw [read_of_entering h, read_of_entering (hsame ▸ h)]
    exact .returned _ _ _ rfl
  · rw [read_of_watching h]
    rcases c.calm.read size with _ | ⟨result, c'⟩
    · exact .never
    · exact .returned _ _ _ rfl

end Chronicle

/-- What is done around a link whose reads nobody cancels. -/
inductive Outside where
  /-- The socket of the link is exchanged. -/
  | exchange (socket : Option SocketId)
  | send (socket : SocketId) (chunk : Stretch)
  | close (socket : SocketId)
  deriving DecidableEq, Repr

/-- What an act of the caller does to the link and to the sockets. -/
def Outside.deeds : Outside → List Deed
  | exchange socket => [.onLink (.install socket), .onLink .wake]
  | send socket chunk => [.send socket chunk]
  | close socket => [.close socket]

theorem Outside.cancel_notMem_deeds (act : Outside) : .onLink .cancel ∉ act.deeds := by
  cases act <;> simp [deeds]

/-- A link that one thread uses, with deframers to read frames over it. -/
structure Solo where
  chronicle : Chronicle
  deframer : Nat → Deframer

namespace Solo

/-- One call that reads. -/
inductive Call where
  | receive (size : Nat)
  /-- Receive at most once and try to complete a frame; what the clocks show meanwhile. -/
  | pull (deframer : Nat) (clocks : List Readings)

/-- What a call that reads comes to. -/
inductive Answer where
  | received (result : Except SessionError Received)
  | pulled (result : Result SessionError FrameOutcome)

/-- The answer of a call that was cancelled. -/
def Answer.flushing : Call → Answer
  | .receive _ => .received (.ok .flushing)
  | .pull .. => .pulled (.ok .flushing)

/-- What the clocks show next. -/
def readClocks : StateT (Chronicle × List Readings) Option Readings :=
  fun (c, clocks) => some (clocks.headD default, (c, clocks.tail))

/-- A read while nobody looks at the clocks. -/
def read (size : Nat) :
    StateT (Chronicle × List Readings) Option (Except SessionError Received) :=
  fun (c, clocks) => (c.read size).map fun (result, c) => (result, (c, clocks))

/-- Read a frame over the link of a chronicle. -/
def pull (clocks : List Readings) (d : Deframer) (c : Chronicle) :
    Option ((Result SessionError FrameOutcome × Deframer) × Chronicle) :=
  (d.pullOver readClocks read (c, clocks)).map fun ((result, d, _), c, _) => ((result, d), c)

/-- Change one of the deframers. -/
def setDeframer (which : Nat) (d : Deframer) (s : Solo) : Solo :=
  { s with deframer := fun other => if other = which then d else s.deframer other }

/-- Make a call. -/
def call (k : Call) (s : Solo) : Option (Answer × Solo) :=
  match k with
  | .receive size =>
    (s.chronicle.read size).map fun (result, c) => (.received result, { s with chronicle := c })
  | .pull which clocks =>
    (pull clocks (s.deframer which) s.chronicle).map fun ((result, d), c) =>
      (.pulled result, { s with chronicle := c }.setDeframer which d)

/-- Several acts outside of any call. -/
def meetAll (deeds : List Deed) (s : Solo) : Solo :=
  { s with chronicle := s.chronicle.meetAll deeds }

/-- A call of an interlude, with what was before and after it. -/
structure Visit where
  call : Call
  answer : Answer
  before : Solo
  after : Solo

/-- Make several calls and write down each with its answer. -/
def visit : List Call → Solo → Option (List Visit × Solo)
  | [], s => some ([], s)
  | k :: rest, s => do
    let (answer, after) ← s.call k
    let (visits, last) ← visit rest after
    return (⟨k, answer, s, after⟩ :: visits, last)

/-- Reads are cancelled, some calls are made, and reads are resumed. -/
def interlude (calls : List Call) (s : Solo) : Option (List Visit × Solo) := do
  let (visits, last) ← visit calls (s.meetAll [.onLink .cancel, .onLink .wake])
  return (visits, last.meetAll [.onLink .resume])

/-- A part of a run: an act outside, a call, or calls while the link is cancelled. -/
inductive Beat where
  | outside (act : Outside)
  | call (k : Call)
  | interlude (calls : List Call)

/-- Whether the part is one of calls while the link is cancelled. -/
def Beat.isInterlude : Beat → Bool
  | interlude _ => true
  | outside _ | call _ => false

/-- What a whole run came to. -/
structure Performance where
  /-- What the calls outside of interludes returned. -/
  answers : List Answer
  visits : List Visit
  last : Solo

/-- One beat after the other, if every call returns. -/
def play : List Beat → Solo → Option Performance
  | [], s => some ⟨[], [], s⟩
  | .outside act :: rest, s => play rest (s.meetAll act.deeds)
  | .call k :: rest, s => do
    let (answer, s) ← s.call k
    let p ← play rest s
    return { p with answers := answer :: p.answers }
  | .interlude calls :: rest, s => do
    let (visits, s) ← s.interlude calls
    let p ← play rest s
    return { p with visits := visits ++ p.visits }

/-- The call finds no frame, if it looks for one. -/
def Suits (s : Solo) : Call → Prop
  | .receive _ => True
  | .pull which clocks => ((s.deframer which).parse (clocks.headD default)).result = .ok none

/-- The calls of all interludes suit. -/
def AllSuit : List Beat → Solo → Prop
  | [], _ => True
  | .outside act :: rest, s => AllSuit rest (s.meetAll act.deeds)
  | .call k :: rest, s => ∀ r ∈ s.call k, AllSuit rest r.2
  | .interlude calls :: rest, s =>
    (∀ k ∈ calls, s.Suits k) ∧ ∀ r ∈ s.interlude calls, AllSuit rest r.2

/-- The wake signals were taken. -/
def calm (s : Solo) : Solo :=
  { s with chronicle := s.chronicle.calm }

variable {s s' : Solo}

theorem pull_of_parse_ne {clocks : List Readings} {d : Deframer}
    (h : (d.parse (clocks.headD default)).result ≠ .ok none) (c : Chronicle) :
    pull clocks d c = some (((d.parse (clocks.headD default)).toStep.result.mapError .frame,
      (d.parse (clocks.headD default)).deframer), c) := by
  have hnow : readClocks (c, clocks) = some (clocks.headD default, (c, clocks.tail)) := rfl
  rw [pull, Deframer.pullOver_of_parse_ne hnow h]
  rfl

theorem pull_of_parse_eq {clocks : List Readings} {d : Deframer}
    (h : (d.parse (clocks.headD default)).result = .ok none) (c : Chronicle) :
    pull clocks d c =
      (c.read d.wanted).map fun (result, c) =>
        match result with
        | .error e => ((.error e, d), c)
        | .ok received =>
          let step := d.absorbReceived (clocks.tail.headD default) received
          ((step.result.mapError .frame, step.deframer), c) := by
  have hnow : readClocks (c, clocks) = some (clocks.headD default, (c, clocks.tail)) := rfl
  have hread : read d.wanted (c, clocks.tail) =
    (c.read d.wanted).map fun (result, c) => (result, (c, clocks.tail)) := rfl
  rw [pull, Deframer.pullOver_of_parse_eq hnow h, hread]
  rcases c.read d.wanted with _ | ⟨_ | received, c'⟩ <;> rfl

/-- A wake byte that is left over changes nothing that a caller sees. -/
theorem alike_pull (clocks : List Readings) (d : Deframer) (c : Chronicle) :
    Chronicle.Alike (pull clocks d c) (pull clocks d c.calm) := by
  by_cases hparse : (d.parse (clocks.headD default)).result = .ok none
  · have hread := Chronicle.alike_read d.wanted c
    rw [pull_of_parse_eq hparse, pull_of_parse_eq hparse]
    generalize c.read d.wanted = first at hread ⊢
    generalize c.calm.read d.wanted = second at hread ⊢
    cases hread with
    | never => exact .never
    | returned result c₁ c₂ hcalm => cases result <;> exact .returned _ _ _ hcalm
  · rw [pull_of_parse_ne hparse, pull_of_parse_ne hparse]
    exact .returned _ _ _ rfl

/-- Whether there are wake signals makes no difference to a call. -/
theorem call_calm (k : Call) (s : Solo) :
    (s.call k).map (Prod.map id calm) = (s.calm.call k).map (Prod.map id calm) := by
  cases k with
  | receive size =>
    have hread := Chronicle.alike_read size s.chronicle
    show Option.map _ (Option.map _ (s.chronicle.read size)) =
      Option.map _ (Option.map _ (s.chronicle.calm.read size))
    generalize s.chronicle.read size = first at hread ⊢
    generalize s.chronicle.calm.read size = second at hread ⊢
    cases hread with
    | never => rfl
    | returned result c₁ c₂ hcalm =>
      show some (_, Solo.mk c₁.calm s.deframer) = some (_, Solo.mk c₂.calm s.deframer)
      rw [hcalm]
  | pull which clocks =>
    have hpull := alike_pull clocks (s.deframer which) s.chronicle
    show Option.map _ (Option.map _ (pull clocks (s.deframer which) s.chronicle)) =
      Option.map _ (Option.map _ (pull clocks (s.deframer which) s.chronicle.calm))
    generalize pull clocks (s.deframer which) s.chronicle = first at hpull ⊢
    generalize pull clocks (s.deframer which) s.chronicle.calm = second at hpull ⊢
    cases hpull with
    | never => rfl
    | returned r c₁ c₂ hcalm =>
      refine congrArg some (Prod.ext rfl ?_)
      show Solo.mk c₁.calm _ = Solo.mk c₂.calm _
      rw [hcalm]
      rfl

theorem running_pull {clocks : List Readings} {d : Deframer} {c : Chronicle} (h : c.Running)
    {r : (Result SessionError FrameOutcome × Deframer) × Chronicle}
    (hpull : pull clocks d c = some r) : r.2.Running := by
  by_cases hparse : (d.parse (clocks.headD default)).result = .ok none
  · rw [pull_of_parse_eq hparse, Option.map_eq_some_iff] at hpull
    obtain ⟨⟨result, c'⟩, hread, rfl⟩ := hpull
    have hafter := h.read hread
    cases result <;> exact hafter
  · rw [pull_of_parse_ne hparse] at hpull
    cases hpull
    exact h

theorem running_call {k : Call} (h : s.chronicle.Running) {r : Answer × Solo}
    (hcall : s.call k = some r) : r.2.chronicle.Running := by
  cases k with
  | receive size =>
    obtain ⟨⟨result, c⟩, hread, rfl⟩ := Option.map_eq_some_iff.mp hcall
    exact h.read hread
  | pull which clocks =>
    obtain ⟨⟨⟨result, d⟩, c⟩, hpull, rfl⟩ := Option.map_eq_some_iff.mp hcall
    exact running_pull h hpull

/-! ### Interludes -/

/-- While reads are cancelled, a call returns at once and changes nothing. -/
theorem call_of_cancelled {k : Call} (h : s.chronicle.link.cancelled = true) (hsuits : s.Suits k) :
    s.call k = some (.flushing k, s) := by
  cases k with
  | receive size =>
    show (s.chronicle.read size).map _ = _
    rw [Chronicle.read_of_cancelled h]
    rfl
  | pull which clocks =>
    have hsame : s.setDeframer which (s.deframer which) = s := by
      unfold setDeframer
      congr 1
      funext other
      split
      · rename_i heq
        rw [heq]
      · rfl
    show (pull clocks (s.deframer which) s.chronicle).map _ = _
    rw [pull_of_parse_eq hsuits, Chronicle.read_of_cancelled h]
    show some (_, s.setDeframer which (s.deframer which)) = _
    rw [hsame]
    rfl

/-- While the link is cancelled, every call that suits is told so, and nothing changes. -/
theorem visit_of_cancelled {calls : List Call} (h : s.chronicle.link.cancelled = true)
    (hsuit : ∀ k ∈ calls, s.Suits k) :
    visit calls s = some (calls.map fun k => ⟨k, .flushing k, s, s⟩, s) := by
  induction calls with
  | nil => rfl
  | cons k rest ih =>
    have hcall := call_of_cancelled h (hsuit k (List.mem_cons_self ..))
    have hrest := ih fun k hk => hsuit k (List.mem_cons_of_mem _ hk)
    rw [visit, hcall]
    show Option.bind (visit rest s) _ = _
    rw [hrest]
    rfl

/-- The link as it is while its reads are cancelled. -/
def cancelled (s : Solo) : Solo :=
  s.meetAll [.onLink .cancel, .onLink .wake]

/-- An interlude only takes the wake signals that are there. -/
theorem interlude_eq {calls : List Call} (h : s.chronicle.link.cancelled = false)
    (hsuit : ∀ k ∈ calls, s.Suits k) :
    s.interlude calls =
      some (calls.map fun k => ⟨k, .flushing k, s.cancelled, s.cancelled⟩, s.calm) := by
  have hvisit : visit calls s.cancelled = _ := visit_of_cancelled rfl (by
    intro k hk
    have hk' := hsuit k hk
    cases k with
    | receive size => trivial
    | pull which clocks => exact hk')
  have hlast : s.cancelled.meetAll [.onLink .resume] = s.calm := by
    show Solo.mk { s.chronicle with
      link := { s.chronicle.link with cancelled := false, wakes := 0 } } _ = _
    rw [← h]
    rfl
  unfold interlude
  show Option.bind (visit calls s.cancelled) _ = _
  rw [hvisit]
  show some (_, s.cancelled.meetAll [.onLink .resume]) = _
  rw [hlast]

/-! ### Runs with and without interludes -/

/-- What is left of a run without its interludes. -/
def apartFromInterludes (beats : List Beat) : List Beat :=
  beats.filter (!·.isInterlude)

/-- What a run comes to, apart from its interludes and the wake signals that are left. -/
def Performance.essence (p : Performance) : List Answer × Solo :=
  (p.answers, p.last.calm)

theorem calm_meetAll_deeds (act : Outside) (s : Solo) :
    (s.meetAll act.deeds).calm = (s.calm.meetAll act.deeds).calm := by
  have hchronicle : (s.chronicle.meetAll act.deeds).calm =
      (s.chronicle.calm.meetAll act.deeds).calm := by
    cases act with
    | exchange socket => rfl
    | send socket chunk =>
      show (s.chronicle.meet (.send socket chunk)).calm =
        (s.chronicle.calm.meet (.send socket chunk)).calm
      have hsame : s.chronicle.calm.queue = s.chronicle.queue := rfl
      by_cases hclosed : (s.chronicle.queue socket).closed = true
      · rw [Chronicle.meet_send_of_closed chunk hclosed,
          Chronicle.meet_send_of_closed chunk (hsame ▸ hclosed), Chronicle.calm_calm]
      · rw [Chronicle.meet_send_of_open chunk hclosed,
          Chronicle.meet_send_of_open chunk (hsame ▸ hclosed)]
        rfl
    | close socket => rfl
  show Solo.mk (s.chronicle.meetAll act.deeds).calm s.deframer =
    Solo.mk (s.chronicle.calm.meetAll act.deeds).calm s.deframer
  rw [hchronicle]

theorem play_call (k : Call) (rest : List Beat) (s : Solo) :
    play (.call k :: rest) s = (s.call k).bind fun (answer, s) =>
      (play rest s).map fun p => { p with answers := answer :: p.answers } := by
  rw [play]
  rcases s.call k with _ | ⟨answer, s₁⟩
  · rfl
  · show Option.bind (play rest s₁) _ = Option.map _ (play rest s₁)
    cases play rest s₁ <;> rfl

/-- A run that begins with calls on a cancelled link. -/
theorem play_interlude (calls : List Call) (rest : List Beat) (s : Solo) :
    play (.interlude calls :: rest) s = (s.interlude calls).bind fun (visits, s) =>
      (play rest s).map fun p => { p with visits := visits ++ p.visits } := by
  rw [play]
  rcases s.interlude calls with _ | ⟨visits, s₁⟩
  · rfl
  · show Option.bind (play rest s₁) _ = Option.map _ (play rest s₁)
    cases play rest s₁ <;> rfl

/-- A run comes to the same as the run without its interludes, but for the wake signals. -/
theorem play_essence {beats : List Beat} (hrunning : s.chronicle.Running)
    (hcalm : s.calm = s'.calm) (hsuit : AllSuit beats s) :
    (play beats s).map Performance.essence =
      (play (apartFromInterludes beats) s').map Performance.essence := by
  induction beats generalizing s s' with
  | nil =>
    have hleft : apartFromInterludes [] = [] := rfl
    rw [hleft, play, play]
    show some ([], s.calm) = some ([], s'.calm)
    rw [hcalm]
  | cons beat rest ih =>
    cases beat with
    | outside act =>
      have hleft : apartFromInterludes (.outside act :: rest) =
        .outside act :: apartFromInterludes rest := rfl
      have hmet : (s.meetAll act.deeds).calm = (s'.meetAll act.deeds).calm := by
        rw [calm_meetAll_deeds, hcalm, ← calm_meetAll_deeds]
      rw [AllSuit] at hsuit
      rw [hleft, play, play]
      exact ih (hrunning.meetAll act.cancel_notMem_deeds) hmet hsuit
    | call k =>
      have hleft : apartFromInterludes (.call k :: rest) =
        .call k :: apartFromInterludes rest := rfl
      have hcall : (s.call k).map (Prod.map id calm) = (s'.call k).map (Prod.map id calm) := by
        rw [call_calm, hcalm, ← call_calm]
      rw [AllSuit] at hsuit
      rw [hleft, play_call, play_call]
      cases hfirst : s.call k with
      | none =>
        rw [hfirst, Option.map_none, eq_comm, Option.map_eq_none_iff] at hcall
        rw [hcall, Option.bind_none, Option.bind_none]
      | some first =>
        obtain ⟨answer, s₁⟩ := first
        rw [hfirst, Option.map_some, eq_comm, Option.map_eq_some_iff] at hcall
        obtain ⟨⟨answer', s₁'⟩, hsecond, heq⟩ := hcall
        have hanswer : answer' = answer := congrArg Prod.fst heq
        have hcalm₁ : s₁'.calm = s₁.calm := congrArg Prod.snd heq
        have hrest := ih (running_call hrunning hfirst) hcalm₁.symm (hsuit _ hfirst)
        rw [hsecond, hanswer, Option.bind_some, Option.bind_some]
        dsimp only
        have hboth := congrArg (Option.map (Prod.map (answer :: ·) id)) hrest
        rw [Option.map_map, Option.map_map] at hboth ⊢
        exact hboth
    | interlude calls =>
      have hleft : apartFromInterludes (.interlude calls :: rest) = apartFromInterludes rest := rfl
      rw [AllSuit] at hsuit
      have hinterlude := interlude_eq hrunning.link hsuit.1
      have hrest := ih (s := s.calm) ⟨hrunning.link, hrunning.handler⟩ hcalm
        (hsuit.2 _ hinterlude)
      rw [hleft, play_interlude, hinterlude, Option.bind_some, ← hrest]
      dsimp only
      rw [Option.map_map]
      rfl

/-- Every call of an interlude is told that reads are cancelled, and changes nothing. -/
theorem visits_play {beats : List Beat} (hrunning : s.chronicle.Running) (hsuit : AllSuit beats s)
    {p : Performance} (hplay : play beats s = some p) :
    ∀ v ∈ p.visits, v.answer = .flushing v.call ∧ v.after = v.before := by
  induction beats generalizing s p with
  | nil =>
    rw [play] at hplay
    cases hplay
    intro v hv
    cases hv
  | cons beat rest ih =>
    cases beat with
    | outside act =>
      rw [AllSuit] at hsuit
      rw [play] at hplay
      exact ih (hrunning.meetAll act.cancel_notMem_deeds) hsuit hplay
    | call k =>
      rw [AllSuit] at hsuit
      rw [play_call, Option.bind_eq_some_iff] at hplay
      obtain ⟨⟨answer, s₁⟩, hcall, hplay⟩ := hplay
      obtain ⟨p', hrest, rfl⟩ := Option.map_eq_some_iff.mp hplay
      exact ih (p := p') (running_call hrunning hcall) (hsuit _ hcall) hrest
    | interlude calls =>
      rw [AllSuit] at hsuit
      have hinterlude := interlude_eq hrunning.link hsuit.1
      rw [play_interlude, hinterlude, Option.bind_some] at hplay
      obtain ⟨p', hrest, rfl⟩ := Option.map_eq_some_iff.mp hplay
      intro v hv
      rcases List.mem_append.mp hv with hv | hv
      · obtain ⟨k, -, rfl⟩ := List.mem_map.mp hv
        exact ⟨rfl, rfl⟩
      · exact ih (s := s.calm) ⟨hrunning.link, hrunning.handler⟩ (hsuit.2 _ hinterlude) hrest v hv

/-- Nothing has happened yet. It is given how the receives on each socket will go, what the handler
will do, and what the deframers hold. -/
def start (turns : SocketId → List Turn) (handler : List (List Outside))
    (deframer : Nat → Deframer) : Solo where
  chronicle := .start turns (handler.map fun acts => acts.flatMap Outside.deeds)
  deframer := deframer

theorem running_start (turns : SocketId → List Turn) (handler : List (List Outside))
    (deframer : Nat → Deframer) : (start turns handler deframer).chronicle.Running := by
  refine ⟨rfl, ?_⟩
  intro deeds hdeeds hcancel
  obtain ⟨acts, -, rfl⟩ := List.mem_map.mp hdeeds
  obtain ⟨act, -, hact⟩ := List.mem_flatMap.mp hcancel
  exact act.cancel_notMem_deeds hact

/-- **Cancelling reads leaves no trace.** A link is used by one thread: sockets are exchanged, peers
send and close, and reads and deframers are called. At any points there are interludes, in which the
reads are cancelled, any calls are made that find no frame, and the reads are resumed. Then the run
comes to the same as without the interludes: the same calls return, with the same bytes,
generations, frames and errors, and leave the same behind. Every call of an interlude returns that
reads are cancelled, and changes nothing: no socket, no deframer, and the handler is not run. -/
theorem play_apart_from_interludes (turns : SocketId → List Turn) (handler : List (List Outside))
    (deframer : Nat → Deframer) {beats : List Beat}
    (hsuit : AllSuit beats (start turns handler deframer)) :
    let s := start turns handler deframer
    (play beats s).map Performance.essence =
        (play (apartFromInterludes beats) s).map Performance.essence ∧
      ∀ p, play beats s = some p →
        ∀ v ∈ p.visits, v.answer = .flushing v.call ∧ v.after = v.before := by
  intro s
  have hrunning := running_start turns handler deframer
  exact ⟨play_essence hrunning rfl hsuit, fun p hplay => visits_play hrunning hsuit hplay⟩

/-- Three bytes come and are read in two pieces, and there is an interlude between them. -/
def interrupted : List Beat :=
  [.outside (.exchange (some 0)), .outside (.send 0 (Stretch.plain [1, 2, 3])), .call (.receive 2),
    .interlude [.receive 5, .pull 0 []], .call (.receive 2)]

/-- The deframer of the interlude holds the start of a frame. -/
def inMidFrame : Solo :=
  start (fun _ => []) [] fun _ => ({} : Deframer).push (List.replicate 9 0) []

/-- What is left after a read that brought two bytes at most. -/
def afterTwo (s : Solo) : Solo :=
  { s with chronicle := s.chronicle.calm.onQueue 0 fun q =>
    { q with unread := q.unread.drop 2, turns := q.turns.tail } }

theorem play_apart_from_interludes_interrupted :
    AllSuit interrupted inMidFrame ∧
    (∃ p, play interrupted inMidFrame = some p ∧ p.visits.length = 2 ∧ p.answers =
      [.received (.ok (.data ⟨[1, 2], []⟩ 1)), .received (.ok (.data ⟨[3], []⟩ 1))]) ∧
    (play interrupted inMidFrame).map Performance.essence =
      (play (apartFromInterludes interrupted) inMidFrame).map Performance.essence := by
  have hsteady (first : Stretch) : Source.Steady ⟨first, false, []⟩ := nofun
  let opened := (inMidFrame.meetAll (Outside.exchange (some 0)).deeds).meetAll
    (Outside.send 0 (Stretch.plain [1, 2, 3])).deeds
  have hfirst : opened.call (.receive 2) =
      some (.received (.ok (.data ⟨[1, 2], []⟩ 1)), opened.afterTwo) := by
    show Option.map _ (opened.chronicle.read 2) = _
    rw [Chronicle.read_of_unread rfl rfl (by decide) (hsteady (Stretch.plain [1, 2, 3]))
      (List.cons_ne_nil _ _)]
    rfl
  have hcalls : ∀ k ∈ [Call.receive 5, .pull 0 []], opened.afterTwo.Suits k := by
    simp only [List.forall_mem_cons, List.not_mem_nil, false_implies, implies_true, and_true]
    exact ⟨trivial, rfl⟩
  have hinterlude := interlude_eq rfl hcalls
  have hsecond : opened.afterTwo.calm.call (.receive 2) =
      some (.received (.ok (.data ⟨[3], []⟩ 1)), opened.afterTwo.calm.afterTwo) := by
    show Option.map _ (opened.afterTwo.calm.chronicle.read 2) = _
    rw [Chronicle.read_of_unread rfl rfl (by decide) (hsteady (Stretch.plain [3]))
      (List.cons_ne_nil _ _)]
    rfl
  have hsuit : AllSuit interrupted inMidFrame := by
    rw [interrupted, AllSuit, AllSuit, AllSuit]
    intro r hr
    obtain rfl : r = (_, opened.afterTwo) := Option.some.inj (hr.symm.trans hfirst)
    rw [AllSuit]
    refine ⟨hcalls, ?_⟩
    intro r' _
    rw [AllSuit]
    intro r'' _
    rw [AllSuit]
    trivial
  refine ⟨hsuit, ?_, (play_apart_from_interludes _ _ _ hsuit).1⟩
  rw [interrupted, play, play, play_call, hfirst, Option.bind_some]
  dsimp only
  rw [play_interlude, hinterlude, Option.bind_some]
  dsimp only
  rw [play_call, hsecond, Option.bind_some]
  dsimp only
  rw [play]
  exact ⟨_, rfl, rfl, rfl⟩

end Solo

end Framecast
