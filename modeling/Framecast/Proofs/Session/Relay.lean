import Framecast.Proofs.Frame.Alike
import Framecast.Proofs.Frame.Extent
import Framecast.Proofs.Stream.Source
import Framecast.Session.Consumer

/-!
# Relays

A relay is a consumer with everything around it: the service it attaches through, the sockets it may
get from that service, and the producers behind them, which send and close whenever they like. The
consumer is started and asked for frames, one call after the other; nobody else uses its link.

The relay is watched for so many moments. Producers act when a moment passes, and before most steps
of the consumer one does; a consumer that waits for its socket waits as long as there are moments. A
call that still waits then has no result. Every call on the service, every receive and every answer
is entered in a ledger.
-/

namespace Framecast

/-- What a service gives a consumer that attaches. -/
structure Reply where
  socket : SocketId
  caps : String
  deriving DecidableEq, Repr

/-- What a producer does with its end of a connection. -/
inductive ProducerAct where
  | send (socket : SocketId) (chunk : Stretch)
  | close (socket : SocketId)
  deriving DecidableEq, Repr

/-- What is entered about a consumer. -/
inductive LedgerEntry where
  /-- The consumer is asked to start. -/
  | started
  /-- The service was asked, and replied. -/
  | attached (reply : Except SessionError Reply)
  /-- A receive from the watched socket brought something, or failed. -/
  | received (watch : Watch)
  /-- A receive from the watched socket brought no bytes: it has ended. -/
  | drained (watch : Watch)
  /-- The consumer was asked for a frame, and answers. -/
  | answered (result : Result SessionError FrameOutcome)

/-- What happened to a consumer, last first. -/
abbrev Ledger := List LedgerEntry

/-- How often the service was asked. -/
def Ledger.attaches : Ledger → Nat
  | [] => 0
  | .attached _ :: earlier => attaches earlier + 1
  | _ :: earlier => attaches earlier

/-- A consumer with everything around it. -/
structure Relay where
  /-- The reply to each attach in turn. -/
  service : Nat → Except SessionError Reply
  /-- What waits in each socket. -/
  queue : SocketId → Source
  /-- What the producers do in each moment that is still to come. -/
  moments : List (List ProducerAct)
  clocks : List Readings := []
  link : Link := {}
  deframer : Deframer := {}
  caps : Option String := none
  ledger : Ledger := []

/-- A program of the consumer. It has no result if the relay is no longer watched when it ends. -/
def Relaying (α : Type) : Type :=
  Relay → Option α × Relay

instance : Monad Relaying where
  pure a := fun r => (some a, r)
  bind x f := fun r =>
    match x r with
    | (none, r) => (none, r)
    | (some a, r) => f a r

namespace Relaying

variable {α β : Type} {x : Relaying α} {a : α} {r r' : Relay}

theorem bind_of_none (f : α → Relaying β) (h : x r = (none, r')) :
    (x >>= f) r = (none, r') := by
  show (match x r with | (none, r) => (none, r) | (some a, r) => f a r : Option β × Relay) = _
  rw [h]

theorem bind_of_some (f : α → Relaying β) (h : x r = (some a, r')) :
    (x >>= f) r = f a r' := by
  show (match x r with | (none, r) => (none, r) | (some a, r) => f a r : Option β × Relay) = _
  rw [h]

end Relaying

open Relaying (bind_of_none bind_of_some)

/-- A reply as an attachment. -/
def Reply.attachment (reply : Reply) : Attachment :=
  { channel := .socket reply.socket, caps := reply.caps }

namespace Relay

/-- Change what a socket brings. -/
def onQueue (socket : SocketId) (f : Source → Source) (r : Relay) : Relay :=
  { r with queue := fun id => if id = socket then f (r.queue socket) else r.queue id }

/-- A producer acts. What is sent on a closed connection is lost. -/
def act (a : ProducerAct) (r : Relay) : Relay :=
  match a with
  | .send socket chunk =>
    r.onQueue socket fun q => if q.closed then q else { q with unread := q.unread ++ chunk }
  | .close socket => r.onQueue socket ({ · with closed := true })

/-- A moment passes, if the relay is still watched. -/
def pass (r : Relay) : Relay :=
  match r.moments with
  | [] => r
  | acts :: rest => { acts.foldl (fun r a => r.act a) r with moments := rest }

/-- Enter what happened. -/
def enter (e : LedgerEntry) (r : Relay) : Relay :=
  { r with ledger := e :: r.ledger }

/-- What a poll finds. -/
def readiness (socket : SocketId) (r : Relay) : Readiness :=
  ⟨(r.queue socket).isReady, r.link.isWoken⟩

/-- Wait until the socket or a wake signal can be read. At least one moment passes. -/
def await (socket : SocketId) :
    (moments : List (List ProducerAct)) → Relay → Option Readiness × Relay
  | [], r => (none, r)
  | _ :: rest, r =>
    let r := r.pass
    let ready := r.readiness socket
    if ready.socket || ready.wake then (some ready, r) else await socket rest r

/-- One receive on a watched socket. -/
def receive (w : Watch) (size : Nat) (r : Relay) : Except IoError Arrival × Relay :=
  let (result, after) := (r.queue w.socket).attempt size
  let r := r.onQueue w.socket fun _ => after
  match result with
  | .ok arrival => (result, r.enter (if arrival.bytes.isEmpty then .drained w else .received w))
  | .error _ => (result, r.enter (.received w))

/-- The service is asked. -/
def ask (r : Relay) : Except SessionError Reply × Relay :=
  let reply := r.service r.ledger.attaches
  (reply, r.enter (.attached reply))

/-- What the clocks show next. -/
def now (r : Relay) : Readings :=
  r.clocks.headD default

/-- The clocks were looked at. -/
def tick (r : Relay) : Relay :=
  { r with clocks := r.clocks.tail }

/-- Keep a deframer for the next call. -/
def keep (d : Deframer) (r : Relay) : Relay :=
  { r with deframer := d }

/-- A consumer of the relay. -/
def consumerHost : ConsumerHost Relaying where
  attach := fun r =>
    let (reply, r) := r.pass.ask
    (some (reply.map Reply.attachment), r)
  noteCaps caps := fun r => (some (), { r with caps := some caps })
  install channel := fun r => (some (), { r with link := (r.link.install channel.socket?).wake })
  deframer := fun r => (some r.deframer, r)
  putDeframer d := fun r => (some (), r.keep d)
  readings := fun r => (some r.now, r.tick)
  release _ := pure ()

/-- The link of the consumer, to read over. -/
def linkHost : LinkHost Relaying where
  onLink f := fun r =>
    let r := r.pass
    (some (f r.link).1, { r with link := (f r.link).2 })
  poll socket := fun r =>
    let (ready, r) := r.await socket r.moments
    (ready.map .ok, r)
  receive w size := fun r =>
    let (result, r) := r.pass.receive w size
    (some result, r)
  runHandler := Consumer.reattach consumerHost
  release _ := pure ()

/-- Repeat until there is a result. The measure bounds how often that can be. -/
def iterate {σ α : Type} (body : σ → Relaying (σ ⊕ α)) (measure : σ → Relay → Nat)
    (decreases : ∀ st r next r', body st r = (some (.inl next), r') →
      measure next r' < measure st r) (st : σ) (r : Relay) : Option α × Relay :=
  match h : body st r with
  | (none, r') => (none, r')
  | (some (.inl next), r') =>
    have := decreases st r next r' h
    iterate body measure decreases next r'
  | (some (.inr a), r') => (some a, r')
termination_by measure st r

/-! ### What passes meanwhile -/

/-- Time has passed, and nothing happened to the consumer. -/
structure Elapsed (r r' : Relay) : Prop where
  service : r'.service = r.service
  moments : r'.moments.length ≤ r.moments.length
  link : r'.link = r.link
  deframer : r'.deframer = r.deframer
  caps : r'.caps = r.caps
  ledger : r'.ledger = r.ledger

variable {r r' : Relay}

namespace Elapsed

theorem refl (r : Relay) : Elapsed r r :=
  ⟨rfl, Nat.le_refl _, rfl, rfl, rfl, rfl⟩

theorem trans {r'' : Relay} (h : Elapsed r r') (h' : Elapsed r' r'') : Elapsed r r'' :=
  ⟨h'.service.trans h.service, Nat.le_trans h'.moments h.moments, h'.link.trans h.link,
    h'.deframer.trans h.deframer, h'.caps.trans h.caps, h'.ledger.trans h.ledger⟩

end Elapsed

theorem elapsed_onQueue (socket : SocketId) (f : Source → Source) (r : Relay) :
    Elapsed r (r.onQueue socket f) :=
  ⟨rfl, Nat.le_refl _, rfl, rfl, rfl, rfl⟩

theorem elapsed_act (a : ProducerAct) (r : Relay) : Elapsed r (r.act a) := by
  cases a with
  | send socket chunk => exact ⟨rfl, Nat.le_refl _, rfl, rfl, rfl, rfl⟩
  | close socket => exact ⟨rfl, Nat.le_refl _, rfl, rfl, rfl, rfl⟩

/-- What producers do changes only their queues. -/
theorem elapsed_acts (acts : List ProducerAct) (r : Relay) :
    Elapsed r (acts.foldl (fun r a => r.act a) r) := by
  induction acts generalizing r with
  | nil => exact .refl r
  | cons a rest ih => exact (elapsed_act a r).trans (ih _)

theorem moments_pass (r : Relay) : r.pass.moments = r.moments.tail := by
  unfold pass
  split <;> simp [*]

theorem elapsed_pass (r : Relay) : Elapsed r r.pass := by
  have hmoments : r.pass.moments.length ≤ r.moments.length := by
    rw [moments_pass, List.length_tail]
    exact Nat.sub_le ..
  unfold pass at hmoments ⊢
  split
  · exact .refl r
  · rename_i acts rest heq
    rw [heq] at hmoments
    obtain ⟨hservice, -, hlink, hdeframer, hcaps, hledger⟩ := elapsed_acts acts r
    exact ⟨hservice, by rw [heq]; exact hmoments, hlink, hdeframer, hcaps, hledger⟩

/-- Time passes while the consumer waits. -/
theorem elapsed_await (socket : SocketId) {moments : List (List ProducerAct)} {r : Relay}
    (h : r.moments = moments) :
    Elapsed r (r.await socket moments).2 ∧ ((r.await socket moments).1.isSome = true →
      (r.await socket moments).2.moments.length < r.moments.length) := by
  induction moments generalizing r with
  | nil => exact ⟨.refl _, nofun⟩
  | cons acts rest ih =>
    have hpass := elapsed_pass r
    have hrest : r.pass.moments = rest := by
      rw [moments_pass, h, List.tail_cons]
    have hless : r.pass.moments.length < r.moments.length := by
      rw [hrest, h]
      exact Nat.lt_succ_self _
    rw [await]
    split
    · exact ⟨hpass, fun _ => hless⟩
    · obtain ⟨helapsed, hsome⟩ := ih hrest
      exact ⟨hpass.trans helapsed, fun hready => Nat.lt_trans (hsome hready) hless⟩

/-! ### What a step of a read can do -/

/-- The consumer reads from what it got. -/
def adopted (reply : Reply) (r : Relay) : Relay :=
  { r with caps := some reply.caps, link := (r.link.install (some reply.socket)).wake }

/-- Everything that a step of a read can do, by how far the read has come. -/
inductive Stepped (size : Nat) (r r' : Relay) : ReadPhase → Relay → Option ReadPhase → Prop
  | cancelled (h : r.link.cancelled = true) :
      Stepped size r r' .entering r' (some (.done (.ok .flushing)))
  | missing (hresumed : r.link.cancelled = false) (h : r.link.socket = none) :
      Stepped size r r' .entering r' (some (.done (.error (.socket .notConnected))))
  | askedNothing (x : SocketId) (hsize : size = 0) (h : r.link.socket = some x) :
      Stepped size r r' .entering r' (some (.done (.ok (.data ⟨[], []⟩ r.link.generation))))
  | watched (x : SocketId) (hsize : 0 < size) (h : r.link.socket = some x) :
      Stepped size r r' .entering r' (some (.waiting ⟨x, r.link.generation⟩))
  | unwatched (w : Watch) : Stepped size r r' (.waiting w) r' none
  | signalled (w : Watch) (hless : r'.moments.length < r.moments.length) :
      Stepped size r r' (.waiting w) r' (some .woken)
  | ready (w : Watch) (hless : r'.moments.length < r.moments.length) :
      Stepped size r r' (.waiting w) r' (some (.reading w))
  | spurious (w : Watch) (hless : r'.moments.length < r.moments.length) :
      Stepped size r r' (.waiting w) r' (some .entering)
  | stopped (h : r.link.cancelled = true) : Stepped size r r' .woken r' (some .entering)
  | woken : Stepped size r r' .woken r' (some .draining)
  | silenced :
      Stepped size r r' .draining { r' with link := r'.link.drain } (some .entering)
  | retried (w : Watch) :
      Stepped size r r' (.reading w) (r'.enter (.received w)) (some .entering)
  | failed (w : Watch) (e : IoError) :
      Stepped size r r' (.reading w) (r'.enter (.received w))
        (some (.done (.error (.socket (.io e)))))
  | brought (w : Watch) (arrival : Arrival) :
      Stepped size r r' (.reading w) (r'.enter (.received w))
        (some (.done (.ok (.data arrival w.generation))))
  | drained (w : Watch) :
      Stepped size r r' (.reading w) (r'.enter (.drained w)) (some (.ending w))
  | refused (w : Watch) (e : SessionError) (h : r'.service r'.ledger.attaches = .error e) :
      Stepped size r r' (.ending w) (r'.enter (.attached (.error e))) (some (.concluding w))
  | reattached (w : Watch) (reply : Reply) (h : r'.service r'.ledger.attaches = .ok reply) :
      Stepped size r r' (.ending w) ((r'.enter (.attached (.ok reply))).adopted reply)
        (some (.concluding w))
  | replaced (w : Watch) (h : r.link.isReplaced w = true) :
      Stepped size r r' (.concluding w) r' (some .entering)
  | ended (w : Watch) (h : r.link.isReplaced w = false) :
      Stepped size r r' (.concluding w)
        { r' with link := { r'.link with socket := none, ended := true } }
        (some (.done (.ok .endOfStream)))

variable {size : Nat} {w : Watch} {o : Option ReadPhase}

theorem stepped_entering (h : ReadPhase.entering.advance linkHost size r = (o, r')) :
    ∃ r₁, Elapsed r r₁ ∧ Stepped size r r₁ .entering r' o := by
  have hpass := elapsed_pass r
  have hphase : ReadPhase.entering.advance linkHost size r =
      (some (.ofEntering size r.pass.link.enter), r.pass) := rfl
  rw [hphase, hpass.link] at h
  cases h
  refine ⟨r.pass, hpass, ?_⟩
  unfold Link.enter
  by_cases hcancelled : r.link.cancelled = true
  · rw [if_pos hcancelled]
    exact .cancelled hcancelled
  · rw [if_neg hcancelled]
    cases hsocket : r.link.socket with
    | none => exact .missing (by simpa using hcancelled) hsocket
    | some x =>
      dsimp only [ReadPhase.ofEntering]
      by_cases hsize : size = 0
      · rw [if_pos hsize]
        exact .askedNothing x hsize hsocket
      · rw [if_neg hsize]
        exact .watched x (Nat.pos_of_ne_zero hsize) hsocket

theorem stepped_waiting (h : (ReadPhase.waiting w).advance linkHost size r = (o, r')) :
    ∃ r₁, Elapsed r r₁ ∧ Stepped size r r₁ (.waiting w) r' o := by
  have hawait := elapsed_await w.socket (Eq.refl r.moments)
  have hpoll : linkHost.poll w.socket r =
      ((r.await w.socket r.moments).1.map .ok, (r.await w.socket r.moments).2) := rfl
  generalize r.await w.socket r.moments = awaited at hpoll hawait
  obtain ⟨_ | ready, r₁⟩ := awaited
  · have hphase : (ReadPhase.waiting w).advance linkHost size r = (none, r₁) :=
      bind_of_none _ hpoll
    rw [hphase] at h
    cases h
    exact ⟨r', hawait.1, .unwatched w⟩
  · have hphase : (ReadPhase.waiting w).advance linkHost size r =
        (some (.ofPoll w (.ok ready)), r₁) := bind_of_some _ hpoll
    rw [hphase] at h
    cases h
    have hless := hawait.2 rfl
    refine ⟨r', hawait.1, ?_⟩
    unfold ReadPhase.ofPoll
    dsimp only
    split
    · exact .signalled w hless
    · split
      · exact .ready w hless
      · exact .spurious w hless

theorem stepped_woken (h : ReadPhase.woken.advance linkHost size r = (o, r')) :
    ∃ r₁, Elapsed r r₁ ∧ Stepped size r r₁ .woken r' o := by
  have hpass := elapsed_pass r
  have hphase : ReadPhase.woken.advance linkHost size r =
      (some (if r.pass.link.cancelled then .entering else .draining), r.pass) := rfl
  rw [hphase, hpass.link] at h
  cases h
  refine ⟨r.pass, hpass, ?_⟩
  split
  · rename_i hcancelled
    exact .stopped hcancelled
  · exact .woken

theorem stepped_draining (h : ReadPhase.draining.advance linkHost size r = (o, r')) :
    ∃ r₁, Elapsed r r₁ ∧ Stepped size r r₁ .draining r' o := by
  have hphase : ReadPhase.draining.advance linkHost size r =
      (some .entering, { r.pass with link := r.pass.link.drain }) := rfl
  rw [hphase] at h
  cases h
  exact ⟨r.pass, elapsed_pass r, .silenced⟩

theorem stepped_reading (h : (ReadPhase.reading w).advance linkHost size r = (o, r')) :
    ∃ r₁, Elapsed r r₁ ∧ Stepped size r r₁ (.reading w) r' o := by
  have hphase : (ReadPhase.reading w).advance linkHost size r =
      (some (.ofReceive w (r.pass.receive w size).1), (r.pass.receive w size).2) := rfl
  rw [hphase] at h
  cases h
  unfold receive
  generalize (r.pass.queue w.socket).attempt size = attempted
  obtain ⟨result, after⟩ := attempted
  refine ⟨_, (elapsed_pass r).trans (elapsed_onQueue w.socket (fun _ => after) r.pass), ?_⟩
  cases result with
  | error e =>
    dsimp only [ReadPhase.ofReceive]
    split
    · exact .retried w
    · exact .failed w e
  | ok arrival =>
    dsimp only [ReadPhase.ofReceive]
    split
    · exact .drained w
    · exact .brought w arrival

theorem attach_of_reply {reply : Except SessionError Reply}
    (h : r.pass.service r.pass.ledger.attaches = reply) :
    consumerHost.attach r = (some (reply.map Reply.attachment), r.pass.enter (.attached reply)) := by
  subst h
  rfl

/-- A read at the end of its socket attaches again. -/
theorem stepped_ending (h : (ReadPhase.ending w).advance linkHost size r = (o, r')) :
    ∃ r₁, Elapsed r r₁ ∧ Stepped size r r₁ (.ending w) r' o := by
  refine ⟨r.pass, elapsed_pass r, ?_⟩
  cases hreply : r.pass.service r.pass.ledger.attaches with
  | error e =>
    have hrun : linkHost.runHandler r = (some (), r.pass.enter (.attached (.error e))) :=
      bind_of_some _ (attach_of_reply hreply)
    have hphase : (ReadPhase.ending w).advance linkHost size r =
        (some (.concluding w), r.pass.enter (.attached (.error e))) := bind_of_some _ hrun
    rw [hphase] at h
    cases h
    exact .refused w e hreply
  | ok reply =>
    have hrun : linkHost.runHandler r =
        (some (), (r.pass.enter (.attached (.ok reply))).adopted reply) :=
      bind_of_some _ (attach_of_reply hreply)
    have hphase : (ReadPhase.ending w).advance linkHost size r =
        (some (.concluding w), (r.pass.enter (.attached (.ok reply))).adopted reply) :=
      bind_of_some _ hrun
    rw [hphase] at h
    cases h
    exact .reattached w reply hreply

theorem stepped_concluding (h : (ReadPhase.concluding w).advance linkHost size r = (o, r')) :
    ∃ r₁, Elapsed r r₁ ∧ Stepped size r r₁ (.concluding w) r' o := by
  have hpass := elapsed_pass r
  have hphase : (ReadPhase.concluding w).advance linkHost size r =
      (some (.ofEnding (r.pass.link.conclude w).1),
        { r.pass with link := (r.pass.link.conclude w).2 }) := rfl
  rw [hphase] at h
  cases h
  refine ⟨r.pass, hpass, ?_⟩
  unfold Link.conclude
  by_cases hreplaced : r.link.isReplaced w = true
  · rw [hpass.link, if_pos hreplaced, ← hpass.link]
    exact .replaced w hreplaced
  · rw [hpass.link, if_neg hreplaced, ← hpass.link]
    exact .ended w (by simpa using hreplaced)

/-- Every step of a read is one of those that `Stepped` lists. -/
theorem stepped_advance {phase : ReadPhase}
    (hgoing : ∀ result, phase ≠ .done result) (h : phase.advance linkHost size r = (o, r')) :
    ∃ r₁, Elapsed r r₁ ∧ Stepped size r r₁ phase r' o := by
  cases phase with
  | entering => exact stepped_entering h
  | waiting w => exact stepped_waiting h
  | woken => exact stepped_woken h
  | draining => exact stepped_draining h
  | reading w => exact stepped_reading h
  | ending w => exact stepped_ending h
  | concluding w => exact stepped_concluding h
  | done result => exact absurd rfl (hgoing result)

/-! ### A whole read -/

/-- How many steps a read can take from a phase before it waits again. -/
def rank : ReadPhase → Nat
  | .waiting _ | .done _ => 0
  | .entering => 1
  | .draining | .concluding _ => 2
  | .woken | .ending _ => 3
  | .reading _ => 4

/-- A bound on the steps that a read can still take. -/
def patience (phase : ReadPhase) (r : Relay) : Nat :=
  5 * r.moments.length + rank phase

/-- Every step uses up patience. -/
theorem Stepped.patience_lt {r₁ : Relay} {phase next : ReadPhase}
    (h : Stepped size r r₁ phase r' (some next)) (helapsed : Elapsed r r₁)
    (hgoing : ∀ result, next ≠ .done result) : patience next r' < patience phase r := by
  have hmoments := helapsed.moments
  unfold patience
  generalize hnext : some next = o at h
  cases h with
  | cancelled | missing | askedNothing | failed | brought | ended =>
    cases hnext
    exact absurd rfl (hgoing _)
  | unwatched => cases hnext
  | signalled w hless | ready w hless | spurious w hless =>
    cases hnext
    simp only [rank]
    omega
  | _ =>
    cases hnext
    simp only [rank, enter, adopted]
    omega

theorem step_of_none {phase : ReadPhase} (h : phase.advance linkHost size r = (none, r')) :
    phase.step linkHost size r = (none, r') :=
  bind_of_none _ h

theorem step_of_some {phase next : ReadPhase}
    (h : phase.advance linkHost size r = (some next, r')) :
    phase.step linkHost size r =
      (some (match next with
        | .done result => .inr result
        | next => .inl next), r') := by
  rw [ReadPhase.step, bind_of_some _ h]
  cases next <;> rfl

/-- A step leads to another phase, unless it is the last one of its read. -/
theorem step_eq_inl {phase next : ReadPhase}
    (h : phase.step linkHost size r = (some (.inl next), r')) :
    phase.advance linkHost size r = (some next, r') ∧ ∀ result, next ≠ .done result := by
  rcases hadvance : phase.advance linkHost size r with ⟨_ | next', r₁⟩
  · rw [step_of_none hadvance] at h
    cases h
  · rw [step_of_some hadvance, Prod.mk.injEq, Option.some.injEq] at h
    obtain ⟨hnext, rfl⟩ := h
    cases next' <;> cases hnext <;> exact ⟨rfl, fun _ hdone => by cases hdone⟩

theorem step_eq_inr {phase : ReadPhase} {result : Except SessionError Received}
    (h : phase.step linkHost size r = (some (.inr result), r')) :
    phase.advance linkHost size r = (some (.done result), r') := by
  rcases hadvance : phase.advance linkHost size r with ⟨_ | next', r₁⟩
  · rw [step_of_none hadvance] at h
    cases h
  · rw [step_of_some hadvance, Prod.mk.injEq, Option.some.injEq] at h
    obtain ⟨hnext, rfl⟩ := h
    cases next' <;> cases hnext
    rfl

theorem step_eq_none {phase : ReadPhase} (h : phase.step linkHost size r = (none, r')) :
    phase.advance linkHost size r = (none, r') := by
  rcases hadvance : phase.advance linkHost size r with ⟨_ | next', r₁⟩
  · rw [step_of_none hadvance] at h
    cases h
    rfl
  · rw [step_of_some hadvance] at h
    cases h

/-- A read comes to an end. -/
theorem patience_step (size : Nat) (phase : ReadPhase) (r : Relay) (next : ReadPhase)
    (r' : Relay) (h : phase.step linkHost size r = (some (.inl next), r')) :
    patience next r' < patience phase r := by
  obtain ⟨hadvance, hgoing⟩ := step_eq_inl h
  have hphase : ∀ result, phase ≠ .done result := by
    rintro result rfl
    cases hadvance
    exact hgoing result rfl
  obtain ⟨r₁, helapsed, hstepped⟩ := stepped_advance hphase hadvance
  exact hstepped.patience_lt helapsed hgoing

/-- A whole read. -/
def read (size : Nat) : Relaying (Except SessionError Received) :=
  iterate (ReadPhase.step linkHost size) patience (patience_step size) .entering

theorem iterate_of_inr {σ α : Type} {body : σ → Relaying (σ ⊕ α)} {measure : σ → Relay → Nat}
    {decreases : ∀ st r next r', body st r = (some (.inl next), r') →
      measure next r' < measure st r}
    {st : σ} {a : α} (h : body st r = (some (.inr a), r')) :
    iterate body measure decreases st r = (some a, r') := by
  rw [iterate]
  split
  · rename_i hnone
    rw [h] at hnone
    cases hnone
  · rename_i hnext
    rw [h] at hnext
    cases hnext
  · rename_i hsome
    rw [h] at hsome
    cases hsome
    rfl

/-- What every turn of a loop keeps holds when the loop ends. -/
theorem iterate_keeps {σ α : Type} {body : σ → Relaying (σ ⊕ α)} {measure : σ → Relay → Nat}
    {decreases : ∀ st r next r', body st r = (some (.inl next), r') →
      measure next r' < measure st r}
    {P : σ → Relay → Prop} {Q : Option α × Relay → Prop}
    (hnext : ∀ st r next r', P st r → body st r = (some (.inl next), r') → P next r')
    (hunwatched : ∀ st r r', P st r → body st r = (none, r') → Q (none, r'))
    (hdone : ∀ st r a r', P st r → body st r = (some (.inr a), r') → Q (some a, r'))
    {st : σ} {r : Relay} (hstart : P st r) : Q (iterate body measure decreases st r) := by
  fun_induction iterate body measure decreases st r with
  | case1 st r r' h => exact hunwatched st r r' hstart h
  | case2 st r next r' h _ ih => exact ih (hnext st r next r' hstart h)
  | case3 st r a r' h => exact hdone st r a r' hstart h

/-- What a read leaves, if every step keeps a property of the phase. A read that does not return
still waits for its socket. -/
def Leaves (P : ReadPhase → Relay → Prop) : Option (Except SessionError Received) × Relay → Prop
  | (some result, r) => P (.done result) r
  | (none, r) => ∃ w r₀, P (.waiting w) r₀ ∧ Elapsed r₀ r

/-- What every step of a read keeps, a read keeps. -/
theorem read_keeps {P : ReadPhase → Relay → Prop} (size : Nat) (r : Relay)
    (hstep : ∀ {phase r r₁ r' next}, P phase r → Elapsed r r₁ →
      Stepped size r r₁ phase r' (some next) → P next r')
    (hstart : P .entering r) : Leaves P (r.read size) := by
  have hadvance {phase : ReadPhase} {r : Relay} {next : ReadPhase} {r' : Relay}
      (hP : P phase r) (h : phase.advance linkHost size r = (some next, r')) : P next r' := by
    by_cases hdone : ∃ result, phase = .done result
    · obtain ⟨result, rfl⟩ := hdone
      cases h
      exact hP
    · obtain ⟨r₁, helapsed, hstepped⟩ := stepped_advance (fun _ h => hdone ⟨_, h⟩) h
      exact hstep hP helapsed hstepped
  refine iterate_keeps (P := P) (Q := Leaves P) ?_ ?_ ?_ hstart
  · intro phase r next r' hP h
    exact hadvance hP (step_eq_inl h).1
  · intro phase r r' hP h
    have hnone := step_eq_none h
    have hgoing : ∀ result, phase ≠ .done result := by
      rintro result rfl
      cases hnone
    obtain ⟨r₁, helapsed, hstepped⟩ := stepped_advance hgoing hnone
    generalize heq : (none : Option ReadPhase) = o at hstepped
    cases hstepped with
    | unwatched w => exact ⟨w, r, hP, helapsed⟩
    | _ => cases heq
  · intro phase r result r' hP h
    exact hadvance hP (step_eq_inr h)

/-- A read that began with so many moments left has waited for its socket, once it receives. -/
def Waited (count : Nat) (phase : ReadPhase) (r : Relay) : Prop :=
  match phase with
  | .reading _ | .done (.ok (.data ..)) => r.moments.length < count
  | _ => r.moments.length ≤ count

/-- A step counts what the consumer has waited for. -/
theorem Stepped.waited {r₁ : Relay} {phase next : ReadPhase} {count : Nat} (hsize : 0 < size)
    (hwaited : Waited count phase r) (helapsed : Elapsed r r₁)
    (h : Stepped size r r₁ phase r' (some next)) : Waited count next r' := by
  have hmoments := helapsed.moments
  generalize hnext : some next = o at h
  cases h with
  | unwatched => cases hnext
  | askedNothing x hzero => exact absurd hsize (by omega)
  | _ =>
    cases hnext
    simp only [Waited, enter, adopted] at hwaited ⊢
    omega

/-- A read that brings something has waited for its socket. -/
theorem moments_read {arrival : Arrival} {generation : Nat} (hsize : 0 < size)
    (h : r.read size = (some (.ok (.data arrival generation)), r')) :
    r'.moments.length < r.moments.length := by
  have hkeeps := read_keeps (P := Waited r.moments.length) size r
    (fun hwaited helapsed hstepped => hstepped.waited hsize hwaited helapsed) (Nat.le_refl _)
  rw [h] at hkeeps
  exact hkeeps

/-- What is held of a frame is not touched by a read. -/
theorem deframer_read {size : Nat} {result : Except SessionError Received}
    (h : r.read size = (some result, r')) : r'.deframer = r.deframer := by
  have hkeeps := read_keeps (P := fun _ s => s.deframer = r.deframer) size r ?_ rfl
  · rw [h] at hkeeps
    exact hkeeps
  · intro phase s s₁ s' next hsame helapsed hstepped
    have hsame₁ := helapsed.deframer.trans hsame
    cases hstepped <;> exact hsame₁

/-! ### A turn of the consumer -/

/-- What a turn makes of the outcome of a call on its deframer. -/
def outcome (result : Result SessionError FrameOutcome) : Unit ⊕ Result SessionError FrameOutcome :=
  match result with
  | .ok .needMoreData => .inl ()
  | result => .inr result

/-- What a step of the deframer comes to for the consumer. -/
def finished (step : Deframer.Step) :
    Result SessionError FrameOutcome × Deframer × List Descriptor :=
  (step.result.mapError .frame, step.deframer, step.released)

/-- A frame that is held already is told of without a read. -/
theorem pullOver_of_parse_ne {d : Deframer} (h : (d.parse r.now).result ≠ .ok none) :
    d.pullOver consumerHost.readings read r = (some (finished (d.parse r.now).toStep), r.tick) := by
  have hclocks : consumerHost.readings r = (some r.now, r.tick) := rfl
  rw [Deframer.pullOver, bind_of_some _ hclocks]
  dsimp only
  rcases hresult : (d.parse r.now).result with (_ | frame) | e | message
  · exact absurd hresult h
  · rfl
  · rfl
  · rfl

/-- Without a frame, a turn reads once and looks again. -/
theorem pullOver_of_parse_eq {d : Deframer} (h : (d.parse r.now).result = .ok none) :
    d.pullOver consumerHost.readings read r =
      match r.tick.read d.wanted with
      | (none, r') => (none, r')
      | (some (.error e), r') => (some (.error e, d, []), r')
      | (some (.ok received), r') =>
        (some (finished (d.absorbReceived r'.now received)), r'.tick) := by
  have hclocks : consumerHost.readings r = (some r.now, r.tick) := rfl
  rw [Deframer.pullOver, bind_of_some _ hclocks]
  dsimp only
  rw [h]
  dsimp only
  rcases hread : r.tick.read d.wanted with ⟨_ | _ | received, r'⟩
  · exact bind_of_none _ hread
  · exact bind_of_some _ hread
  · exact bind_of_some _ hread

theorem turn_of_none (h : r.deframer.pullOver consumerHost.readings read r = (none, r')) :
    Consumer.turn consumerHost read r = (none, r') := by
  have hdeframer : consumerHost.deframer r = (some r.deframer, r) := rfl
  rw [Consumer.turn, bind_of_some _ hdeframer]
  exact bind_of_none _ h

theorem turn_of_some {result : Result SessionError FrameOutcome} {d : Deframer}
    {released : List Descriptor}
    (h : r.deframer.pullOver consumerHost.readings read r = (some (result, d, released), r')) :
    Consumer.turn consumerHost read r = (some (outcome result), r'.keep d) := by
  have hdeframer : consumerHost.deframer r = (some r.deframer, r) := rfl
  rw [Consumer.turn, bind_of_some _ hdeframer, bind_of_some _ h]
  cases result with
  | error | panic => rfl
  | ok found => cases found <;> rfl

/-- A parse is told to the caller, unless it found nothing. -/
theorem outcome_toStep (p : Deframer.Parsed) :
    (outcome (p.toStep.result.mapError .frame) = .inl () ∧ p.result = .ok none) ∨
      ∃ result, result ≠ .ok .endOfStream ∧
        outcome (p.toStep.result.mapError .frame) = .inr result := by
  obtain ⟨(_ | frame) | e | message, d, released⟩ := p
  · exact .inl ⟨rfl, rfl⟩
  · exact .inr ⟨.ok (.frame frame), nofun, rfl⟩
  · exact .inr ⟨.error (.frame e), nofun, rfl⟩
  · exact .inr ⟨.panic message, nofun, rfl⟩

/-- Everything that a turn of the consumer can do: its deframer finds something in what it holds, or
it reads. -/
inductive Turned (r : Relay) : Option (Unit ⊕ Result SessionError FrameOutcome) → Relay → Prop
  | found (d : Deframer) (result : Result SessionError FrameOutcome)
      (hheld : r.deframer.hasPartial = true) (hresult : result ≠ .ok .endOfStream) :
      Turned r (some (.inr result)) (r.tick.keep d)
  | unwatched (size : Nat) (r' : Relay) (hread : r.tick.read size = (none, r')) : Turned r none r'
  | failed (size : Nat) (e : SessionError) (r' : Relay)
      (hread : r.tick.read size = (some (.error e), r')) :
      Turned r (some (.inr (.error e))) (r'.keep r.deframer)
  | flushed (size : Nat) (r' : Relay) (hread : r.tick.read size = (some (.ok .flushing), r')) :
      Turned r (some (.inr (.ok .flushing))) (r'.tick.keep r.deframer)
  | ended (size : Nat) (r' : Relay) (hread : r.tick.read size = (some (.ok .endOfStream), r')) :
      Turned r (some (.inr (.ok .endOfStream))) (r'.tick.keep r.deframer.reset.1)
  | incomplete (size : Nat) (arrival : Arrival) (generation : Nat) (d : Deframer) (r' : Relay)
      (hsize : 0 < size)
      (hread : r.tick.read size = (some (.ok (.data arrival generation)), r')) :
      Turned r (some (.inl ())) (r'.tick.keep d)
  | completed (size : Nat) (arrival : Arrival) (generation : Nat) (d : Deframer)
      (result : Result SessionError FrameOutcome) (r' : Relay) (hresult : result ≠ .ok .endOfStream)
      (hread : r.tick.read size = (some (.ok (.data arrival generation)), r')) :
      Turned r (some (.inr result)) (r'.tick.keep d)

/-- Every turn is one of those that `Turned` lists. -/
theorem turned_turn {o : Option (Unit ⊕ Result SessionError FrameOutcome)}
    (h : Consumer.turn consumerHost read r = (o, r')) : Turned r o r' := by
  by_cases hparse : (r.deframer.parse r.now).result = .ok none
  · have hpull := pullOver_of_parse_eq hparse
    have hsize := Deframer.wanted_pos_of_parse hparse
    rcases hread : r.tick.read r.deframer.wanted with ⟨_ | e | received, r₁⟩
    · rw [hread] at hpull
      rw [turn_of_none hpull] at h
      cases h
      exact .unwatched _ _ hread
    · rw [hread] at hpull
      rw [turn_of_some hpull] at h
      cases h
      exact .failed _ _ _ hread
    · rw [hread] at hpull
      rw [turn_of_some hpull] at h
      cases h
      cases received with
      | flushing => exact .flushed _ _ hread
      | endOfStream => exact .ended _ _ hread
      | data arrival generation =>
        have houtcome := outcome_toStep (((r.deframer.setStream generation).1.push arrival.bytes
          arrival.descriptors).parse r₁.now)
        dsimp only [Deframer.absorbReceived]
        generalize outcome _ = reached at houtcome ⊢
        obtain ⟨rfl, -⟩ | ⟨result, hresult, rfl⟩ := houtcome
        · exact .incomplete _ _ _ _ _ hsize hread
        · exact .completed _ _ _ _ _ _ hresult hread
  · rw [turn_of_some (pullOver_of_parse_ne hparse)] at h
    cases h
    have houtcome := outcome_toStep (r.deframer.parse r.now)
    generalize outcome _ = reached at houtcome ⊢
    obtain ⟨-, hnone⟩ | ⟨result, hresult, rfl⟩ := houtcome
    · exact absurd hnone hparse
    · exact .found _ _ (Deframer.hasPartial_of_parse_ne hparse) hresult

/-- A turn that comes to nothing uses up time. -/
theorem moments_turn (_ : Unit) (r : Relay) (_ : Unit) (r' : Relay)
    (h : Consumer.turn consumerHost read r = (some (.inl ()), r')) :
    r'.moments.length < r.moments.length := by
  have hturned := turned_turn h
  generalize heq : (some (.inl ()) : Option (Unit ⊕ Result SessionError FrameOutcome)) = o
    at hturned
  cases hturned with
  | incomplete size arrival generation d r₁ hsize hread =>
    have hless := moments_read hsize hread
    exact hless
  | _ => cases heq

/-! ### The calls -/

/-- Enter what happened, in the course of a call. -/
def note (e : LedgerEntry) : Relaying Unit := fun r => (some (), r.enter e)

/-- The consumer is started. -/
def start : Relaying (Except SessionError String) := do
  note .started
  Consumer.start consumerHost

/-- Turn after turn, until there is a frame, an error or the end. -/
def turns : Relaying (Result SessionError FrameOutcome) :=
  iterate (fun _ => Consumer.turn consumerHost read) (fun _ r => r.moments.length) moments_turn ()

/-- The consumer is asked for a frame. -/
def nextFrame : Relaying (Result SessionError FrameOutcome) := do
  let result ← turns
  note (.answered result)
  return result

/-- One call on a consumer. -/
inductive Call where
  | start
  | nextFrame
  deriving DecidableEq, Repr

/-- Make a call. -/
def call : Call → Relaying Unit
  | .start => do
    let _ ← start
  | .nextFrame => do
    let _ ← nextFrame

/-- One call after the other. A call that does not return is the last one. -/
def run : List Call → Relay → Relay
  | [], r => r
  | k :: rest, r =>
    match r.call k with
    | (none, r) => r
    | (some (), r) => run rest r

/-- The consumer was made and nothing has happened to it. -/
def fresh (service : Nat → Except SessionError Reply) (queue : SocketId → Source)
    (moments : List (List ProducerAct)) (clocks : List Readings) (deframer : Deframer) : Relay where
  service := service
  queue := queue
  moments := moments
  clocks := clocks
  deframer := deframer

end Relay

end Framecast
