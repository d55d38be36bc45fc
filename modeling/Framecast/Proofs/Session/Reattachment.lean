import Framecast.Proofs.Session.Relay

/-!
# Attaching again

A consumer attaches when it is started and whenever its socket has ended. `Accounted` says what its
ledger, its link and its capabilities have to do with each other, and `accounted_run` that they do
so after any calls, whatever the service replies and whatever the producers do.

The invariant is that every entry of the ledger fits those before it (`Ledger.Lawful`) and that the
link and the capabilities are what the ledger says (`Relay.Booked`, `Relay.Settled`). A step of a
read keeps it as far as it goes in the middle of a read (`Relay.Stepped.stage`), and so does a turn
of the consumer (`Relay.Turned.ready`).
-/

namespace Framecast

namespace Ledger

/-- How often the consumer was asked to start. -/
def starts : Ledger → Nat
  | [] => 0
  | .started :: earlier => starts earlier + 1
  | _ :: earlier => starts earlier

/-- How many sockets have ended. -/
def drains : Ledger → Nat
  | [] => 0
  | .drained _ :: earlier => drains earlier + 1
  | _ :: earlier => drains earlier

/-- How often a socket was installed: each time the service gave one. -/
def installs : Ledger → Nat
  | [] => 0
  | .attached (.ok _) :: earlier => installs earlier + 1
  | _ :: earlier => installs earlier

/-- What the last successful attach gave. -/
def lastReply? : Ledger → Option Reply
  | [] => none
  | .attached (.ok reply) :: _ => some reply
  | _ :: earlier => lastReply? earlier

/-- The socket that is read from: the last one that was given, until its end was answered. -/
def current : Ledger → Option SocketId
  | [] => none
  | .attached (.ok reply) :: _ => some reply.socket
  | .answered (.ok .endOfStream) :: _ => none
  | _ :: earlier => current earlier

/-- The socket that is read now, with its generation, if there is one. -/
def watch? (l : Ledger) : Option Watch :=
  l.current.map (⟨·, l.installs⟩)

/-- The end of the stream was answered, and no socket was given since. -/
def isOver : Ledger → Bool
  | [] => false
  | .attached (.ok _) :: _ => false
  | .answered (.ok .endOfStream) :: _ => true
  | _ :: earlier => isOver earlier

/-- What has to come next. -/
inductive Due where
  | nothing
  | attach
  /-- The end of the stream has to be answered. -/
  | ending
  deriving DecidableEq, Repr

/-- What has to come next. -/
def due : Ledger → Due
  | .started :: _ | .drained _ :: _ => .attach
  | .attached (.error _) :: .drained _ :: _ => .ending
  | _ => .nothing

/-- An entry that may follow what is entered so far. -/
inductive Fits : LedgerEntry → Ledger → Prop
  | started {l : Ledger} (h : l.due = .nothing) : Fits .started l
  | attached {l : Ledger} (reply : Except SessionError Reply) (h : l.due = .attach) :
      Fits (.attached reply) l
  | received {l : Ledger} (w : Watch) (h : l.due = .nothing) (hwatch : l.watch? = some w) :
      Fits (.received w) l
  | drained {l : Ledger} (w : Watch) (h : l.due = .nothing) (hwatch : l.watch? = some w) :
      Fits (.drained w) l
  | ended {l : Ledger} (h : l.due = .ending) : Fits (.answered (.ok .endOfStream)) l
  | answered {l : Ledger} (result : Result SessionError FrameOutcome) (h : l.due = .nothing)
      (hresult : result ≠ .ok .endOfStream)
      (hover : l.isOver = true → result = .error (.socket .notConnected)) :
      Fits (.answered result) l

/-- Every entry fits those before it. -/
def Lawful : Ledger → Prop
  | [] => True
  | e :: earlier => Fits e earlier ∧ Lawful earlier

variable {l earlier later : Ledger} {e : LedgerEntry} {w : Watch}

/-! ### Reading a ledger -/

theorem Lawful.fits (h : (later ++ e :: earlier).Lawful) : Fits e earlier ∧ earlier.Lawful := by
  induction later with
  | nil => exact h
  | cons n rest ih => exact ih h.2

theorem current_of_isOver (h : l.isOver = true) : l.current = none := by
  fun_induction isOver l with
  | case1 => cases h
  | case2 => cases h
  | case3 => rfl
  | case4 e earlier hattached hended ih =>
    rw [current]
    · exact ih h
    · exact hattached
    · exact hended

theorem isOver_of_watch? (h : l.watch? = some w) : l.isOver = false := by
  rw [← Bool.not_eq_true]
  intro hover
  rw [watch?, current_of_isOver hover] at h
  cases h

theorem eq_of_due_attach (h : l.due = .attach) :
    ∃ earlier, l = .started :: earlier ∨ ∃ w, l = .drained w :: earlier := by
  unfold due at h
  split at h
  · exact ⟨_, .inl rfl⟩
  · exact ⟨_, .inr ⟨_, rfl⟩⟩
  · cases h
  · cases h

theorem eq_of_due_ending (h : l.due = .ending) :
    ∃ e w earlier, l = .attached (.error e) :: .drained w :: earlier := by
  unfold due at h
  split at h
  · cases h
  · cases h
  · exact ⟨_, _, _, rfl⟩
  · cases h

theorem due_attached_ne (reply : Except SessionError Reply) (l : Ledger) :
    due (.attached reply :: l) ≠ .attach := by
  unfold due
  split
  · rename_i heq
    cases heq
  · rename_i heq
    cases heq
  · nofun
  · nofun

/-- Once the stream is over, no receive can find the end of another one. -/
theorem Lawful.due_ne_ending (h : l.Lawful) (hover : l.isOver = true) : l.due ≠ .ending := by
  intro hdue
  obtain ⟨e, w, earlier, rfl⟩ := eq_of_due_ending hdue
  cases h.2.1 with
  | drained _ _ hwatch =>
    have hopen := isOver_of_watch? hwatch
    rw [show isOver earlier = true from hover] at hopen
    cases hopen

/-- What can follow the end of the stream as long as no attach succeeds. -/
theorem Lawful.afterwards (h : (later ++ .answered (.ok .endOfStream) :: earlier).Lawful)
    (hnone : ∀ reply, .attached (.ok reply) ∉ later) :
    isOver (later ++ .answered (.ok .endOfStream) :: earlier) = true ∧
      ∀ e ∈ later, e = .started ∨ (∃ error, e = .attached (.error error)) ∨
        e = .answered (.error (.socket .notConnected)) := by
  induction later with
  | nil => exact ⟨rfl, fun _ hmem => absurd hmem List.not_mem_nil⟩
  | cons n rest ih =>
    obtain ⟨hfits, hrest⟩ := h
    obtain ⟨hover, hentries⟩ := ih hrest fun reply hmem => hnone reply (List.mem_cons_of_mem _ hmem)
    have hwatched {w : Watch}
        (hwatch : watch? (rest ++ .answered (.ok .endOfStream) :: earlier) = some w) : False := by
      rw [isOver_of_watch? hwatch] at hover
      cases hover
    suffices hn : isOver (n :: (rest ++ .answered (.ok .endOfStream) :: earlier)) = true ∧
        (n = .started ∨ (∃ error, n = .attached (.error error)) ∨
          n = .answered (.error (.socket .notConnected))) by
      exact ⟨hn.1, List.forall_mem_cons.mpr ⟨hn.2, hentries⟩⟩
    cases hfits with
    | started => exact ⟨hover, .inl rfl⟩
    | attached reply =>
      cases reply with
      | ok reply => exact absurd (List.mem_cons_self ..) (hnone reply)
      | error e => exact ⟨hover, .inr (.inl ⟨e, rfl⟩)⟩
    | received w _ hwatch => exact (hwatched hwatch).elim
    | drained w _ hwatch => exact (hwatched hwatch).elim
    | ended hdue => exact absurd hdue (Lawful.due_ne_ending hrest hover)
    | answered result _ _ hanswer =>
      obtain rfl := hanswer hover
      exact ⟨hover, .inr (.inr rfl)⟩

/-- Whether an attach is due, as a number. -/
def owed (l : Ledger) : Nat :=
  if l.due = .attach then 1 else 0

/-- The service is asked once for every start and once for every socket that ended. -/
theorem Lawful.attaches_eq (h : l.Lawful) : l.attaches + l.owed = l.starts + l.drains := by
  induction l with
  | nil => rfl
  | cons e earlier ih =>
    obtain ⟨hfits, hearlier⟩ := h
    have hih := ih hearlier
    unfold owed at hih ⊢
    cases hfits with
    | started hdue | drained w hdue hwatch | received w hdue hwatch | ended hdue
      | answered result hdue =>
      rw [hdue] at hih
      simp only [reduceCtorEq, if_false] at hih
      simp only [due, attaches, starts, drains, reduceCtorEq, if_true, if_false]
      omega
    | attached reply hdue =>
      rw [if_pos hdue] at hih
      rw [if_neg (due_attached_ne reply earlier), attaches, starts, drains]
      · exact hih
      all_goals nofun

end Ledger

open Ledger (Fits Lawful Due)

/-! ### The books of a consumer -/

namespace Relay

/-- The books agree with the consumer. -/
structure Booked (r : Relay) : Prop where
  running : r.link.cancelled = false
  generation : r.link.generation = r.ledger.installs
  caps : r.caps = r.ledger.lastReply?.map (·.caps)
  lawful : r.ledger.Lawful

/-- Nothing is due, and the link reads from the socket that the service gave last. -/
structure Settled (r : Relay) : Prop where
  books : r.Booked
  nothing : r.ledger.due = .nothing
  socket : r.link.socket = r.ledger.current
  idle : r.ledger.isOver = true → r.deframer.hasPartial = false

/-- The link reads from this socket. -/
structure Watching (w : Watch) (r : Relay) : Prop where
  settled : r.Settled
  watch : r.ledger.watch? = some w

/-- The socket has ended, and attaching again has failed. -/
structure Refused (r : Relay) : Prop where
  books : r.Booked
  ending : r.ledger.due = .ending

variable {r r' : Relay} {w : Watch}

theorem Booked.elapsed (h : r.Booked) (helapsed : Elapsed r r') : r'.Booked := by
  obtain ⟨-, -, hlink, -, hcaps, hledger⟩ := helapsed
  refine ⟨?_, ?_, ?_, ?_⟩
  · rw [hlink]
    exact h.running
  · rw [hlink, hledger]
    exact h.generation
  · rw [hcaps, hledger]
    exact h.caps
  · rw [hledger]
    exact h.lawful

theorem Settled.elapsed (h : r.Settled) (helapsed : Elapsed r r') : r'.Settled := by
  have hbooks := h.books.elapsed helapsed
  obtain ⟨-, -, hlink, hdeframer, -, hledger⟩ := helapsed
  refine ⟨hbooks, ?_, ?_, ?_⟩
  · rw [hledger]
    exact h.nothing
  · rw [hlink, hledger]
    exact h.socket
  · rw [hledger, hdeframer]
    exact h.idle

/-- What others do leaves the watched socket on the link. -/
theorem Watching.elapsed (h : r.Watching w) (helapsed : Elapsed r r') : r'.Watching w := by
  refine ⟨h.settled.elapsed helapsed, ?_⟩
  rw [helapsed.ledger]
  exact h.watch

/-- A settled consumer with a socket watches it. -/
theorem Settled.watching (h : r.Settled) {x : SocketId} (hsocket : r.link.socket = some x) :
    r.Watching ⟨x, r.link.generation⟩ := by
  refine ⟨h, ?_⟩
  rw [Ledger.watch?, ← h.socket, hsocket, h.books.generation]
  rfl

/-- What holds of a relay when a read has come to a phase. -/
def Stage (phase : ReadPhase) (r : Relay) : Prop :=
  match phase with
  | .entering | .woken | .draining => r.Settled
  | .waiting w | .reading w => r.Watching w
  | .ending w =>
    r.Booked ∧ r.link.generation = w.generation ∧ ∃ earlier, r.ledger = .drained w :: earlier
  | .concluding w =>
    (r.Settled ∧ r.link.isReplaced w = true) ∨ (r.Refused ∧ r.link.isReplaced w = false)
  | .done (.ok .endOfStream) => r.Refused ∧ r.link.socket = none
  | .done result =>
    r.Settled ∧ (r.ledger.isOver = true → result = .error (.socket .notConnected))

theorem Watching.received (h : r.Watching w) : (r.enter (.received w)).Watching w := by
  have hbooks := h.settled.books
  have hlawful : Lawful (.received w :: r.ledger) :=
    ⟨.received w h.settled.nothing h.watch, hbooks.lawful⟩
  exact ⟨⟨⟨hbooks.running, hbooks.generation, hbooks.caps, hlawful⟩, rfl, h.settled.socket,
    h.settled.idle⟩, h.watch⟩

/-- What a receive brought, or its failure, is what the read returns. -/
theorem Watching.returns (h : r.Watching w) (result : Except SessionError Received) :
    r.Settled ∧ (r.ledger.isOver = true → result = .error (.socket .notConnected)) := by
  refine ⟨h.settled, fun hover => ?_⟩
  rw [Ledger.isOver_of_watch? h.watch] at hover
  cases hover

theorem Watching.generation_eq (h : r.Watching w) : r.link.generation = w.generation := by
  have hwatch := h.watch
  rw [Ledger.watch?, Option.map_eq_some_iff] at hwatch
  obtain ⟨x, -, rfl⟩ := hwatch
  exact h.settled.books.generation

theorem Watching.drained (h : r.Watching w) : (r.enter (.drained w)).Booked :=
  have hbooks := h.settled.books
  ⟨hbooks.running, hbooks.generation, hbooks.caps, .drained w h.settled.nothing h.watch,
    hbooks.lawful⟩

/-- A failed attach changes nothing but the ledger. -/
theorem Booked.refused (h : r.Booked) (hdue : r.ledger.due = .attach) (e : SessionError) :
    (r.enter (.attached (.error e))).Booked :=
  ⟨h.running, h.generation, h.caps, .attached _ hdue, h.lawful⟩

/-- After a successful attach the link reads from what the service gave. -/
theorem Booked.adopted (h : r.Booked) (hdue : r.ledger.due = .attach) (reply : Reply) :
    ((r.enter (.attached (.ok reply))).adopted reply).Settled := by
  refine ⟨⟨h.running, ?_, rfl, .attached _ hdue, h.lawful⟩, rfl, rfl, nofun⟩
  exact congrArg (· + 1) h.generation

theorem Stepped.stage {size : Nat} {r₁ : Relay} {phase next : ReadPhase}
    (hstage : Stage phase r) (helapsed : Elapsed r r₁)
    (h : Stepped size r r₁ phase r' (some next)) : Stage next r' := by
  generalize hnext : some next = o at h
  cases h with
  | cancelled hcancelled =>
    rw [hstage.books.running] at hcancelled
    cases hcancelled
  | missing hresumed hsocket =>
    cases hnext
    exact ⟨hstage.elapsed helapsed, fun _ => rfl⟩
  | askedNothing x hsize hsocket =>
    cases hnext
    exact ((hstage.watching hsocket).elapsed helapsed).returns _
  | watched x hsize hsocket =>
    cases hnext
    exact (hstage.watching hsocket).elapsed helapsed
  | unwatched w => cases hnext
  | signalled w | spurious w =>
    cases hnext
    exact hstage.settled.elapsed helapsed
  | ready w =>
    cases hnext
    exact hstage.elapsed helapsed
  | stopped | woken =>
    cases hnext
    exact hstage.elapsed helapsed
  | silenced =>
    cases hnext
    obtain ⟨hbooks, hnothing, hsocket, hidle⟩ := hstage.elapsed helapsed
    exact ⟨⟨hbooks.running, hbooks.generation, hbooks.caps, hbooks.lawful⟩, hnothing, hsocket, hidle⟩
  | retried w =>
    cases hnext
    exact (hstage.elapsed helapsed).received.settled
  | failed w e =>
    cases hnext
    exact (hstage.elapsed helapsed).received.returns _
  | brought w arrival =>
    cases hnext
    exact (hstage.elapsed helapsed).received.returns _
  | drained w =>
    cases hnext
    have hwatching := hstage.elapsed helapsed
    exact ⟨hwatching.drained, hwatching.generation_eq, r₁.ledger, rfl⟩
  | refused w e hreply =>
    cases hnext
    obtain ⟨hbooks, hgeneration, earlier, hledger⟩ := hstage
    rw [← helapsed.ledger] at hledger
    have hrefused := (hbooks.elapsed helapsed).refused (by rw [hledger]; rfl) e
    refine .inr ⟨⟨hrefused, ?_⟩, ?_⟩
    · show Ledger.due (.attached (.error e) :: r₁.ledger) = .ending
      rw [hledger]
      rfl
    · show (r₁.link.socket.isSome && r₁.link.generation != w.generation) = false
      rw [helapsed.link, hgeneration, bne_self_eq_false, Bool.and_false]
  | reattached w reply hreply =>
    cases hnext
    obtain ⟨hbooks, hgeneration, earlier, hledger⟩ := hstage
    rw [← helapsed.ledger] at hledger
    refine .inl ⟨(hbooks.elapsed helapsed).adopted (by rw [hledger]; rfl) reply, ?_⟩
    show (r₁.link.generation + 1 != w.generation) = true
    rw [helapsed.link, hgeneration, bne_iff_ne]
    exact Nat.succ_ne_self _
  | replaced w hreplaced =>
    cases hnext
    obtain ⟨hsettled, -⟩ | ⟨-, hkept⟩ := hstage
    · exact hsettled.elapsed helapsed
    · rw [hreplaced] at hkept
      cases hkept
  | ended w hkept =>
    cases hnext
    obtain ⟨-, hreplaced⟩ | ⟨hrefused, -⟩ := hstage
    · rw [hkept] at hreplaced
      cases hreplaced
    · have hbooks := hrefused.books.elapsed helapsed
      refine ⟨⟨⟨hbooks.running, hbooks.generation, hbooks.caps, hbooks.lawful⟩, ?_⟩, rfl⟩
      show r₁.ledger.due = .ending
      rw [helapsed.ledger]
      exact hrefused.ending

/-- A read ends at one of its stages. -/
theorem stage_read (h : r.Settled) (size : Nat) : Leaves Stage (r.read size) :=
  read_keeps size r (fun hstage helapsed hstepped => hstepped.stage hstage helapsed) h

/-! ### The calls of a consumer -/

/-- What holds of a relay when the consumer is about to answer. -/
inductive Answering (r : Relay) : Result SessionError FrameOutcome → Prop
  | ended (hrefused : r.Refused) (hsocket : r.link.socket = none)
      (hidle : r.deframer.hasPartial = false) : Answering r (.ok .endOfStream)
  | other (result : Result SessionError FrameOutcome) (hsettled : r.Settled)
      (hresult : result ≠ .ok .endOfStream)
      (hover : r.ledger.isOver = true → result = .error (.socket .notConnected)) :
      Answering r result

/-- What holds of a relay after a turn. -/
def Ready : Option (Unit ⊕ Result SessionError FrameOutcome) → Relay → Prop
  | none, r | some (.inl ()), r => r.Settled
  | some (.inr result), r => r.Answering result

theorem Settled.tick (h : r.Settled) : r.tick.Settled :=
  h.elapsed ⟨rfl, Nat.le_refl _, rfl, rfl, rfl, rfl⟩

/-- Unless the stream is over, the consumer may hold what it likes. -/
theorem Settled.keep (h : r.Settled) (hopen : r.ledger.isOver = false) (d : Deframer) :
    (r.keep d).Settled :=
  ⟨⟨h.books.running, h.books.generation, h.books.caps, h.books.lawful⟩, h.nothing, h.socket,
    fun hover => absurd hopen (ne_false_of_eq_true hover)⟩

theorem Answering.of_open {result : Result SessionError FrameOutcome} (h : r.Settled)
    (hopen : r.ledger.isOver = false) (hresult : result ≠ .ok .endOfStream) :
    r.Answering result :=
  .other result h hresult fun hover => absurd hopen (ne_false_of_eq_true hover)

/-- A read that did not fail was not over a link without a socket. -/
theorem isOver_of_ok {l : Ledger} {received : Received}
    (h : l.isOver = true → (.ok received : Except SessionError Received) =
      .error (.socket .notConnected)) : l.isOver = false := by
  rw [← Bool.not_eq_true]
  intro hover
  cases h hover

/-- After a turn, the consumer is ready for the next. -/
theorem Turned.ready {o : Option (Unit ⊕ Result SessionError FrameOutcome)} (hsettled : r.Settled)
    (h : Turned r o r') : Ready o r' := by
  have hread (size : Nat) := stage_read hsettled.tick size
  cases h with
  | found d result hheld hresult =>
    have hopen : r.ledger.isOver = false := by
      rw [← Bool.not_eq_true]
      intro hover
      rw [hsettled.idle hover] at hheld
      cases hheld
    exact .of_open (hsettled.tick.keep hopen d) hopen hresult
  | unwatched size r' hnone =>
    have hleaves := hread size
    rw [hnone] at hleaves
    obtain ⟨w, r₀, hwatching, helapsed⟩ := hleaves
    exact hwatching.settled.elapsed helapsed
  | failed size e r' hfailed =>
    have hleaves := hread size
    rw [hfailed] at hleaves
    obtain ⟨hsettled', hover⟩ := hleaves
    have hsame : r'.keep r.deframer = r' := by
      rw [show r.deframer = r'.deframer from (deframer_read hfailed).symm]
      rfl
    rw [hsame]
    exact .other _ hsettled' nofun fun h => by rw [Except.error.inj (hover h)]
  | flushed size r' hflushed =>
    have hleaves := hread size
    rw [hflushed] at hleaves
    obtain ⟨hsettled', hover⟩ := hleaves
    have hopen := isOver_of_ok hover
    exact .of_open (hsettled'.tick.keep hopen _) hopen nofun
  | ended size r' hended =>
    have hleaves := hread size
    rw [hended] at hleaves
    obtain ⟨⟨hbooks, hending⟩, hsocket⟩ := hleaves
    exact .ended ⟨⟨hbooks.running, hbooks.generation, hbooks.caps, hbooks.lawful⟩, hending⟩ hsocket
      rfl
  | incomplete size arrival generation d r' hsize hdata =>
    have hleaves := hread size
    rw [hdata] at hleaves
    obtain ⟨hsettled', hover⟩ := hleaves
    exact hsettled'.tick.keep (isOver_of_ok hover) d
  | completed size arrival generation d result r' hresult hdata =>
    have hleaves := hread size
    rw [hdata] at hleaves
    obtain ⟨hsettled', hover⟩ := hleaves
    have hopen := isOver_of_ok hover
    exact .of_open (hsettled'.tick.keep hopen _) hopen hresult

/-- The answer is entered, and nothing more is due. -/
theorem Answering.answered {result : Result SessionError FrameOutcome} (h : r.Answering result) :
    (r.enter (.answered result)).Settled := by
  cases h with
  | ended hrefused hsocket hidle =>
    have hbooks := hrefused.books
    exact ⟨⟨hbooks.running, hbooks.generation, hbooks.caps, .ended hrefused.ending, hbooks.lawful⟩,
      rfl, hsocket, fun _ => hidle⟩
  | other _ hsettled hresult hover =>
    have hbooks := hsettled.books
    have hcurrent : Ledger.current (.answered result :: r.ledger) = r.ledger.current := by
      rw [Ledger.current]
      · nofun
      · rintro ⟨⟩
        exact hresult rfl
    have hisOver : Ledger.isOver (.answered result :: r.ledger) = r.ledger.isOver := by
      rw [Ledger.isOver]
      · nofun
      · rintro ⟨⟩
        exact hresult rfl
    refine ⟨⟨hbooks.running, hbooks.generation, hbooks.caps, ?_, hbooks.lawful⟩, rfl, ?_, ?_⟩
    · exact .answered result hsettled.nothing hresult hover
    · exact hsettled.socket.trans hcurrent.symm
    · intro h
      exact hsettled.idle (hisOver ▸ h)

theorem ready_turns (h : r.Settled) : Ready (r.turns.1.map .inr) r.turns.2 := by
  refine iterate_keeps (P := fun _ r => r.Settled) (Q := fun p => Ready (p.1.map .inr) p.2)
    ?_ ?_ ?_ h
  · intro _ r _ r' hsettled hturn
    exact (turned_turn hturn).ready hsettled
  · intro _ r r' hsettled hturn
    exact (turned_turn hturn).ready hsettled
  · intro _ r result r' hsettled hturn
    exact (turned_turn hturn).ready hsettled

theorem settled_nextFrame (h : r.Settled) : r.nextFrame.2.Settled := by
  have hready := ready_turns h
  rcases hturns : r.turns with ⟨_ | result, r'⟩
  · rw [hturns] at hready
    rw [nextFrame, Relaying.bind_of_none _ hturns]
    exact hready
  · rw [hturns] at hready
    rw [nextFrame, Relaying.bind_of_some _ hturns]
    exact hready.answered

/-! ### Starting -/

/-- The service as it is asked when the consumer is started. -/
theorem service_started (r : Relay) :
    (r.enter .started).pass.service (r.enter .started).pass.ledger.attaches =
      r.service r.ledger.attaches := by
  have helapsed := elapsed_pass (r.enter .started)
  rw [helapsed.service, helapsed.ledger]
  rfl

theorem start_of_error {e : SessionError} (h : r.service r.ledger.attaches = .error e) :
    r.start = (some (.error e), (r.enter .started).pass.enter (.attached (.error e))) := by
  have hnote : note .started r = (some (), r.enter .started) := rfl
  rw [start, Relaying.bind_of_some _ hnote]
  exact Relaying.bind_of_some _ (attach_of_reply ((service_started r).trans h))

theorem start_of_ok {reply : Reply} (h : r.service r.ledger.attaches = .ok reply) :
    r.start =
      (some (.ok reply.caps),
        ((r.enter .started).pass.enter (.attached (.ok reply))).adopted reply) := by
  have hnote : note .started r = (some (), r.enter .started) := rfl
  rw [start, Relaying.bind_of_some _ hnote]
  exact Relaying.bind_of_some _ (attach_of_reply ((service_started r).trans h))

theorem settled_start (h : r.Settled) : r.start.2.Settled := by
  have helapsed := elapsed_pass (r.enter .started)
  have hstarted : (r.enter .started).Booked :=
    ⟨h.books.running, h.books.generation, h.books.caps, .started h.nothing, h.books.lawful⟩
  have hbooks := hstarted.elapsed helapsed
  have hdue : (r.enter .started).pass.ledger.due = .attach := by
    rw [helapsed.ledger]
    rfl
  cases hreply : r.service r.ledger.attaches with
  | error e =>
    rw [start_of_error hreply]
    generalize (r.enter .started).pass = r₁ at helapsed hbooks hdue ⊢
    have hledger : r₁.ledger = .started :: r.ledger := helapsed.ledger
    refine ⟨hbooks.refused hdue e, ?_, ?_, ?_⟩
    · show Ledger.due (.attached (.error e) :: r₁.ledger) = .nothing
      rw [hledger]
      rfl
    · show r₁.link.socket = Ledger.current r₁.ledger
      rw [helapsed.link, hledger]
      exact h.socket
    · show Ledger.isOver r₁.ledger = true → r₁.deframer.hasPartial = false
      rw [helapsed.deframer, hledger]
      exact h.idle
  | ok reply =>
    rw [start_of_ok hreply]
    exact hbooks.adopted hdue reply

/-! ### A run of calls -/

/-- Every run leaves the consumer settled. -/
theorem settled_run (h : r.Settled) (calls : List Call) : (r.run calls).Settled := by
  induction calls generalizing r with
  | nil => exact h
  | cons k rest ih =>
    have hcall : (r.call k).2.Settled := by
      cases k with
      | start =>
        have hstart := settled_start h
        rcases heq : r.start with ⟨_ | result, r'⟩
        · rw [heq] at hstart
          rw [call, Relaying.bind_of_none _ heq]
          exact hstart
        · rw [heq] at hstart
          rw [call, Relaying.bind_of_some _ heq]
          exact hstart
      | nextFrame =>
        have hnext := settled_nextFrame h
        rcases heq : r.nextFrame with ⟨_ | result, r'⟩
        · rw [heq] at hnext
          rw [call, Relaying.bind_of_none _ heq]
          exact hnext
        · rw [heq] at hnext
          rw [call, Relaying.bind_of_some _ heq]
          exact hnext
    rw [run]
    rcases hreturned : r.call k with ⟨_ | _, r'⟩
    · rw [hreturned] at hcall
      exact hcall
    · rw [hreturned] at hcall
      exact ih hcall

/-- A consumer whose stream is over finds that its link has no socket. -/
theorem Settled.nextFrame_of_isOver (h : r.Settled) (hover : r.ledger.isOver = true) :
    ∃ r', r.nextFrame = (some (.error (.socket .notConnected)), r') ∧
      r'.ledger = .answered (.error (.socket .notConnected)) :: r.ledger := by
  have helapsed := elapsed_pass r.tick
  have hparse := Deframer.parse_of_idle (h.idle hover) r.now
  have henter : r.tick.pass.link.enter = .notConnected := by
    have hsocket : r.link.socket = none := h.socket.trans (Ledger.current_of_isOver hover)
    rw [helapsed.link]
    show Link.enter r.link = .notConnected
    rw [Link.enter, h.books.running, hsocket]
    rfl
  have hphase : ReadPhase.entering.advance linkHost r.deframer.wanted r.tick =
      (some (.done (.error (.socket .notConnected))), r.tick.pass) := by
    show (some (ReadPhase.ofEntering _ r.tick.pass.link.enter), r.tick.pass) = _
    rw [henter]
    rfl
  have hread : r.tick.read r.deframer.wanted =
      (some (.error (.socket .notConnected)), r.tick.pass) :=
    iterate_of_inr (step_of_some hphase)
  have hpull := pullOver_of_parse_eq hparse
  rw [hread] at hpull
  have hturns : r.turns = (some (.error (.socket .notConnected)), r.tick.pass.keep r.deframer) :=
    iterate_of_inr (turn_of_some hpull)
  refine ⟨(r.tick.pass.keep r.deframer).enter (.answered (.error (.socket .notConnected))), ?_, ?_⟩
  · rw [nextFrame, Relaying.bind_of_some _ hturns]
    rfl
  · exact congrArg _ helapsed.ledger

/-- The accounts of a consumer, at any time when it is not just doing something. -/
structure Accounted (r : Relay) : Prop where
  /-- The service was asked once for every start and once for every socket that ended. -/
  attaches : r.ledger.attaches = r.ledger.starts + r.ledger.drains
  /-- It was asked at once, and at no other time. -/
  asked : ∀ later reply earlier, r.ledger = later ++ .attached reply :: earlier →
    ∃ rest, earlier = .started :: rest ∨ ∃ w, earlier = .drained w :: rest
  /-- When attaching again failed, the end of the stream was answered next. -/
  refused : ∀ later e w earlier, r.ledger = later ++ .attached (.error e) :: .drained w :: earlier →
    ∃ rest, later = rest ++ [.answered (.ok .endOfStream)]
  /-- The end of the stream was answered then only. -/
  ended : ∀ later earlier, r.ledger = later ++ .answered (.ok .endOfStream) :: earlier →
    ∃ e w rest, earlier = .attached (.error e) :: .drained w :: rest
  /-- After that, until an attach succeeded, nothing was received, the service was asked only when
  the consumer was started, and every call for a frame failed. -/
  afterwards : ∀ later earlier, r.ledger = later ++ .answered (.ok .endOfStream) :: earlier →
    (∀ reply, .attached (.ok reply) ∉ later) → ∀ e ∈ later, e = .started ∨
      (∃ error, e = .attached (.error error)) ∨ e = .answered (.error (.socket .notConnected))
  /-- As long as that is so, the next call for a frame fails, too, and does not ask the service. -/
  unconnected : r.ledger.isOver = true →
    ∃ r', r.nextFrame = (some (.error (.socket .notConnected)), r') ∧
      r'.ledger = .answered (.error (.socket .notConnected)) :: r.ledger
  /-- Every receive was from the socket that was given last, as the generation it was given as. -/
  received : ∀ later w earlier, r.ledger = later ++ .received w :: earlier ∨
    r.ledger = later ++ .drained w :: earlier → Ledger.watch? earlier = some w
  /-- The socket that was given last is installed, until its end was answered. -/
  socket : r.link.socket = r.ledger.current
  generation : r.link.generation = r.ledger.installs
  /-- The capabilities are those that were given last. -/
  caps : r.caps = r.ledger.lastReply?.map (·.caps)
  /-- Starting returns the capabilities, or the error of the service; if it fails, what is installed
  and what is held of a frame stay as they are. -/
  start : match r.service r.ledger.attaches with
    | .ok reply => ∃ r', r.start = (some (.ok reply.caps), r') ∧ r'.caps = some reply.caps ∧
        r'.link.socket = some reply.socket ∧ r'.link.generation = r.link.generation + 1
    | .error e => ∃ r', r.start = (some (.error e), r') ∧ r'.caps = r.caps ∧ r'.link = r.link ∧
        r'.deframer = r.deframer

/-- The ledger of a settled consumer accounts for all that happened. -/
theorem Settled.accounted (h : r.Settled) : r.Accounted where
  attaches := by
    have hcount := h.books.lawful.attaches_eq
    rwa [Ledger.owed, h.nothing, if_neg nofun, Nat.add_zero] at hcount
  asked later reply earlier hledger := by
    have hlawful := h.books.lawful
    rw [hledger] at hlawful
    cases hlawful.fits.1 with
    | attached _ hdue => exact Ledger.eq_of_due_attach hdue
  refused later e w earlier hledger := by
    have hlawful := h.books.lawful
    have hnothing := h.nothing
    rw [hledger] at hlawful hnothing
    obtain rfl | ⟨rest, n, rfl⟩ := List.eq_nil_or_concat later
    · cases hnothing
    · rw [List.concat_eq_append, List.append_assoc] at hlawful
      have hfits := hlawful.fits.1
      cases hfits with
      | ended => exact ⟨rest, List.concat_eq_append⟩
      | started hdue | attached _ hdue | received _ hdue | drained _ hdue | answered _ hdue =>
        cases hdue
  ended later earlier hledger := by
    have hlawful := h.books.lawful
    rw [hledger] at hlawful
    cases hlawful.fits.1 with
    | ended hdue => exact Ledger.eq_of_due_ending hdue
    | answered _ _ hresult => exact absurd rfl hresult
  afterwards later earlier hledger hnone := by
    have hlawful := h.books.lawful
    rw [hledger] at hlawful
    exact (hlawful.afterwards hnone).2
  unconnected := h.nextFrame_of_isOver
  received later w earlier hledger := by
    have hlawful := h.books.lawful
    obtain hledger | hledger := hledger
    · rw [hledger] at hlawful
      cases hlawful.fits.1 with
      | received _ _ hwatch => exact hwatch
    · rw [hledger] at hlawful
      cases hlawful.fits.1 with
      | drained _ _ hwatch => exact hwatch
  socket := h.socket
  generation := h.books.generation
  caps := h.books.caps
  start := by
    have helapsed := elapsed_pass (r.enter .started)
    cases hreply : r.service r.ledger.attaches with
    | ok reply =>
      refine ⟨_, start_of_ok hreply, rfl, rfl, ?_⟩
      exact congrArg (·.generation + 1) helapsed.link
    | error e =>
      exact ⟨_, start_of_error hreply, helapsed.caps, helapsed.link, helapsed.deframer⟩

/-- Whatever the service replies, whatever the producers do and whatever is called, the consumer
attaches once for every start and once for every socket that ends, and tells the end of the stream
exactly when that fails. -/
theorem accounted_run (service : Nat → Except SessionError Reply) (queue : SocketId → Source)
    (moments : List (List ProducerAct)) (clocks : List Readings) (deframer : Deframer)
    (calls : List Call) :
    Accounted (run calls (fresh service queue moments clocks deframer)) := by
  have hfresh : Settled (fresh service queue moments clocks deframer) :=
    ⟨⟨rfl, rfl, rfl, trivial⟩, rfl, rfl, nofun⟩
  exact (settled_run hfresh calls).accounted

end Relay

end Framecast
