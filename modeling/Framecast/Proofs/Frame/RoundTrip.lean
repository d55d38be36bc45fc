import Mathlib.Data.List.Forall2
import Framecast.Proofs.Frame.Chunking
import Framecast.Proofs.Frame.Packets

/-!
# Round trips

Buffers that are sent one after the other over a stream come out of it as frames with the same
bytes, one for each buffer and in the same order, whatever pieces the sending socket takes the
packets in and whatever pieces the receiving side is handed. A buffer is sent in one call, or it is
prepared first and then written.

A buffer is refused for two reasons only: the checkpoint in front of it fails, or it has to be
copied and the arena makes no copy. `ship_ships` says what sending one buffer puts on the stream and
`shipAll_ships` what sending some of them does; `round_trip` adds the receiving side.
-/

namespace Framecast

/-- Whoever receives the packet gets the bytes of the buffer. -/
def Packet.Carries (b : Buffer) (p : Packet) : Prop :=
  ∀ pts, Buffer.toBytes ⟨p.memory, pts⟩ = b.toBytes

/-- How a buffer is sent. -/
inductive Manner where
  /-- In one call, which passes the checkpoint first and counts the frame. -/
  | whole
  /-- Prepared first and then written. -/
  | apart (blocking : Bool)
  deriving DecidableEq, Repr

/-- A buffer to be sent. -/
structure Shipment where
  buffer : Buffer
  manner : Manner
  /-- What the clocks show when it is sent. -/
  now : Readings

/-- What became of a buffer. -/
structure Shipped where
  shipment : Shipment
  /-- The framer when it was the buffer's turn, and what it drew names from. -/
  framer : Framer
  names : Arena.NameSpace
  /-- What was to be written. -/
  packet : Except FrameError Packet
  outcome : Except FrameError WriteOutcome

namespace Shipped

/-- The buffer that was shipped. -/
def buffer (s : Shipped) : Buffer :=
  s.shipment.buffer

/-- What the framer prepares for the buffer when it is its turn. -/
def prepared (s : Shipped) : Except FrameError Packet :=
  (s.framer.prepare s.shipment.now s.buffer s.names).1

/-- The packet that was written, if it was. -/
def written? (s : Shipped) : Option Packet :=
  match s.outcome, s.packet with
  | .ok .written, .ok p => some p
  | _, _ => none

theorem packet_of_written? {s : Shipped} {p : Packet} (h : s.written? = some p) :
    s.packet = .ok p := by
  unfold written? at h
  split at h
  · rename_i hpacket
    cases h
    exact hpacket
  · cases h

/-- No packet was left half written. -/
def Untorn (s : Shipped) : Prop :=
  ∀ e, s.outcome = .error e → s.packet = .error e

/-- The checkpoint that is passed first let the buffer fail with this error. -/
def Stopped (s : Shipped) (e : FrameError) : Prop :=
  s.shipment.manner = .whole ∧ s.framer.checkpoint.check.2.1 ≠ .passed ∧
    e = .ofIo s.framer.checkpoint.fault.toIoError

/-- There was no packet: a fault was injected, or there was no memory for a copy. -/
def Refused (s : Shipped) : Prop :=
  ∃ e, s.packet = .error e ∧ s.outcome = .error e ∧
    (s.Stopped e ∨ s.framer.CopyFails s.names s.buffer e)

/-- The packet that is prepared for the buffer was written. -/
def Settled (s : Shipped) : Prop :=
  ∃ p, s.prepared = .ok p ∧ s.packet = .ok p ∧ s.outcome = .ok .written

/-- A buffer that was settled or refused left no part of a frame behind. -/
theorem untorn_of_settled_or_refused {s : Shipped} (h : s.Settled ∨ s.Refused) : s.Untorn := by
  intro e he
  rcases h with ⟨p, -, -, hwritten⟩ | ⟨e', hpacket, hrefused, -⟩
  · rw [hwritten] at he
    cases he
  · rw [hrefused] at he
    cases he
    exact hpacket

/-- A buffer that was settled is one packet on the stream. -/
theorem Settled.written? {s : Shipped} (h : s.Settled) :
    ∃ p, s.written? = some p ∧ s.prepared = .ok p ∧ s.packet = .ok p := by
  obtain ⟨p, hprepared, hpacket, hwritten⟩ := h
  refine ⟨p, ?_, hprepared, hpacket⟩
  rw [Shipped.written?, hwritten, hpacket]

/-- If every packet was written, one was written for each buffer, in order. -/
theorem forall₂_written {all : List Shipped} (hsettled : ∀ s ∈ all, s.Settled)
    (hcarries : ∀ s ∈ all, ∀ p, s.packet = .ok p → p.Carries s.buffer) :
    all.map prepared = (all.filterMap written?).map .ok ∧
      List.Forall₂ (fun x p => p.Carries x.buffer) (all.map (·.shipment))
        (all.filterMap written?) := by
  induction all with
  | nil => exact ⟨rfl, .nil⟩
  | cons s rest ih =>
    rw [List.forall_mem_cons] at hsettled hcarries
    obtain ⟨p, hwritten, hprepared, hpacket⟩ := hsettled.1.written?
    obtain ⟨hmap, hall⟩ := ih hsettled.2 hcarries.2
    rw [List.filterMap_cons, hwritten]
    exact ⟨congrArg₂ List.cons hprepared hmap, .cons (hcarries.1 p hpacket) hall⟩

end Shipped

namespace Framer

open SendScript

/-- What is to be written for a buffer. -/
def offer (x : Shipment) (f : Framer) (names : Arena.NameSpace) :
    Except FrameError Packet × Framer × Arena.NameSpace :=
  match x.manner with
  | .apart _ => f.prepare x.now x.buffer names
  | .whole =>
    match f.runCheckpoint with
    | (_, .error e, f) => (.error e, f, names)
    | (_, .ok (), f) => f.prepare x.now x.buffer names

/-- Send one buffer. -/
def ship (x : Shipment) (f : Framer) (names : Arena.NameSpace) :
    StateM SendScript (Shipped × Framer × Arena.NameSpace) := fun script =>
  match x.manner with
  | .whole =>
    let ((result, f', names'), script) := f.sendFrame x.now sender x.buffer names script
    ((⟨x, f, names, (f.offer x names).1, result.map fun _ => .written⟩, f', names'), script)
  | .apart blocking =>
    match f.prepare x.now x.buffer names with
    | (.error e, f', names') => ((⟨x, f, names, .error e, .error e⟩, f', names'), script)
    | (.ok p, f', names') =>
      let (outcome, script) := p.write sender blocking script
      ((⟨x, f, names, .ok p, outcome⟩, f', names'), script)

/-- Send some buffers one after the other. -/
def shipAll : List Shipment → Framer → Arena.NameSpace → SendScript → List Shipped × SendScript
  | [], _, _, script => ([], script)
  | x :: rest, f, names, script =>
    let ((shipped, f, names), script) := f.ship x names script
    let (others, script) := shipAll rest f names script
    (shipped :: others, script)

variable {f : Framer} {limit : Word}

/-- All that running the checkpoint can come to. Of the framer only the checkpoint changes. -/
inductive Checked (f : Framer) : Except FrameError Unit → Framer → Prop
  | passed (checkpoint : Checkpoint) (h : f.checkpoint.check.2.1 = .passed) :
      Checked f (.ok ()) { f with checkpoint := checkpoint }
  | failed (checkpoint : Checkpoint) (h : f.checkpoint.check.2.1 ≠ .passed) :
      Checked f (.error (.ofIo f.checkpoint.fault.toIoError)) { f with checkpoint := checkpoint }

theorem checked_runCheckpoint (f : Framer) :
    Checked f f.runCheckpoint.2.1 f.runCheckpoint.2.2 := by
  unfold runCheckpoint
  dsimp only
  cases hverdict : f.checkpoint.check.2.1 with
  | passed => exact .passed _ hverdict
  | failed | aborted => exact .failed _ (by rw [hverdict]; nofun)

/-- Where an offer comes from: the framer prepared it, or its checkpoint failed. -/
inductive Offered (f : Framer) (names : Arena.NameSpace) (x : Shipment) :
    Except FrameError Packet → Prop
  | prepared : Offered f names x (f.prepare x.now x.buffer names).1
  | stopped (hmanner : x.manner = .whole) (hcheck : f.checkpoint.check.2.1 ≠ .passed) :
      Offered f names x (.error (.ofIo f.checkpoint.fault.toIoError))

/-- What a framer offers of a buffer: a packet of it, or nothing. -/
theorem offered_offer (x : Shipment) (f : Framer) (names : Arena.NameSpace) :
    (f.offer x names).2.1.config = f.config ∧ Offered f names x (f.offer x names).1 := by
  unfold offer
  split
  · exact ⟨prepare_config .., .prepared⟩
  · rename_i hmanner
    have hchecked := f.checked_runCheckpoint
    generalize f.runCheckpoint = run at hchecked ⊢
    obtain ⟨sleeps, result, f'⟩ := run
    dsimp only at hchecked ⊢
    cases hchecked with
    | passed checkpoint h =>
      refine ⟨prepare_config .., ?_⟩
      dsimp only
      rw [prepare_checkpoint]
      exact .prepared
    | failed checkpoint h => exact ⟨rfl, .stopped hmanner h⟩

/-- What sending one buffer comes to, when it is known what is to be written. -/
inductive Ships (x : Shipment) (f : Framer) (names : Arena.NameSpace) (s : SendScript)
    (offered : Except FrameError Packet) (f' : Framer) : Shipped → Framer → SendScript → Prop
  | refused {e : FrameError} (h : offered = .error e) :
      Ships x f names s offered f' ⟨x, f, names, offered, .error e⟩ f' s
  /-- The packet was written; counting the frame changes nothing that matters. -/
  | wrote {p : Packet} {outcome : Except FrameError WriteOutcome} {f'' : Framer} {s' : SendScript}
      (blocking : Bool) (h : offered = .ok p)
      (hwrite : p.write sender blocking s = (outcome, s')) (hconfig : f''.config = f'.config) :
      Ships x f names s offered f' ⟨x, f, names, offered, outcome⟩ f'' s'

/-- Sending a frame is offering its packet and writing it. -/
theorem sendFrame_eq (now : Readings) (buffer : Buffer) (f : Framer) (names : Arena.NameSpace)
    (s : SendScript) :
    f.sendFrame now sender buffer names s =
      match f.offer ⟨buffer, .whole, now⟩ names with
      | (.error e, f, names) => ((.error e, f, names), s)
      | (.ok p, f, names) =>
        match p.write sender true s with
        | (.error e, s) => ((.error e, f, names), s)
        | (.ok _, s) => ((.ok (), f.countSent, names), s) := by
  unfold sendFrame offer
  dsimp only
  rcases f.runCheckpoint with ⟨_, _ | _, f₁⟩
  · rfl
  · dsimp only
    rcases f₁.prepare now buffer names with ⟨_ | p, f₂, names₂⟩
    · rfl
    · dsimp only
      rw [bind_apply]
      rcases p.write sender true s with ⟨_ | _, s₁⟩ <;> rfl

theorem ship_ships (x : Shipment) (f : Framer) (names : Arena.NameSpace) (s : SendScript) :
    Ships x f names s (f.offer x names).1 (f.offer x names).2.1 (f.ship x names s).1.1
      (f.ship x names s).1.2.1 (f.ship x names s).2 := by
  obtain ⟨buffer, manner, now⟩ := x
  cases manner with
  | whole =>
    unfold ship
    dsimp only
    rw [sendFrame_eq]
    rcases f.offer ⟨buffer, .whole, now⟩ names with ⟨e | p, f₁, names₁⟩
    · exact .refused rfl
    · dsimp only
      rcases hwrite : p.write sender true s with ⟨e | outcome, s₁⟩
      · exact .wrote true rfl hwrite rfl
      · cases outcome with
        | written => exact .wrote true rfl hwrite rfl
        | wouldBlock => exact absurd (congrArg Prod.fst hwrite) (p.write_blocking s)
  | apart blocking =>
    unfold ship offer
    dsimp only
    rcases f.prepare now buffer names with ⟨e | p, f₁, names₁⟩
    · exact .refused rfl
    · exact .wrote blocking rfl rfl rfl

variable {x : Shipment} {names : Arena.NameSpace} {s s' : SendScript}
  {offered : Except FrameError Packet} {f' f'' : Framer} {shipped : Shipped}

theorem Ships.turn (h : Ships x f names s offered f' shipped f'' s') :
    shipped.shipment = x ∧ shipped.framer = f ∧ shipped.names = names ∧
      shipped.packet = offered := by
  cases h <;> exact ⟨rfl, rfl, rfl, rfl⟩

theorem Ships.config (h : Ships x f names s offered f' shipped f'' s') :
    f''.config = f'.config := by
  cases h with
  | refused => rfl
  | wrote blocking h hwrite hconfig => exact hconfig

/-- Unless a packet was left half written, a whole packet is on the stream, or nothing. -/
theorem Ships.accepted (h : Ships x f names s offered f' shipped f'' s')
    (huntorn : shipped.Untorn) :
    s'.accepted = s.accepted ++ Packet.stream shipped.written?.toList := by
  cases h with
  | refused h => exact (List.append_nil _).symm
  | @wrote p outcome f'' s' blocking h hwrite hconfig =>
    obtain ⟨hwritten, hblocked⟩ := p.write_accepted blocking s
    rw [hwrite] at hwritten hblocked
    subst h
    match outcome with
    | .ok .written =>
      rw [hwritten rfl, Shipped.written?, Option.toList_some, Packet.stream_cons,
        Packet.stream_nil, List.append_nil]
    | .ok .wouldBlock => exact (hblocked rfl).trans (List.append_nil _).symm
    | .error e => cases huntorn e rfl

/-- A socket that takes everything in the end takes every packet whole. -/
theorem Ships.willing (h : Ships x f names s offered f' shipped f'' s') (hs : s.Willing) :
    s'.Willing ∧ ∀ p, offered = .ok p → shipped.outcome = .ok .written := by
  cases h with
  | refused h =>
    refine ⟨hs, ?_⟩
    intro p hp
    rw [h] at hp
    cases hp
  | @wrote p outcome f'' s' blocking h hwrite hconfig =>
    obtain ⟨hwritten, hwilling⟩ := p.write_of_willing blocking hs
    rw [hwrite] at hwritten hwilling
    exact ⟨hwilling, fun _ _ => hwritten⟩

theorem Ships.outcome (h : Ships x f names s offered f' shipped f'' s') {e : FrameError}
    (he : offered = .error e) : shipped.outcome = .error e := by
  cases h with
  | refused h =>
    rw [h] at he
    cases he
    rfl
  | wrote blocking h hwrite hconfig =>
    rw [h] at he
    cases he

/-! ### Sending some buffers -/

/-- What becomes of some buffers, and what that puts on the stream. -/
structure ShipsAll (config : FramerConfig) (shipments : List Shipment) (s : SendScript)
    (all : List Shipped) (s' : SendScript) : Prop where
  shipments : all.map (·.shipment) = shipments
  offered : ∀ shipped ∈ all, shipped.framer.config = config ∧
    Offered shipped.framer shipped.names shipped.shipment shipped.packet
  /-- Unless a packet was left half written, whole packets were added to the stream. -/
  accepted : (∀ shipped ∈ all, shipped.Untorn) →
    s'.accepted = s.accepted ++ Packet.stream (all.filterMap Shipped.written?)
  /-- A willing socket takes every packet. -/
  willing : s.Willing → ∀ shipped ∈ all,
    (∃ p, shipped.packet = .ok p ∧ shipped.outcome = .ok .written) ∨
      ∃ e, shipped.packet = .error e ∧ shipped.outcome = .error e

/-- What shipping all buffers comes to. -/
theorem shipAll_ships (shipments : List Shipment) (f : Framer) (names : Arena.NameSpace)
    (s : SendScript) : ShipsAll f.config shipments s (f.shipAll shipments names s).1
      (f.shipAll shipments names s).2 := by
  induction shipments generalizing f names s with
  | nil =>
    rw [shipAll]
    refine ⟨rfl, ?_, ?_, ?_⟩
    · intro y hy
      cases hy
    · intro _
      exact (List.append_nil _).symm
    · intro _ y hy
      cases hy
  | cons x rest ih =>
    obtain ⟨hconfig, hoffered⟩ := offered_offer x f names
    have hships := ship_ships x f names s
    rw [shipAll]
    generalize f.ship x names s = result at hships ⊢
    obtain ⟨⟨shipped, f₁, names₁⟩, s₁⟩ := result
    dsimp only at hships ⊢
    obtain ⟨hshipment, hframer, hnames, hpacket⟩ := hships.turn
    have hsame : f₁.config = f.config := hships.config.trans hconfig
    obtain ⟨hmap, hall, haccepted, hwilling⟩ := ih f₁ names₁ s₁
    rw [hsame] at hall
    refine ⟨?_, ?_, ?_, ?_⟩
    · rw [List.map_cons, hmap, hshipment]
    · intro y hy
      rcases List.mem_cons.mp hy with rfl | hy
      · rw [hframer, hnames, hshipment, hpacket]
        exact ⟨rfl, hoffered⟩
      · exact hall y hy
    · intro huntorn
      rw [haccepted fun y hy => huntorn y (List.mem_cons_of_mem _ hy),
        hships.accepted (huntorn shipped (List.mem_cons_self ..)), List.append_assoc,
        ← Packet.stream_append, List.filterMap_cons]
      cases shipped.written? <;> rfl
    · intro hs y hy
      obtain ⟨hs₁, hwritten⟩ := hships.willing hs
      rcases List.mem_cons.mp hy with rfl | hy
      · cases hoffer : (f.offer x names).1 with
        | ok p => exact .inl ⟨p, hpacket.trans hoffer, hwritten p hoffer⟩
        | error e => exact .inr ⟨e, hpacket.trans hoffer, hships.outcome hoffer⟩
      · exact hwilling hs₁ y hy

namespace ShipsAll

variable {config : FramerConfig} {shipments : List Shipment} {all : List Shipped}

theorem mem_shipments (h : ShipsAll config shipments s all s') {shipped : Shipped}
    (hshipped : shipped ∈ all) : shipped.shipment ∈ shipments :=
  h.shipments ▸ List.mem_map_of_mem hshipped

/-- Every packet is what the framer prepares for the buffer when it is its turn. -/
theorem prepared (h : ShipsAll config shipments s all s') {shipped : Shipped}
    (hshipped : shipped ∈ all) {p : Packet} (hp : shipped.packet = .ok p) :
    shipped.prepared = .ok p := by
  obtain ⟨-, hoffered⟩ := h.offered shipped hshipped
  generalize shipped.packet = offered at hp hoffered
  cases hoffered with
  | prepared => exact hp
  | stopped => cases hp

/-- Every packet is a sound one, and it carries its buffer. -/
theorem sound (h : ShipsAll config shipments s all s') (hbuffers : ∀ x ∈ shipments, x.buffer.Sound)
    (hreceiver : config.inlineThreshold ≤ limit) {shipped : Shipped} (hshipped : shipped ∈ all)
    {p : Packet} (hp : shipped.packet = .ok p) :
    p.Sound limit ∧ p.Carries shipped.buffer := by
  have hprepared := h.prepared hshipped hp
  rw [← (h.offered shipped hshipped).1] at hreceiver
  exact prepare_ok (hbuffers _ (h.mem_shipments hshipped)) hreceiver hprepared

/-- On a willing socket, every buffer is settled or refused. -/
theorem refused (h : ShipsAll config shipments s all s')
    (hsender : config.inlineThreshold ≤ config.maxInline) (hs : s.Willing) {shipped : Shipped}
    (hshipped : shipped ∈ all) : shipped.Settled ∨ shipped.Refused := by
  obtain ⟨hconfig, hoffered⟩ := h.offered shipped hshipped
  rw [← hconfig] at hsender
  rcases h.willing hs shipped hshipped with ⟨p, hpacket, hwritten⟩ | ⟨e, hpacket, houtcome⟩
  · exact .inl ⟨p, h.prepared hshipped hpacket, hpacket, hwritten⟩
  · refine .inr ⟨e, hpacket, houtcome, ?_⟩
    generalize hoffer : shipped.packet = offered at hpacket hoffered
    cases hoffered with
    | prepared => exact .inr (prepare_error hsender hpacket)
    | stopped hmanner hcheck =>
      cases hpacket
      exact .inl ⟨hmanner, hcheck, rfl⟩

end ShipsAll

end Framer

namespace Deframer

/-- A deframer between two frames tells what comes of a stream of packets in step, in order. Of the
calls that tell nothing there are no more than the stream has bytes and the source has turns, unless
everything was told; nothing is held then. -/
theorem pulls_inStep {limit : Word} {d : Deframer} (hd : d.Holds limit []) {packets : List Packet}
    (hstep : ∀ p ∈ packets, p.InStep limit) (turns : List Turn) (clocks : List Readings) :
    let run := pulls Source.receiver clocks d ⟨Packet.stream packets, false, turns⟩
    let events := told run.1
    events = (packets.take events.length).map Packet.verdict ∧
    (clocks.length ≤ events.length + (Packet.stream packets).length + turns.length ∨
      events.length = packets.length) ∧
    (events.length = packets.length → run.2.1.hasPartial = false) := by
  intro run events
  obtain ⟨held', hd', hreads, hcount, -⟩ :=
    pulls_progress hd (Grammar.withinFrame_nil _) clocks ⟨Packet.stream packets, false, turns⟩
      (Packet.allSized_inStep hstep)
  obtain ⟨hevents, hrest⟩ := Packet.reads_inStep hstep hreads
  refine ⟨hevents, ?_, ?_⟩
  · rcases hcount with hle | ⟨-, hlead⟩
    · left
      rw [Nat.add_assoc]
      exact hle
    · right
      rw [hrest] at hlead
      have hmore : ∀ p ∈ packets.drop events.length, p.InStep limit := by
        intro p hp
        exact hstep p (List.mem_of_mem_drop hp)
      have hdrop := Packet.eq_nil_of_lead_inStep hmore hlead
      have hle : packets.length ≤ events.length := List.drop_eq_nil_iff.mp hdrop
      have hlen : events.length = min events.length packets.length := by
        have h := congrArg List.length hevents
        rw [List.length_map, List.length_take] at h
        exact h
      omega
  · intro hall
    have hdrop : packets.drop events.length = [] := List.drop_eq_nil_of_le (Nat.le_of_eq hall.symm)
    rw [hdrop, Packet.stream_nil, List.append_eq_nil_iff] at hrest
    obtain ⟨hheld, -⟩ := hrest
    subst hheld
    exact hd'.hasPartial_eq_false

/-- Of sound packets their frames are told. -/
theorem pulls_stream {limit : Word} {d : Deframer} (hd : d.Holds limit []) {packets : List Packet}
    (hsound : ∀ p ∈ packets, p.Sound limit) (turns : List Turn) (clocks : List Readings) :
    let run := pulls Source.receiver clocks d ⟨Packet.stream packets, false, turns⟩
    let events := told run.1
    events = (packets.take events.length).map Packet.event ∧
    (clocks.length ≤ events.length + (Packet.stream packets).length + turns.length ∨
      events.length = packets.length) ∧
    (events.length = packets.length → run.2.1.hasPartial = false) := by
  intro run events
  have hpulls := pulls_inStep hd (Packet.inStep_of_sound hsound) turns clocks
  have hframes : (packets.take events.length).map Packet.verdict =
      (packets.take events.length).map Packet.event :=
    Packet.map_verdict fun p hp => hsound p (List.mem_of_mem_take hp)
  rw [← hframes]
  exact hpulls

end Deframer

namespace Framer

/-- **Every buffer that is sent is received.** What is written for a buffer is what the framer
prepares for it, and carries the bytes of the buffer. A willing socket takes every packet, so that
sending fails only before anything was written: because the checkpoint failed, or because the arena
made no copy of a buffer that is too long to go inline. As long as no packet is left half written, a
fresh deframer tells exactly the frames that were written, in order and with the headers that were
prepared, whatever pieces the bytes are taken and brought in. So if no buffer is refused, there is
one packet for each of them, and a deframer that is called often enough tells exactly their frames
and holds no part of another. -/
theorem round_trip (f : Framer) (names : Arena.NameSpace) (shipments : List Shipment)
    (answers : List (Except IoError Nat)) (plain : Bool) (config : DeframerConfig)
    (clock : ClockFollower) (baseTime : Option Word) (turns : List Turn) (clocks : List Readings)
    (hbuffers : ∀ x ∈ shipments, x.buffer.Sound)
    (hsender : f.config.inlineThreshold ≤ f.config.maxInline)
    (hreceiver : f.config.inlineThreshold ≤ config.maxInline) :
    let script : SendScript := { answers, plain }
    let sent := f.shipAll shipments names script
    let written := sent.1.filterMap Shipped.written?
    let stream := sent.2.accepted
    let run := Deframer.pulls Source.receiver clocks { config, clock, baseTime }
      ⟨stream, false, turns⟩
    let events := Deframer.told run.1
    sent.1.map (·.shipment) = shipments ∧
    (∀ shipped ∈ sent.1, ∀ p, shipped.packet = .ok p →
      shipped.prepared = .ok p ∧ p.Carries shipped.buffer) ∧
    (script.Willing → ∀ shipped ∈ sent.1, shipped.Settled ∨ shipped.Refused) ∧
    ((∀ shipped ∈ sent.1, shipped.Untorn) →
      events = (written.take events.length).map Packet.event ∧
      (clocks.length ≤ events.length + stream.length + turns.length ∨
        events.length = written.length) ∧
      (events.length = written.length → run.2.1.hasPartial = false)) ∧
    (script.Willing → (∀ shipped ∈ sent.1, ¬shipped.Refused) →
      sent.1.map Shipped.prepared = written.map .ok ∧
      List.Forall₂ (fun x p => p.Carries x.buffer) shipments written ∧
      (written.length + stream.length + turns.length < clocks.length →
        events = written.map Packet.event ∧ run.2.1.hasPartial = false)) := by
  intro script sent written stream run events
  have hships := shipAll_ships shipments f names script
  have hbytes : ∀ shipped ∈ sent.1, ∀ p, shipped.packet = .ok p → p.Carries shipped.buffer :=
    fun x hx p hp => (hships.sound hbuffers hreceiver hx hp).2
  have hrefused : script.Willing → ∀ shipped ∈ sent.1, shipped.Settled ∨ shipped.Refused :=
    fun hs x hx => hships.refused hsender hs hx
  have hreceived : (∀ shipped ∈ sent.1, shipped.Untorn) →
      events = (written.take events.length).map Packet.event ∧
      (clocks.length ≤ events.length + stream.length + turns.length ∨
        events.length = written.length) ∧
      (events.length = written.length → run.2.1.hasPartial = false) := by
    intro huntorn
    have hstream : stream = Packet.stream written := hships.accepted huntorn
    have hd : Deframer.Holds config.maxInline [] { config, clock, baseTime } := ⟨rfl, rfl, rfl⟩
    have hpackets : ∀ p ∈ written, p.Sound config.maxInline := by
      intro p hp
      obtain ⟨x, hx, hxp⟩ := List.mem_filterMap.mp hp
      exact (hships.sound hbuffers hreceiver hx (Shipped.packet_of_written? hxp)).1
    have h := Deframer.pulls_stream hd hpackets turns clocks
    rw [← hstream] at h
    exact h
  refine ⟨hships.shipments, fun x hx p hp => ⟨hships.prepared hx hp, hbytes x hx p hp⟩, hrefused,
    hreceived, ?_⟩
  intro hwilling hnone
  have hsettled : ∀ shipped ∈ sent.1, shipped.Settled := fun x hx =>
    (hrefused hwilling x hx).resolve_right (hnone x hx)
  obtain ⟨hprepared, hall⟩ := Shipped.forall₂_written hsettled hbytes
  rw [hships.shipments] at hall
  refine ⟨hprepared, hall, ?_⟩
  intro hoften
  obtain ⟨hevents, hcount, hidle⟩ := hreceived fun x hx =>
    Shipped.untorn_of_settled_or_refused (.inl (hsettled x hx))
  have hle : events.length ≤ written.length := by
    rw [hevents, List.length_map, List.length_take]
    omega
  have hlength : events.length = written.length := hcount.resolve_left (by omega)
  rw [hlength, List.take_length] at hevents
  exact ⟨hevents, hidle hlength⟩

/-- A buffer that goes inline, one that is copied, and a region. -/
def parcels : List Shipment :=
  [⟨⟨.heap [1, 2], some 5⟩, .whole, default⟩,
    ⟨⟨.heap [3, 4, 5], none⟩, .apart false, default⟩,
    ⟨⟨.region ⟨.file (.ofBytes [6, 7, 8, 9]), 1, 2, false⟩, none⟩, .whole, default⟩]

/-- All three buffers are received: the bytes that went inline, the copy, and the region. -/
theorem round_trip_parcels :
    (∀ x ∈ parcels, x.buffer.Sound) ∧ (2 : Word) ≤ 16 ∧
    let sent := shipAll parcels { config := { inlineThreshold := 2, maxInline := 16 } } {}
      { answers := [.ok 5, .error (.bare .interrupted), .ok 1] }
    let run := Deframer.pulls Source.receiver (List.replicate 200 default)
      { config := { maxInline := 16 }, clock := { config := {} }, baseTime := none }
      ⟨sent.2.accepted, false, [.bring 9]⟩
    (∀ shipped ∈ sent.1, ¬shipped.Refused) ∧
    Deframer.told run.1 =
      [.frame (.inlined 5 2) (.heap [1, 2]),
        .frame (.referenced 0 0 3)
          (.region ⟨.file ((File.zeros 4096).write 0 [3, 4, 5]), 0, 3, true⟩),
        .frame (.referenced 0 1 2) (.region ⟨.file (.ofBytes [6, 7, 8, 9]), 1, 2, true⟩)] ∧
    run.2.1.hasPartial = false := by
  have hbuffers : ∀ x ∈ parcels, x.buffer.Sound := by
    intro x hx
    simp only [parcels, List.mem_cons, List.not_mem_nil, or_false] at hx
    rcases hx with rfl | rfl | rfl
    · exact (by decide : 2 < 0x8000000000000000)
    · exact (by decide : 3 < 0x8000000000000000)
    · exact ⟨by decide, by decide⟩
  refine ⟨hbuffers, by decide, ?_⟩
  intro sent run
  have h := round_trip { config := { inlineThreshold := 2, maxInline := 16 } } {} parcels
    [.ok 5, .error (.bare .interrupted), .ok 1] false { maxInline := 16 } { config := {} } none
    [.bring 9] (List.replicate 200 default) hbuffers (by decide) (by decide)
  obtain ⟨-, -, -, -, hall⟩ := h
  have hwilling : SendScript.Willing
      { answers := [.ok 5, .error (.bare .interrupted), .ok 1] } := by
    intro answer hmem
    simp only [List.mem_cons, List.not_mem_nil, or_false] at hmem
    rcases hmem with rfl | rfl | rfl
    · exact .inl ⟨5, rfl, by decide⟩
    · exact .inr rfl
    · exact .inl ⟨1, rfl, by decide⟩
  have hnone : ∀ shipped ∈ sent.1, ¬shipped.Refused := by
    have hwritten : sent.1.all (·.written?.isSome) = true := by decide +kernel
    intro shipped hshipped hrefused
    obtain ⟨p, hp⟩ := Option.isSome_iff_exists.mp (List.all_eq_true.mp hwritten shipped hshipped)
    obtain ⟨e, hpacket, -⟩ := hrefused
    rw [Shipped.packet_of_written? hp] at hpacket
    cases hpacket
  obtain ⟨-, -, hreceived⟩ := hall hwilling hnone
  obtain ⟨hevents, -⟩ := hreceived (by decide +kernel)
  refine ⟨hnone, hevents.trans ?_, ?_⟩
  · decide +kernel
  · decide +kernel

end Framer

end Framecast
