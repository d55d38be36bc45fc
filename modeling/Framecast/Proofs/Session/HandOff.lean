import Framecast.Proofs.Frame.Tidy
import Framecast.Proofs.Session.Alone
import Framecast.Proofs.Session.Waiting

/-!
# Handing a link over

When the socket of a link has ended in the middle of a frame and the handler puts another socket in
its place, the read goes on with the new socket, and what was held of the frame is dropped. But the
read still asks for what that frame lacked. So the first receive from the new socket may go beyond
the first packet there, and this is the exact limit of what gets through: everything, if that
receive is tidy, and otherwise not even the first packet.

`pull_attends` says what one call tells of the packets on the last socket and `pulls_attends` what a
run of calls does; `tells_iff_tidy` is about the calls from the hand-over on.
-/

namespace Framecast

namespace Scene

open Deframer

variable {limit : Word} {d : Deframer} {s s' : Scene} {held : Stretch} {steps : Nat}

/-! ### The last socket -/

/-- What a call over a link tells, unless it needs more data. -/
def told? : Result SessionError FrameOutcome → Option (Result SessionError Event)
  | .ok .needMoreData => none
  | .ok (.frame f) => some (.ok (.frame f.header f.buffer.memory))
  | .ok .endOfStream => some (.ok .endOfStream)
  | .ok .flushing => some (.ok .flushing)
  | .error e => some (.error e)
  | .panic message => some (.panic message)

/-- What a run of calls tells, in order. -/
def told (results : List (Result SessionError FrameOutcome)) : List (Result SessionError Event) :=
  results.filterMap told?

theorem told_cons (result : Result SessionError FrameOutcome)
    (results : List (Result SessionError FrameOutcome)) :
    told (result :: results) = (told? result).toList ++ told results := by
  unfold told
  rw [List.filterMap_cons]
  cases told? result <;> rfl

/-- What there is to tell of some packets on a socket. When the socket has ended, this is told once;
any further call finds no socket. -/
def reports (packets : List Packet) (closed : Bool) (calls : Nat) :
    List (Result SessionError Event) :=
  packets.map (.ok ·.event) ++
    if closed then .ok .endOfStream :: List.replicate calls (.error (.socket .notConnected)) else []

/-- So many calls told what there was to tell, in order. Each of them told something or read at
least one of so many bytes, unless every packet was told and the socket stays open. -/
structure Tells (packets : List Packet) (closed : Bool) (bytes calls : Nat)
    (told : List (Result SessionError Event)) : Prop where
  order : told <+: reports packets closed calls
  all : calls ≤ told.length + bytes ∨ closed = false ∧ told.length = packets.length

/-- More calls report more, and nothing else. -/
theorem reports_mono (packets : List Packet) (closed : Bool) (calls : Nat) :
    reports packets closed calls <+: reports packets closed (calls + 1) := by
  unfold reports
  rw [List.prefix_append_right_inj]
  cases closed with
  | false => exact List.nil_prefix
  | true =>
    rw [if_pos rfl, if_pos rfl, List.cons_prefix_cons, List.replicate_succ']
    exact ⟨rfl, List.prefix_append ..⟩

theorem told?_of_event {step : Step} {p : Packet}
    (h : Event.ofResult? step.result = some p.event) :
    told? (finished step).1 = some (.ok p.event) := by
  unfold finished
  cases hresult : step.result with
  | error e =>
    rw [hresult] at h
    cases e with
    | socket cause => cases cause <;> cases h
    | _ => cases h
  | panic message =>
    rw [hresult] at h
    cases h
  | ok outcome =>
    rw [hresult] at h
    cases outcome with
    | frame f =>
      have hframe : Event.frame f.header f.buffer.memory = p.event := Option.some.inj h
      rw [← hframe]
      rfl
    | _ => cases h

/-- The link reads from the last socket, and the deframer holds the tidy start of what is left of
the packets on it. -/
structure Attends (limit : Word) (x : SocketId) (generation : Nat) (packets : List Packet)
    (source : Source) (held : Stretch) (d : Deframer) (s : Scene) : Prop where
  serves : s.Serves x generation source
  noted : d.stream = some generation
  holds : d.Holds limit held
  stream : held ++ source.unread = Packet.stream packets
  tidy : Packet.Tidy packets held

/-- What a call comes to when the last socket is read from. -/
inductive Heard (limit : Word) (x : SocketId) (generation : Nat) (packets : List Packet)
    (source : Source) :
    Option ((Result SessionError FrameOutcome × Deframer × List Descriptor) × Scene) → Prop
  /-- Nothing more has come, and the call waits for ever. -/
  | blocked (hnil : packets = []) (hopen : source.closed = false) :
      Heard limit x generation packets source none
  | frame {p : Packet} {more : List Packet} {source' : Source} {held : Stretch}
      {call : Result SessionError FrameOutcome × Deframer × List Descriptor} {s : Scene}
      (hpackets : packets = p :: more) (htold : told? call.1 = some (.ok p.event))
      (h : Attends limit x generation more source' held call.2.1 s)
      (hunread : source'.unread.length ≤ source.unread.length)
      (hclosed : source'.closed = source.closed) :
      Heard limit x generation packets source (some (call, s))
  /-- Nothing was told, but less is left to come. -/
  | waited {source' : Source} {held : Stretch}
      {call : Result SessionError FrameOutcome × Deframer × List Descriptor} {s : Scene}
      (htold : told? call.1 = none)
      (h : Attends limit x generation packets source' held call.2.1 s)
      (hunread : source'.unread.length < source.unread.length)
      (hclosed : source'.closed = source.closed) :
      Heard limit x generation packets source (some (call, s))
  | ended {call : Result SessionError FrameOutcome × Deframer × List Descriptor} {s : Scene}
      (hnil : packets = []) (hclosed : source.closed = true)
      (htold : told? call.1 = some (.ok .endOfStream)) (hd : call.2.1.Holds limit []) (h : s.Over) :
      Heard limit x generation packets source (some (call, s))

variable {x : SocketId} {generation : Nat} {packets : List Packet} {source : Source}

/-- A call that reads, if what it takes in is the tidy start of what is left. -/
theorem heard_of_answers (hsound : ∀ p ∈ packets, p.Sound limit)
    (hnone : (d.parse s.now).result = .ok none) (hwanted : 0 < d.wanted)
    (hreset : d.reset.1.Holds limit []) (hempty : source.unread = [] → packets = [])
    (hpushed : source.unread ≠ [] → ∃ held', held' ++ source.unread.drop (source.reach d.wanted) =
      Packet.stream packets ∧ Packet.Tidy packets held' ∧
      Holds limit held' ((d.setStream generation).1.push (source.next d.wanted).bytes
        (source.next d.wanted).descriptors) ∧ (d.setStream generation).1.stream = some generation)
    (hanswers : Answers x generation source d.wanted (receiveOver steps d.wanted s.tick)) :
    Heard limit x generation packets source (pull steps d s) := by
  rw [pull_of_parse_eq steps hnone]
  generalize receiveOver steps d.wanted s.tick = answer at hanswers ⊢
  cases hanswers with
  | blocked hnil hopen => exact .blocked (hempty hnil) hopen
  | @ended s' hnil hclosed hover =>
    exact .ended (hempty hnil) hclosed rfl hreset hover.tick
  | @brought s' hne hserves =>
    obtain ⟨held', hstream, htidy, hd, hnoted⟩ := hpushed hne
    obtain ⟨hresult, hdeframer⟩ :=
      absorbReceived_data s'.now (source.next d.wanted).arrival generation d
    have hparsed := stream_parse s'.now ((d.setStream generation).1.push
      (source.next d.wanted).bytes (source.next d.wanted).descriptors)
    have hless : (source.unread.drop (source.reach d.wanted)).length < source.unread.length := by
      have hpos := source.reach_pos hwanted
      have hlen := List.length_pos_iff.mpr hne
      rw [List.length_drop]
      omega
    dsimp only [Stretch.arrival] at hresult hdeframer ⊢
    rcases parse_tidy hd hsound hstream htidy s'.now with
      ⟨-, hparse⟩ | ⟨p, more, held₁, hpackets, hevent, hholds, hleft, htidy₁⟩
    · rw [hparse] at hresult hdeframer
      refine .waited ?_ ⟨hserves.tick, ?_, ?_, hstream, htidy⟩ hless rfl
      · show told? (Result.mapError SessionError.frame _) = none
        rw [hresult]
        rfl
      · show (Deframer.absorbReceived _ _ _).deframer.stream = _
        rw [hdeframer]
        exact hnoted
      · show Holds _ _ (Deframer.absorbReceived _ _ _).deframer
        rw [hdeframer]
        exact hd
    · rw [← hresult] at hevent
      refine .frame hpackets (told?_of_event hevent) ⟨hserves.tick, ?_, ?_, hleft, htidy₁⟩
        (Nat.le_of_lt hless) rfl
      · show (Deframer.absorbReceived _ _ _).deframer.stream = _
        rw [hdeframer, hparsed]
        exact hnoted
      · show Holds _ _ (Deframer.absorbReceived _ _ _).deframer
        rw [hdeframer]
        exact hholds

/-- A call on a socket whose frames are read tells the next of them. -/
theorem pull_attends (h : Attends limit x generation packets source held d s)
    (hsound : ∀ p ∈ packets, p.Sound limit) (hsteps : 9 ≤ steps) :
    Heard limit x generation packets source (pull steps d s) := by
  obtain ⟨hserves, hnoted, hd, hstream, htidy⟩ := h
  rcases parse_tidy hd hsound hstream htidy s.now with
    ⟨hlead, hparse⟩ | ⟨p, more, held', hpackets, hevent, hholds, hleft, htidy'⟩
  · have hnone : (d.parse s.now).result = .ok none := by rw [hparse]
    have hsized := Packet.sized_of_stream hsound hstream
    have hwanted := (wanted_of_fragment hd hsized hlead).1
    have hset : (d.setStream generation).1 = d := by
      rw [setStream, hnoted]
      dsimp only
      rw [if_pos rfl]
    refine heard_of_answers hsound hnone hwanted hd.reset ?_ ?_
      (hserves.tick.receiveOver hwanted hsteps)
    · intro hnil
      rw [hnil, List.append_nil] at hstream
      rw [hstream] at hlead
      exact Packet.eq_nil_of_lead_stream hsound hlead
    · intro _
      have hmore : held ++ source.next d.wanted ++ source.unread.drop (source.reach d.wanted) =
          Packet.stream packets := by
        rw [List.append_assoc, Source.next, List.take_append_drop, hstream]
      rw [hset]
      exact ⟨_, hmore, tidy_of_wanted hd hsound hlead (Source.length_next_le ..) hmore,
        hd.push _, hnoted⟩
  · have hne : (d.parse s.now).result ≠ .ok none := by
      intro hnone
      rw [Parsed.toStep, hnone] at hevent
      cases hevent
    rw [pull_of_parse_ne steps hne]
    exact .frame hpackets (told?_of_event hevent)
      ⟨hserves.tick, (stream_parse s.now d).trans hnoted, hholds, hleft, htidy'⟩ (Nat.le_refl _) rfl

/-- Without a socket, every call fails alike. -/
theorem told_pulls_of_over (hd : d.Holds limit []) (h : s.Over) (hsteps : 1 ≤ steps)
    (calls : Nat) :
    told (pulls steps calls d s).1 = List.replicate calls (.error (.socket .notConnected)) := by
  induction calls generalizing s with
  | zero => rfl
  | succ calls ih =>
    have hnone : (d.parse s.now).result = .ok none := by
      rw [parse_fragment hd nofun rfl]
    have hpull : pull steps d s = some ((.error (.socket .notConnected), d, []), s.tick) := by
      rw [pull_of_parse_eq steps hnone, h.tick.receiveOver hsteps]
    rw [pulls, hpull]
    dsimp only
    rw [told_cons, ih h.tick]
    rfl

theorem Heard.tells {calls : Nat} (h : Heard limit x generation packets source (pull steps d s))
    (hsteps : 1 ≤ steps)
    (hrest : ∀ {packets' : List Packet} {source' : Source} {held' : Stretch} {d' : Deframer}
      {s' : Scene}, packets' <:+ packets →
      Attends limit x generation packets' source' held' d' s' →
      Tells packets' source'.closed source'.unread.length calls
        (told (pulls steps calls d' s').1)) :
    Tells packets source.closed source.unread.length (calls + 1)
      (told (pulls steps (calls + 1) d s).1) := by
  rw [pulls]
  generalize pull steps d s = called at h ⊢
  cases h with
  | blocked hnil hopen =>
    subst hnil
    exact ⟨List.nil_prefix, .inr ⟨hopen, rfl⟩⟩
  | @frame p more source' held' call s' hpackets htold h hunread hclosed =>
    subst hpackets
    obtain ⟨result, d', released⟩ := call
    obtain ⟨horder, hall⟩ := hrest (List.suffix_cons p more) h
    rw [hclosed] at horder hall
    dsimp only at htold horder hall ⊢
    rw [told_cons, htold, Option.toList_some, List.singleton_append]
    refine ⟨?_, ?_⟩
    · have hmono := List.IsPrefix.trans horder (reports_mono more source.closed calls)
      show _ :: _ <+: _ :: _
      rw [List.cons_prefix_cons]
      exact ⟨rfl, hmono⟩
    · rw [List.length_cons, List.length_cons]
      rcases hall with hle | ⟨hopen, hlen⟩
      · left
        omega
      · exact .inr ⟨hopen, by rw [hlen]⟩
  | @waited source' held' call s' htold h hunread hclosed =>
    obtain ⟨result, d', released⟩ := call
    obtain ⟨horder, hall⟩ := hrest (List.suffix_refl packets) h
    rw [hclosed] at horder hall
    dsimp only at htold horder hall ⊢
    rw [told_cons, htold, Option.toList_none, List.nil_append]
    refine ⟨List.IsPrefix.trans horder (reports_mono packets source.closed calls), ?_⟩
    rcases hall with hle | hdone
    · left
      omega
    · exact .inr hdone
  | @ended call s' hnil hclosed htold hd hover =>
    subst hnil
    obtain ⟨result, d', released⟩ := call
    dsimp only at htold hd ⊢
    rw [told_cons, htold, told_pulls_of_over hd hover hsteps, hclosed, Option.toList_some,
      List.singleton_append]
    refine ⟨?_, .inl ?_⟩
    · show _ :: _ <+: _ :: _
      rw [List.cons_prefix_cons, List.replicate_succ']
      exact ⟨rfl, List.prefix_append ..⟩
    · rw [List.length_cons, List.length_replicate]
      omega

/-- Calls on a socket tell its frames one after the other. -/
theorem pulls_attends (h : Attends limit x generation packets source held d s)
    (hsound : ∀ p ∈ packets, p.Sound limit) (hsteps : 9 ≤ steps) (calls : Nat) :
    Tells packets source.closed source.unread.length calls (told (pulls steps calls d s).1) := by
  induction calls generalizing packets source held d s with
  | zero => exact ⟨List.nil_prefix, .inl (Nat.zero_le _)⟩
  | succ calls ih =>
    refine (pull_attends h hsound hsteps).tells (by omega) ?_
    intro packets' source' held' d' s' hsuffix h'
    exact ih h' fun p hp => hsound p (hsuffix.subset hp)

/-! ### From one to the other -/

variable {old new : SocketId}

/-- The first call that reads from a new socket, if what it takes in is tidy: it goes on with the
packets there, whatever was held of a frame before. -/
theorem pull_anew {g : Nat} (hd : d.Waits limit g held) (hlater : g ≠ generation)
    (hstream : source.unread = Packet.stream packets) (hsound : ∀ p ∈ packets, p.Sound limit)
    (htidy : Packet.Tidy packets (source.next d.wanted))
    (hanswers : Answers x generation source d.wanted (receiveOver steps d.wanted s.tick)) :
    Heard limit x generation packets source (pull steps d s) := by
  have hnone : (d.parse s.now).result = .ok none := by rw [hd.parse]
  obtain ⟨hempty, hnoted⟩ := hd.setStream hlater
  refine heard_of_answers hsound hnone hd.wanted_pos hd.holds.reset ?_ ?_ hanswers
  · intro hnil
    rw [hstream] at hnil
    apply Packet.eq_nil_of_lead_stream hsound
    rw [hnil]
    rfl
  · intro _
    refine ⟨source.next d.wanted, ?_, htidy, hempty.push _, hnoted⟩
    rw [Source.next, List.take_append_drop, hstream]

/-- If what it takes in is not tidy, the first packet is spoiled. -/
theorem pull_anew_untidy {g : Nat} {p : Packet} {more : List Packet} (hd : d.Waits limit g held)
    (hlater : g ≠ generation) (hstream : source.unread = Packet.stream (p :: more))
    (hp : p.Sound limit) (hrides : (source.next d.wanted).descriptors ≠ [])
    (hlong : p.stretch.length < (source.next d.wanted).length)
    (hanswers : Answers x generation source d.wanted (receiveOver steps d.wanted s.tick)) :
    ∃ d' released s', pull steps d s =
      some ((.error (.frame (.corrupt (p.spoiled (source.next d.wanted)))), d', released), s') := by
  have hnone : (d.parse s.now).result = .ok none := by rw [hd.parse]
  rw [pull_of_parse_eq steps hnone]
  generalize receiveOver steps d.wanted s.tick = answer at hanswers ⊢
  have hsome : source.unread ≠ [] := by
    intro hnil
    rw [Source.next, hnil, List.take_nil] at hrides
    exact hrides rfl
  cases hanswers with
  | blocked hnil hopen => exact absurd hnil hsome
  | ended hnil hclosed hover => exact absurd hnil hsome
  | @brought s' hne hserves =>
    obtain ⟨hempty, -⟩ := hd.setStream hlater
    have hall : source.next d.wanted ++ source.unread.drop (source.reach d.wanted) =
        Packet.stream (p :: more) := by
      rw [Source.next, List.take_append_drop, hstream]
    have hparsed := parse_untidy (hempty.push (source.next d.wanted)) hp hall hrides hlong s'.now
    have herror : (d.absorbReceived s'.now (.data (source.next d.wanted).arrival
        generation)).result = .error (.corrupt (p.spoiled (source.next d.wanted))) := by
      rw [(absorbReceived_data ..).1, Parsed.toStep]
      exact congrArg (Result.map _) hparsed
    refine ⟨_, _, _, congrArg some (Prod.ext (Prod.ext ?_ rfl) rfl)⟩
    exact congrArg (Result.mapError SessionError.frame) herror

/-- The first call on a tidy replacement tells as it would have from the start. -/
theorem pull_handsOver (hd : d.Waits limit s.link.generation held)
    (hover : s.HandsOver old new source) (hstream : source.unread = Packet.stream packets)
    (hsound : ∀ p ∈ packets, p.Sound limit)
    (htidy : Packet.Tidy packets (source.next d.wanted)) (hsteps : 18 ≤ steps) :
    Heard limit new (s.link.generation + 1) packets source (pull steps d s) :=
  pull_anew hd (Nat.ne_of_lt (Nat.lt_succ_self _)) hstream hsound htidy
    (hover.tick.receiveOver hd.wanted_pos hsteps)

/-- The first call on a replacement that is not tidy spoils its first frame. -/
theorem pull_handsOver_untidy {p : Packet} {more : List Packet}
    (hd : d.Waits limit s.link.generation held) (hover : s.HandsOver old new source)
    (hstream : source.unread = Packet.stream (p :: more)) (hp : p.Sound limit)
    (hrides : (source.next d.wanted).descriptors ≠ [])
    (hlong : p.stretch.length < (source.next d.wanted).length) (hsteps : 18 ≤ steps) :
    ∃ d' released s', pull steps d s =
      some ((.error (.frame (.corrupt (p.spoiled (source.next d.wanted)))), d', released), s') :=
  pull_anew_untidy hd (Nat.ne_of_lt (Nat.lt_succ_self _)) hstream hp hrides hlong
    (hover.tick.receiveOver hd.wanted_pos hsteps)

theorem told_pulls_succ {call : Result SessionError FrameOutcome × Deframer × List Descriptor}
    (h : pull steps d s = some (call, s')) (calls : Nat) :
    told (pulls steps (calls + 1) d s).1 =
      (told? call.1).toList ++ told (pulls steps calls call.2.1 s').1 := by
  obtain ⟨result, d', released⟩ := call
  rw [pulls, h]
  exact told_cons ..

/-- **What gets through when a link is handed over.** A fresh deframer has read from the first
socket of a link, in any pieces and whatever came, as long as no frame was too large and no call
panicked. The socket has ended, and the handler puts another socket in its place, on which sound
packets are queued. Then the calls that follow tell all of these packets in order, and nothing else
before the new socket ends, if and only if the first receive from the new socket is tidy. That
receive is asked for what the frame of the old socket lacks. If it is not tidy, the first thing told
is that the first packet is corrupt. It is tidy if the old socket ended between two frames or inside
a header. -/
theorem tells_iff_tidy (config : DeframerConfig) (clock : ClockFollower) (baseTime : Option Word)
    {scene s : Scene} {d : Deframer} {results : List (Result SessionError FrameOutcome)}
    {steps₀ calls₀ steps : Nat} {old new : SocketId} {packets : List Packet} {closed : Bool}
    {turns : List Turn}
    (hrun : pulls steps₀ calls₀ { config, clock, baseTime } scene = (results, d, s))
    (hfirst : s.link.generation = scene.link.generation)
    (hlocal : ∀ e, .error (.frame e) ∈ results → e.isLocal = true)
    (hreturned : ∀ message, .panic message ∉ results)
    (hover : s.HandsOver old new ⟨Packet.stream packets, closed, turns⟩)
    (hsound : ∀ p ∈ packets, p.Sound config.maxInline) (hsteps : 18 ≤ steps) :
    let chunk := Source.next d.wanted ⟨Packet.stream packets, closed, turns⟩
    let story := fun calls => told (pulls steps calls d s).1
    (Packet.Tidy packets chunk ↔
      ∀ calls, Tells packets closed (Packet.stream packets).length calls (story calls)) ∧
    (¬ Packet.Tidy packets chunk → ∃ p ∈ packets.head?, ∀ calls,
      (story (calls + 1)).head? = some (.error (.frame (.corrupt (p.spoiled chunk))))) ∧
    (d.header? = none → Packet.Tidy packets chunk) := by
  intro chunk story
  obtain ⟨held, hd⟩ : ∃ held, d.Waits config.maxInline s.link.generation held := by
    have hfresh : Waits config.maxInline scene.link.generation [] { config, clock, baseTime } :=
      .of_holds_nil ⟨rfl, rfl, rfl⟩ (.inl rfl)
    have hwaits := pulls_waits hfresh rfl (by rw [hrun]; exact hfirst) (by rw [hrun]; exact hlocal)
      (by rw [hrun]; exact hreturned)
    rw [hrun, ← hfirst] at hwaits
    exact hwaits
  have huntidy : ¬ Packet.Tidy packets chunk → ∃ p ∈ packets.head?, ∀ calls,
      (story (calls + 1)).head? = some (.error (.frame (.corrupt (p.spoiled chunk)))) := by
    intro h
    simp only [Packet.Tidy, Classical.not_forall, not_or, Nat.not_le] at h
    obtain ⟨p, hp, hrides, hlong⟩ := h
    obtain ⟨more, rfl⟩ : ∃ more, packets = p :: more := List.head?_eq_some_iff.mp hp
    obtain ⟨d', released, s', hpull⟩ :=
      pull_handsOver_untidy hd hover rfl (hsound p (List.mem_cons_self ..)) hrides hlong hsteps
    refine ⟨p, rfl, ?_⟩
    intro calls
    have hstory := told_pulls_succ hpull calls
    dsimp only [story]
    rw [hstory]
    rfl
  refine ⟨⟨?_, ?_⟩, huntidy, ?_⟩
  · intro htidy calls
    cases calls with
    | zero => exact ⟨List.nil_prefix, .inl (Nat.zero_le _)⟩
    | succ calls =>
      refine (pull_handsOver hd hover rfl hsound htidy hsteps).tells (by omega) ?_
      intro packets' source' held' d' s' hsuffix h'
      exact pulls_attends h' (fun p hp => hsound p (hsuffix.subset hp)) (by omega) calls
  · intro htells
    apply Decidable.byContradiction
    intro h
    obtain ⟨p, hp, hcorrupt⟩ := huntidy h
    obtain ⟨more, rfl⟩ : ∃ more, packets = p :: more := List.head?_eq_some_iff.mp hp
    obtain ⟨rest, horder⟩ := (htells 1).order
    have hhead := hcorrupt 0
    cases hstory : story 1 with
    | nil =>
      rw [hstory] at hhead
      cases hhead
    | cons first others =>
      rw [hstory] at hhead horder
      cases hhead
      cases horder
  · intro hshort
    have hwanted : d.wanted ≤ Header.length := by
      rw [wanted, hshort]
      exact Nat.sub_le ..
    exact Packet.tidy_of_le_header (Nat.le_trans (Source.length_next_le ..) hwanted) packets

/-- A frame of two bytes, and a frame behind a descriptor that is no file. -/
def twoThenPipe : List Packet :=
  [⟨.inlined 7 2, .inlined [4, 5]⟩, ⟨.referenced 9 0 0, .attached .pipe⟩]

/-- The first socket ends in an inline payload, and the handler has another one. -/
def cutShort : Scene where
  link := { socket := some 0, generation := 1 }
  source id :=
    if id = 0 then ⟨Stretch.plain ((Header.inlined 5 100).encode ++ [1, 2, 3]), true, []⟩
    else ⟨Packet.stream twoThenPipe, false, []⟩
  handler := [[.install (some 1), .wake]]

theorem tells_iff_tidy_cutShort :
    let run := pulls 9 2 { config := { maxInline := 200 } } cutShort
    let chunk := Source.next run.2.1.wanted ⟨Packet.stream twoThenPipe, false, []⟩
    let story := fun calls => told (pulls 18 calls run.2.1 run.2.2).1
    run.2.2.link.generation = cutShort.link.generation ∧
    (∀ e, .error (.frame e) ∈ run.1 → e.isLocal = true) ∧
    (∀ message, .panic message ∉ run.1) ∧
    run.2.2.HandsOver 0 1 ⟨Packet.stream twoThenPipe, false, []⟩ ∧
    (∀ p ∈ twoThenPipe, p.Sound 200) ∧ 18 ≤ 18 ∧
    ¬ Packet.Tidy twoThenPipe chunk ∧
    (¬ ∀ calls, Tells twoThenPipe false (Packet.stream twoThenPipe).length calls (story calls)) ∧
    (story 1).head? = some (.error (.frame (.corrupt (.strayDescriptors 1)))) := by
  intro run chunk story
  have hrun : pulls 9 2 { config := { maxInline := 200 } } cutShort =
      (run.1, run.2.1, run.2.2) := rfl
  have hfirst : run.2.2.link.generation = cutShort.link.generation := by decide +kernel
  have hquiet : told run.1 = [] := List.isEmpty_iff.mp (by decide +kernel)
  have hlocal : ∀ e, .error (.frame e) ∈ run.1 → e.isLocal = true := by
    intro e he
    have hmem : .error (.frame e) ∈ told run.1 := List.mem_filterMap.mpr ⟨_, he, rfl⟩
    rw [hquiet] at hmem
    cases hmem
  have hreturned : ∀ message, .panic message ∉ run.1 := by
    intro message hpanic
    have hmem : .panic message ∈ told run.1 := List.mem_filterMap.mpr ⟨_, hpanic, rfl⟩
    rw [hquiet] at hmem
    cases hmem
  have hturns : (run.2.2.source 0).turns = [] := by decide +kernel
  have hover : run.2.2.HandsOver 0 1 ⟨Packet.stream twoThenPipe, false, []⟩ := {
    alone := by decide +kernel
    handler := by decide +kernel
    socket := by decide +kernel
    running := by decide +kernel
    still := by
      intro e he
      rw [hturns] at he
      cases he
    drained := by decide +kernel
    closed := by decide +kernel
    other := by decide
    steady := by
      intro e he
      cases he
    source := by decide +kernel }
  have hsound : ∀ p ∈ twoThenPipe, p.Sound 200 := by
    intro p hp
    simp only [twoThenPipe, List.mem_cons, List.not_mem_nil, or_false] at hp
    rcases hp with rfl | rfl
    · exact .inlined rfl rfl (by decide) (by decide)
    · exact .attached rfl (by decide)
  have huntidy : ¬ Packet.Tidy twoThenPipe chunk := by decide +kernel
  obtain ⟨hiff, hcorrupt, -⟩ := tells_iff_tidy { maxInline := 200 } { config := {} } none hrun
    hfirst hlocal hreturned hover hsound (Nat.le_refl 18)
  refine ⟨hfirst, hlocal, hreturned, hover, hsound, Nat.le_refl 18, huntidy, ?_, ?_⟩
  · exact fun htells => huntidy (hiff.mpr htells)
  · obtain ⟨p, hp, hhead⟩ := hcorrupt huntidy
    have hspoiled : p.spoiled chunk = .strayDescriptors 1 := by
      cases hp
      decide +kernel
    rw [← hspoiled]
    exact hhead 0

end Scene

end Framecast
