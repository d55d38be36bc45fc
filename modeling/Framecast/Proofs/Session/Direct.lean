import Framecast.Proofs.Frame.Alike
import Framecast.Proofs.Frame.Extent
import Framecast.Proofs.Stream.Source
import Framecast.Session.Link
import Mathlib.Data.List.Forall2

/-!
# Receiving with and without a link

A deframer can be filled from a socket itself or over a link that reads from it. A call on the
socket waits in the receive; a call over the link waits for the socket or a wake signal first,
receives without waiting, and starts again when that came to nothing. As long as the link keeps its
socket and nobody cancels its reads, both ways come to the same (`linked_agrees_with_direct`): the
same bytes are asked for, the results are the same, and after every call the deframers are alike.

`Conduit.Serves.answers` is the comparison for one read, `Conduit.Serves.agree` the one for one
call.
-/

namespace Framecast

/-- A socket that is received from. -/
structure Tap where
  source : Source
  /-- How many bytes each receive offered to take, the last receive first. -/
  offered : List Nat := []

namespace Tap

/-- Whether a receive comes to something without waiting. -/
def isReady (t : Tap) : Bool :=
  t.source.isReady

/-- One receive. -/
def attempt (size : Nat) (t : Tap) : Except IoError Arrival × Tap :=
  ((t.source.attempt size).1, ⟨(t.source.attempt size).2, size :: t.offered⟩)

/-- Wait and receive. A receive that was interrupted is repeated; one that waits for ever has no
result. -/
def receive (size : Nat) (t : Tap) : Option (Except IoError Arrival × Tap) :=
  if t.isReady then
    if _h : interrupted (t.attempt size).1 = true then (t.attempt size).2.receive size
    else some (t.attempt size)
  else none
termination_by t.source.turns.length
decreasing_by exact Source.turns_lt_of_interrupted _h

/-- A tap as a socket that is received from. -/
def receiver : Receiver (StateT Tap Option) := receive

end Tap

/-- What a call on a deframer comes to, and the descriptors that it releases. -/
abbrev Pulled := Result SessionError FrameOutcome × Deframer × List Descriptor

/-- A frame error, as a link would report it: a failure of the socket is not one of a frame. -/
def SessionError.ofFrame : FrameError → SessionError
  | .socket e => .socket e
  | e => .frame e

/-- A call on the socket itself. -/
def Tap.pull (now : Readings) (d : Deframer) : StateT Tap Option Pulled := fun t =>
  (d.pull now Tap.receiver t).map fun (step, t) =>
    ((step.result.mapError .ofFrame, step.deframer, step.released), t)

/-- A socket and a link that reads from it, with nobody else around. -/
structure Conduit where
  link : Link
  tap : Tap

namespace Conduit

/-- What a poll finds. -/
def readiness (c : Conduit) : Readiness :=
  ⟨c.tap.isReady, c.link.isWoken⟩

/-- A conduit, to read in. There is no handler. -/
def host : LinkHost (StateT Conduit Option) where
  onLink f := fun c => some ((f c.link).1, { c with link := (f c.link).2 })
  poll _ := fun c =>
    if c.readiness.socket || c.readiness.wake then some (.ok c.readiness, c) else none
  receive _ size := fun c => some ((c.tap.attempt size).1, { c with tap := (c.tap.attempt size).2 })
  runHandler := pure ()
  release _ := pure ()

/-- A whole read. -/
def read (size : Nat) : StateT Conduit Option (Except SessionError Received) :=
  ReadPhase.entering.finish host size

/-- A call over the link. -/
def pull (now : Readings) (d : Deframer) : StateT Conduit Option Pulled :=
  d.pullOver (pure now) read

end Conduit

/-- A call that was made: its result, and what it left behind. -/
structure Called where
  result : Result SessionError FrameOutcome
  deframer : Deframer
  released : List Descriptor
  tap : Tap

/-- Call again and again, with these readings of the clocks, until the stream has ended. A call that
waits for ever is not among the calls, and nor is any after it. -/
def calls {σ : Type} (call : Readings → Deframer → StateT σ Option Pulled) (tap : σ → Tap) :
    List Readings → Deframer → σ → List Called
  | [], _, _ => []
  | now :: rest, d, s =>
    match call now d s with
    | none => []
    | some ((result, d, released), s) =>
      ⟨result, d, released, tap s⟩ ::
        match result with
        | .ok .endOfStream => []
        | _ => calls call tap rest d s

/-- The same result, the same bytes asked for and left in the socket, and alike deframers. -/
structure Called.Alike (c c' : Called) : Prop where
  result : c'.result = c.result
  deframer : c.deframer.Alike c'.deframer
  released : c'.released = c.released
  tap : c'.tap = c.tap

namespace Conduit

open ReadPhase (finish_of_none finish_of_some finish_done)

/-! ### One read -/

variable {c : Conduit} {size generation : Nat}

/-- The link reads from its socket, and goes on doing so. -/
structure Serves (generation : Nat) (c : Conduit) : Prop where
  socket : c.link.socket.isSome = true
  running : c.link.cancelled = false
  generation : c.link.generation = generation
  blocks : c.tap.source.Blocking

/-- The conduit after the wake signals were taken. -/
def calm (c : Conduit) : Conduit :=
  { c with link := c.link.drain }

theorem Serves.calm (h : c.Serves generation) : c.calm.Serves generation :=
  ⟨h.socket, h.running, h.generation, h.blocks⟩

theorem Serves.receive (h : c.Serves generation) (size : Nat) :
    Serves generation { c with tap := (c.tap.attempt size).2 } :=
  ⟨h.socket, h.running, h.generation, h.blocks.attempt size⟩

/-- A read that starts comes to wait for its socket. -/
theorem Serves.enters (h : c.Serves generation) (hsize : 0 < size) :
    ∃ x, ReadPhase.entering.finish host size c =
      (ReadPhase.waiting ⟨x, generation⟩).finish host size c := by
  obtain ⟨x, hsocket⟩ := Option.isSome_iff_exists.mp h.socket
  refine ⟨x, finish_of_some ?_⟩
  show some (ReadPhase.ofEntering size c.link.enter, c) = _
  rw [Link.enter, h.running, hsocket, h.generation]
  simp [ReadPhase.ofEntering, Nat.pos_iff_ne_zero.mp hsize]

/-- A read that waits goes on if the poll finds something. -/
theorem finish_waiting (size : Nat) (w : Watch) (c : Conduit) :
    (ReadPhase.waiting w).finish host size c =
      if c.readiness.socket || c.readiness.wake then
        (ReadPhase.ofPoll w (.ok c.readiness)).finish host size c
      else none := by
  have hphase : (ReadPhase.waiting w).advance host size c =
      (if c.readiness.socket || c.readiness.wake then some (Except.ok c.readiness, c)
        else none).bind fun p => some (ReadPhase.ofPoll w p.1, p.2) := rfl
  by_cases hready : (c.readiness.socket || c.readiness.wake) = true
  · rw [if_pos hready] at hphase ⊢
    exact finish_of_some hphase
  · rw [if_neg hready] at hphase ⊢
    exact finish_of_none hphase

/-- A read takes the wake signals that are there, and then waits for the socket. -/
theorem Serves.waits (h : c.Serves generation) (hsize : 0 < size) :
    ∃ x, ReadPhase.entering.finish host size c =
      if c.tap.isReady then (ReadPhase.reading ⟨x, generation⟩).finish host size c.calm
      else none := by
  have hcalm {c : Conduit} (h : c.Serves generation) (hwoken : c.link.isWoken = false) :
      ∃ x, ReadPhase.entering.finish host size c =
        if c.tap.isReady then (ReadPhase.reading ⟨x, generation⟩).finish host size c
        else none := by
    obtain ⟨x, henters⟩ := h.enters hsize
    refine ⟨x, ?_⟩
    rw [henters, finish_waiting]
    unfold ReadPhase.ofPoll
    simp only [readiness, hwoken, Bool.or_false, Bool.false_eq_true, if_false]
    split
    · rfl
    · rfl
  by_cases hwoken : c.link.isWoken = true
  · obtain ⟨x, henters⟩ := h.enters hsize
    have hsignalled :
        ReadPhase.entering.finish host size c = ReadPhase.woken.finish host size c := by
      rw [henters, finish_waiting]
      simp [readiness, hwoken, ReadPhase.ofPoll]
    have hseen : ReadPhase.woken.advance host size c = some (.draining, c) := by
      show some (if c.link.cancelled then ReadPhase.entering else .draining, c) = _
      rw [h.running]
      rfl
    have hdrained : ReadPhase.draining.advance host size c = some (.entering, c.calm) := rfl
    rw [hsignalled, finish_of_some hseen, finish_of_some hdrained]
    exact hcalm h.calm rfl
  · have hsame : c.calm = c := by
      have hwakes : c.link.wakes = 0 := by
        simpa [Link.isWoken] using hwoken
      rw [Conduit.calm, Link.drain, ← hwakes]
    rw [hsame]
    exact hcalm h (by simpa using hwoken)

/-- What a receive on the socket and a read over the link come to, side by side. -/
inductive Answers (generation : Nat) : Option (Except IoError Arrival × Tap) →
    Option (Except SessionError Received × Conduit) → Prop
  | waits : Answers generation none none
  | failed (e : IoError) (c : Conduit) (h : c.Serves generation) :
      Answers generation (some (.error e, c.tap)) (some (.error (.socket (.io e)), c))
  | brought (arrival : Arrival) (hsome : arrival.bytes.isEmpty = false) (c : Conduit)
      (h : c.Serves generation) :
      Answers generation (some (.ok arrival, c.tap)) (some (.ok (.data arrival generation), c))
  | ended (c : Conduit) :
      Answers generation (some (.ok ⟨[], []⟩, c.tap)) (some (.ok .endOfStream, c))

/-- A receive that was not interrupted is the last of its read. -/
theorem Serves.answers_reading (h : c.Serves generation) (hsize : 0 < size) (x : SocketId)
    (hready : c.tap.isReady = true) (hlast : interrupted (c.tap.attempt size).1 = false) :
    Answers generation (some (c.tap.attempt size))
      ((ReadPhase.reading ⟨x, generation⟩).finish host size c) := by
  have hnext := h.receive size
  have hkind (e : IoError) (hresult : (c.tap.attempt size).1 = .error e) :
      e.kind ≠ .wouldBlock := h.blocks.kind_of_attempt hready hresult
  have hgives : Source.Gives size c.tap.source (c.tap.attempt size).1
      (c.tap.attempt size).2.source := Source.gives_attempt hsize c.tap.source
  have hread : (ReadPhase.reading ⟨x, generation⟩).advance host size c =
      some (.ofReceive ⟨x, generation⟩ (c.tap.attempt size).1,
        { c with tap := (c.tap.attempt size).2 }) := rfl
  rw [finish_of_some hread]
  generalize c.tap.attempt size = attempted at hlast hnext hkind hgives ⊢
  obtain ⟨result, tap⟩ := attempted
  dsimp only at hlast hnext hkind hgives ⊢
  have hfailed (e : IoError) (hresult : result = .error e) :
      Answers generation (some (result, tap))
        ((ReadPhase.ofReceive ⟨x, generation⟩ result).finish host size { c with tap := tap }) := by
    subst hresult
    have hgivesUp : ¬(e.kind = .wouldBlock ∨ e.kind = .interrupted) := by
      rintro (hblock | hinterrupted)
      · exact hkind e rfl hblock
      · simp [interrupted, hinterrupted] at hlast
    rw [ReadPhase.ofReceive, if_neg hgivesUp, finish_done]
    exact .failed e _ hnext
  generalize tap.source = source at hgives
  cases hgives with
  | failed e => exact hfailed e rfl
  | idle e => exact hfailed e rfl
  | ended =>
    have hconcluding : (ReadPhase.ofReceive ⟨x, generation⟩ (.ok ⟨[], []⟩)).finish host size
        { c with tap := tap } =
        (ReadPhase.concluding ⟨x, generation⟩).finish host size { c with tap := tap } :=
      finish_of_some rfl
    have hkept : c.link.isReplaced ⟨x, generation⟩ = false := by
      rw [Link.isReplaced, h.generation, bne_self_eq_false, Bool.and_false]
    have hends : (ReadPhase.concluding ⟨x, generation⟩).advance host size { c with tap := tap } =
        some (.done (.ok .endOfStream),
          { c with link := { c.link with socket := none, ended := true }, tap := tap }) := by
      show some (ReadPhase.ofEnding (c.link.conclude ⟨x, generation⟩).1,
        ({ c with link := (c.link.conclude ⟨x, generation⟩).2, tap := tap } : Conduit)) = _
      rw [Link.conclude, hkept, if_neg Bool.false_ne_true]
      rfl
    rw [hconcluding, finish_of_some hends, finish_done]
    exact .ended { c with link := { c.link with socket := none, ended := true }, tap := tap }
  | brought chunk rest turns _ hchunk =>
    have hsome : chunk.arrival.bytes.isEmpty = false := by
      rwa [Stretch.arrival_bytes, List.isEmpty_eq_false_iff, ne_eq, Stretch.bytes_eq_nil_iff]
    rw [ReadPhase.ofReceive, hsome, if_neg Bool.false_ne_true, finish_done]
    exact .brought _ hsome _ hnext

/-- A read over the link comes to what a receive on its socket comes to. -/
theorem Serves.answers (h : c.Serves generation) (hsize : 0 < size) :
    Answers generation (c.tap.receive size) (c.read size) := by
  generalize htap : c.tap = t
  fun_induction Tap.receive size t generalizing c with
  | case1 t hready hinterrupted ih =>
    subst htap
    obtain ⟨x, hwaits⟩ := h.waits hsize
    have hread : (ReadPhase.reading ⟨x, generation⟩).advance host size c.calm =
        some (.entering, { c.calm with tap := (c.tap.attempt size).2 }) := by
      show some (ReadPhase.ofReceive _ (c.tap.attempt size).1, _) = _
      obtain ⟨e, hresult⟩ : ∃ e, (c.tap.attempt size).1 = .error e := by
        cases hresult : (c.tap.attempt size).1 with
        | error e => exact ⟨e, rfl⟩
        | ok arrival => simp [hresult, interrupted] at hinterrupted
      rw [hresult] at hinterrupted ⊢
      rw [ReadPhase.ofReceive, if_pos (.inr (by simpa [interrupted] using hinterrupted))]
      rfl
    rw [read, hwaits, if_pos hready, finish_of_some hread]
    exact ih (h.calm.receive size) rfl
  | case2 t hready hlast =>
    subst htap
    obtain ⟨x, hwaits⟩ := h.waits hsize
    rw [read, hwaits, if_pos hready]
    exact h.calm.answers_reading hsize x hready (Bool.eq_false_iff.mpr hlast)
  | case3 t hidle =>
    subst htap
    obtain ⟨x, hwaits⟩ := h.waits hsize
    rw [read, hwaits, if_neg hidle]
    exact .waits

/-! ### One call -/

variable {now : Readings} {d d' : Deframer}

theorem ofFrame_of_parse {e : FrameError} (h : (d.parse now).result = .error e) :
    SessionError.ofFrame e = .frame e := by
  have hnot (error : SocketError) : e ≠ .socket error := by
    rintro rfl
    have hrefused := (Deframer.refusal?_of_parse (congrArg Result.isLocal h)).1
    rw [Deframer.Parsed.toStep, h] at hrefused
    unfold Deframer.refusal? at hrefused
    split at hrefused
    · cases hrefused
    · split at hrefused
      · split at hrefused
        · cases hrefused
        · split at hrefused
          · cases hrefused
          · cases hrefused
      · cases hrefused
  cases e with
  | socket error => exact absurd rfl (hnot error)
  | _ => rfl

theorem mapError_of_parse (now : Readings) (d : Deframer) :
    (d.parse now).toStep.result.mapError SessionError.ofFrame =
      (d.parse now).toStep.result.mapError SessionError.frame := by
  rw [Deframer.Parsed.toStep]
  cases hresult : (d.parse now).result with
  | ok found => rfl
  | error e => exact congrArg Result.error (ofFrame_of_parse hresult)
  | panic message => rfl

/-- What looking for a frame comes to for the caller. -/
def found (now : Readings) (d : Deframer) : Pulled :=
  let step := (d.parse now).toStep
  (step.result.mapError .frame, step.deframer, step.released)

/-- A frame that is held already is told of without a receive. -/
theorem pull_of_parse_ne (t : Tap) (h : (d.parse now).result ≠ .ok none) :
    Tap.pull now d t = some (found now d, t) := by
  have hpull : d.pull now Tap.receiver t = some ((d.parse now).toStep, t) := by
    unfold Deframer.pull
    rcases hresult : (d.parse now).result with (_ | frame) | e | message
    · exact absurd hresult h
    · rfl
    · rfl
    · rfl
  rw [Tap.pull, hpull, Option.map_some, found, ← mapError_of_parse]

/-- Without a frame, a call receives once and looks again. -/
theorem pull_of_parse_eq (t : Tap) (h : (d.parse now).result = .ok none) :
    Tap.pull now d t = (t.receive d.wanted).map fun
      | (.error e, t) => ((.error (.socket (.io e)), d, []), t)
      | (.ok arrival, t) =>
        let step := d.absorb now arrival
        ((step.result.mapError .ofFrame, step.deframer, step.released), t) := by
  have hpull : d.pull now Tap.receiver t = (t.receive d.wanted).map fun
      | (.error e, t) => (⟨.error (.ofIo e), d, []⟩, t)
      | (.ok arrival, t) => (d.absorb now arrival, t) := by
    unfold Deframer.pull
    rw [h]
    show Option.bind (t.receive d.wanted) _ = _
    rcases t.receive d.wanted with _ | ⟨_ | arrival, t'⟩ <;> rfl
  rw [Tap.pull, hpull, Option.map_map]
  rcases t.receive d.wanted with _ | ⟨_ | arrival, t'⟩ <;> rfl

/-- Whatever is held of a frame came from this generation. -/
def Carries (generation : Nat) (d : Deframer) : Prop :=
  d.hasPartial = false ∨ d.stream = some generation

/-- Noting the generation drops nothing, if what is held came from it. -/
theorem Carries.setStream (h : Carries generation d) :
    d.Alike (d.setStream generation).1 ∧ (d.setStream generation).2 = [] ∧
      (d.setStream generation).1.stream = some generation := by
  unfold Deframer.setStream
  split
  · exact ⟨⟨rfl, rfl, rfl, rfl, rfl, rfl⟩, rfl, rfl⟩
  · rename_i current hstream
    by_cases hcurrent : current = generation
    · rw [if_pos hcurrent]
      exact ⟨.refl d, rfl, by rw [hstream, hcurrent]⟩
    · have hidle : d.hasPartial = false := by
        refine h.resolve_right ?_
        rw [hstream, Option.some.injEq]
        exact hcurrent
      have hnothing := Deframer.holds_nil hidle
      rw [if_neg hcurrent]
      exact ⟨⟨rfl, hnothing.bytes.symm, hnothing.pending.symm, rfl, rfl, rfl⟩, hnothing.pending,
        rfl⟩

/-- Taking in what a receive brought comes to the same with the generation noted and without. -/
theorem absorb_of_some (hd : d.Alike d') (hcarries : Carries generation d') (now : Readings)
    {arrival : Arrival} (hsome : arrival.bytes.isEmpty = false) :
    let direct := d.absorb now arrival
    let linked := d'.absorbReceived now (.data arrival generation)
    linked.result.mapError SessionError.frame = direct.result.mapError SessionError.ofFrame ∧
      direct.deframer.Alike linked.deframer ∧ linked.released = direct.released ∧
      Carries generation linked.deframer := by
  obtain ⟨hset, hreleased, hstream⟩ := hcarries.setStream
  unfold Deframer.absorb Deframer.absorbReceived
  rw [hsome, if_neg Bool.false_ne_true]
  dsimp only
  generalize d'.setStream generation = noted at hset hreleased hstream ⊢
  obtain ⟨d'', released⟩ := noted
  subst hreleased
  have hpushed := (hd.trans hset).push arrival.bytes arrival.descriptors
  have hparsed := hpushed.parse now
  have hstep := hparsed.toStep
  refine ⟨?_, hstep.deframer, hstep.released, .inr ?_⟩
  · rw [mapError_of_parse, hstep.result]
  · exact (Deframer.stream_parse now _).trans hstream

/-- What a call on the socket and one over the link come to, side by side. -/
inductive Agree (generation : Nat) : Option (Pulled × Tap) → Option (Pulled × Conduit) → Prop
  | waits : Agree generation none none
  | returned (result : Result SessionError FrameOutcome) (d d' : Deframer)
      (released : List Descriptor) (c : Conduit) (hd : d.Alike d')
      (hnext : result ≠ .ok .endOfStream → c.Serves generation ∧ Carries generation d') :
      Agree generation (some ((result, d, released), c.tap)) (some ((result, d', released), c))

theorem Agree.of_parse_ne (h : c.Serves generation) (hd : d.Alike d')
    (hcarries : Carries generation d') (hparse : (d.parse now).result ≠ .ok none) :
    Agree generation (some (found now d, c.tap)) (some (found now d', c)) := by
  have hparsed := hd.parse now
  have hstep := hparsed.toStep
  have hparse' : (d'.parse now).result ≠ .ok none := hparsed.result ▸ hparse
  unfold found
  dsimp only
  rw [hstep.result, hstep.released]
  refine .returned _ _ _ _ c hstep.deframer fun _ => ⟨h, .inr ?_⟩
  have hheld := Deframer.hasPartial_of_parse_ne hparse'
  have hstream := hcarries.resolve_left (by rw [hheld]; exact Bool.noConfusion)
  exact (Deframer.stream_parse now d').trans hstream

/-- One call agrees, with and without the link. -/
theorem Serves.agree (h : c.Serves generation) (hd : d.Alike d')
    (hcarries : Carries generation d') (now : Readings) :
    Agree generation (Tap.pull now d c.tap) (pull now d' c) := by
  have hclocks : (pure now : StateT Conduit Option Readings) c = some (now, c) := rfl
  have hresult := (hd.parse now).result
  by_cases hparse : (d.parse now).result = .ok none
  · have hanswers := h.answers (Deframer.wanted_pos_of_parse hparse)
    rw [pull_of_parse_eq c.tap hparse, pull,
      Deframer.pullOver_of_parse_eq hclocks (hresult.trans hparse), hd.wanted_eq]
    generalize c.tap.receive d.wanted = direct at hanswers ⊢
    generalize read d.wanted c = linked at hanswers ⊢
    cases hanswers with
    | waits => exact .waits
    | failed e c' h' => exact .returned _ d d' [] c' hd fun _ => ⟨h', hcarries⟩
    | brought arrival hsome c' h' =>
      obtain ⟨hresult, hafter, hreleased, hcarries'⟩ := absorb_of_some hd hcarries now hsome
      simp only [Option.map_some, Option.bind_some]
      show Agree generation _ (some (_, c'))
      rw [hresult, hreleased]
      exact .returned _ _ _ _ c' hafter fun _ => ⟨h', hcarries'⟩
    | ended c' =>
      obtain ⟨hafter, hreleased⟩ := hd.reset
      have hdirect : d.absorb now ⟨[], []⟩ = ⟨.ok .endOfStream, d.reset.1, d.reset.2⟩ := by
        simp [Deframer.absorb]
      simp only [Option.map_some, Option.bind_some]
      rw [hdirect]
      show Agree generation _ (some ((_, d'.reset.1, d'.reset.2), c'))
      rw [hreleased]
      exact .returned _ _ _ _ c' hafter fun hgoesOn => absurd rfl hgoesOn
  · have hparse' : (d'.parse now).result ≠ .ok none := hresult ▸ hparse
    rw [pull_of_parse_ne c.tap hparse, pull,
      Deframer.pullOver_of_parse_ne hclocks hparse']
    exact .of_parse_ne h hd hcarries hparse

/-! ### A run of calls -/

/-- Calls one after the other agree, with and without the link. -/
theorem Serves.alike {d d' : Deframer} (h : c.Serves generation) (hd : d.Alike d')
    (hcarries : Carries generation d') (clocks : List Readings) :
    List.Forall₂ Called.Alike (calls Tap.pull id clocks d c.tap)
      (calls pull tap clocks d' c) := by
  induction clocks generalizing c d d' with
  | nil => exact .nil
  | cons now rest ih =>
    have hpull := h.agree hd hcarries now
    rw [Framecast.calls, Framecast.calls]
    generalize Tap.pull now d c.tap = direct at hpull ⊢
    generalize pull now d' c = linked at hpull ⊢
    cases hpull with
    | waits => exact .nil
    | returned result d₁ d₁' released c₁ hd₁ hnext =>
      refine .cons ⟨rfl, hd₁, rfl, rfl⟩ ?_
      by_cases hended : result = .ok .endOfStream
      · subst hended
        exact .nil
      · obtain ⟨h₁, hcarries₁⟩ := hnext hended
        have hrest := ih h₁ hd₁ hcarries₁
        match result with
        | .error e => exact hrest
        | .panic message => exact hrest
        | .ok (.frame frame) => exact hrest
        | .ok .needMoreData => exact hrest
        | .ok .flushing => exact hrest

end Conduit

/-- Calls on a socket and calls over a link that reads from it come to the same, for every stream
that is still to be received, every way in which it arrives in pieces, and every deframer that holds
no part of a frame: as many calls return, and in each of them the same bytes were asked for and the
same are left in the socket, the result is the same frame, failure or end of the stream, and the
deframers hold the same. -/
theorem linked_agrees_with_direct {link : Link} {source : Source} {d : Deframer}
    (hsocket : link.socket.isSome = true) (hrunning : link.cancelled = false)
    (hblocks : source.Blocking) (hidle : d.hasPartial = false) (clocks : List Readings) :
    List.Forall₂ Called.Alike (calls Tap.pull id clocks d ⟨source, []⟩)
      (calls Conduit.pull Conduit.tap clocks d ⟨link, ⟨source, []⟩⟩) := by
  have hserves : Conduit.Serves link.generation ⟨link, ⟨source, []⟩⟩ :=
    ⟨hsocket, hrunning, rfl, hblocks⟩
  exact hserves.alike (.refl d) (.inl hidle) clocks

/-- A frame with a stray descriptor, another frame, and the end. They arrive in pieces, and a
receive is interrupted. -/
def strayFirst : Source where
  unread :=
    Stretch.ofMessage [.pipe] (Header.inlined 7 2).encode ++ Stretch.plain [1, 2] ++
      Stretch.plain (Header.inlined 9 1).encode ++ Stretch.plain [5]
  closed := true
  turns := [.bring 9, .fail (.bare .interrupted), .bring 30]

theorem linked_agrees_with_direct_strayFirst :
    let link : Link := { socket := some 3, generation := 6, wakes := 2 }
    let d : Deframer := { stream := some 4 }
    let clocks := List.replicate 9 default
    let direct := calls Tap.pull id clocks d ⟨strayFirst, []⟩
    let linked := calls Conduit.pull Conduit.tap clocks d ⟨link, ⟨strayFirst, []⟩⟩
    (link.socket.isSome = true ∧ link.cancelled = false ∧ strayFirst.Blocking ∧
      d.hasPartial = false) ∧
    direct.map (fun call => (call.result, call.tap.offered.length)) =
      [(.ok .needMoreData, 1), (.ok .needMoreData, 3),
        (.error (.frame (.corrupt (.strayDescriptors 1))), 4), (.ok .needMoreData, 5),
        (.ok (.frame ⟨.inlined 9 1, .heap [5], some 0⟩), 6), (.ok .endOfStream, 7)] ∧
    List.Forall₂ Called.Alike direct linked := by
  intro link d clocks direct linked
  have hblocks : strayFirst.Blocking := by
    intro e hmem
    obtain rfl : e = .bare .interrupted := by simpa [strayFirst] using hmem
    decide
  refine ⟨⟨rfl, rfl, hblocks, rfl⟩, ?_, ?_⟩
  · decide +kernel
  · exact linked_agrees_with_direct rfl rfl hblocks rfl clocks

end Framecast
