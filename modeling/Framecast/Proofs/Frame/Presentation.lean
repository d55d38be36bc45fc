import Framecast.Frame.Framer
import Framecast.Proofs.Clock.Carry
import Framecast.Proofs.Frame.Chunking

/-!
# Presentation times on their way

A framer turns the presentation time of a buffer into a capture timestamp, and a deframer turns this
into a presentation time again, each with the calibration that its clock has by then. `Timed` says
what one call does to all that a deframer knows of time, and `timed_pulls` what a run of calls comes
to while the calibration stays.

Neither side brings two buffers out of order as long as its calibration stays what it is
(`presentation_order_kept`).
-/

namespace Framecast

/-! ### Sending -/

namespace Framer

theorem prepare_times (now : Readings) (buffer : Buffer) (f : Framer) (names : Arena.NameSpace) :
    (f.prepare now buffer names).2.1.clock = f.clock.sync now ∧
      (f.prepare now buffer names).2.1.baseTime = f.baseTime := by
  unfold prepare
  dsimp only
  split
  · exact ⟨rfl, rfl⟩
  · split
    · split <;> exact ⟨rfl, rfl⟩
    · split <;> exact ⟨rfl, rfl⟩

/-- The timestamp of a packet is that of its buffer's time, once the clock was looked at. -/
theorem captureTimestamp_of_prepare {now : Readings} {buffer : Buffer} {f : Framer}
    {names : Arena.NameSpace} {p : Packet} (h : (f.prepare now buffer names).1 = .ok p) :
    p.header.captureTimestamp =
      captureTimestamp { f with clock := f.clock.sync now } buffer.pts := by
  unfold prepare at h
  dsimp only at h
  split at h
  · cases h
    rfl
  · split at h
    · split at h
      · cases h
      · cases h
        rfl
    · split at h
      · cases h
      · cases h
        rfl

end Framer

/-- A call that prepares a buffer. -/
structure Sending where
  framer : Framer
  now : Readings
  buffer : Buffer
  names : Arena.NameSpace := {}

namespace Sending

/-- What comes of a sending. -/
def result (x : Sending) : Except FrameError Packet :=
  (x.framer.prepare x.now x.buffer x.names).1

/-- The framer afterwards. -/
def after (x : Sending) : Framer :=
  (x.framer.prepare x.now x.buffer x.names).2.1

variable {x y : Sending} {p q : Packet} {s t : Word}

/-- The clock takes its sample first, so that the timestamp is in terms of the calibration that it
has afterwards. -/
theorem captureTimestamp_eq (h : x.result = .ok p) (hpts : x.buffer.pts = some s) :
    p.header.captureTimestamp =
      x.after.clock.calibration.unadjust (x.framer.baseTime.satAdd s) := by
  have hclock := (Framer.prepare_times x.now x.buffer x.framer x.names).1
  rw [after, hclock, Framer.captureTimestamp_of_prepare h, hpts]
  rfl

/-- Two sendings with one base time and one calibration. -/
structure Agrees (x y : Sending) : Prop where
  baseTime : x.framer.baseTime = y.framer.baseTime
  calibration : x.after.clock.calibration = y.after.clock.calibration

/-- Of two packets with one calibration, the later buffer has the later timestamp. -/
theorem Agrees.captureTimestamp_mono (h : x.Agrees y) (hp : x.result = .ok p)
    (hq : y.result = .ok q) (hs : x.buffer.pts = some s) (ht : y.buffer.pts = some t)
    (hle : s ≤ t) : p.header.captureTimestamp ≤ q.header.captureTimestamp := by
  rw [captureTimestamp_eq hp hs, captureTimestamp_eq hq ht, h.baseTime, h.calibration]
  exact Calibration.unadjust_mono _ (Word.satAdd_le_satAdd _ hle)

end Sending

/-! ### Showing -/

namespace Calibration

/-- The presentation time of a frame with this timestamp. -/
def presented (c : Calibration) (baseTime : Option Word) (timestamp : Word) : Option Word :=
  if timestamp = 0 then none
  else
    match baseTime with
    | none => some 0
    | some base => some ((c.adjust timestamp).satSub base)

/-- Whether a frame with this timestamp is from before the base time. -/
def predates (c : Calibration) (baseTime : Option Word) (timestamp : Word) : Bool :=
  timestamp ≠ 0 && baseTime.any (c.adjust timestamp < ·)

/-- Of two timestamps with one calibration, the later has the later presentation time. -/
theorem presented_mono (c : Calibration) (baseTime : Option Word) {s t s' t' : Word} (h : s ≤ t)
    (hs : c.presented baseTime s = some s') (ht : c.presented baseTime t = some t') : s' ≤ t' := by
  unfold presented at hs ht
  split at hs
  · cases hs
  · split at ht
    · cases ht
    · cases baseTime with
      | none =>
        cases hs
        cases ht
        exact UInt64.le_refl _
      | some base =>
        cases hs
        cases ht
        exact Word.satSub_le_satSub_right (adjust_mono c h) base

end Calibration

namespace Deframer

/-- The frame that a call returned. -/
def frame? : Result FrameError FrameOutcome → Option Frame
  | .ok (.frame f) => some f
  | _ => none

/-- The frames among some results. -/
def frames (results : List (Result FrameError FrameOutcome)) : List Frame :=
  results.filterMap frame?

theorem frames_cons (result : Result FrameError FrameOutcome)
    (results : List (Result FrameError FrameOutcome)) :
    frames (result :: results) = (frame? result).toList ++ frames results := by
  unfold frames
  rw [List.filterMap_cons]
  cases frame? result <;> rfl

/-- What a call does to all that a deframer knows of time. -/
structure Timed (now : Readings) (d : Deframer) (frame : Option Frame) (d' : Deframer) : Prop where
  clock : d'.clock = d.clock ∨ d'.clock = d.clock.sync now
  baseTime : d'.baseTime = d.baseTime
  pts : ∀ f, frame = some f →
    f.buffer.pts = d'.clock.calibration.presented d.baseTime f.header.captureTimestamp
  clamped : d'.clamped = d.clamped +
    frame.toList.countP (d'.clock.calibration.predates d.baseTime ·.header.captureTimestamp)

variable {now : Readings} {d d' : Deframer}

theorem timed_none (hclock : d'.clock = d.clock) (hbase : d'.baseTime = d.baseTime)
    (hclamped : d'.clamped = d.clamped) : Timed now d none d' :=
  ⟨.inl hclock, hbase, nofun, hclamped⟩

/-- A call on a deframer that knows the same of time. -/
theorem Timed.of_same {frame : Option Frame} {d₁ : Deframer} (h : Timed now d₁ frame d')
    (hclock : d₁.clock = d.clock) (hbase : d₁.baseTime = d.baseTime)
    (hclamped : d₁.clamped = d.clamped) : Timed now d frame d' := by
  obtain ⟨hclock', hbase', hpts', hclamped'⟩ := h
  rw [hclock] at hclock'
  rw [hbase] at hbase' hpts' hclamped'
  rw [hclamped] at hclamped'
  exact ⟨hclock', hbase', hpts', hclamped'⟩

theorem presentation_times (now : Readings) (timestamp : Word) (d : Deframer) :
    let shown := d.presentation now timestamp
    (shown.2.clock = d.clock ∨ shown.2.clock = d.clock.sync now) ∧
    shown.2.baseTime = d.baseTime ∧
    shown.1 = shown.2.clock.calibration.presented d.baseTime timestamp ∧
    shown.2.clamped = d.clamped +
      if shown.2.clock.calibration.predates d.baseTime timestamp then 1 else 0 := by
  obtain ⟨config, backlog, pending, clock, baseTime, stream, clamped⟩ := d
  unfold presentation
  by_cases hzero : timestamp = 0
  · simp [hzero, Calibration.presented, Calibration.predates]
  · cases baseTime with
    | none => simp [hzero, Calibration.presented, Calibration.predates]
    | some base =>
      simp only [hzero, if_false]
      split
      · rename_i running htime
        have hlate : ¬(clock.sync now).adjust timestamp < base := by
          rw [← Word.sub?_eq_none_iff, htime]
          nofun
        have hshown : ((clock.sync now).adjust timestamp).satSub base = running := by
          rw [Word.satSub, htime, Option.getD_some]
        rw [ClockFollower.adjust] at hlate hshown
        simp [Calibration.presented, Calibration.predates, hzero, hlate, hshown]
      · rename_i htime
        have hearly := Word.sub?_eq_none_iff.mp htime
        have hshown : ((clock.sync now).adjust timestamp).satSub base = 0 := by
          rw [Word.satSub, htime, Option.getD_none]
        rw [ClockFollower.adjust] at hearly hshown
        simp [Calibration.presented, Calibration.predates, hzero, hearly, hshown]

theorem timed_finish (now : Readings) (h : Header) (memory : Memory) (d : Deframer) :
    Timed now d (some ⟨h, memory, (d.presentation now h.captureTimestamp).1⟩)
      (d.presentation now h.captureTimestamp).2 := by
  obtain ⟨hclock, hbase, hpts, hclamped⟩ := presentation_times now h.captureTimestamp d
  refine ⟨hclock, hbase, ?_, ?_⟩
  · intro f hf
    cases hf
    exact hpts
  · simp [hclamped, List.countP_cons]

theorem timed_parse (now : Readings) (d : Deframer) :
    Timed now d (frame? (d.parse now).toStep.result) (d.parse now).deframer := by
  have hfound := found_parse now d
  generalize d.parse now = parsed at hfound ⊢
  cases hfound with
  | nothing | refused | panicked | corrupt => exact timed_none rfl rfl rfl
  | inlined h payload => exact (timed_finish now h (.heap payload) _).of_same rfl rfl rfl
  | referenced h r => exact (timed_finish now h (.region r) _).of_same rfl rfl rfl

theorem timed_absorb (now : Readings) (arrival : Arrival) (d : Deframer) :
    Timed now d (frame? (d.absorb now arrival).result) (d.absorb now arrival).deframer := by
  unfold absorb
  split
  · exact timed_none rfl rfl rfl
  · exact (timed_parse now _).of_same rfl rfl rfl

variable {ω : Type}

/-- What a call does to the clock, the base time and the counter. -/
theorem timed_pull (now : Readings) (receive : Receiver (StateM ω)) (d : Deframer) (w : ω) :
    Timed now d (frame? (d.pull now receive w).1.result) (d.pull now receive w).1.deframer := by
  by_cases hresult : (d.parse now).result = .ok none
  · rw [pull_of_parse_eq hresult]
    rcases receive d.wanted w with ⟨e | arrival, w'⟩
    · exact timed_none rfl rfl rfl
    · exact timed_absorb now arrival d
  · rw [pull_of_parse_ne hresult]
    exact timed_parse now d

/-! ### Runs -/

/-- What a run of calls does to all that a deframer knows of time, while its calibration stays. -/
structure RunTimed (c : Calibration) (d : Deframer) (frames : List Frame) (d' : Deframer) :
    Prop where
  baseTime : d'.baseTime = d.baseTime
  pts : ∀ f ∈ frames, f.buffer.pts = c.presented d.baseTime f.header.captureTimestamp
  clamped : d'.clamped = d.clamped +
    frames.countP (c.predates d.baseTime ·.header.captureTimestamp)

theorem RunTimed.cons {c : Calibration} {d'' : Deframer} {frame : Option Frame}
    {frames : List Frame} (h : Timed now d frame d') (hc : d'.clock.calibration = c)
    (hrun : RunTimed c d' frames d'') : RunTimed c d (frame.toList ++ frames) d'' := by
  obtain ⟨hbase, hpts, hclamped⟩ := hrun
  rw [h.baseTime] at hbase hpts hclamped
  refine ⟨hbase, ?_, ?_⟩
  · rw [List.forall_mem_append]
    refine ⟨?_, hpts⟩
    intro f hf
    rw [← hc]
    exact h.pts f (Option.mem_toList.mp hf)
  · rw [hclamped, h.clamped, hc, List.countP_append, Nat.add_assoc]

/-- What a run does to the clock, the base time and the counter. -/
theorem timed_pulls (receive : Receiver (StateM ω)) {clocks : List Readings} {d : Deframer} {w : ω}
    {c : Calibration}
    (hc : ∀ n, (pulls receive (clocks.take n) d w).2.1.clock.calibration = c) :
    RunTimed c d (frames (pulls receive clocks d w).1) (pulls receive clocks d w).2.1 := by
  induction clocks generalizing d w with
  | nil => exact ⟨rfl, nofun, rfl⟩
  | cons now later ih =>
    have hpull := timed_pull now receive d w
    -- What holds at the later points of this run holds at all points of the rest of it.
    have hlater (n : Nat) := hc (n + 1)
    simp only [List.take_succ_cons, pulls] at hlater ⊢
    generalize d.pull now receive w = called at hpull hlater ⊢
    obtain ⟨step, w'⟩ := called
    rw [frames_cons]
    have hfirst : step.deframer.clock.calibration = c := hlater 0
    exact .cons hpull hfirst (ih hlater)

/-- A clock that has nothing to take a sample of stays as it is. -/
theorem clock_pulls (receive : Receiver (StateM ω)) {clocks : List Readings} {d : Deframer} (w : ω)
    (h : ∀ now ∈ clocks, d.clock.sync now = d.clock) :
    (pulls receive clocks d w).2.1.clock = d.clock := by
  induction clocks generalizing d w with
  | nil => rfl
  | cons now later ih =>
    rw [List.forall_mem_cons] at h
    obtain ⟨hnow, hlater⟩ := h
    have hclock := (timed_pull now receive d w).clock
    rw [hnow, or_self] at hclock
    rw [pulls]
    generalize d.pull now receive w = called at hclock ⊢
    obtain ⟨step, w'⟩ := called
    rw [← hclock] at hlater ⊢
    exact ih w' hlater

end Deframer

/-- A call that pulls. -/
structure Receiving (ω : Type) where
  deframer : Deframer
  now : Readings
  receive : Receiver (StateM ω)
  world : ω

namespace Receiving

variable {ω ω' : Type} {u : Receiving ω} {v : Receiving ω'} {a b : Frame} {s t : Word}

/-- What comes of a receiving. -/
def result (u : Receiving ω) : Result FrameError FrameOutcome :=
  (u.deframer.pull u.now u.receive u.world).1.result

/-- The deframer afterwards. -/
def after (u : Receiving ω) : Deframer :=
  (u.deframer.pull u.now u.receive u.world).1.deframer

/-- A frame's time is what its timestamp comes to under the calibration of the call. -/
theorem pts_eq (h : u.result = .ok (.frame a)) : a.buffer.pts =
    u.after.clock.calibration.presented u.deframer.baseTime a.header.captureTimestamp := by
  have htimed := Deframer.timed_pull u.now u.receive u.deframer u.world
  apply htimed.pts
  rw [← result, h, Deframer.frame?]

/-- Two calls with one base time, or none, and one calibration. -/
structure Agrees (u : Receiving ω) (v : Receiving ω') : Prop where
  baseTime : u.deframer.baseTime = v.deframer.baseTime
  calibration : u.after.clock.calibration = v.after.clock.calibration

/-- Of two frames with one calibration, the later timestamp has the later time. -/
theorem Agrees.pts_mono (h : u.Agrees v) (ha : u.result = .ok (.frame a))
    (hb : v.result = .ok (.frame b)) (hs : a.buffer.pts = some s) (ht : b.buffer.pts = some t)
    (hle : a.header.captureTimestamp ≤ b.header.captureTimestamp) : s ≤ t := by
  rw [pts_eq ha] at hs
  rw [pts_eq hb, ← h.baseTime, ← h.calibration] at ht
  exact Calibration.presented_mono _ _ hle hs ht

end Receiving

/-- **Presentation order is kept.** Both translations of a calibration keep the order of times, over
the whole range of words and whatever the calibration. So two buffers that are sent with one base
time and one calibration get capture timestamps in the order of their presentation times, and if
both are received with one base time, or without one, and with one calibration, and shown at all,
they are shown in this order. -/
theorem presentation_order_kept :
    (∀ (c : Calibration) {s t : Word}, s ≤ t →
      c.adjust s ≤ c.adjust t ∧ c.unadjust s ≤ c.unadjust t) ∧
    ∀ {x y : Sending} {p q : Packet} {s t : Word}, x.Agrees y → x.result = .ok p →
      y.result = .ok q → x.buffer.pts = some s → y.buffer.pts = some t → s ≤ t →
      p.header.captureTimestamp ≤ q.header.captureTimestamp ∧
      ∀ {ω ω' : Type} {u : Receiving ω} {v : Receiving ω'} {a b : Frame} {s' t' : Word},
        u.Agrees v → u.result = .ok (.frame a) → v.result = .ok (.frame b) →
        a.header = p.header → b.header = q.header →
        a.buffer.pts = some s' → b.buffer.pts = some t' → s' ≤ t' := by
  refine ⟨?_, ?_⟩
  · intro c s t hle
    exact ⟨c.adjust_mono hle, c.unadjust_mono hle⟩
  · intro x y p q s t hsent hp hq hs ht hle
    have hcapture := hsent.captureTimestamp_mono hp hq hs ht hle
    refine ⟨hcapture, ?_⟩
    intro ω ω' u v a b s' t' hreceived ha hb hap hbq hs' ht'
    rw [← hap, ← hbq] at hcapture
    exact hreceived.pts_mono ha hb hs' ht' hcapture

/-- A buffer without bytes, sent by a clock that runs at half the pace of its master. -/
def halfPace (pts : Word) : Sending :=
  { framer := { clock := { calibration := ⟨0, 0, 2, 1⟩ }, baseTime := 10 }
    now := default
    buffer := ⟨.heap [], some pts⟩ }

/-- A frame without bytes, received by a clock of which the calibration has no denominator. -/
def withoutSlope (timestamp : Word) : Receiving Unit :=
  { deframer := Deframer.push (Header.inlined timestamp 0).encode []
      { clock := { calibration := ⟨10, 100, 1, 0⟩ }, baseTime := some 50 }
    now := default
    receive := fun _ => pure (.error (.bare .wouldBlock))
    world := () }

theorem presentation_order_kept_withoutSlope :
    let p : Packet := ⟨.inlined 7 0, .inlined []⟩
    let q : Packet := ⟨.inlined 15 0, .inlined []⟩
    let a : Frame := ⟨.inlined 7 0, .heap [], some 0⟩
    let b : Frame := ⟨.inlined 15 0, .heap [], some (Word.top - 50)⟩
    (halfPace 5).result = .ok p ∧ (halfPace 20).result = .ok q ∧
    (withoutSlope 7).result = .ok (.frame a) ∧ (withoutSlope 15).result = .ok (.frame b) ∧
    p.header.captureTimestamp ≤ q.header.captureTimestamp ∧ (0 : Word) ≤ Word.top - 50 := by
  intro p q a b
  have hp : (halfPace 5).result = .ok p := rfl
  have hq : (halfPace 20).result = .ok q := rfl
  have ha : (withoutSlope 7).result = .ok (.frame a) := rfl
  have hb : (withoutSlope 15).result = .ok (.frame b) := rfl
  have hsent : (halfPace 5).Agrees (halfPace 20) := ⟨rfl, rfl⟩
  have hreceived : (withoutSlope 7).Agrees (withoutSlope 15) := ⟨rfl, rfl⟩
  obtain ⟨hcapture, hshown⟩ :=
    presentation_order_kept.2 hsent hp hq rfl rfl (by decide : (5 : Word) ≤ 20)
  exact ⟨hp, hq, ha, hb, hcapture, hshown hreceived ha hb rfl rfl rfl rfl⟩

end Framecast
