import Framecast.Proofs.Frame.Delivery

/-!
# Exact times under clocks that run one to one

A clock that was attached to a master and not refitted since translates by an addition and a
subtraction. If both ends have such a clock and no time on the way leaves the range of words, then
nothing is rounded and only what comes before the receiver's base time is clipped. `Terms` are the
six offsets of which the times on the way are made, in exact integers, and `exact_timestamps` says
that a framer and a deframer compute these times.
-/

namespace Framecast

namespace ClockFollower

/-- The clock was attached to a master by this sample, and no fit has changed its calibration
since. -/
inductive Slaved (sample : Clock.Sample) : ClockFollower → Prop
  | attached (now : Readings) (master : Nat) (f : ClockFollower)
      (h : sampleOf now master = sample) : Slaved sample (f.attach now master)
  | synced (now : Readings) {f : ClockFollower} (h : Slaved sample f)
      (hsame : (f.sync now).calibration = f.calibration) : Slaved sample (f.sync now)
  | detached {f : ClockFollower} (h : Slaved sample f) : Slaved sample f.detach

theorem Slaved.calibration {sample : Clock.Sample} {f : ClockFollower} (h : Slaved sample f) :
    f.calibration = .through sample.internal sample.external := by
  induction h with
  | attached now master f h =>
    subst h
    rfl
  | synced now h hsame ih => exact hsame.trans ih
  | detached h ih => exact ih

end ClockFollower

/-- How two clocks run one to one with their masters: the sample by which each was attached, and the
base times. -/
structure Terms where
  sender : Clock.Sample
  senderBase : Word
  receiver : Clock.Sample
  receiverBase : Word
  deriving DecidableEq, Repr

namespace Terms

/-- The time of capture in the sender's clock. -/
def capture (k : Terms) (pts : Word) : Int :=
  k.senderBase.toNat + pts.toNat - k.sender.external.toNat + k.sender.internal.toNat

/-- The same in the time of the receiver's master. -/
def arrival (k : Terms) (pts : Word) : Int :=
  k.capture pts - k.receiver.internal.toNat + k.receiver.external.toNat

/-- No time on the way leaves the range of words. Zero is no time of capture. -/
structure Fits (k : Terms) (pts : Word) : Prop where
  sum_lt : k.senderBase.toNat + pts.toNat < 0x10000000000000000
  capture_pos : 0 < k.capture pts
  capture_lt : k.capture pts < 0x10000000000000000
  arrival_nonneg : 0 ≤ k.arrival pts
  arrival_lt : k.arrival pts < 0x10000000000000000

variable {k : Terms} {pts timestamp : Word}

/-- The machine computes the exact time of capture. -/
theorem Fits.capture_eq (h : k.Fits pts) :
    (((Calibration.through k.sender.internal k.sender.external).unadjust
      (k.senderBase.satAdd pts)).toNat : Int) = k.capture pts := by
  have hsum := h.sum_lt
  have hpos := h.capture_pos
  have hlt := h.capture_lt
  rw [Calibration.toNat_unadjust_through, Word.toNat_satAdd]
  unfold capture at hpos hlt ⊢
  omega

/-- The machine computes the exact time on the receiver's side. -/
theorem Fits.arrival_eq (h : k.Fits pts) (htime : (timestamp.toNat : Int) = k.capture pts) :
    (((Calibration.through k.receiver.internal k.receiver.external).adjust timestamp).toNat : Int) =
      k.arrival pts := by
  have hnonneg := h.arrival_nonneg
  have hlt := h.arrival_lt
  rw [Calibration.toNat_adjust_through]
  unfold arrival at hnonneg hlt ⊢
  omega

/-- A time of capture in range is not taken for an unknown one. -/
theorem Fits.ne_zero (h : k.Fits pts) (htime : (timestamp.toNat : Int) = k.capture pts) :
    timestamp ≠ 0 := by
  have hpos := h.capture_pos
  intro hzero
  rw [hzero, UInt64.toNat_zero] at htime
  omega

/-- The presentation time is the exact one, or zero where that would be earlier. -/
theorem Fits.presented_eq (h : k.Fits pts) (htime : (timestamp.toNat : Int) = k.capture pts) :
    ((Calibration.through k.receiver.internal k.receiver.external).presented (some k.receiverBase)
      timestamp).map (fun t => (t.toNat : Int)) =
        some (max 0 (k.arrival pts - k.receiverBase.toNat)) := by
  have harrival := h.arrival_eq htime
  rw [Calibration.presented, if_neg (h.ne_zero htime), Option.map_some, Option.some.injEq,
    Word.toNat_satSub]
  omega

theorem Fits.predates_eq (h : k.Fits pts) (htime : (timestamp.toNat : Int) = k.capture pts) :
    (Calibration.through k.receiver.internal k.receiver.external).predates (some k.receiverBase)
      timestamp = decide (k.arrival pts < k.receiverBase.toNat) := by
  have harrival := h.arrival_eq htime
  have hne := h.ne_zero htime
  simp only [Calibration.predates, Option.any_some, UInt64.lt_iff_toNat_lt]
  simp [hne]
  omega

end Terms

/-- A buffer with a presentation time, and the packet that was prepared for it. -/
structure Posted where
  sending : Sending
  pts : Word
  packet : Packet
  hpts : sending.buffer.pts = some pts
  hresult : sending.result = .ok packet

namespace Posted

/-- The buffer was sent on these terms, and a receiver with this limit accepts it. -/
structure Meets (k : Terms) (limit : Word) (x : Posted) : Prop where
  clock : x.sending.after.clock.Slaved k.sender
  baseTime : x.sending.framer.baseTime = k.senderBase
  fits : k.Fits x.pts
  sound : x.sending.buffer.Sound
  accepted : x.sending.framer.config.inlineThreshold ≤ limit

variable {k : Terms} {limit : Word} {x : Posted}

theorem Meets.packet_sound (h : x.Meets k limit) : x.packet.Sound limit :=
  (Framer.prepare_ok h.sound h.accepted x.hresult).1

theorem Meets.capture_eq (h : x.Meets k limit) :
    (x.packet.header.captureTimestamp.toNat : Int) = k.capture x.pts := by
  rw [Sending.captureTimestamp_eq x.hresult x.hpts, h.clock.calibration, h.baseTime]
  exact h.fits.capture_eq

end Posted

/-- The packets on their way to a receiver. -/
def Posted.source (sent : List Posted) (turns : List Turn) : Source :=
  ⟨Packet.stream (sent.map (·.packet)), false, turns⟩

/-- The presentation time as an exact number. -/
def Frame.shown (f : Frame) : Option Int :=
  f.buffer.pts.map fun t => (t.toNat : Int)

namespace Deframer

variable {d : Deframer}

/-- Frames that were shown by the receiver's clock of these terms. -/
theorem shown_on_terms {k : Terms} {limit : Word} {frames : List Frame} {received : List Posted}
    (hmeets : ∀ x ∈ received, x.Meets k limit)
    (hheaders : frames.map (·.header) = received.map (·.packet.header))
    {d' : Deframer} (hbase : d.baseTime = some k.receiverBase)
    (htimed : RunTimed (.through k.receiver.internal k.receiver.external) d frames d') :
    frames.map Frame.shown =
        received.map (fun x => some (max 0 (k.arrival x.pts - k.receiverBase.toNat))) ∧
      d'.clamped = d.clamped +
        received.countP (fun x => k.arrival x.pts < k.receiverBase.toNat) := by
  obtain ⟨-, hpts, hclamped⟩ := htimed
  rw [hbase] at hpts hclamped
  let c : Calibration := .through k.receiver.internal k.receiver.external
  refine ⟨?_, ?_⟩
  · calc frames.map Frame.shown
        = (frames.map (·.header)).map fun h =>
            (c.presented (some k.receiverBase) h.captureTimestamp).map fun t => (t.toNat : Int) := by
          rw [List.map_map]
          apply List.map_congr_left
          intro f hf
          rw [Frame.shown, hpts f hf]
          rfl
      _ = received.map fun x => some (max 0 (k.arrival x.pts - k.receiverBase.toNat)) := by
          rw [hheaders, List.map_map]
          apply List.map_congr_left
          intro x hx
          exact (hmeets x hx).fits.presented_eq (hmeets x hx).capture_eq
  · rw [hclamped, Nat.add_left_cancel_iff]
    calc frames.countP (c.predates (some k.receiverBase) ·.header.captureTimestamp)
        = (frames.map (·.header)).countP
            (c.predates (some k.receiverBase) ·.captureTimestamp) := by
          rw [List.countP_map]
          rfl
      _ = received.countP fun x => k.arrival x.pts < k.receiverBase.toNat := by
          rw [hheaders, List.countP_map]
          apply List.countP_congr
          intro x hx
          rw [Function.comp_apply, (hmeets x hx).fits.predates_eq (hmeets x hx).capture_eq]

/-- **Exact times.** Preparing a buffer fails only for want of memory, if no buffer that goes inline
is too large. Let buffers be prepared by clocks that run one to one, and let their packets be
received, in whatever pieces, by a clock that runs one to one all the time. Then every header
carries the exact time of capture. The frames are returned in order, all of them if the deframer is
called often enough, and each is shown at its exact distance from the receiver's base time, or at
once if it was captured before; only these are counted as clamped. So the distance of two frames
that are not clamped is the distance of the buffers. -/
theorem exact_timestamps (k : Terms) (d : Deframer) (sent : List Posted) (turns : List Turn)
    (clocks : List Readings) (hsent : ∀ x ∈ sent, x.Meets k d.config.maxInline)
    (hidle : d.hasPartial = false) (hbase : d.baseTime = some k.receiverBase)
    (hslaved : ∀ n, (pulls Source.receiver (clocks.take n) d
      (Posted.source sent turns)).2.1.clock.Slaved k.receiver) :
    let source := Posted.source sent turns
    let run := pulls Source.receiver clocks d source
    let frames := frames run.1
    let received := sent.take frames.length
    (∀ x : Sending, x.framer.config.inlineThreshold ≤ x.framer.config.maxInline →
      ∀ e, x.result = .error e → x.framer.CopyFails x.names x.buffer e) ∧
    (∀ x ∈ sent, (x.packet.header.captureTimestamp.toNat : Int) = k.capture x.pts) ∧
    frames.map Frame.event = received.map (·.packet.event) ∧
    (clocks.length ≤ frames.length + source.patience ∨ received = sent) ∧
    frames.map Frame.shown =
      received.map (fun x => some (max 0 (k.arrival x.pts - k.receiverBase.toNat))) ∧
    run.2.1.clamped = d.clamped +
      received.countP (fun x => k.arrival x.pts < k.receiverBase.toNat) ∧
    ∀ {i j : Nat} {f g : Frame} {x y : Posted} {s t : Int},
      frames[i]? = some f → frames[j]? = some g → sent[i]? = some x → sent[j]? = some y →
      k.receiverBase.toNat ≤ k.arrival x.pts → k.receiverBase.toNat ≤ k.arrival y.pts →
      f.shown = some s → g.shown = some t → s - t = x.pts.toNat - y.pts.toNat := by
  intro source run frames received
  obtain ⟨hevents, hcount⟩ :=
    frames_posted (fun x hx => (hsent x hx).packet_sound) hidle turns clocks
  have hheaders : frames.map (·.header) = received.map (·.packet.header) :=
    map_header_of_map_event hevents
  have hmeets : ∀ x ∈ received, x.Meets k d.config.maxInline :=
    fun x hx => hsent x (List.mem_of_mem_take hx)
  obtain ⟨hshown, hclamped⟩ := shown_on_terms hmeets hheaders hbase
    (timed_pulls Source.receiver fun n => (hslaved n).calibration)
  have hexact {i : Nat} {f : Frame} {x : Posted} (hf : frames[i]? = some f)
      (hx : sent[i]? = some x) :
      f.shown = some (max 0 (k.arrival x.pts - k.receiverBase.toNat)) := by
    have hi : i < frames.length := (List.getElem?_eq_some_iff.mp hf).1
    have hat := congrArg (fun shown => shown[i]?) hshown
    simpa [hf, hx, received, List.getElem?_take_of_lt hi] using hat
  refine ⟨?_, fun x hx => (hsent x hx).capture_eq, hevents, ?_, hshown, hclamped, ?_⟩
  · intro x hthreshold e he
    exact Framer.prepare_error hthreshold he
  · refine hcount.imp_right ?_
    intro hall
    exact List.take_of_length_le (Nat.le_of_eq hall.symm)
  · intro i j f g x y s t hf hg hx hy hlex hley hs ht
    rw [hexact hf hx, Option.some.injEq] at hs
    rw [hexact hg hy, Option.some.injEq] at ht
    unfold Terms.arrival Terms.capture at *
    omega

/-- Two ends that show the same internal time, with masters of their own. -/
def sameClock : Terms :=
  { sender := ⟨7000000, 1000000⟩
    senderBase := 1000000
    receiver := ⟨7000000, 50000000⟩
    receiverBase := 50000300 }

/-- What the sender's clocks show. -/
def senderClocks : Readings :=
  ⟨7000000, fun _ => 1000000⟩

/-- The clocks on a receiver's side, whose master runs ahead of its own clock. -/
def receiverClocks : Readings :=
  ⟨7000000, fun _ => 50000000⟩

/-- A sender's clock that has just been attached to its master. -/
def senderFollower : ClockFollower :=
  ClockFollower.attach senderClocks 0 {}

/-- A byte that is sent right after the attachment. -/
def oneByte (pts : Word) : Sending :=
  { framer :=
      { config := { inlineThreshold := 16 }, clock := senderFollower, baseTime := 1000000 }
    now := senderClocks
    buffer := ⟨.heap [1], some pts⟩ }

/-- A receiver that follows its master and knows the base time. -/
def listener : Deframer :=
  { config := { maxInline := 16 }
    clock := ClockFollower.attach receiverClocks 0 {}
    baseTime := some 50000300 }

/-- Of two buffers the first is from before the receiver's base time. -/
theorem exact_timestamps_sameClock :
    let early : Posted := ⟨oneByte 250, 250, ⟨.inlined 7000250 1, .inlined [1]⟩, rfl, rfl⟩
    let late : Posted := ⟨oneByte 1000, 1000, ⟨.inlined 7001000 1, .inlined [1]⟩, rfl, rfl⟩
    let run := pulls Source.receiver (List.replicate 60 receiverClocks) listener
      (Posted.source [early, late] [.bring 3])
    (frames run.1).map Frame.shown = [some 0, some 700] ∧ run.2.1.clamped = 1 := by
  intro early late run
  have hsender : senderFollower.sync senderClocks = senderFollower := rfl
  have hclock (pts : Word) : (oneByte pts).after.clock.Slaved sameClock.sender := by
    rw [Sending.after, (Framer.prepare_times ..).1]
    show (senderFollower.sync senderClocks).Slaved sameClock.sender
    rw [hsender]
    exact .attached senderClocks 0 {} rfl
  have hbyte : 1 < 0x8000000000000000 := by decide
  have hsent : ∀ x ∈ [early, late], x.Meets sameClock listener.config.maxInline := by
    rw [List.forall_mem_cons, List.forall_mem_singleton]
    have hearly : sameClock.Fits 250 := by constructor <;> decide
    have hlate : sameClock.Fits 1000 := by constructor <;> decide
    exact ⟨⟨hclock 250, rfl, hearly, hbyte, UInt64.le_refl _⟩,
      ⟨hclock 1000, rfl, hlate, hbyte, UInt64.le_refl _⟩⟩
  have hreceiver : ∀ now ∈ List.replicate 60 receiverClocks,
      listener.clock.sync now = listener.clock := by
    intro now hnow
    rw [List.eq_of_mem_replicate hnow]
    rfl
  have hslaved (n : Nat) : (pulls Source.receiver ((List.replicate 60 receiverClocks).take n)
      listener (Posted.source [early, late] [.bring 3])).2.1.clock.Slaved sameClock.receiver := by
    rw [clock_pulls _ _ fun now hnow => hreceiver now (List.mem_of_mem_take hnow)]
    exact .attached receiverClocks 0 {} rfl
  obtain ⟨-, -, hevents, hcount, hshown, hclamped, -⟩ :=
    exact_timestamps sameClock listener [early, late] [.bring 3] (List.replicate 60 receiverClocks)
      hsent rfl rfl hslaved
  have hpatience : (Posted.source [early, late] [.bring 3]).patience = 51 := by
    simp [Posted.source, Source.patience, Packet.length_stretch, Packet.body, Header.length,
      early, late]
  have hlength := congrArg List.length hevents
  simp only [List.length_map, List.length_take, List.length_cons, List.length_nil] at hlength
  have hall := hcount.resolve_left (by rw [hpatience, List.length_replicate]; omega)
  rw [hall] at hshown hclamped
  refine ⟨?_, ?_⟩
  · rw [hshown]
    decide
  · rw [hclamped]
    decide

end Deframer

end Framecast
