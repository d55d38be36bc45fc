import Framecast.Proofs.Frame.Delivery

/-!
# Which presentation times arrive

On the wire zero stands for an unknown time of capture, but to a calibration zero is a time like
others: the sender's own clock shows it at its start, and everything earlier is clipped to it. A
buffer whose time is carried there is sent as if it had none. `Calibration.Vanishes` says in exact
numbers which times these are, and `presence_kept_iff` that no other presentation time is lost
between a framer and a deframer.
-/

namespace Framecast

namespace Word

variable {a b : Word}

theorem satAdd_eq_zero_iff : a.satAdd b = 0 ↔ a = 0 ∧ b = 0 := by
  simp only [← UInt64.toNat_inj, toNat_satAdd, UInt64.toNat_zero]
  omega

theorem satSub_eq_zero_iff : a.satSub b = 0 ↔ a ≤ b := by
  rw [← UInt64.toNat_inj, toNat_satSub, UInt64.toNat_zero, UInt64.le_iff_toNat_le]
  omega

end Word

namespace Calibration

/-- The line carries this external time to zero. At the anchor or behind it, only an anchor at zero
is rounded down to zero; before it, what is as far away as zero or farther is clipped. -/
def Vanishes (c : Calibration) (time : Word) : Prop :=
  if c.external ≤ time then
    c.internal = 0 ∧ (time.toNat - c.external.toNat) * c.denom.toNat < c.num.toNat
  else c.internal.toNat * c.num.toNat ≤ (c.external.toNat - time.toNat) * c.denom.toNat

instance (c : Calibration) (time : Word) : Decidable (c.Vanishes time) := by
  unfold Vanishes
  infer_instance

variable {value num denom time : Word}

/-- Scaling comes to zero exactly below one unit. -/
theorem scale_eq_zero_iff :
    scale value num denom = 0 ↔ value.toNat * num.toNat < denom.toNat := by
  by_cases hdenom : denom = 0
  · simp [scale, hdenom, Word.top]
  · have hpos : 0 < denom.toNat := UInt64.pos_iff_ne_zero.mpr hdenom
    have hmin : ∀ n : Nat, min n 0xffffffffffffffff = 0 ↔ n = 0 := by omega
    rw [← UInt64.toNat_inj, toNat_scale hdenom, UInt64.toNat_zero, hmin, Nat.div_eq_zero_iff]
    omega

/-- Scaling reaches a bound exactly where the exact quotient does. -/
theorem le_scale_iff (bound : Word) : bound ≤ scale value num denom ↔
    bound.toNat * denom.toNat ≤ value.toNat * num.toNat := by
  by_cases hdenom : denom = 0
  · have htop : bound ≤ Word.top := UInt64.le_iff_toNat_le.mpr (Word.toNat_le_top bound)
    simp [scale, hdenom, htop]
  · have hpos : 0 < denom.toNat := UInt64.pos_iff_ne_zero.mpr hdenom
    have hlt := bound.toNat_lt
    rw [UInt64.le_iff_toNat_le, toNat_scale hdenom, ← Nat.le_div_iff_mul_le hpos]
    omega

/-- The times whose internal time is zero. -/
theorem unadjust_eq_zero_iff {c : Calibration} : c.unadjust time = 0 ↔ c.Vanishes time := by
  unfold unadjust carry Vanishes
  split
  · rename_i hle
    rw [Word.satAdd_eq_zero_iff, scale_eq_zero_iff, UInt64.toNat_sub_of_le _ _ hle]
  · rename_i hlt
    rw [UInt64.not_le] at hlt
    rw [Word.satSub_eq_zero_iff, le_scale_iff, UInt64.toNat_sub_of_le _ _ (UInt64.le_of_lt hlt)]

/-- A receiver tells a time exactly of frames whose timestamp is not the mark. -/
theorem presented_isSome (c : Calibration) (baseTime : Option Word) (timestamp : Word) :
    (c.presented baseTime timestamp).isSome = decide (timestamp ≠ 0) := by
  unfold presented
  split
  · simp [*]
  · cases baseTime <;> simp [*]

end Calibration

namespace Sending

/-- The buffer has a presentation time that is carried to the time that stands for unknown. -/
def vanishes (x : Sending) : Bool :=
  x.buffer.pts.any fun t => x.after.clock.calibration.Vanishes (x.framer.baseTime.satAdd t)

variable {x : Sending} {p : Packet}

/-- A packet carries the mark if its buffer has no time, or one that vanishes. -/
theorem captureTimestamp_eq_zero_iff (h : x.result = .ok p) :
    p.header.captureTimestamp = 0 ↔ x.buffer.pts = none ∨ x.vanishes = true := by
  cases hpts : x.buffer.pts with
  | none =>
    have hzero : p.header.captureTimestamp = 0 := by
      rw [Framer.captureTimestamp_of_prepare h, hpts]
      rfl
    simp [hzero]
  | some t =>
    rw [captureTimestamp_eq h hpts, Calibration.unadjust_eq_zero_iff]
    simp [vanishes, hpts]

/-- The frame will have a presentation time. -/
def isTimed (x : Sending) : Bool :=
  x.buffer.pts.isSome && !x.vanishes

theorem isTimed_eq (h : x.result = .ok p) :
    decide (p.header.captureTimestamp ≠ 0) = x.isTimed := by
  rw [isTimed, Bool.eq_iff_iff, decide_eq_true_iff, ne_eq, captureTimestamp_eq_zero_iff h]
  simp [Option.isSome_iff_ne_none]

/-- Presence is kept exactly if the time does not vanish. -/
theorem isTimed_eq_isSome_iff : x.isTimed = x.buffer.pts.isSome ↔ x.vanishes = false := by
  cases hpts : x.buffer.pts <;> simp [isTimed, vanishes, hpts]

end Sending

namespace Deframer

/-- A frame has a presentation time if its header has a time of capture, whatever became of the
calibration meanwhile. -/
theorem isSome_pts_pulls {ω : Type} (receive : Receiver (StateM ω)) (clocks : List Readings)
    (d : Deframer) (w : ω) : ∀ f ∈ frames (pulls receive clocks d w).1,
      f.buffer.pts.isSome = decide (f.header.captureTimestamp ≠ 0) := by
  induction clocks generalizing d w with
  | nil => exact nofun
  | cons now later ih =>
    have hpull := timed_pull now receive d w
    rw [pulls]
    generalize d.pull now receive w = called at hpull ⊢
    obtain ⟨step, w'⟩ := called
    rw [frames_cons, List.forall_mem_append]
    refine ⟨?_, ih step.deframer w'⟩
    intro f hf
    rw [hpull.pts f (Option.mem_toList.mp hf), Calibration.presented_isSome]

end Deframer

/-- A buffer, with or without a presentation time, and the packet that was prepared for it. -/
structure Dispatch where
  sending : Sending
  packet : Packet
  hresult : sending.result = .ok packet

namespace Dispatch

/-- The process can hold the buffer, and a receiver with this limit accepts its packet. -/
structure Suits (limit : Word) (x : Dispatch) : Prop where
  sound : x.sending.buffer.Sound
  accepted : x.sending.framer.config.inlineThreshold ≤ limit

theorem Suits.packet_sound {limit : Word} {x : Dispatch} (h : x.Suits limit) :
    x.packet.Sound limit :=
  (Framer.prepare_ok h.sound h.accepted x.hresult).1

end Dispatch

namespace Deframer

/-- **Which presentation times arrive.** The header of a packet says "unknown" exactly if the buffer
has no presentation time or one that vanishes. The frames that are received are those that were
sent, in order, and all of them if the deframer is called often enough; a frame has a presentation
time exactly if its header has a time of capture. So frames and buffers agree on having one if and
only if none of the buffers has one that vanishes. -/
theorem presence_kept_iff (d : Deframer) (sent : List Dispatch) (turns : List Turn)
    (clocks : List Readings) (hsent : ∀ x ∈ sent, x.Suits d.config.maxInline)
    (hidle : d.hasPartial = false) :
    let source : Source := ⟨Packet.stream (sent.map (·.packet)), false, turns⟩
    let frames := frames (pulls Source.receiver clocks d source).1
    let received := sent.take frames.length
    (∀ (x : Sending) (p : Packet), x.result = .ok p →
      (p.header.captureTimestamp = 0 ↔ x.buffer.pts = none ∨ x.vanishes = true)) ∧
    frames.map Frame.event = received.map (·.packet.event) ∧
    (clocks.length ≤ frames.length + source.patience ∨ received = sent) ∧
    frames.map (·.buffer.pts.isSome) = received.map (·.sending.isTimed) ∧
    (frames.map (·.buffer.pts.isSome) = received.map (·.sending.buffer.pts.isSome) ↔
      ∀ x ∈ received, x.sending.vanishes = false) := by
  intro source frames received
  obtain ⟨hevents, hcount⟩ :=
    frames_posted (fun x hx => (hsent x hx).packet_sound) hidle turns clocks
  have hheaders : frames.map (·.header) = received.map (·.packet.header) :=
    map_header_of_map_event hevents
  have htimed : frames.map (·.buffer.pts.isSome) = received.map (·.sending.isTimed) := by
    calc frames.map (·.buffer.pts.isSome)
        = (frames.map (·.header)).map fun h => decide (h.captureTimestamp ≠ 0) := by
          rw [List.map_map]
          exact List.map_congr_left (isSome_pts_pulls Source.receiver clocks d source)
      _ = received.map (·.sending.isTimed) := by
          rw [hheaders, List.map_map]
          exact List.map_congr_left fun x _ => Sending.isTimed_eq x.hresult
  refine ⟨fun x p h => Sending.captureTimestamp_eq_zero_iff h, hevents, ?_, htimed, ?_⟩
  · refine hcount.imp_right ?_
    intro hall
    exact List.take_of_length_le (Nat.le_of_eq hall.symm)
  · rw [htimed, List.map_inj_left]
    simp only [Sending.isTimed_eq_isSome_iff]

/-- A byte with this presentation time, sent by a framer that was never attached to a master. -/
def plainByte (pts : Word) : Sending :=
  { framer := { config := { inlineThreshold := 16 } }
    now := default
    buffer := ⟨.heap [1], some pts⟩ }

/-- A receiver that has received nothing yet. -/
def newcomer : Deframer :=
  { config := { maxInline := 16 } }

/-- The first moment of a stream vanishes, the next one arrives. -/
theorem presence_kept_iff_firstMoment :
    let first : Dispatch := ⟨plainByte 0, ⟨.inlined 0 1, .inlined [1]⟩, rfl⟩
    let second : Dispatch := ⟨plainByte 1, ⟨.inlined 1 1, .inlined [1]⟩, rfl⟩
    let run := pulls Source.receiver (List.replicate 60 default) newcomer
      ⟨Packet.stream [first.packet, second.packet], false, [.bring 3]⟩
    [first, second].map (·.sending.buffer.pts.isSome) = [true, true] ∧
    (frames run.1).map (·.buffer.pts.isSome) = [false, true] := by
  intro first second run
  have hbyte : 1 < 0x8000000000000000 := by decide
  have hsent : ∀ x ∈ [first, second], x.Suits newcomer.config.maxInline := by
    rw [List.forall_mem_cons, List.forall_mem_singleton]
    exact ⟨⟨hbyte, UInt64.le_refl _⟩, ⟨hbyte, UInt64.le_refl _⟩⟩
  obtain ⟨-, hevents, hcount, htimed, -⟩ :=
    presence_kept_iff newcomer [first, second] [.bring 3] (List.replicate 60 default) hsent rfl
  have hpatience : (⟨Packet.stream ([first, second].map (·.packet)), false, [.bring 3]⟩ :
      Source).patience = 51 := by
    simp [Source.patience, Packet.length_stretch, Packet.body, Header.length, first, second]
  have hlength := congrArg List.length hevents
  simp only [List.length_map, List.length_take, List.length_cons, List.length_nil] at hlength
  rw [hpatience, List.length_replicate] at hcount
  have hall := hcount.resolve_left (by omega)
  rw [hall] at htimed
  exact ⟨rfl, htimed⟩

end Deframer

end Framecast
