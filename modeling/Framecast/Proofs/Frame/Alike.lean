import Framecast.Proofs.Frame.Refusal

/-!
# Deframers that hold the same

What a deframer does depends on the bytes it holds, not on the pieces in which they came nor on the
stream that is noted for them. Deframers that are alike in everything else find the same frames and
errors, ask for the same number of bytes and stay alike.
-/

namespace Framecast

namespace Deframer

/-- The same but for the pieces of the backlog and the noted stream. -/
structure Alike (d d' : Deframer) : Prop where
  config : d'.config = d.config
  buffered : d'.buffered = d.buffered
  pending : d'.pending = d.pending
  clock : d'.clock = d.clock
  baseTime : d'.baseTime = d.baseTime
  clamped : d'.clamped = d.clamped

/-- The parses tell the same and leave deframers that hold the same. -/
structure Parsed.Alike (p p' : Parsed) : Prop where
  result : p'.result = p.result
  deframer : p.deframer.Alike p'.deframer
  released : p'.released = p.released

/-- The steps tell the same and leave deframers that hold the same. -/
structure Step.Alike (s s' : Step) : Prop where
  result : s'.result = s.result
  deframer : s.deframer.Alike s'.deframer
  released : s'.released = s.released

variable {d d' : Deframer}

namespace Alike

theorem refl (d : Deframer) : d.Alike d :=
  ⟨rfl, rfl, rfl, rfl, rfl, rfl⟩

theorem trans {d'' : Deframer} (h : d.Alike d') (h' : d'.Alike d'') : d.Alike d'' :=
  ⟨h'.config.trans h.config, h'.buffered.trans h.buffered, h'.pending.trans h.pending,
    h'.clock.trans h.clock, h'.baseTime.trans h.baseTime, h'.clamped.trans h.clamped⟩

theorem header?_eq (h : d.Alike d') : d'.header? = d.header? := by
  have hbytes : d'.backlog.toBytes = d.backlog.toBytes := h.buffered
  rw [header?, header?, Backlog.take_eq, Backlog.take_eq, hbytes]

theorem length_eq (h : d.Alike d') : d'.backlog.length = d.backlog.length := by
  have hbytes : d'.backlog.toBytes = d.backlog.toBytes := h.buffered
  rw [← Backlog.length_toBytes, ← Backlog.length_toBytes, hbytes]

/-- Deframers that hold the same ask for the same. -/
theorem wanted_eq (h : d.Alike d') : d'.wanted = d.wanted := by
  rw [wanted, wanted, h.header?_eq, h.length_eq]

theorem push (h : d.Alike d') (bytes : Bytes) (descriptors : List Descriptor) :
    (d.push bytes descriptors).Alike (d'.push bytes descriptors) := by
  refine ⟨h.config, ?_, ?_, h.clock, h.baseTime, h.clamped⟩
  · have hbytes : d'.backlog.toBytes = d.backlog.toBytes := h.buffered
    simp [Deframer.push, Deframer.buffered, hbytes]
  · simp [Deframer.push, h.pending]

theorem reset (h : d.Alike d') : d.reset.1.Alike d'.reset.1 ∧ d'.reset.2 = d.reset.2 :=
  ⟨⟨h.config, rfl, rfl, h.clock, h.baseTime, h.clamped⟩, h.pending⟩

theorem presentation (h : d.Alike d') (now : Readings) (timestamp : Word) :
    (d'.presentation now timestamp).1 = (d.presentation now timestamp).1 ∧
      (d.presentation now timestamp).2.Alike (d'.presentation now timestamp).2 := by
  obtain ⟨config, backlog, pending, clock, baseTime, stream, clamped⟩ := d
  obtain ⟨config', backlog', pending', clock', baseTime', stream', clamped'⟩ := d'
  obtain ⟨rfl, hbuffered, rfl, rfl, rfl, rfl⟩ := h
  unfold Deframer.presentation
  split
  · exact ⟨rfl, rfl, hbuffered, rfl, rfl, rfl, rfl⟩
  · cases baseTime' with
    | none => exact ⟨rfl, rfl, hbuffered, rfl, rfl, rfl, rfl⟩
    | some base =>
      dsimp only
      split <;> exact ⟨rfl, rfl, hbuffered, rfl, rfl, rfl, rfl⟩

theorem finish (h : d.Alike d') (now : Readings) (header : Header) (memory : Memory) :
    (d.finish now header memory).Alike (d'.finish now header memory) := by
  obtain ⟨hpts, hafter⟩ := h.presentation now header.captureTimestamp
  unfold Deframer.finish
  dsimp only
  rw [hpts]
  exact ⟨rfl, hafter, rfl⟩

theorem finishInline (h : d.Alike d') (now : Readings) (header : Header) (size : Nat) :
    (d.finishInline now header size).Alike (d'.finishInline now header size) := by
  have hbytes : d'.backlog.toBytes = d.backlog.toBytes := h.buffered
  have hrest : Alike { d with backlog := d.backlog.drop (Header.length + size), pending := [] }
      { d' with backlog := d'.backlog.drop (Header.length + size), pending := [] } := by
    refine ⟨h.config, ?_, rfl, h.clock, h.baseTime, h.clamped⟩
    simp [Deframer.buffered, hbytes]
  unfold Deframer.finishInline
  dsimp only
  rw [h.pending, Backlog.slice_eq, Backlog.slice_eq, hbytes]
  split
  · exact hrest.finish now header _
  · exact ⟨rfl, hrest, rfl⟩

theorem finishReferenced (h : d.Alike d') (now : Readings) (header : Header) :
    (d.finishReferenced now header).Alike (d'.finishReferenced now header) := by
  have hrest : Alike { d with backlog := .empty, pending := [] }
      { d' with backlog := .empty, pending := [] } :=
    ⟨h.config, rfl, rfl, h.clock, h.baseTime, h.clamped⟩
  unfold Deframer.finishReferenced
  dsimp only
  rw [h.pending, h.length_eq]
  split
  · exact ⟨rfl, hrest, rfl⟩
  · split
    · exact ⟨rfl, hrest, rfl⟩
    · exact hrest.finish now header _

/-- They find the same frame, and stay alike. -/
theorem parse (h : d.Alike d') (now : Readings) : (d.parse now).Alike (d'.parse now) := by
  unfold Deframer.parse
  rw [h.header?_eq, h.config, h.length_eq]
  split
  · exact ⟨rfl, h, rfl⟩
  · split
    · split
      · exact ⟨rfl, h, rfl⟩
      · split
        · exact ⟨rfl, h, rfl⟩
        · split
          · exact ⟨rfl, h, rfl⟩
          · exact h.finishInline now _ _
    · exact h.finishReferenced now _

end Alike

theorem Parsed.Alike.toStep {p p' : Parsed} (h : p.Alike p') : p.toStep.Alike p'.toStep := by
  refine ⟨?_, h.deframer, h.released⟩
  rw [Parsed.toStep, Parsed.toStep, h.result]

/-! ### Deframers that hold nothing -/

/-- There is no frame in nothing. -/
theorem parse_of_idle (h : d.hasPartial = false) (now : Readings) :
    (d.parse now).result = .ok none := by
  have hheader : d.header? = none := (holds_nil h).header?_eq
  rw [parse, hheader]

theorem hasPartial_of_parse_ne {now : Readings} (h : (d.parse now).result ≠ .ok none) :
    d.hasPartial = true := by
  rw [← Bool.not_eq_false]
  exact fun hidle => h (parse_of_idle hidle now)

end Deframer

end Framecast
