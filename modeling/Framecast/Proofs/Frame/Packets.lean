import Framecast.Proofs.Frame.Grammar
import Framecast.Proofs.Memory.Copies
import Framecast.Proofs.Stream.Script

/-!
# Packets in the grammar

A packet is in step if it ends where its header says. A stream of such packets reads as what comes
of them, one after the other; of a sound packet comes its frame. What a framer prepares for a sound
buffer is sound, and the memory that a receiver makes of it holds the bytes of the buffer.
-/

namespace Framecast

/-- What a process can hold: the bytes of a heap buffer are counted by a signed word, and a region
lies inside a file whose length is a file offset. -/
def Buffer.Sound (b : Buffer) : Prop :=
  match b.memory with
  | .heap bytes => bytes.length < 0x8000000000000000
  | .region r => r.fitsFile = true ∧ r.fileSize.toNat < 0x8000000000000000

namespace Packet

/-- The memory that a receiver makes of a packet. -/
def memory (p : Packet) : Memory :=
  match p.payload with
  | .inlined bytes => .heap bytes
  | .attached d => .region ⟨d, p.header.payloadOffset, p.header.payloadSize, true⟩

/-- The frame that a receiver makes of a packet. -/
def event (p : Packet) : Event :=
  .frame p.header p.memory

/-- What comes of a packet that ends where its header says. -/
def verdict (p : Packet) : Event :=
  if p.header.isInline then Grammar.inlineEvent p.header p.stretch
  else Grammar.referencedEvent p.header p.stretch

/-- The packet ends where its header says, and a receiver with this limit takes it. -/
structure InStep (limit : Word) (p : Packet) : Prop where
  span : p.header.span = p.stretch.length
  accepted : p.header.isInline = true → p.header.payloadSize ≤ limit
  word : p.stretch.length < 0x10000000000000000

/-- The payload is what the header says, and a receiver with this limit accepts it. -/
inductive Sound (limit : Word) : Packet → Prop
  | inlined {h : Header} {bytes : Bytes} (mark : h.isInline = true)
      (size : bytes.length = h.payloadSize.toNat) (accepted : h.payloadSize ≤ limit)
      (word : Header.length + bytes.length < 0x10000000000000000) :
      Sound limit ⟨h, .inlined bytes⟩
  | attached {h : Header} {d : Descriptor} (mark : h.isInline = false)
      (fits : h.payloadOffset.toNat + h.payloadSize.toNat ≤ d.fileSize.toNat) :
      Sound limit ⟨h, .attached d⟩

@[simp] theorem bytes_stretch (p : Packet) : p.stretch.bytes = p.wire := by
  rw [stretch, Stretch.bytes_append, Stretch.bytes_ofMessage, Stretch.bytes_plain, wire]

@[simp] theorem descriptors_stretch (p : Packet) : p.stretch.descriptors = p.descriptors := by
  rw [stretch, Stretch.descriptors_append, Stretch.descriptors_plain,
    Stretch.descriptors_ofMessage p.header.encode_ne_nil, List.append_nil]

theorem length_stretch (p : Packet) : p.stretch.length = Header.length + p.body.length := by
  rw [stretch, List.length_append, Stretch.length_ofMessage, Stretch.length_plain,
    Header.length_encode]

/-- A packet's header is read back from the stream. -/
theorem decode?_stretch (p : Packet) : Header.decode? p.stretch.bytes = some p.header := by
  rw [bytes_stretch, wire, Header.decode?_encode]

/-- Packets on a stream, one behind the other. -/
def stream (packets : List Packet) : Stretch :=
  packets.flatMap stretch

@[simp] theorem stream_nil : stream [] = [] := rfl

@[simp] theorem stream_cons (p : Packet) (rest : List Packet) :
    stream (p :: rest) = p.stretch ++ stream rest :=
  List.flatMap_cons

theorem stream_append (packets more : List Packet) :
    stream (packets ++ more) = stream packets ++ stream more :=
  List.flatMap_append

variable {limit : Word} {p : Packet}

/-- A packet at the front of a stream is what the stream begins with. -/
theorem InStep.lead (hp : p.InStep limit) :
    Grammar.lead limit p.stretch = .whole p.verdict p.stretch.length := by
  obtain ⟨hspan, haccepted, -⟩ := hp
  rw [Grammar.lead, p.decode?_stretch, verdict]
  dsimp only
  by_cases hinline : p.header.isInline = true
  · have hle : ¬ limit < p.header.payloadSize := UInt64.not_lt.mpr (haccepted hinline)
    rw [Header.span, if_pos hinline] at hspan
    rw [if_pos hinline, if_pos hinline, if_neg hle, hspan, if_neg (Nat.lt_irrefl _),
      List.take_length]
  · rw [Header.span, if_neg hinline] at hspan
    rw [if_neg hinline, if_neg hinline, hspan, List.take_length]

theorem InStep.sized (hp : p.InStep limit) (rest : Stretch) :
    Grammar.Sized limit (p.stretch ++ rest) := by
  intro h hd hinline hle
  rw [Stretch.bytes_append, Header.decode?_append p.decode?_stretch] at hd
  cases hd
  have hspan := hp.span
  rw [Header.span, if_pos hinline] at hspan
  rw [hspan]
  exact hp.word

/-- A receiver and its sender cut a sound packet alike. -/
theorem Sound.inStep (hp : p.Sound limit) : p.InStep limit := by
  have hlen := p.length_stretch
  cases hp with
  | inlined mark size accepted word =>
    refine ⟨?_, fun _ => accepted, hlen ▸ word⟩
    rw [Header.span, if_pos mark, hlen, ← size]
    rfl
  | attached mark fits =>
    refine ⟨?_, fun hinline => absurd (mark ▸ hinline) Bool.false_ne_true, ?_⟩
    · rw [Header.span, mark, if_neg Bool.false_ne_true, hlen]
      rfl
    · rw [hlen]
      exact (by decide : Header.length < 0x10000000000000000)

theorem Sound.verdict (hp : p.Sound limit) : p.verdict = p.event := by
  cases hp with
  | @inlined h bytes mark size accepted word =>
    have hbody : (Packet.wire ⟨h, .inlined bytes⟩).drop Header.length = bytes := by
      rw [wire, ← h.length_encode]
      exact List.drop_left
    rw [Packet.verdict, if_pos mark, Grammar.inlineEvent, descriptors_stretch, bytes_stretch, hbody]
    rfl
  | @attached h d mark fits =>
    have hd := d.fileSize.toNat_lt
    rw [Packet.verdict, mark, if_neg Bool.false_ne_true, Grammar.referencedEvent,
      descriptors_stretch]
    dsimp only [descriptors]
    rw [if_neg (by omega), if_neg (by omega)]
    rfl

/-- A sound packet at the front of a stream is found there, as what it is. -/
theorem Sound.lead (hp : p.Sound limit) :
    Grammar.lead limit p.stretch = .whole p.event p.stretch.length := by
  rw [hp.inStep.lead, hp.verdict]

/-! ### Streams of packets -/

/-- The events of a stream of packets in step are what comes of them, in order, and what is left is
the stream of the other packets. -/
theorem reads_inStep {packets : List Packet} (hstep : ∀ p ∈ packets, p.InStep limit)
    {events : List Event} {t : Stretch}
    (h : Grammar.Reads limit false (stream packets) events t) :
    events = (packets.take events.length).map verdict ∧
      t = stream (packets.drop events.length) := by
  generalize hs : stream packets = s at h
  induction h generalizing packets with
  | nil s => exact ⟨rfl, hs.symm⟩
  | cons next _ ih =>
    subst hs
    cases packets with
    | nil =>
      cases next with
      | whole hwhole => cases hwhole
      | oversized hover => cases hover
      | ended _ hclosed => cases hclosed
    | cons p more =>
      have hlead : Grammar.lead limit (stream (p :: more)) =
          .whole p.verdict p.stretch.length := by
        rw [stream_cons]
        exact Grammar.lead_append_of_whole (hstep p (List.mem_cons_self ..)).lead _
      obtain ⟨rfl, rfl⟩ := next.of_whole hlead
      have hdrop : stream more = (stream (p :: more)).drop p.stretch.length := by
        rw [stream_cons, List.drop_left]
      obtain ⟨hevents, ht⟩ := ih (fun q hq => hstep q (List.mem_cons_of_mem _ hq)) hdrop
      refine ⟨?_, ht⟩
      rw [List.length_cons, List.take_succ_cons, List.map_cons, ← hevents]

theorem allSized_inStep {packets : List Packet} (hstep : ∀ p ∈ packets, p.InStep limit) :
    Grammar.AllSized limit false (stream packets) := by
  intro events t hreads
  obtain ⟨-, ht⟩ := reads_inStep hstep hreads
  subst ht
  cases hdrop : packets.drop events.length with
  | nil =>
    intro h hd
    cases hd
  | cons p rest =>
    have hmem : p ∈ packets := by
      apply List.mem_of_mem_drop (i := events.length)
      rw [hdrop]
      exact List.mem_cons_self ..
    rw [stream_cons]
    exact (hstep p hmem).sized _

/-- Where packets follow, there is no fragment. -/
theorem eq_nil_of_lead_inStep {packets : List Packet} (hstep : ∀ p ∈ packets, p.InStep limit)
    (h : Grammar.lead limit (stream packets) = .fragment) : packets = [] := by
  cases packets with
  | nil => rfl
  | cons p rest =>
    have hlead := (hstep p (List.mem_cons_self ..)).lead
    rw [stream_cons, Grammar.lead_append_of_whole hlead] at h
    cases h

section Sound

variable {packets : List Packet} (hsound : ∀ p ∈ packets, p.Sound limit)
include hsound

theorem inStep_of_sound : ∀ p ∈ packets, p.InStep limit :=
  fun p hp => (hsound p hp).inStep

theorem map_verdict : packets.map verdict = packets.map event :=
  List.map_congr_left fun p hp => (hsound p hp).verdict

theorem allSized_stream : Grammar.AllSized limit false (stream packets) :=
  allSized_inStep (inStep_of_sound hsound)

theorem eq_nil_of_lead_stream (h : Grammar.lead limit (stream packets) = .fragment) :
    packets = [] :=
  eq_nil_of_lead_inStep (inStep_of_sound hsound) h

end Sound

end Packet

namespace Framer

@[simp] theorem prepare_config (now : Readings) (buffer : Buffer) (f : Framer)
    (names : Arena.NameSpace) : (f.prepare now buffer names).2.1.config = f.config := by
  unfold prepare
  dsimp only
  split
  · rfl
  · split
    · split <;> rfl
    · split <;> rfl

variable {f : Framer} {buffer : Buffer}

/-- All that framers of a configuration make of a buffer. -/
inductive Makes (config : FramerConfig) : Memory → Packet → Prop
  | inlined (timestamp : Word) (bytes : Bytes)
      (hsmall : UInt64.ofNat bytes.length ≤ config.inlineThreshold) :
      Makes config (.heap bytes) ⟨.inlined timestamp (UInt64.ofNat bytes.length), .inlined bytes⟩
  | copied {arena arena' : Arena} {names names' : Arena.NameSpace} {a : Arena.Allocation}
      (timestamp : Word) (bytes : Bytes)
      (hcopy : arena.allocateCopy bytes names = (.ok a, arena', names')) :
      Makes config (.heap bytes) (shared timestamp a.handOff)
  | passed (timestamp : Word) (r : Region) : Makes config (.region r) (shared timestamp r)

/-- What a framer makes of a buffer is a packet of it. -/
theorem makes_prepare {now : Readings} {names : Arena.NameSpace} {p : Packet}
    (h : (f.prepare now buffer names).1 = .ok p) : Makes f.config buffer.memory p := by
  unfold prepare at h
  dsimp only at h
  split at h
  · rename_i r hmemory
    cases h
    exact hmemory ▸ .passed ..
  · rename_i bytes hmemory
    rw [hmemory]
    split at h
    · rename_i hsmall
      split at h
      · cases h
      · cases h
        exact .inlined _ bytes hsmall
    · split at h
      · cases h
      · rename_i hcopy
        cases h
        exact .copied _ bytes hcopy

/-- What is prepared for a sound buffer is sound, and it carries the bytes of the buffer. -/
theorem prepare_ok {limit : Word} (hbuffer : buffer.Sound)
    (hthreshold : f.config.inlineThreshold ≤ limit) {now : Readings} {names : Arena.NameSpace}
    {p : Packet} (h : (f.prepare now buffer names).1 = .ok p) :
    p.Sound limit ∧ ∀ pts, Buffer.toBytes ⟨p.memory, pts⟩ = buffer.toBytes := by
  have hmark : Header.inlineMark.toNat = 0xffffffffffffffff := rfl
  have hmakes := makes_prepare h
  unfold Buffer.Sound at hbuffer
  unfold Buffer.toBytes
  generalize buffer.memory = memory at hbuffer hmakes ⊢
  cases hmakes with
  | inlined timestamp bytes hsmall =>
    dsimp only at hbuffer
    have hsize : (UInt64.ofNat bytes.length).toNat = bytes.length :=
      UInt64.toNat_ofNat_of_lt' (Nat.lt_trans hbuffer (by decide))
    refine ⟨.inlined rfl hsize.symm (UInt64.le_trans hsmall hthreshold) ?_, fun _ => rfl⟩
    simp only [Header.length]
    omega
  | @copied arena arena' names names' a timestamp bytes hcopy =>
    dsimp only at hbuffer
    have ha := Arena.allocateCopy_ok (by omega) hcopy
    refine ⟨.attached ?_ ?_, fun _ => ha.toBytes⟩
    · show (a.offset == Header.inlineMark) = false
      rw [ha.offset]
      rfl
    · show a.offset.toNat + a.size.toNat ≤ a.handOff.fileSize.toNat
      rw [ha.offset, ha.size, ha.fileSize]
      exact Nat.le_trans (Nat.le_of_eq (Nat.zero_add _)) ha.fits
  | passed timestamp r =>
    obtain ⟨hfits, hfile⟩ := hbuffer
    rw [Region.fitsFile, decide_eq_true_eq] at hfits
    refine ⟨.attached ?_ hfits, fun _ => rfl⟩
    rw [Header.isInline, beq_eq_false_iff_ne]
    intro heq
    have hoffset : r.offset.toNat = Header.inlineMark.toNat := congrArg UInt64.toNat heq
    omega

/-- The buffer is too long to go inline, and the arena makes no copy of it for this reason. -/
def CopyFails (f : Framer) (names : Arena.NameSpace) (buffer : Buffer) (e : FrameError) : Prop :=
  ∃ bytes cause, buffer.memory = .heap bytes ∧
    f.config.inlineThreshold < UInt64.ofNat bytes.length ∧
    (f.arena.allocateCopy bytes names).1 = .error cause ∧ e = .ofAllocation cause

/-- Preparing fails only if no copy is made, as long as no buffer that goes inline is too large. -/
theorem prepare_error (hthreshold : f.config.inlineThreshold ≤ f.config.maxInline)
    {now : Readings} {names : Arena.NameSpace} {e : FrameError}
    (h : (f.prepare now buffer names).1 = .error e) : f.CopyFails names buffer e := by
  unfold prepare at h
  dsimp only at h
  split at h
  · cases h
  · rename_i bytes hmemory
    split at h
    · rename_i hsmall
      rw [if_neg (UInt64.not_lt.mpr (UInt64.le_trans hsmall hthreshold))] at h
      cases h
    · rename_i hlarge
      split at h
      · rename_i cause _ _ hcopy
        cases h
        exact ⟨bytes, cause, hmemory, UInt64.not_le.mp hlarge, congrArg Prod.fst hcopy, rfl⟩
      · cases h

/-- What is prepared does not depend on the checkpoint. -/
theorem prepare_checkpoint (now : Readings) (buffer : Buffer) (f : Framer)
    (names : Arena.NameSpace) (checkpoint : Checkpoint) :
    (({ f with checkpoint := checkpoint } : Framer).prepare now buffer names).1 =
      (f.prepare now buffer names).1 := by
  unfold prepare
  dsimp only
  split
  · rfl
  · split
    · split <;> rfl
    · split <;> rfl

end Framer

end Framecast
