import Framecast.Proofs.Frame.RoundTrip

/-!
# Where frames end

The sender of a packet tells by the kind of the payload whether it follows the header; the receiver
tells it by the offset in the header. The two agree unless a region starts at the very place that
marks inline payloads. `boundaries_agree_iff` says what that comes to for a whole stream: the
receiver finds the start of every packet, or there is a region at that place that is not empty.
-/

namespace Framecast

namespace Memory

/-- A region that starts at the place that marks inline payloads. -/
def AtMark (m : Memory) : Prop :=
  ∃ r, m = .region r ∧ r.offset = Header.inlineMark

/-- The receiver takes the size of the region for the length of a payload that follows. -/
def LeadsAstray (m : Memory) : Prop :=
  ∃ r, m = .region r ∧ r.offset = Header.inlineMark ∧ r.size ≠ 0

/-- A process holds no more bytes than a signed word counts. -/
def Countable (m : Memory) : Prop :=
  ∀ bytes, m = .heap bytes → bytes.length < 0x8000000000000000

theorem not_atMark_heap (bytes : Bytes) : ¬(heap bytes).AtMark := by
  rintro ⟨r, ⟨⟩, -⟩

theorem not_leadsAstray_heap (bytes : Bytes) : ¬(heap bytes).LeadsAstray := by
  rintro ⟨r, ⟨⟩, -⟩

end Memory

namespace Packet

theorem length_wire (p : Packet) : p.wire.length = Header.length + p.body.length := by
  rw [wire, List.length_append, Header.length_encode]

/-- The end of a packet on the wire, and as its receiver sees it. -/
structure Delimits (m : Memory) (p : Packet) : Prop where
  /-- The bytes of an inline payload are announced and follow the header. -/
  inlined : ∀ bytes, p.payload = .inlined bytes → p.header.isInline = true ∧
    p.header.payloadSize.toNat = bytes.length ∧
    p.wire.length = Header.length + bytes.length ∧ p.descriptors = []
  /-- Otherwise there are a header and one descriptor. -/
  attached : ∀ d, p.payload = .attached d → p.wire.length = Header.length ∧ p.descriptors = [d]
  mark : (p.header.isInline = true ∧ ∃ d, p.payload = .attached d) ↔ m.AtMark
  span : p.header.span = p.wire.length ↔ ¬m.LeadsAstray

/-- The header of a region spans what is sent of it, unless its offset is read as the mark of inline
frames. -/
theorem span_shared (timestamp : Word) (r : Region) :
    (Framer.shared timestamp r).header.span = (Framer.shared timestamp r).wire.length ↔
      ¬(Memory.region r).LeadsAstray := by
  have hwire : (Framer.shared timestamp r).wire.length = Header.length := length_wire _
  have hinline : (Framer.shared timestamp r).header.isInline = (r.offset == Header.inlineMark) :=
    rfl
  rw [hwire, Header.span, hinline]
  by_cases hmark : r.offset = Header.inlineMark
  · rw [if_pos (beq_iff_eq.mpr hmark)]
    constructor
    · rintro hspan ⟨_, ⟨⟩, -, hsize⟩
      refine hsize (UInt64.toNat_inj.mp ?_)
      exact Nat.add_left_cancel (k := 0) hspan
    · intro hfollows
      by_cases hzero : r.size = 0
      · show Header.length + r.size.toNat = Header.length
        rw [hzero]
        rfl
      · exact absurd ⟨r, rfl, hmark, hzero⟩ hfollows
  · rw [if_neg (by rwa [beq_iff_eq])]
    refine iff_of_true rfl ?_
    rintro ⟨_, ⟨⟩, heq, -⟩
    exact hmark heq

/-! ### Streams -/

/-- A receiver cuts a frame where its header says. -/
theorem span_of_lead {limit : Word} {s : Stretch} {h : Header} {e : Event} {n : Nat}
    (hd : Header.decode? s.bytes = some h) (hlead : Grammar.lead limit s = .whole e n) :
    n = h.span := by
  unfold Grammar.lead at hlead
  rw [hd] at hlead
  dsimp only at hlead
  rw [Header.span]
  split at hlead
  · rename_i hinline
    rw [if_pos hinline]
    split at hlead
    · cases hlead
    · split at hlead
      · cases hlead
      · cases hlead
        rfl
  · rename_i hinline
    rw [if_neg hinline]
    cases hlead
    rfl

/-- A receiver that reads this stream finds the start of every packet, each after as many events as
there are packets before it. -/
def FindsAll (limit : Word) (packets : List Packet) : Prop :=
  ∀ before after, packets = before ++ after → ∃ events, events.length = before.length ∧
    Grammar.Reads limit false (stream packets) events (stream after)

variable {limit : Word} {p : Packet} {packets : List Packet}

/-- Whoever finds the second packet has taken the first one for what it is. -/
theorem lead_of_next {e : Event}
    (h : Grammar.Next limit false (stream (p :: packets)) e (stream packets)) :
    p.header.span = p.stretch.length ∧
      Grammar.lead limit (stream (p :: packets)) = .whole e p.stretch.length := by
  have hd : Header.decode? (Stretch.bytes (stream (p :: packets))) = some p.header := by
    rw [stream_cons, Stretch.bytes_append]
    exact Header.decode?_append p.decode?_stretch _
  have hpos : 0 < p.stretch.length := by
    rw [length_stretch]
    exact Nat.add_pos_left (by decide) _
  have hlength : (stream (p :: packets)).length = p.stretch.length + (stream packets).length := by
    rw [stream_cons, List.length_append]
  generalize hs : stream (p :: packets) = s at h hd hlength ⊢
  generalize ht : stream packets = t at h hlength
  cases h with
  | @whole _ n hlead =>
    have hle := (Grammar.length_of_lead hlead).2
    rw [List.length_drop] at hlength
    have hn : n = p.stretch.length := by omega
    rw [← hn]
    exact ⟨(span_of_lead hd hlead).symm, hlead⟩
  | oversized => omega
  | ended _ hclosed => cases hclosed

/-- If all packets are found, every header spans its packet. -/
theorem FindsAll.span (h : FindsAll limit packets) :
    ∀ p ∈ packets, p.header.span = p.stretch.length := by
  induction packets with
  | nil => exact nofun
  | cons p rest ih =>
    obtain ⟨first, hfirst, hreads⟩ := h [p] rest rfl
    obtain ⟨e, rfl⟩ := List.length_eq_one_iff.mp hfirst
    obtain ⟨t, hnext, hlater⟩ := hreads.of_cons
    rw [← hlater.of_nil] at hnext
    obtain ⟨hspan, hlead⟩ := lead_of_next hnext
    have hrest : FindsAll limit rest := by
      intro before after hsplit
      obtain ⟨events, hlength, hreads⟩ := h (p :: before) after (congrArg (p :: ·) hsplit)
      obtain ⟨e', later, rfl⟩ := List.exists_cons_of_length_eq_add_one hlength
      obtain ⟨t, hnext, hlater⟩ := hreads.of_cons
      obtain ⟨-, rfl⟩ := hnext.of_whole hlead
      rw [stream_cons, List.drop_left] at hlater
      exact ⟨later, Nat.succ.inj hlength, hlater⟩
    intro q hq
    rcases List.mem_cons.mp hq with rfl | hq
    · exact hspan
    · exact ih hrest q hq

theorem findsAll_inStep (hstep : ∀ p ∈ packets, p.InStep limit) : FindsAll limit packets := by
  intro before after hsplit
  subst hsplit
  refine ⟨before.map verdict, List.length_map .., ?_⟩
  induction before with
  | nil => exact .nil _
  | cons p before ih =>
    have hp : p.InStep limit := hstep p (List.mem_cons_self ..)
    have hdrop : (stream (p :: before ++ after)).drop p.stretch.length =
        stream (before ++ after) := by
      rw [List.cons_append, stream_cons, List.drop_left]
    have hlead : Grammar.lead limit (stream (p :: before ++ after)) =
        .whole p.verdict p.stretch.length := by
      rw [List.cons_append, stream_cons]
      exact Grammar.lead_append_of_whole hp.lead _
    refine .cons (.whole hlead) ?_
    rw [hdrop]
    exact ih fun q hq => hstep q (List.mem_cons_of_mem _ hq)

end Packet

namespace Framer

variable {config : FramerConfig} {m : Memory} {p : Packet} {limit : Word}

theorem Makes.delimits (h : Makes config m p) (hm : m.Countable) : p.Delimits m := by
  cases h with
  | inlined timestamp bytes hsmall =>
    have hlength : (UInt64.ofNat bytes.length).toNat = bytes.length :=
      UInt64.toNat_ofNat_of_lt' (Nat.lt_trans (hm bytes rfl) (by decide))
    refine ⟨?_, nofun, ?_, ?_⟩
    · rintro _ ⟨⟩
      exact ⟨rfl, hlength, Packet.length_wire _, rfl⟩
    · refine iff_of_false ?_ (Memory.not_atMark_heap bytes)
      rintro ⟨-, d, ⟨⟩⟩
    · refine iff_of_true ?_ (Memory.not_leadsAstray_heap bytes)
      rw [Packet.length_wire]
      exact congrArg (Header.length + ·) hlength
  | @copied arena arena' names names' a timestamp bytes hcopy =>
    have hoffset : a.offset = 0 :=
      (Arena.allocateCopy_ok (Nat.lt_trans (hm bytes rfl) (by decide)) hcopy).offset
    have hnot : ¬ a.handOff.offset = Header.inlineMark := by
      show ¬ a.offset = Header.inlineMark
      rw [hoffset]
      decide
    refine ⟨nofun, ?_, ?_, ?_⟩
    · rintro _ ⟨⟩
      exact ⟨Packet.length_wire _, rfl⟩
    · refine iff_of_false ?_ (Memory.not_atMark_heap bytes)
      rintro ⟨hinline, -⟩
      exact hnot (beq_iff_eq.mp hinline)
    · refine iff_of_true ?_ (Memory.not_leadsAstray_heap bytes)
      refine (Packet.span_shared timestamp a.handOff).mpr ?_
      rintro ⟨_, ⟨⟩, heq, -⟩
      exact hnot heq
  | passed timestamp r =>
    refine ⟨nofun, ?_, ?_, Packet.span_shared timestamp r⟩
    · rintro _ ⟨⟩
      exact ⟨Packet.length_wire _, rfl⟩
    · constructor
      · rintro ⟨hinline, -⟩
        exact ⟨r, rfl, beq_iff_eq.mp hinline⟩
      · rintro ⟨_, ⟨⟩, hmark⟩
        exact ⟨beq_iff_eq.mpr hmark, _, rfl⟩

/-- A packet that does not lead its receiver astray is in step. -/
theorem Makes.inStep (h : Makes config m p) (hm : m.Countable)
    (hreceiver : config.inlineThreshold ≤ limit) (hfollows : ¬m.LeadsAstray) :
    p.InStep limit := by
  have hdelimits := h.delimits hm
  have hspan : p.header.span = p.stretch.length := by
    rw [← Stretch.length_bytes, Packet.bytes_stretch]
    exact hdelimits.span.mpr hfollows
  refine ⟨hspan, ?_, ?_⟩
  · intro hinline
    cases h with
    | inlined timestamp bytes hsmall => exact UInt64.le_trans hsmall hreceiver
    | copied timestamp bytes hcopy =>
      exact absurd (hdelimits.mark.mp ⟨hinline, _, rfl⟩) (Memory.not_atMark_heap bytes)
    | passed timestamp r =>
      by_cases hzero : r.size = 0
      · show r.size ≤ limit
        rw [hzero]
        exact UInt64.zero_le
      · exact absurd ⟨r, rfl, beq_iff_eq.mp hinline, hzero⟩ hfollows
  · rw [p.length_stretch]
    cases h with
    | inlined timestamp bytes hsmall =>
      have hbytes := hm bytes rfl
      show 24 + bytes.length < _
      omega
    | copied | passed => exact (by decide : Header.length < 0x10000000000000000)

/-- **Sender and receiver agree where frames end**, unless a region starts at the place that marks
inline payloads. Every packet that is prepared is told apart rightly but for that, and is as long as
its header says unless such a region is not empty. If no packet was left half written, a receiver
that takes the inline payloads finds the start of every packet exactly if none was made of such a
region. Any chunking then tells one event for each packet, in order, also for regions that do not
lie in their file; and it follows the same reading when there are such regions. -/
theorem boundaries_agree_iff (f : Framer) (names : Arena.NameSpace) (shipments : List Shipment)
    (answers : List (Except IoError Nat)) (plain : Bool) (config : DeframerConfig)
    (clock : ClockFollower) (baseTime : Option Word) (turns : List Turn) (clocks : List Readings)
    (hcountable : ∀ x ∈ shipments, x.buffer.memory.Countable) :
    let sent := f.shipAll shipments names { answers, plain }
    let written := sent.1.filterMap Shipped.written?
    let run := Deframer.pulls Source.receiver clocks { config, clock, baseTime }
      ⟨sent.2.accepted, false, turns⟩
    let events := Deframer.told run.1
    (∀ shipped ∈ sent.1, ∀ p, shipped.packet = .ok p → p.Delimits shipped.buffer.memory) ∧
    ((∀ shipped ∈ sent.1, shipped.Untorn) →
      sent.2.accepted = Packet.stream written ∧
      (f.config.inlineThreshold ≤ config.maxInline →
        (Packet.FindsAll config.maxInline written ↔ ∀ shipped ∈ sent.1, ∀ p,
          shipped.written? = some p → ¬shipped.buffer.memory.LeadsAstray) ∧
        ((∀ p ∈ written, p.header.span = p.wire.length) →
          events = (written.take events.length).map Packet.verdict ∧
          (clocks.length ≤ events.length + sent.2.accepted.length + turns.length ∨
            events.length = written.length) ∧
          (events.length = written.length → run.2.1.hasPartial = false))) ∧
      (config.maxInline.toNat ≤ Grammar.largestLimit → ∃ left,
        Grammar.Reads config.maxInline false (Packet.stream written) events left ∧
        left.bytes = run.2.1.buffered ++ run.2.2.unread.bytes)) := by
  intro sent written run events
  have hships := shipAll_ships shipments f names { answers, plain }
  have hmakes : ∀ shipped ∈ sent.1, ∀ p, shipped.packet = .ok p →
      shipped.buffer.memory.Countable ∧ Makes f.config shipped.buffer.memory p := by
    intro shipped hshipped p hp
    rw [← (hships.offered shipped hshipped).1]
    exact ⟨hcountable _ (hships.mem_shipments hshipped),
      makes_prepare (hships.prepared hshipped hp)⟩
  refine ⟨fun shipped hshipped p hp => ?_, fun huntorn => ?_⟩
  · obtain ⟨hm, hmake⟩ := hmakes shipped hshipped p hp
    exact hmake.delimits hm
  have hstream : sent.2.accepted = Packet.stream written := hships.accepted huntorn
  have hwritten : ∀ p ∈ written, ∃ shipped ∈ sent.1, shipped.written? = some p ∧
      shipped.buffer.memory.Countable ∧ Makes f.config shipped.buffer.memory p := by
    intro p hp
    obtain ⟨shipped, hshipped, hsome⟩ := List.mem_filterMap.mp hp
    exact ⟨shipped, hshipped, hsome, hmakes shipped hshipped p (Shipped.packet_of_written? hsome)⟩
  have hd : Deframer.Holds config.maxInline [] { config, clock, baseTime } := ⟨rfl, rfl, rfl⟩
  refine ⟨hstream, fun hreceiver => ⟨⟨?_, ?_⟩, ?_⟩, ?_⟩
  · intro hfinds shipped hshipped p hsome
    have hspan := hfinds.span p (List.mem_filterMap.mpr ⟨shipped, hshipped, hsome⟩)
    rw [← Stretch.length_bytes, Packet.bytes_stretch] at hspan
    obtain ⟨hm, hmake⟩ := hmakes shipped hshipped p (Shipped.packet_of_written? hsome)
    exact (hmake.delimits hm).span.mp hspan
  · intro hfollows
    apply Packet.findsAll_inStep
    intro p hp
    obtain ⟨shipped, hshipped, hsome, hm, hmake⟩ := hwritten p hp
    exact hmake.inStep hm hreceiver (hfollows shipped hshipped p hsome)
  · intro hspan
    have hstep : ∀ p ∈ written, p.InStep config.maxInline := by
      intro p hp
      obtain ⟨shipped, hshipped, hsome, hm, hmake⟩ := hwritten p hp
      exact hmake.inStep hm hreceiver ((hmake.delimits hm).span.mp (hspan p hp))
    have hpulls := Deframer.pulls_inStep hd hstep turns clocks
    rw [← hstream] at hpulls
    exact hpulls
  · intro hlimit
    obtain ⟨held, hheld, hrun⟩ :=
      Deframer.pulls_progress hd (Grammar.withinFrame_nil _) clocks ⟨sent.2.accepted, false, turns⟩
        (Grammar.allSized_of_limit hlimit false _)
    refine ⟨held ++ run.2.2.unread, hstream ▸ hrun.reads, ?_⟩
    rw [Stretch.bytes_append, ← hheld.bytes]

/-- A region at the place that marks inline payloads, and a buffer that goes inline. -/
def markedParcels : List Shipment :=
  [⟨⟨.region ⟨.file (.ofBytes [6, 7, 8, 9, 10]), Header.inlineMark, 5, false⟩, none⟩, .whole,
      default⟩,
    ⟨⟨.heap [1, 2], none⟩, .whole, default⟩]

/-- The receiver takes five bytes of the second header for a payload of the first one. -/
theorem boundaries_agree_iff_markedParcels :
    (∀ x ∈ markedParcels, x.buffer.memory.Countable) ∧
    let sent := shipAll markedParcels { config := { inlineThreshold := 16 } } {} { answers := [] }
    let written := sent.1.filterMap Shipped.written?
    let run := Deframer.pulls Source.receiver (List.replicate 4 default) {}
      ⟨sent.2.accepted, false, []⟩
    ¬Packet.FindsAll 0x1000000 written ∧
    Deframer.told run.1 = [.corrupt (.strayDescriptors 1)] ∧ run.2.1.backlog.length = 21 := by
  have hcountable : ∀ x ∈ markedParcels, x.buffer.memory.Countable := by
    intro x hx bytes hbytes
    simp only [markedParcels, List.mem_cons, List.not_mem_nil, or_false] at hx
    rcases hx with rfl | rfl
    · cases hbytes
    · cases hbytes
      exact (by decide : 2 < 0x8000000000000000)
  refine ⟨hcountable, ?_⟩
  intro sent written run
  have hships := shipAll_ships markedParcels { config := { inlineThreshold := 16 } } {}
    { answers := [] }
  have huntorn : ∀ shipped ∈ sent.1, shipped.Untorn := fun shipped hshipped =>
    Shipped.untorn_of_settled_or_refused (hships.refused (by decide) nofun hshipped)
  obtain ⟨-, hstream⟩ := boundaries_agree_iff { config := { inlineThreshold := 16 } } {}
    markedParcels [] false {} { config := {} } none [] (List.replicate 4 default) hcountable
  obtain ⟨-, hreceived, -⟩ := hstream huntorn
  obtain ⟨hfinds, -⟩ := hreceived (by decide)
  refine ⟨?_, by decide +kernel, by decide +kernel⟩
  intro hall
  have hfollows := hfinds.mp hall
  have hwritten : (sent.1.head?.bind Shipped.written?).isSome = true := by decide +kernel
  have hshipments : sent.1.map (·.shipment) = markedParcels := hships.shipments
  change ∀ shipped ∈ sent.1, _ at hfollows
  generalize sent.1 = all at hwritten hshipments hfollows
  cases all with
  | nil => cases hwritten
  | cons first rest =>
    obtain ⟨p, hp⟩ := Option.isSome_iff_exists.mp hwritten
    have hfirst : first.shipment = _ := (List.cons.inj hshipments).1
    refine hfollows first (List.mem_cons_self ..) p hp ?_
    rw [Shipped.buffer, hfirst]
    exact ⟨_, rfl, rfl, by decide⟩

end Framer

end Framecast
