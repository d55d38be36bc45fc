import Framecast.Proofs.Frame.Holding
import Framecast.Proofs.Frame.Packets

/-!
# Holding the start of a stream of packets

A deframer that holds the start of a stream of sound packets tells the frame of the first packet, if
what it holds is tidy: it goes no further than that packet, or nothing rides on it. A deframer that
asks only for what its frame lacks stays tidy. What is not tidy spoils the first packet
(`parse_untidy`), for all descriptors that are held count for the frame that comes first.
-/

namespace Framecast

namespace Packet

/-- What is held goes no further than the first packet, or nothing rides on it. -/
def Tidy (packets : List Packet) (held : Stretch) : Prop :=
  ∀ p ∈ packets.head?, held.descriptors = [] ∨ held.length ≤ p.stretch.length

instance (packets : List Packet) (held : Stretch) : Decidable (Tidy packets held) :=
  inferInstanceAs (Decidable (∀ p ∈ packets.head?, _))

/-- What is wrong with a packet if more than the packet is held. -/
def spoiled (p : Packet) (held : Stretch) : Corruption :=
  match p.payload with
  | .inlined _ => .strayDescriptors held.descriptors.length
  | .attached _ => .trailingBytes (held.length - Header.length)

/-- No more than a header is always tidy. -/
theorem tidy_of_le_header {held : Stretch} (h : held.length ≤ Header.length)
    (packets : List Packet) : Tidy packets held := by
  intro p _
  rw [length_stretch]
  omega

/-! ### The first packet -/

variable {limit : Word} {p : Packet} {packets more : List Packet} {held rest : Stretch}

theorem take_of_stream (hstream : held ++ rest = stream (p :: more))
    (hle : p.stretch.length ≤ held.length) : held.take p.stretch.length = p.stretch := by
  have h := congrArg (List.take p.stretch.length) hstream
  rw [List.take_append_of_le_length hle, stream_cons, List.take_left] at h
  exact h

theorem drop_of_stream (hstream : held ++ rest = stream (p :: more))
    (hle : p.stretch.length ≤ held.length) :
    held.drop p.stretch.length ++ rest = stream more := by
  have h := congrArg (List.drop p.stretch.length) hstream
  rw [List.drop_append_of_le_length hle, stream_cons, List.drop_left] at h
  exact h

/-- A whole packet at the front is found. -/
theorem Sound.lead_of_stream (hp : p.Sound limit) (hstream : held ++ rest = stream (p :: more))
    (hle : p.stretch.length ≤ held.length) :
    Grammar.lead limit held = .whole p.event p.stretch.length := by
  have hsplit := List.take_append_drop p.stretch.length held
  rw [take_of_stream hstream hle] at hsplit
  rw [← hsplit]
  exact Grammar.lead_append_of_whole hp.lead _

/-- A part of a packet is a fragment. -/
theorem Sound.fragment_of_stream (hp : p.Sound limit)
    (hstream : held ++ rest = stream (p :: more)) (hlt : held.length < p.stretch.length) :
    Grammar.lead limit held = .fragment := by
  have hwhole : Grammar.lead limit (held ++ rest) = .whole p.event p.stretch.length := by
    rw [hstream, stream_cons]
    exact Grammar.lead_append_of_whole hp.lead _
  cases hlead : Grammar.lead limit held with
  | fragment => rfl
  | oversized size =>
    rw [Grammar.lead_append_of_oversized hlead] at hwhole
    cases hwhole
  | whole e n =>
    rw [Grammar.lead_append_of_whole hlead] at hwhole
    cases hwhole
    have hlen := (Grammar.length_of_lead hlead).2
    omega

theorem sized_of_stream (hsound : ∀ p ∈ packets, p.Sound limit)
    (hstream : held ++ rest = stream packets) : Grammar.Sized limit held := by
  have hsized : Grammar.Sized limit (stream packets) := (allSized_stream hsound).head
  rw [← hstream] at hsized
  exact hsized.of_append

theorem decode?_of_stream (hstream : held ++ rest = stream (p :: more))
    (hle : p.stretch.length ≤ held.length) : Header.decode? held.bytes = some p.header := by
  have hsplit := List.take_append_drop p.stretch.length held
  rw [take_of_stream hstream hle] at hsplit
  rw [← hsplit, Stretch.bytes_append]
  exact Header.decode?_append p.decode?_stretch _

/-- Of tidy bytes, no descriptor is left behind a frame. -/
theorem descriptors_drop_of_tidy
    (h : held.descriptors = [] ∨ held.length ≤ p.stretch.length) :
    Stretch.descriptors (held.drop p.stretch.length) = [] := by
  rcases h with hnone | hle
  · rw [← Stretch.descriptors_take_append_drop p.stretch.length, List.append_eq_nil_iff] at hnone
    exact hnone.2
  · rw [List.drop_of_length_le hle]
    rfl

theorem Sound.isInline_of_descriptors (hp : p.Sound limit) (h : p.stretch.descriptors = []) :
    p.header.isInline = true := by
  cases hp with
  | inlined mark size accepted word => exact mark
  | attached mark fits =>
    rw [descriptors_stretch] at h
    cases h

end Packet

namespace Deframer

variable {limit : Word} {p : Packet} {packets more : List Packet} {held rest : Stretch}
  {d : Deframer}

/-- Looking for a frame in the tidy start of a stream: there is none yet, or it is the one of the
first packet. -/
theorem parse_tidy (hd : d.Holds limit held) (hsound : ∀ p ∈ packets, p.Sound limit)
    (hstream : held ++ rest = Packet.stream packets) (htidy : Packet.Tidy packets held)
    (now : Readings) :
    (Grammar.lead limit held = .fragment ∧ d.parse now = ⟨.ok none, d, []⟩) ∨
      ∃ p more held', packets = p :: more ∧
        Event.ofResult? (d.parse now).toStep.result = some p.event ∧
        (d.parse now).deframer.Holds limit held' ∧ held' ++ rest = Packet.stream more ∧
        Packet.Tidy more held' := by
  cases packets with
  | nil =>
    rw [Packet.stream_nil, List.append_eq_nil_iff] at hstream
    obtain ⟨rfl, -⟩ := hstream
    exact .inl ⟨rfl, parse_fragment hd nofun rfl now⟩
  | cons p more =>
    have hp := hsound p (List.mem_cons_self ..)
    have hsized := Packet.sized_of_stream hsound hstream
    by_cases hlt : held.length < p.stretch.length
    · have hlead := hp.fragment_of_stream hstream hlt
      exact .inl ⟨hlead, parse_fragment hd hsized hlead now⟩
    · have hle := Nat.le_of_not_lt hlt
      have hfirst := htidy p rfl
      have hclean := Packet.descriptors_drop_of_tidy hfirst
      have hsole : held.length = p.stretch.length ∨
          ∃ h, Header.decode? held.bytes = some h ∧ h.isInline = true := by
        rcases hfirst with hnone | hge
        · right
          rw [← Stretch.descriptors_take_append_drop p.stretch.length, List.append_eq_nil_iff,
            Packet.take_of_stream hstream hle] at hnone
          exact ⟨_, Packet.decode?_of_stream hstream hle, hp.isInline_of_descriptors hnone.1⟩
        · exact .inl (Nat.le_antisymm hge hle)
      obtain ⟨hevent, hholds⟩ :=
        parse_whole hd hsized (hp.lead_of_stream hstream hle) hclean hsole now
      exact .inr ⟨p, more, _, rfl, hevent, hholds, Packet.drop_of_stream hstream hle,
        fun q _ => .inl hclean⟩

/-- Bytes that are not tidy spoil the frame at their front. -/
theorem parse_untidy (hd : d.Holds limit held) (hp : p.Sound limit)
    (hstream : held ++ rest = Packet.stream (p :: more)) (hrides : held.descriptors ≠ [])
    (hlong : p.stretch.length < held.length) (now : Readings) :
    (d.parse now).result = .error (.corrupt (p.spoiled held)) := by
  have hdecode := Packet.decode?_of_stream hstream (Nat.le_of_lt hlong)
  have hlen := p.length_stretch
  unfold parse
  rw [hd.header?_eq, hdecode]
  dsimp only
  cases hp with
  | @inlined h bytes mark size accepted word =>
    rw [size] at word
    obtain ⟨total, hadd, htotal⟩ := add?_length word
    have hbody : (Packet.body ⟨h, .inlined bytes⟩).length = bytes.length := rfl
    have hpending : d.pending.isEmpty = false := by
      rw [hd.pending, List.isEmpty_eq_false_iff]
      exact hrides
    rw [if_pos mark, hd.limit, if_neg (UInt64.not_lt.mpr accepted), hadd]
    dsimp only
    rw [if_neg (by rw [hd.length_eq, htotal]; omega), finishInline]
    rw [hpending, if_neg Bool.false_ne_true, hd.pending]
    rfl
  | @attached h descriptor mark fits =>
    have hbody : (Packet.body ⟨h, .attached descriptor⟩).length = 0 := rfl
    rw [mark, if_neg Bool.false_ne_true, finishReferenced]
    dsimp only
    rw [hd.length_eq, if_pos (by omega)]
    rfl

/-- Receiving no more than is wanted keeps what is held tidy. -/
theorem tidy_of_wanted (hd : d.Holds limit held) (hsound : ∀ p ∈ packets, p.Sound limit)
    (hlead : Grammar.lead limit held = .fragment) {chunk : Stretch}
    (hchunk : chunk.length ≤ d.wanted)
    (hstream : held ++ chunk ++ rest = Packet.stream packets) :
    Packet.Tidy packets (held ++ chunk) := by
  intro p hfirst
  right
  cases packets with
  | nil => cases hfirst
  | cons q more =>
    cases hfirst
    have hp := hsound p (List.mem_cons_self ..)
    have hsized := (Packet.sized_of_stream hsound hstream).of_append
    have hwithin := (wanted_of_fragment hd hsized hlead).2 chunk hchunk
    by_cases hlong : p.stretch.length ≤ (held ++ chunk).length
    · exact Nat.le_of_eq (hwithin _ _ (hp.lead_of_stream hstream hlong))
    · omega

end Deframer

end Framecast
