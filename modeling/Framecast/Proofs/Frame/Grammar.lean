import Framecast.Frame.Deframer
import Framecast.Proofs.Stream.Stretch

/-!
# The grammar of a frame stream

What a stream of bytes and descriptors says, without regard to the pieces in which it arrives. A
stream is read frame by frame: 24 bytes are a header, and the payload of an inline frame follows
it. `read` lists what comes of the frames and what every later call tells once no frame is left.
All sizes are exact natural numbers.
-/

namespace Framecast

/-- How many bytes a receiver takes for the frame. -/
def Header.span (h : Header) : Nat :=
  if h.isInline then length + h.payloadSize.toNat else length

/-- What a call tells of a stream. -/
inductive Event where
  | frame (header : Header) (memory : Memory)
  | failure (error : FrameError)
  /-- The grammar says nothing of the kind of any stream. -/
  | panic (message : String)
  | endOfStream
  | flushing
  deriving DecidableEq, Repr

namespace Event

/-- What the result of a call tells of the stream: nothing if more bytes are needed, and nothing if
the socket itself failed. -/
def ofResult? : Result FrameError FrameOutcome → Option Event
  | .ok (.frame f) => some (.frame f.header f.buffer.memory)
  | .ok .needMoreData => none
  | .ok .endOfStream => some .endOfStream
  | .ok .flushing => some .flushing
  | .error (.socket (.io _)) => none
  | .error e => some (.failure e)
  | .panic message => some (.panic message)

/-- The header of an inline frame announced more bytes than are accepted. -/
def oversized (size limit : Word) : Event :=
  .failure (.payloadTooLarge size limit)

/-- The event of a frame that is not as its header says. -/
def corrupt (cause : Corruption) : Event :=
  .failure (.corrupt cause)

theorem frame_ne_oversized {h : Header} {m : Memory} {size limit : Word} :
    frame h m ≠ oversized size limit := by
  simp [oversized]

theorem corrupt_ne_oversized {c : Corruption} {size limit : Word} :
    corrupt c ≠ oversized size limit := by
  simp [corrupt, oversized]

end Event

/-- What a stream begins with. -/
inductive Lead where
  | fragment
  | oversized (size : Word)
  /-- A whole frame of so many bytes, and what comes of it. -/
  | whole (event : Event) (length : Nat)
  deriving DecidableEq, Repr

/-- What a whole stream comes to. -/
structure Transcript where
  /-- What comes of its frames, in order. -/
  events : List Event
  /-- What every later call tells, if it tells anything. -/
  last : Option Event
  deriving DecidableEq, Repr

namespace Transcript

/-- The next event of a transcript. The last one comes again and again. -/
def next? : Transcript → Option (Event × Transcript)
  | ⟨e :: events, last⟩ => some (e, ⟨events, last⟩)
  | ⟨[], some e⟩ => some (e, ⟨[], some e⟩)
  | ⟨[], none⟩ => none

/-- The first events of a transcript; the last one is told over and over. -/
def firsts : Nat → Transcript → List Event
  | 0, _ => []
  | n + 1, t =>
    match t.next? with
    | some (e, rest) => e :: rest.firsts n
    | none => []

/-- Everything was told in so many events, and later calls tell nothing. -/
def IsToldIn (n : Nat) (t : Transcript) : Prop :=
  t.last = none ∧ t.events.length ≤ n

theorem IsToldIn.of_next? {n : Nat} {t rest : Transcript} {e : Event}
    (hnext : t.next? = some (e, rest)) (h : rest.IsToldIn n) : t.IsToldIn (n + 1) := by
  obtain ⟨hlast, hlen⟩ := h
  match t, hnext with
  | ⟨_ :: events, last⟩, hnext =>
    cases hnext
    exact ⟨hlast, Nat.succ_le_succ hlen⟩
  | ⟨[], some _⟩, hnext =>
    cases hnext
    cases hlast

end Transcript

namespace Grammar

/-- What comes of an inline frame. Nothing may ride on its bytes. -/
def inlineEvent (h : Header) (frame : Stretch) : Event :=
  if frame.descriptors = [] then .frame h (.heap (frame.bytes.drop Header.length))
  else .corrupt (.strayDescriptors frame.descriptors.length)

/-- What comes of a frame whose payload is behind a descriptor. Exactly one has to ride on its
bytes, and the payload has to lie in the file behind it. -/
def referencedEvent (h : Header) (frame : Stretch) : Event :=
  let finish := h.payloadOffset.toNat + h.payloadSize.toNat
  match frame.descriptors with
  | [d] =>
    if 0x10000000000000000 ≤ finish then .corrupt .rangeOverflow
    else if d.fileSize.toNat < finish then .corrupt (.shortFile d.fileSize (UInt64.ofNat finish))
    else .frame h (.region ⟨d, h.payloadOffset, h.payloadSize, true⟩)
  | ds => .corrupt (.descriptorCount ds.length)

/-- What a stretch starts with, if inline payloads up to a limit are accepted. -/
def lead (limit : Word) (s : Stretch) : Lead :=
  match Header.decode? s.bytes with
  | none => .fragment
  | some h =>
    if h.isInline then
      let length := Header.length + h.payloadSize.toNat
      if limit < h.payloadSize then .oversized h.payloadSize
      else if s.length < length then .fragment
      else .whole (inlineEvent h (s.take length)) length
    else .whole (referencedEvent h (s.take Header.length)) Header.length

/-- A frame takes at least its header, and no more than there is. -/
theorem length_of_lead {limit : Word} {s : Stretch} {e : Event} {n : Nat}
    (h : lead limit s = .whole e n) : Header.length ≤ n ∧ n ≤ s.length := by
  unfold lead at h
  split at h
  · cases h
  · rename_i hd heq
    have hlen := Header.length_le_of_decode? heq
    rw [Stretch.length_bytes] at hlen
    split at h
    · dsimp only at h
      split at h
      · cases h
      · split at h
        · cases h
        · rename_i hge
          cases h
          omega
    · cases h
      omega

theorem length_sub_lt_of_lead {limit : Word} {s : Stretch} {e : Event} {n : Nat}
    (h : lead limit s = .whole e n) : s.length - n < s.length := by
  have hlen := length_of_lead h
  simp only [Header.length] at hlen
  omega

theorem ne_oversized_of_lead {limit size : Word} {s : Stretch} {e : Event} {n : Nat}
    (h : lead limit s = .whole e n) : e ≠ .oversized size limit := by
  unfold lead at h
  split at h
  · cases h
  · split at h
    · dsimp only at h
      split at h
      · cases h
      · split at h
        · cases h
        · cases h
          unfold inlineEvent
          split
          · exact Event.frame_ne_oversized
          · exact Event.corrupt_ne_oversized
    · cases h
      unfold referencedEvent
      dsimp only
      split
      · split
        · exact Event.corrupt_ne_oversized
        · split
          · exact Event.corrupt_ne_oversized
          · exact Event.frame_ne_oversized
      · exact Event.corrupt_ne_oversized

/-- What repeated reading makes of a stream that ends, or of one that may go on. -/
def read (limit : Word) (closed : Bool) (s : Stretch) : Transcript :=
  match h : lead limit s with
  | .fragment => ⟨[], if closed then some .endOfStream else none⟩
  | .oversized size => ⟨[], some (.oversized size limit)⟩
  | .whole event length =>
    have := length_sub_lt_of_lead h
    let rest := read limit closed (s.drop length)
    ⟨event :: rest.events, rest.last⟩
termination_by s.length

/-- Of a fragment nothing is told but the end of the stream. -/
theorem read_fragment {limit : Word} {closed : Bool} {s : Stretch} (h : lead limit s = .fragment) :
    read limit closed s = ⟨[], if closed then some .endOfStream else none⟩ := by
  rw [read]
  split <;> simp_all

/-- One event of a stream, and what is left of the stream behind it. -/
inductive Next (limit : Word) (closed : Bool) : Stretch → Event → Stretch → Prop
  | whole {s : Stretch} {e : Event} {n : Nat} (h : lead limit s = .whole e n) :
      Next limit closed s e (s.drop n)
  | oversized {s : Stretch} {size : Word} (h : lead limit s = .oversized size) :
      Next limit closed s (.oversized size limit) s
  | ended {s : Stretch} (h : lead limit s = .fragment) (hclosed : closed = true) :
      Next limit closed s .endOfStream []

/-- Events that come of a stream one after the other, down to what is left of it. -/
inductive Reads (limit : Word) (closed : Bool) : Stretch → List Event → Stretch → Prop
  | nil (s : Stretch) : Reads limit closed s [] s
  | cons {s t u : Stretch} {e : Event} {events : List Event} (next : Next limit closed s e t)
      (rest : Reads limit closed t events u) : Reads limit closed s (e :: events) u

/-- What comes next is the frame at the front. -/
theorem Next.of_whole {limit : Word} {closed : Bool} {s t : Stretch} {e e' : Event} {n : Nat}
    (h : Next limit closed s e t) (hlead : lead limit s = .whole e' n) : e = e' ∧ t = s.drop n := by
  cases h with
  | whole h =>
    rw [hlead] at h
    cases h
    exact ⟨rfl, rfl⟩
  | oversized h =>
    rw [hlead] at h
    cases h
  | ended h _ =>
    rw [hlead] at h
    cases h

theorem Reads.of_nil {limit : Word} {closed : Bool} {s t : Stretch}
    (h : Reads limit closed s [] t) : t = s := by
  cases h
  rfl

theorem Reads.of_cons {limit : Word} {closed : Bool} {s u : Stretch} {e : Event}
    {events : List Event} (h : Reads limit closed s (e :: events) u) :
    ∃ t, Next limit closed s e t ∧ Reads limit closed t events u := by
  cases h with
  | cons next rest => exact ⟨_, next, rest⟩

/-- The next event of a stream is the next of its transcript. -/
theorem Next.next?_read {limit : Word} {closed : Bool} {s t : Stretch} {e : Event}
    (h : Next limit closed s e t) :
    (read limit closed s).next? = some (e, read limit closed t) := by
  cases h with
  | whole h =>
    rw [read]
    split <;> simp_all [Transcript.next?]
  | oversized h =>
    rw [read]
    split <;> simp_all [Transcript.next?]
  | ended h hclosed =>
    rw [read_fragment h, read_fragment (s := []) rfl, hclosed]
    rfl

/-- Events that were read are the first of the transcript. -/
theorem Reads.firsts {limit : Word} {closed : Bool} {s t : Stretch} {events : List Event}
    (h : Reads limit closed s events t) : events = (read limit closed s).firsts events.length := by
  induction h with
  | nil s => rfl
  | cons next rest ih =>
    rw [List.length_cons, Transcript.firsts, next.next?_read]
    exact congrArg _ ih

/-- A transcript was told in so many events once only a fragment is left. -/
theorem Reads.isToldIn {limit : Word} {s t : Stretch} {events : List Event}
    (h : Reads limit false s events t) (ht : lead limit t = .fragment) :
    (read limit false s).IsToldIn events.length := by
  induction h with
  | nil s =>
    rw [read_fragment ht]
    exact ⟨rfl, Nat.le_refl 0⟩
  | cons next rest ih => exact (ih ht).of_next? next.next?_read

theorem Reads.eq_of_fragment {limit : Word} {s t : Stretch} {events : List Event}
    (h : Reads limit false s events t) (hs : lead limit s = .fragment) : t = s := by
  cases h with
  | nil s => rfl
  | cons next rest =>
    cases next with
    | whole h =>
      rw [hs] at h
      cases h
    | oversized h =>
      rw [hs] at h
      cases h
    | ended h hclosed => cases hclosed

/-- A whole frame stays what it is when more bytes follow. -/
theorem lead_append_of_whole {limit : Word} {s : Stretch} {e : Event} {n : Nat}
    (h : lead limit s = .whole e n) (t : Stretch) : lead limit (s ++ t) = .whole e n := by
  have hn := (length_of_lead h).2
  have hlen : s.length ≤ (s ++ t).length := by simp
  unfold lead at h ⊢
  split at h
  · cases h
  · rename_i hd heq
    have h24 := Header.length_le_of_decode? heq
    rw [Stretch.length_bytes] at h24
    rw [Stretch.bytes_append, Header.decode?_append heq]
    dsimp only at h ⊢
    split at h
    · rename_i hinl
      rw [if_pos hinl]
      split at h
      · cases h
      · rename_i hle
        split at h
        · cases h
        · cases h
          rw [if_neg hle, if_neg (by omega), List.take_append_of_le_length hn]
    · rename_i hinl
      cases h
      rw [if_neg hinl, List.take_append_of_le_length hn]

/-- A header that is too large stays so, whatever comes behind it. -/
theorem lead_append_of_oversized {limit size : Word} {s : Stretch}
    (h : lead limit s = .oversized size) (t : Stretch) : lead limit (s ++ t) = .oversized size := by
  unfold lead at h ⊢
  split at h
  · cases h
  · rename_i hd heq
    rw [Stretch.bytes_append, Header.decode?_append heq]
    dsimp only at h ⊢
    split at h
    · rename_i hinl
      rw [if_pos hinl]
      split at h
      · rename_i hlt
        rw [if_pos hlt]
        exact h
      · split at h <;> cases h
    · cases h

/-- If the stretch starts with the header of an inline frame that is not too large, the length of
that frame is a word. -/
def Sized (limit : Word) (s : Stretch) : Prop :=
  ∀ h, Header.decode? s.bytes = some h → h.isInline = true → ¬ limit < h.payloadSize →
    Header.length + h.payloadSize.toNat < 0x10000000000000000

/-- The largest limit with which the length of every accepted frame is a word. -/
def largestLimit : Nat := 0xffffffffffffffff - Header.length

/-- Up to the largest limit, no header is too large for the machine's sums. -/
theorem sized_of_limit {limit : Word} (hlimit : limit.toNat ≤ largestLimit) (s : Stretch) :
    Sized limit s := by
  intro h _ _ hle
  rw [UInt64.lt_iff_toNat_lt] at hle
  simp only [largestLimit, Header.length] at hlimit ⊢
  omega

theorem Sized.of_append {limit : Word} {s t : Stretch} (h : Sized limit (s ++ t)) :
    Sized limit s := by
  intro header hd
  apply h header
  rw [Stretch.bytes_append, Header.decode?_append hd]

/-- Wherever the events of the stream end, an inline frame that starts there has a length that is a
word. -/
def AllSized (limit : Word) (closed : Bool) (s : Stretch) : Prop :=
  ∀ events t, Reads limit closed s events t → Sized limit t

theorem AllSized.head {limit : Word} {closed : Bool} {s : Stretch}
    (h : AllSized limit closed s) : Sized limit s := by
  exact h [] s (.nil s)

/-- If all headers of a stream are in range, so are those of what is left. -/
theorem AllSized.of_next {limit : Word} {closed : Bool} {s t : Stretch} {e : Event}
    (h : AllSized limit closed s) (next : Next limit closed s e t) : AllSized limit closed t := by
  intro events u hreads
  exact h (e :: events) u (.cons next hreads)

theorem allSized_of_limit {limit : Word} (hlimit : limit.toNat ≤ largestLimit) (closed : Bool)
    (s : Stretch) : AllSized limit closed s := by
  intro events t _
  exact sized_of_limit hlimit t

/-- No more than the first frame is there. -/
def WithinFrame (limit : Word) (s : Stretch) : Prop :=
  ∀ e n, lead limit s = .whole e n → s.length = n

theorem withinFrame_nil (limit : Word) : WithinFrame limit [] := by
  intro e n h
  have hlen := length_of_lead h
  simp only [Header.length, List.length_nil] at hlen
  omega

end Grammar

end Framecast
