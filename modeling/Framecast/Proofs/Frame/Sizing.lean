import Framecast.Proofs.Frame.Chunking
import Framecast.Proofs.Frame.Extent

/-!
# How much is asked for, and how much is held

A call on a deframer looks for a frame, receives if there is none, takes in what came and looks
again. A `Moment` is the deframer at one of these points. Whenever a look has found nothing, what is
asked for suits the frame that is being waited for (`asks_of_parse`), and together with what is held
it never comes to more than a header and the largest payload (`wanted_fits`); everything else about
the moments of a call follows from these two.

Bytes that come from the socket they were asked of stay within the current frame
(`pullMoments_sized`). Bytes of another socket need not, but the bound on what is held is kept
(`Fits.fill`), as that socket was asked for no more than fits.
-/

namespace Framecast

theorem Header.length_le_span (h : Header) : length ≤ h.span := by
  unfold span
  split
  · exact Nat.le_add_right ..
  · exact Nat.le_refl _

/-- A receive brings at most as many bytes as were asked for. -/
theorem Source.length_receiver_le {size : Nat} (hsize : 0 < size) {s : Source} {arrival : Arrival}
    (h : (receiver size s).1 = .ok arrival) : arrival.bytes.length ≤ size := by
  obtain ⟨hlength, hok, -⟩ := (gives_receiver hsize s).takenBy
  rw [hok arrival h, Stretch.arrival_bytes, Stretch.length_bytes]
  exact hlength

namespace Deframer

variable {d d' : Deframer} {limit : Word} {now : Readings}

theorem header?_eq_decode? (d : Deframer) : d.header? = Header.decode? d.buffered := by
  rw [header?, Backlog.take_eq, Header.decode?_take, buffered]

/-! ### What is asked for -/

/-- What is asked for suits the current frame. -/
structure Asks (d : Deframer) : Prop where
  pos : 0 < d.wanted
  chunk : d.wanted ≤ readChunk
  /-- However the stream goes on, the current frame lacks at least as many bytes. -/
  lacks : ∀ more h, Header.decode? (d.buffered ++ more) = some h →
    d.backlog.length + d.wanted ≤ h.span
  /-- A receive that brings nothing has found the end of its stream. -/
  ends : ∀ (s : Source) arrival, (s.attempt d.wanted).1 = .ok arrival → arrival.bytes = [] →
    s.unread = [] ∧ s.closed = true

/-- A parse that finds nothing leaves something to ask for. -/
theorem asks_of_parse (hnone : (d.parse now).result = .ok none) : d.Asks := by
  have hpos := wanted_pos_of_parse hnone
  have hlacking := lacking_of_parse hnone
  refine ⟨hpos, ?_, ?_, ?_⟩
  · cases hlacking with
    | header _ _ hwanted =>
      simp only [Header.length] at hwanted
      simp only [readChunk]
      omega
    | payload h _ _ _ _ _ hwanted =>
      rw [hwanted]
      exact Nat.min_le_right ..
  · intro more h' hdecode
    cases hlacking with
    | header _ hshort hwanted =>
      -- Which header it will be is still open, but each spans at least itself.
      have hspan := h'.length_le_span
      omega
    | payload h hheader _ _ _ hshort hwanted =>
      rw [header?_eq_decode?] at hheader
      rw [Header.decode?_append hheader more, Option.some.injEq] at hdecode
      subst hdecode
      omega
  · intro s arrival hattempt hempty
    have hgives := Source.gives_attempt hpos s
    generalize (s.attempt d.wanted).2 = s' at hgives
    rw [hattempt] at hgives
    cases hgives with
    | ended _ _ hunread hclosed => exact ⟨hunread, hclosed⟩
    | brought chunk _ _ _ hchunk => exact absurd (Stretch.bytes_eq_nil_iff.mp hempty) hchunk

/-- What is held and what is asked for are a header and an accepted payload at most. -/
theorem wanted_fits (hnone : (d.parse now).result = .ok none) :
    d.backlog.length + d.wanted ≤ Header.length + d.config.maxInline.toNat := by
  cases lacking_of_parse hnone with
  | header _ hshort hwanted => omega
  | payload h _ hinline haccepted _ hshort hwanted =>
    rw [UInt64.le_iff_toNat_le] at haccepted
    rw [Header.span, if_pos hinline] at hshort hwanted
    omega

/-! ### What is held -/

/-- No more is held than a header and the largest payload that the limit accepts. -/
structure Fits (limit : Word) (d : Deframer) : Prop where
  accepts : d.config.maxInline = limit
  length : d.backlog.length ≤ Header.length + limit.toNat

/-- A parse never holds more than there was. -/
theorem length_parse_le (now : Readings) (d : Deframer) :
    (d.parse now).deframer.backlog.length ≤ d.backlog.length := by
  have hlooked := looked_parse now d
  generalize d.parse now = parsed at hlooked ⊢
  cases hlooked with
  | waits | refused | panicked => exact Nat.le_refl _
  | took _ _ _ _ hless => exact Nat.le_of_lt hless

/-- A parse keeps what is held in range. -/
theorem Fits.parse (h : d.Fits limit) (now : Readings) : (d.parse now).deframer.Fits limit := by
  refine ⟨?_, Nat.le_trans (length_parse_le now d) h.length⟩
  rw [(parse_keeps now d).1]
  exact h.accepts

theorem Fits.reset (h : d.Fits limit) : d.reset.1.Fits limit :=
  ⟨h.accepts, Nat.zero_le _⟩

/-- Bytes that were asked for fit, also behind less than was held when they were asked for. -/
theorem Fits.fill (h : d.Fits limit) (hnone : (d.parse now).result = .ok none)
    (hconfig : d'.config = d.config) (hless : d'.backlog.length ≤ d.backlog.length)
    {arrival : Arrival} (hsize : arrival.bytes.length ≤ d.wanted) :
    (d'.push arrival.bytes arrival.descriptors).Fits limit := by
  have hfits := wanted_fits hnone
  rw [h.accepts] at hfits
  refine ⟨?_, ?_⟩
  · show d'.config.maxInline = limit
    rw [hconfig]
    exact h.accepts
  · show d'.backlog.length + arrival.bytes.length ≤ _
    omega

/-- Nothing is held behind the current frame. -/
def Single (d : Deframer) : Prop :=
  ∀ h, d.header? = some h → d.backlog.length ≤ h.span

theorem single_of_empty (hempty : d.backlog.length = 0) : d.Single := by
  intro h _
  rw [hempty]
  exact Nat.zero_le _

/-- Receiving what was asked for never brings a second frame. -/
theorem Single.fill (hnone : (d.parse now).result = .ok none) {arrival : Arrival}
    (hsize : arrival.bytes.length ≤ d.wanted) :
    (d.push arrival.bytes arrival.descriptors).Single := by
  intro h hheader
  rw [header?_eq_decode?, buffered, push, Backlog.toBytes_push] at hheader
  have hlacks := (asks_of_parse hnone).lacks _ h hheader
  show d.backlog.length + arrival.bytes.length ≤ _
  omega

theorem region_ne_trailing (h : Header) (descriptors : List Descriptor) (n : Nat) :
    region h descriptors ≠ .error (.trailingBytes n) := by
  unfold region
  split
  · split
    · nofun
    · dsimp only
      split
      · nofun
      · nofun
  · nofun

/-- Only what is held behind a header can be in the way of its region. -/
theorem finishReferenced_ne_trailing (h : Header) (hlength : d.backlog.length ≤ Header.length)
    (n : Nat) : (d.finishReferenced now h).result ≠ .error (.corrupt (.trailingBytes n)) := by
  unfold finishReferenced
  dsimp only
  rw [if_neg (Decidable.not_not.mpr (Nat.sub_eq_zero_of_le hlength))]
  have hregion := region_ne_trailing h d.pending n
  generalize region h d.pending = made at hregion
  cases made with
  | error c =>
    intro htrailing
    cases htrailing
    exact hregion rfl
  | ok r => nofun

theorem finishInline_ne_trailing (h : Header) (size : Nat) (d : Deframer) (n : Nat) :
    (d.finishInline now h size).result ≠ .error (.corrupt (.trailingBytes n)) := by
  unfold finishInline
  dsimp only
  split
  · nofun
  · nofun

end Deframer

/-! ### Moments -/

/-- A deframer at a moment of a call, and what looking for a frame came to, if the call has just
looked. -/
structure Moment where
  deframer : Deframer
  found : Option (Result FrameError (Option Frame)) := none

namespace Moment

open Deframer

/-- The moment at which a parse has ended. -/
def ofParsed (p : Parsed) : Moment :=
  ⟨p.deframer, some p.result⟩

/-- What holds at any moment, if inline payloads up to a limit are accepted. -/
structure Safe (limit : Word) (m : Moment) : Prop where
  fits : m.deframer.Fits limit
  /-- What is missing of a header is a number. -/
  exact : m.deframer.header? = none →
    m.deframer.wanted + m.deframer.backlog.length = Header.length
  asks : m.found = some (.ok none) → m.deframer.Asks
  /-- If the limit leaves room for a header, the end of every accepted frame is a word. -/
  word : limit.toNat ≤ Grammar.largestLimit → ∀ message, m.found ≠ some (.panic message)

/-- What holds besides, if all bytes come from the socket they were asked of. -/
structure OneFrame (m : Moment) : Prop where
  single : m.deframer.Single
  clean : ∀ n, m.found ≠ some (.error (.corrupt (.trailingBytes n)))

end Moment

namespace Deframer

variable {d d' : Deframer} {limit : Word} {now : Readings}

theorem wanted_add_length (hheader : d.header? = none) :
    d.wanted + d.backlog.length = Header.length := by
  have hshort := header?_eq_none_iff.mp hheader
  rw [wanted, hheader]
  exact Nat.sub_add_cancel (Nat.le_of_lt hshort)

theorem Fits.safe (h : d.Fits limit) : Moment.Safe limit ⟨d, none⟩ :=
  ⟨h, wanted_add_length, nofun, fun _ _ => nofun⟩

theorem Fits.looked (h : d.Fits limit) (now : Readings) :
    (Moment.ofParsed (d.parse now)).Safe limit := by
  refine ⟨h.parse now, wanted_add_length, ?_, ?_⟩
  · intro hfound
    have hnone : (d.parse now).result = .ok none := Option.some.inj hfound
    show (d.parse now).deframer.Asks
    rw [parse_of_result hnone]
    exact asks_of_parse hnone
  · intro hlimit message hfound
    obtain ⟨-, header, -, hinline, haccepted, hlarge⟩ :=
      parse_panics_iff.mp (Option.some.inj hfound)
    rw [UInt64.le_iff_toNat_le, h.accepts] at haccepted
    rw [Header.span, if_pos hinline] at hlarge
    simp only [Grammar.largestLimit, Header.length] at hlimit hlarge
    omega

theorem Single.oneFrame (h : d.Single) : Moment.OneFrame ⟨d, none⟩ :=
  ⟨h, fun _ => nofun⟩

/-- If nothing is held behind the current frame, nothing is left when it is taken. -/
theorem Single.looked (h : d.Single) (now : Readings) :
    (Moment.ofParsed (d.parse now)).OneFrame := by
  -- A look that takes nothing leaves everything where it was.
  have hkept (result : Result FrameError (Option Frame)) (released : List Descriptor)
      (hclean : ∀ n, result ≠ .error (.corrupt (.trailingBytes n))) :
      (Moment.ofParsed ⟨result, d, released⟩).OneFrame :=
    ⟨h, fun n hfound => hclean n (Option.some.inj hfound)⟩
  have hsees := sees_parse now d
  generalize d.parse now = parsed at hsees ⊢
  cases hsees with
  | noHeader | tooLarge =>
    apply hkept
    intro n hsame
    cases hsame
  | accepted header hheader hinline _ hreached =>
    have hspan := h header hheader
    rw [Header.span, if_pos hinline] at hspan
    cases hreached with
    | beyond | short =>
      apply hkept
      intro n hsame
      cases hsame
    | whole =>
      refine ⟨single_of_empty ?_, ?_⟩
      · show (d.finishInline now header _).deframer.backlog.length = 0
        rw [backlog_finishInline]
        exact Nat.sub_eq_zero_of_le hspan
      · intro n hfound
        exact finishInline_ne_trailing header _ d n (Option.some.inj hfound)
  | referenced header hheader hinline =>
    have hspan := h header hheader
    rw [Header.span, if_neg hinline] at hspan
    refine ⟨single_of_empty ?_, ?_⟩
    · show (d.finishReferenced now header).deframer.backlog.length = 0
      rw [backlog_finishReferenced]
      rfl
    · intro n hfound
      exact finishReferenced_ne_trailing header hspan n (Option.some.inj hfound)

/-! ### The moments of a call -/

/-- The moments of a call, if those behind its receive are these. -/
def callMoments (now : Readings) (behind : List Moment) (d : Deframer) : List Moment :=
  let parsed := d.parse now
  .ofParsed parsed ::
    match parsed.result with
    | .ok none => behind
    | _ => []

/-- The moments of taking in what a receive brought. -/
def fillMoments (now : Readings) (arrival : Arrival) (d : Deframer) : List Moment :=
  let filled := d.push arrival.bytes arrival.descriptors
  [⟨filled, none⟩, .ofParsed (filled.parse now)]

theorem callMoments_of_parse_eq {behind : List Moment} (h : (d.parse now).result = .ok none) :
    d.callMoments now behind = ⟨d, some (.ok none)⟩ :: behind := by
  rw [callMoments, parse_of_result h]
  rfl

theorem callMoments_of_parse_ne {behind : List Moment} (h : (d.parse now).result ≠ .ok none) :
    d.callMoments now behind = [.ofParsed (d.parse now)] := by
  unfold callMoments
  dsimp only
  split
  · contradiction
  · rfl

/-- What holds of all moments of a call. -/
theorem forall_callMoments {P : Moment → Prop} {behind : List Moment}
    (hlooked : P (.ofParsed (d.parse now)))
    (hbehind : (d.parse now).result = .ok none → ∀ m ∈ behind, P m) :
    ∀ m ∈ d.callMoments now behind, P m := by
  by_cases hnone : (d.parse now).result = .ok none
  · rw [callMoments_of_parse_eq hnone]
    rw [parse_of_result hnone] at hlooked
    exact List.forall_mem_cons.mpr ⟨hlooked, hbehind hnone⟩
  · rw [callMoments_of_parse_ne hnone]
    exact List.forall_mem_singleton.mpr hlooked

theorem forall_fillMoments {P : Moment → Prop} {arrival : Arrival}
    (hfilled : P ⟨d.push arrival.bytes arrival.descriptors, none⟩)
    (hlooked : P (.ofParsed ((d.push arrival.bytes arrival.descriptors).parse now))) :
    ∀ m ∈ d.fillMoments now arrival, P m :=
  List.forall_mem_cons.mpr ⟨hfilled, List.forall_mem_singleton.mpr hlooked⟩

variable {ω : Type}

/-- The moments of a call that receives from a socket itself. -/
def pullMoments (now : Readings) (receive : Receiver (StateM ω)) (d : Deframer) (w : ω) :
    List Moment :=
  d.callMoments now
    (match (receive d.wanted w).1 with
    | .error _ => []
    | .ok arrival =>
      if arrival.bytes.isEmpty then [⟨d.reset.1, none⟩] else d.fillMoments now arrival)

/-- The moments of one call after the other. -/
def pullsMoments (receive : Receiver (StateM ω)) :
    List Readings → Deframer → ω → List Moment
  | [], d, _ => [⟨d, none⟩]
  | now :: later, d, w =>
    let (step, w') := d.pull now receive w
    ⟨d, none⟩ :: d.pullMoments now receive w ++ pullsMoments receive later step.deframer w'

/-- A call leaves the deframer as it is at one of its moments, the last one. -/
theorem getLast?_pullMoments (now : Readings) (receive : Receiver (StateM ω)) (d : Deframer)
    (w : ω) : (d.pullMoments now receive w).getLast?.map (·.deframer) =
      some (d.pull now receive w).1.deframer := by
  unfold pullMoments
  by_cases hnone : (d.parse now).result = .ok none
  · rw [pull_of_parse_eq hnone, callMoments_of_parse_eq hnone]
    rcases receive d.wanted w with ⟨e | arrival, w'⟩
    · rfl
    · dsimp only
      unfold absorb
      split
      · rfl
      · rfl
  · rw [pull_of_parse_ne hnone, callMoments_of_parse_ne hnone]
    rfl

/-- A call that receives from a socket: what holds before it holds at every moment of it. -/
theorem pullMoments_sized (h : d.Fits limit) (hsingle : d.Single) (now : Readings) (s : Source) :
    ∀ m ∈ d.pullMoments now Source.receiver s, m.Safe limit ∧ m.OneFrame := by
  unfold pullMoments
  refine forall_callMoments ⟨h.looked now, hsingle.looked now⟩ ?_
  intro hnone
  cases hreceived : (Source.receiver d.wanted s).1 with
  | error e => exact List.forall_mem_nil _
  | ok arrival =>
    have hsize := Source.length_receiver_le (wanted_pos_of_parse hnone) hreceived
    dsimp only
    split
    · exact List.forall_mem_singleton.mpr ⟨h.reset.safe, (single_of_empty rfl).oneFrame⟩
    · have hfits := h.fill hnone rfl (Nat.le_refl _) hsize
      have hfilled := Single.fill hnone hsize
      exact forall_fillMoments ⟨hfits.safe, hfilled.oneFrame⟩
        ⟨hfits.looked now, hfilled.looked now⟩

/-- At every moment of a run, what is held is in range and of one frame. -/
theorem pullsMoments_sized (clocks : List Readings) (h : d.Fits limit) (hsingle : d.Single)
    (s : Source) : ∀ m ∈ pullsMoments Source.receiver clocks d s, m.Safe limit ∧ m.OneFrame := by
  induction clocks generalizing d s with
  | nil => exact List.forall_mem_singleton.mpr ⟨h.safe, hsingle.oneFrame⟩
  | cons now later ih =>
    have hcall := pullMoments_sized h hsingle now s
    -- The next call begins at the last moment of this one, at which the same holds.
    obtain ⟨last, hlast, hnext⟩ :=
      Option.map_eq_some_iff.mp (getLast?_pullMoments now Source.receiver d s)
    obtain ⟨hsafe, hone⟩ := hcall last (List.mem_of_getLast? hlast)
    rw [pullsMoments]
    refine List.forall_mem_cons.mpr ⟨⟨h.safe, hsingle.oneFrame⟩, ?_⟩
    refine List.forall_mem_append.mpr ⟨hcall, ?_⟩
    exact ih (hnext ▸ hsafe.fits) (hnext ▸ hone.single) _

end Deframer

end Framecast
