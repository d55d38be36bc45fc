import Framecast.Proofs.Frame.Holding
import Framecast.Proofs.Stream.Source

/-!
# Any chunking reads the same frames

A deframer that receives from a source tells what the grammar says of the stream, whatever pieces
the source brings it in and however often a receive fails. The invariant is that the deframer holds
a stretch within one frame: together with the unread bytes it is what is left of the stream.

`pulls_follow_grammar` is the statement about whole runs.
-/

namespace Framecast

namespace Deframer

variable {ω : Type}

/-- One call after the other, each with what the clocks show at the time. -/
def pulls (receive : Receiver (StateM ω)) :
    List Readings → Deframer → ω → List (Result FrameError FrameOutcome) × Deframer × ω
  | [], d, w => ([], d, w)
  | now :: later, d, w =>
    let (step, w) := d.pull now receive w
    let (results, d, w) := pulls receive later step.deframer w
    (step.result :: results, d, w)

/-- A call that finds a frame in what is held, or fails on it, receives nothing. -/
theorem pull_of_parse_ne {now : Readings} {d : Deframer} (h : (d.parse now).result ≠ .ok none)
    (receive : Receiver (StateM ω)) (w : ω) : d.pull now receive w = ((d.parse now).toStep, w) := by
  unfold pull
  match hresult : (d.parse now).result with
  | .error _ => rfl
  | .panic _ => rfl
  | .ok (some _) => rfl
  | .ok none => exact absurd hresult h

/-- A call without a frame receives once and looks again. -/
theorem pull_of_parse_eq {now : Readings} {d : Deframer} (h : (d.parse now).result = .ok none)
    (receive : Receiver (StateM ω)) (w : ω) :
    d.pull now receive w =
      match receive d.wanted w with
      | (.error e, w) => (⟨.error (.ofIo e), d, []⟩, w)
      | (.ok arrival, w) => (d.absorb now arrival, w) := by
  unfold pull
  rw [h]
  dsimp only
  rw [bind_apply]
  rcases receive d.wanted w with ⟨_ | arrival, w'⟩ <;> rfl

variable {limit : Word} {held : Stretch} {d : Deframer}

/-- Looking for a frame in what is held: there is none yet, or the next event of the stream is
told, whatever follows on it. -/
theorem parse_told (hd : d.Holds limit held) (hsized : Grammar.Sized limit held)
    (hwithin : Grammar.WithinFrame limit held) (now : Readings) :
    (Grammar.lead limit held = .fragment ∧ d.parse now = ⟨.ok none, d, []⟩) ∨
      ∃ e held', Event.ofResult? (d.parse now).toStep.result = some e ∧
        (d.parse now).deframer.Holds limit held' ∧ Grammar.WithinFrame limit held' ∧
        (∀ size, e = .oversized size limit → Grammar.lead limit held' = .oversized size) ∧
        ∀ closed rest, Grammar.Next limit closed (held ++ rest) e (held' ++ rest) := by
  cases hlead : Grammar.lead limit held with
  | fragment => exact .inl ⟨rfl, parse_fragment hd hsized hlead now⟩
  | oversized size =>
    right
    rw [parse_oversized hd hlead now]
    refine ⟨.oversized size limit, held, rfl, hd, hwithin, ?_, ?_⟩
    · intro size' heq
      cases heq
      exact hlead
    · intro closed rest
      exact .oversized (Grammar.lead_append_of_oversized hlead rest)
  | whole e n =>
    right
    have hlen := hwithin e n hlead
    have hdrop : held.drop n = [] := List.drop_of_length_le (Nat.le_of_eq hlen)
    have hclean : Stretch.descriptors (held.drop n) = [] := by rw [hdrop]; rfl
    obtain ⟨hevent, hholds⟩ := parse_whole hd hsized hlead hclean (.inl hlen) now
    rw [hdrop] at hholds
    refine ⟨e, [], hevent, hholds, Grammar.withinFrame_nil limit, ?_, ?_⟩
    · intro size heq
      exact absurd heq (Grammar.ne_oversized_of_lead hlead)
    · intro closed rest
      have hrest : (held ++ rest).drop n = [] ++ rest := by
        rw [List.drop_append_of_le_length (Nat.le_of_eq hlen.symm), hdrop]
      rw [← hrest]
      exact .whole (Grammar.lead_append_of_whole hlead rest)

/-- How one call changes what is held and what the source has left. -/
inductive Progress (limit : Word) (held : Stretch) (s : Source) :
    Option Event → Stretch → Source → Prop
  | told {e : Event} {held' : Stretch} {s' : Source}
      (next : Grammar.Next limit s.closed (held ++ s.unread) e (held' ++ s'.unread))
      (stuck : ∀ size, e = .oversized size limit → Grammar.lead limit held' = .oversized size)
      (patience : s'.patience ≤ s.patience) (closed : s'.closed = s.closed) :
      Progress limit held s (some e) held' s'
  /-- Nothing was told, but the source has less left. -/
  | waited {held' : Stretch} {s' : Source} (stream : held' ++ s'.unread = held ++ s.unread)
      (patience : s'.patience < s.patience) (closed : s'.closed = s.closed) :
      Progress limit held s none held' s'
  /-- Nothing was told, for nothing is left that could arrive. -/
  | idle {s' : Source} (lead : Grammar.lead limit held = .fragment) (unread : s.unread = [])
      (hopen : s.closed = false) (same : s'.unread = s.unread) (closed : s'.closed = s.closed) :
      Progress limit held s none held s'

/-- What one call does to a deframer that holds a stretch within a frame. -/
theorem pull_progress (hd : d.Holds limit held) (hwithin : Grammar.WithinFrame limit held)
    (now : Readings) (s : Source) (hsized : Grammar.Sized limit (held ++ s.unread)) :
    ∃ held', (d.pull now Source.receiver s).1.deframer.Holds limit held' ∧
      Grammar.WithinFrame limit held' ∧
      Progress limit held s (Event.ofResult? (d.pull now Source.receiver s).1.result) held'
        (d.pull now Source.receiver s).2 := by
  rcases parse_told hd hsized.of_append hwithin now with
    ⟨hlead, hparse⟩ | ⟨e, held', hevent, hholds, hw, hstuck, hnext⟩
  · have hnone : (d.parse now).result = .ok none := by rw [hparse]
    obtain ⟨hpos, hwanted⟩ := wanted_of_fragment hd hsized.of_append hlead
    have hgives := Source.gives_receiver hpos s
    rw [pull_of_parse_eq hnone]
    generalize Source.receiver d.wanted s = received at hgives ⊢
    obtain ⟨result, s'⟩ := received
    cases hgives with
    | failed e turns hturns =>
      refine ⟨held, hd, hwithin, .waited rfl ?_ rfl⟩
      simp only [Source.patience]
      omega
    | idle e turns hturns hunread hopen =>
      exact ⟨held, hd, hwithin, .idle hlead hunread hopen rfl rfl⟩
    | ended turns hturns hunread hclosed =>
      refine ⟨[], hd.reset, Grammar.withinFrame_nil limit, .told ?_ ?_ ?_ rfl⟩
      · dsimp only
        rw [hunread, List.append_nil, List.append_nil]
        exact .ended hlead hclosed
      · intro size heq
        cases heq
      · simp only [Source.patience]
        omega
    | brought chunk rest turns hturns hchunk hsize hunread =>
      have hne : (Stretch.arrival chunk).bytes.isEmpty = false := by
        rw [Stretch.arrival_bytes, List.isEmpty_eq_false_iff, ne_eq, Stretch.bytes_eq_nil_iff]
        exact hchunk
      have hless : rest.length < s.unread.length := by
        have := List.length_pos_iff.mpr hchunk
        rw [hunread, List.length_append]
        omega
      have hstream : held ++ s.unread = held ++ chunk ++ rest := by
        rw [hunread, List.append_assoc]
      dsimp only
      rw [absorb, hne, if_neg Bool.false_ne_true, Stretch.arrival_bytes,
        Stretch.arrival_descriptors]
      have hsized' : Grammar.Sized limit (held ++ chunk) := (hstream ▸ hsized).of_append
      rcases parse_told (hd.push chunk) hsized' (hwanted chunk hsize) now with
        ⟨-, hparse⟩ | ⟨e, held', hevent, hholds, hw, hstuck, hnext⟩
      · rw [hparse]
        refine ⟨held ++ chunk, hd.push chunk, hwanted chunk hsize, .waited hstream.symm ?_ rfl⟩
        simp only [Source.patience]
        omega
      · rw [hevent]
        refine ⟨held', hholds, hw, .told ?_ hstuck ?_ rfl⟩
        · rw [hstream]
          exact hnext s.closed rest
        · simp only [Source.patience]
          omega
  · have hne : (d.parse now).result ≠ .ok none := by
      intro h
      rw [Parsed.toStep, h] at hevent
      cases hevent
    rw [pull_of_parse_ne hne, hevent]
    exact ⟨held', hholds, hw, .told (hnext s.closed s.unread) hstuck (Nat.le_refl _) rfl⟩

/-! ### Runs -/

/-- What a run of steps tells, in order. -/
def told (results : List (Result FrameError FrameOutcome)) : List Event :=
  results.filterMap Event.ofResult?

theorem told_cons (result : Result FrameError FrameOutcome)
    (results : List (Result FrameError FrameOutcome)) :
    told (result :: results) = (Event.ofResult? result).toList ++ told results := by
  unfold told
  rw [List.filterMap_cons]
  cases Event.ofResult? result <;> rfl

/-- A frame that is too large is in front. -/
def Refuses (size : Word) (d : Deframer) : Prop :=
  ∀ now, d.parse now = ⟨.error (.payloadTooLarge size d.config.maxInline), d, []⟩

theorem Holds.refuses (hd : d.Holds limit held) {size : Word}
    (hlead : Grammar.lead limit held = .oversized size) : d.Refuses size := by
  intro now
  rw [hd.limit]
  exact parse_oversized hd hlead now

/-- Once a header was refused, every call fails on it again. -/
theorem pulls_of_refuses {size : Word} (hd : d.Refuses size) (receive : Receiver (StateM ω))
    (clocks : List Readings) (w : ω) :
    pulls receive clocks d w =
      (clocks.map fun _ => .error (.payloadTooLarge size d.config.maxInline), d, w) := by
  induction clocks with
  | nil => rfl
  | cons now later ih =>
    have hne : (d.parse now).result ≠ .ok none := by
      rw [hd now]
      exact nofun
    rw [pulls, pull_of_parse_ne hne, hd now]
    dsimp only [Parsed.toStep]
    rw [ih]
    rfl

theorem Progress.allSized {held' : Stretch} {s s' : Source} {e : Option Event}
    (hp : Progress limit held s e held' s')
    (h : Grammar.AllSized limit s.closed (held ++ s.unread)) :
    Grammar.AllSized limit s'.closed (held' ++ s'.unread) := by
  cases hp with
  | told next stuck patience closed =>
    rw [closed]
    exact h.of_next next
  | waited stream patience closed =>
    rw [closed, stream]
    exact h
  | idle lead unread hopen same closed =>
    rw [closed, same]
    exact h

/-- What a whole run does: it tells events of the stream in order, and every call that tells nothing
leaves the source with less, until nothing is left that could arrive. -/
structure RunProgress (limit : Word) (held : Stretch) (s : Source) (calls : Nat)
    (events : List Event) (held' : Stretch) (final : Deframer) (s' : Source) : Prop where
  reads : Grammar.Reads limit s.closed (held ++ s.unread) events (held' ++ s'.unread)
  count : calls ≤ events.length + s.patience ∨
    s.closed = false ∧ Grammar.lead limit (held' ++ s'.unread) = .fragment
  stuck : ∀ size, .oversized size limit ∈ events → final.Refuses size

theorem RunProgress.cons {held₁ held' : Stretch} {s s₁ s' : Source} {calls : Nat}
    {e : Option Event} {events : List Event} {final : Deframer}
    (hp : Progress limit held s e held₁ s₁)
    (hrun : RunProgress limit held₁ s₁ calls events held' final s')
    (hkeep : ∀ size, Grammar.lead limit held₁ = .oversized size → final.Refuses size) :
    RunProgress limit held s (calls + 1) (e.toList ++ events) held' final s' := by
  obtain ⟨hreads, hcount, hstuck⟩ := hrun
  cases hp with
  | told next stuck patience closed =>
    rw [closed] at hreads hcount
    refine ⟨.cons next hreads, ?_, ?_⟩
    · rw [Option.toList_some, List.singleton_append, List.length_cons]
      exact hcount.imp_left (by omega)
    · intro size hmem
      rcases List.mem_cons.mp hmem with heq | hmem
      · exact hkeep size (stuck size heq.symm)
      · exact hstuck size hmem
  | waited stream patience closed =>
    rw [closed, stream] at hreads
    rw [closed] at hcount
    exact ⟨hreads, hcount.imp_left (by rw [Option.toList_none, List.nil_append]; omega), hstuck⟩
  | idle lead unread hopen same closed =>
    rw [closed, same] at hreads
    have hfragment : Grammar.lead limit (held ++ s.unread) = .fragment := by
      rw [unread, List.append_nil]
      exact lead
    have hleft := (hopen ▸ hreads).eq_of_fragment hfragment
    exact ⟨hreads, .inr ⟨hopen, hleft ▸ hfragment⟩, hstuck⟩

/-- A run makes progress in the grammar, call by call. -/
theorem pulls_progress (hd : d.Holds limit held) (hwithin : Grammar.WithinFrame limit held)
    (clocks : List Readings) (s : Source)
    (hsized : Grammar.AllSized limit s.closed (held ++ s.unread)) :
    ∃ held', (pulls Source.receiver clocks d s).2.1.Holds limit held' ∧
      RunProgress limit held s clocks.length (told (pulls Source.receiver clocks d s).1) held'
        (pulls Source.receiver clocks d s).2.1 (pulls Source.receiver clocks d s).2.2 := by
  induction clocks generalizing held d s with
  | nil =>
    refine ⟨held, hd, .nil _, .inl (Nat.zero_le _), ?_⟩
    intro size hmem
    cases hmem
  | cons now later ih =>
    obtain ⟨held₁, hd₁, hw₁, hprogress⟩ := pull_progress hd hwithin now s hsized.head
    rw [pulls]
    generalize d.pull now Source.receiver s = called at hd₁ hprogress ⊢
    obtain ⟨step, s₁⟩ := called
    obtain ⟨held', hd', hrun⟩ := ih hd₁ hw₁ s₁ (hprogress.allSized hsized)
    have hkeep : ∀ size, Grammar.lead limit held₁ = .oversized size →
        (pulls Source.receiver later step.deframer s₁).2.1.Refuses size := by
      intro size hlead
      have hrefuses := hd₁.refuses hlead
      rw [pulls_of_refuses hrefuses]
      exact hrefuses
    dsimp only
    rw [told_cons]
    exact ⟨held', hd', hrun.cons hprogress hkeep⟩

/-- **Any chunking reads the same frames.** A fresh deframer that receives from a source, in any
pieces and with any failures in between, tells the first events of what the grammar reads in the
stream. Of the calls that tell nothing there are no more than the stream has bytes and the source
has turns, unless everything was told and the stream goes on. Once a frame was too large, no later
call receives. -/
theorem pulls_follow_grammar (config : DeframerConfig) (clock : ClockFollower)
    (baseTime : Option Word) (stream : Stretch) (closed : Bool) (turns : List Turn)
    (clocks : List Readings) (hlimit : config.maxInline.toNat ≤ Grammar.largestLimit) :
    let run := pulls Source.receiver clocks { config, clock, baseTime } ⟨stream, closed, turns⟩
    let events := told run.1
    let transcript := Grammar.read config.maxInline closed stream
    events = transcript.firsts events.length ∧
    (clocks.length ≤ events.length + stream.length + turns.length ∨
      transcript.IsToldIn events.length) ∧
    ∀ size, .oversized size config.maxInline ∈ events →
      ∀ later, (pulls Source.receiver later run.2.1 run.2.2).2.2 = run.2.2 := by
  intro run events transcript
  have hd : Holds config.maxInline [] { config, clock, baseTime } := ⟨rfl, rfl, rfl⟩
  obtain ⟨held', hd', hreads, hcount, hstuck⟩ :=
    pulls_progress hd (Grammar.withinFrame_nil _) clocks ⟨stream, closed, turns⟩
      (Grammar.allSized_of_limit hlimit closed stream)
  refine ⟨hreads.firsts, ?_, ?_⟩
  · rcases hcount with hle | ⟨hopen, hlead⟩
    · left
      rw [Nat.add_assoc]
      exact hle
    · right
      dsimp only at hopen
      subst hopen
      exact hreads.isToldIn hlead
  · intro size hmem later
    rw [pulls_of_refuses (hstuck size hmem)]

/-- An inline frame with a stray descriptor, a pipe behind a header, and the start of a header. -/
def strayThenPipe : Stretch :=
  Stretch.ofMessage [.pipe] (Header.inlined 7 2).encode ++ Stretch.plain [1, 2] ++
    Stretch.ofMessage [.pipe] (Header.referenced 9 0 0).encode ++ Stretch.plain [5]

theorem pulls_follow_grammar_strayThenPipe :
    (16 : Word).toNat ≤ Grammar.largestLimit ∧
    let run := pulls Source.receiver (List.replicate 60 default) { config := { maxInline := 16 } }
      ⟨strayThenPipe, true, [.bring 9, .fail (.bare .wouldBlock), .bring 0]⟩
    let events := told run.1
    let transcript : Transcript :=
      ⟨[.corrupt (.strayDescriptors 1),
        .frame (.referenced 9 0 0) (.region ⟨.pipe, 0, 0, true⟩)], some .endOfStream⟩
    events = transcript.firsts events.length ∧
    (60 ≤ events.length + 51 + 3 ∨ transcript.IsToldIn events.length) ∧
    ∀ size, .oversized size 16 ∈ events →
      ∀ later, (pulls Source.receiver later run.2.1 run.2.2).2.2 = run.2.2 := by
  have hread : Grammar.read 16 true strayThenPipe =
      ⟨[.corrupt (.strayDescriptors 1),
        .frame (.referenced 9 0 0) (.region ⟨.pipe, 0, 0, true⟩)], some .endOfStream⟩ := by
    decide +kernel
  refine ⟨by decide, ?_⟩
  intro run events transcript
  have h := pulls_follow_grammar { maxInline := 16 } { config := {} } none strayThenPipe true
    [.bring 9, .fail (.bare .wouldBlock), .bring 0] (List.replicate 60 default) (by decide)
  rw [hread] at h
  exact h

end Deframer

end Framecast
