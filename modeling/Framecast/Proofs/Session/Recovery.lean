import Framecast.Proofs.Frame.Extent
import Framecast.Proofs.Session.HandOff
import Framecast.Proofs.Session.Origin

/-!
# What a new socket recovers

The socket of a link is exchanged between two calls of the same deframer. A call looks at what is
held before it reads, and what is held of the old socket is dropped only when bytes of the new one
have come. So whole frames of the old socket are told first, and a frame of it that is refused is
refused for ever: then nothing is ever read from the new socket.

`refusal?_of_pulls` is about the calls before the exchange, `drains` about what is left of the old
socket, and `recovers_iff` about all the calls behind it.
-/

namespace Framecast

namespace Scene

open Deframer

variable {limit : Word} {d : Deframer} {s s' : Scene} {steps size : Nat}

/-- The socket of a link is exchanged. -/
def exchange (socket : Option SocketId) (s : Scene) : Scene :=
  s.act [.install socket, .wake]

/-! ### Refusals -/

/-- What fails in a read is its socket. -/
def FailsBySocket : ReadPhase → Prop
  | .done (.error e) => ∃ cause, e = .socket cause
  | _ => True

theorem failsBySocket_advance {phase phase' : ReadPhase} (h : FailsBySocket phase)
    (hstep : phase.advance host size s = some (phase', s')) : FailsBySocket phase' := by
  cases phase with
  | entering =>
    rw [advance_entering] at hstep
    cases hstep
    unfold ReadPhase.ofEntering
    split
    · trivial
    · exact ⟨_, rfl⟩
    · split
      · trivial
      · trivial
  | waiting w =>
    rw [advance_waiting, Option.map_eq_some_iff] at hstep
    obtain ⟨⟨r, s₁⟩, -, heq⟩ := hstep
    cases heq
    unfold ReadPhase.ofPoll
    split
    · exact ⟨_, rfl⟩
    · split
      · trivial
      · split <;> trivial
  | woken =>
    rw [advance_woken] at hstep
    cases hstep
    split <;> trivial
  | draining =>
    rw [advance_draining] at hstep
    cases hstep
    trivial
  | reading w =>
    rw [advance_reading] at hstep
    cases hstep
    unfold ReadPhase.ofReceive
    split
    · split <;> trivial
    · split
      · trivial
      · exact ⟨_, rfl⟩
  | ending w =>
    rw [advance_ending] at hstep
    cases hstep
    trivial
  | concluding w =>
    rw [advance_concluding] at hstep
    cases hstep
    unfold ReadPhase.ofEnding
    split <;> trivial
  | done result =>
    cases hstep
    exact h

/-- A read that fails fails by its socket. -/
theorem receiveOver_error {e : SessionError} (h : receiveOver steps size s = some (.error e, s')) :
    ∃ cause, e = .socket cause := by
  exact receiveOver_keeps (P := fun phase _ => FailsBySocket phase)
    (fun _ _ _ _ hfails hadvance => failsBySocket_advance hfails hadvance) h trivial

/-- Only what deframers find is wrapped, and each in its own way. -/
theorem mapError_frame_injective {r r' : Result FrameError FrameOutcome}
    (h : r.mapError SessionError.frame = r'.mapError SessionError.frame) : r = r' := by
  cases r with
  | ok | error | panic => cases r' <;> cases h <;> rfl

/-- What spoils the stream is no result of a read. -/
theorem mapError_frame_ne_error {r : Result FrameError FrameOutcome} (hspoils : r.isLocal = false)
    (cause : SocketError) : r.mapError SessionError.frame ≠ .error (.socket cause) := by
  cases r with
  | ok | error | panic => nofun

/-- A call that fails for good leaves the deframer with the refusal that it failed on. -/
theorem refusal?_of_pull {call : Result SessionError FrameOutcome × Deframer × List Descriptor}
    (h : pull steps d s = some (call, s')) {r : Result FrameError FrameOutcome}
    (hresult : call.1 = r.mapError .frame) (hspoils : r.isLocal = false) :
    call.2.1.refusal? = some r := by
  have hfound {now : Readings} {d' : Deframer}
      (hparsed : (d'.parse now).toStep.result = r) :
      (d'.parse now).deframer.refusal? = some r := by
    rw [← hparsed, Parsed.isLocal_toStep] at hspoils
    obtain ⟨hrefused, hsame⟩ := refusal?_of_parse hspoils
    rw [hsame, ← hparsed]
    exact hrefused
  by_cases hparse : (d.parse s.now).result = .ok none
  · rw [pull_of_parse_eq steps hparse] at h
    split at h
    · cases h
    · rename_i e' s₁ hreceive
      obtain ⟨cause, rfl⟩ := receiveOver_error hreceive
      cases h
      exact absurd hresult.symm (mapError_frame_ne_error hspoils cause)
    · rename_i received s₁ hreceive
      cases h
      have hstep : (d.absorbReceived s₁.now received).result = r :=
        mapError_frame_injective hresult
      show (d.absorbReceived s₁.now received).deframer.refusal? = some r
      cases received with
      | flushing | endOfStream =>
        rw [← hstep] at hspoils
        cases hspoils
      | data arrival g =>
        obtain ⟨hsame, hdeframer⟩ := absorbReceived_data s₁.now arrival g d
        rw [hsame] at hstep
        rw [hdeframer]
        exact hfound hstep
  · rw [pull_of_parse_ne steps hparse] at h
    cases h
    exact hfound (mapError_frame_injective hresult)

/-- A frame that is refused stays, and nothing else is told any more. -/
theorem pulls_of_refusal? {r : Result FrameError FrameOutcome} (h : d.refusal? = some r)
    (calls : Nat) (s : Scene) :
    (pulls steps calls d s).1 = List.replicate calls (r.mapError .frame) ∧
      (pulls steps calls d s).2.1 = d := by
  induction calls generalizing s with
  | zero => exact ⟨rfl, rfl⟩
  | succ calls ih =>
    obtain ⟨hne, hstep⟩ := toStep_of_refusal? h s.now
    have hpull : pull steps d s = some ((r.mapError .frame, d, []), s.tick) := by
      rw [pull_of_parse_ne steps hne, hstep]
      rfl
    obtain ⟨hresults, hsame⟩ := ih s.tick
    rw [pulls, hpull]
    dsimp only
    rw [hresults, hsame]
    exact ⟨rfl, rfl⟩

theorem refusal?_of_pulls {calls : Nat} {r : Result FrameError FrameOutcome}
    (h : r.mapError .frame ∈ (pulls steps calls d s).1) (hspoils : r.isLocal = false) :
    (pulls steps calls d s).2.1.refusal? = some r := by
  induction calls generalizing d s with
  | zero => cases h
  | succ calls ih =>
    rw [pulls] at h ⊢
    cases hpull : pull steps d s with
    | none =>
      rw [hpull] at h
      cases h
    | some called =>
      obtain ⟨⟨result, d₁, released⟩, s₁⟩ := called
      rw [hpull] at h
      dsimp only at h ⊢
      rcases List.mem_cons.mp h with heq | hlater
      · have hrefused := refusal?_of_pull hpull heq.symm hspoils
        rw [(pulls_of_refusal? hrefused calls s₁).2]
        exact hrefused
      · exact ih hlater

/-! ### What is left of the old socket -/

theorem pulls_follows (hd : d.Follows limit s.log s.link.generation) (steps calls : Nat) :
    (pulls steps calls d s).2.1.Follows limit (pulls steps calls d s).2.2.log
      (pulls steps calls d s).2.2.link.generation := by
  induction calls generalizing d s with
  | zero => exact hd
  | succ calls ih =>
    rw [pulls]
    cases hpull : pull steps d s with
    | none => exact hd
    | some called =>
      obtain ⟨⟨result, d₁, released⟩, s₁⟩ := called
      exact ih (pull_called hd hpull).follows

/-- A deframer that found nothing waits for the rest of a frame. -/
theorem waits_of_follows {log : Nat → Stretch} {generation : Nat}
    (h : d.Follows limit log generation) (now : Readings)
    (hnone : (d.parse now).result = .ok none) :
    ∃ g held, g ≤ generation ∧ d.Waits limit g held := by
  cases h with
  | fresh hstream hd =>
    exact ⟨generation, [], Nat.le_refl _, .of_holds_nil hd (.inl hstream)⟩
  | noted g before old new hstream hle hlog hd =>
    obtain ⟨hsized, hlead⟩ := fragment_of_parse hd hnone
    exact ⟨g, _, hle, hd, hsized, hlead, .inr hstream⟩

variable {x : SocketId} {generation : Nat} {source : Source}

/-- The frames that are left of older sockets are told without reading. In the end a frame is
refused, or the rest of one is waited for. -/
theorem drains {log : Nat → Stretch} {older : Nat} (hd : d.Follows limit log older)
    (hserves : s.Serves x generation source) (steps : Nat) :
    ∃ left results d' s', pulls steps left d s = (results, d', s') ∧ results.length = left ∧
      s'.log = s.log ∧ s'.Serves x generation source ∧
      (∀ r, d.refusal? = some r → left = 0 ∧ d' = d) ∧
      ((∃ r, d'.refusal? = some r) ∨
        d'.refusal? = none ∧ ∃ g held, g ≤ older ∧ d'.Waits limit g held) := by
  induction hlength : d.backlog.length using Nat.strongRecOn generalizing d s with
  | ind length ih =>
    have hlooked := looked_parse s.now d
    have hfollows := (hd.parse s.now).1
    generalize hparsed : d.parse s.now = p at hlooked hfollows
    cases hlooked with
    | waits hfree =>
      have hwaits := waits_of_follows hd s.now (by rw [hparsed])
      exact ⟨0, [], d, s, rfl, rfl, rfl, hserves, fun _ _ => ⟨rfl, rfl⟩, .inr ⟨hfree, hwaits⟩⟩
    | refused _ hrefused | panicked _ hrefused =>
      exact ⟨0, [], d, s, rfl, rfl, rfl, hserves, fun _ _ => ⟨rfl, rfl⟩, .inl ⟨_, hrefused⟩⟩
    | took p hfree hsome hlocal hless =>
      obtain ⟨left, results, d', s', hrun, hcount, hlog, hserves', -, hrest⟩ :=
        ih p.deframer.backlog.length (hlength ▸ hless) hfollows hserves.tick rfl
      have hpull : pull steps d s = some (finished p.toStep, s.tick) := by
        rw [pull_of_parse_ne steps (by rw [hparsed]; exact hsome), hparsed]
      refine ⟨left + 1, (finished p.toStep).1 :: results, d', s', ?_, ?_, hlog, hserves', ?_, hrest⟩
      · have hrun' : pulls steps left (finished p.toStep).2.1 s.tick = (results, d', s') := hrun
        rw [pulls, hpull]
        dsimp only
        rw [hrun']
      · rw [List.length_cons, hcount]
      · intro r hrefused
        rw [hfree] at hrefused
        cases hrefused

/-! ### Behind the exchange -/

variable {packets : List Packet} {closed : Bool} {bytes calls : Nat}

/-- Of what there is to tell nothing is an error of the deframer or a panic. -/
theorem Tells.head?_ne {told : List (Result SessionError Event)}
    (h : Tells packets closed bytes calls told) :
    (∀ e, told.head? ≠ some (.error (.frame e))) ∧
      ∀ message, told.head? ≠ some (.panic message) := by
  have hmem {r : Result SessionError Event} (hhead : told.head? = some r) :
      (∃ event, r = .ok event) ∨ r = .error (.socket .notConnected) := by
    have hreported := h.order.subset (List.mem_of_mem_head? hhead)
    unfold reports at hreported
    rcases List.mem_append.mp hreported with hpacket | hend
    · obtain ⟨p, -, rfl⟩ := List.mem_map.mp hpacket
      exact .inl ⟨_, rfl⟩
    · split at hend
      · rcases List.mem_cons.mp hend with rfl | hend
        · exact .inl ⟨_, rfl⟩
        · exact .inr (List.eq_of_mem_replicate hend)
      · cases hend
  refine ⟨?_, ?_⟩
  · intro e hhead
    rcases hmem hhead with ⟨event, heq⟩ | heq <;> cases heq
  · intro message hhead
    rcases hmem hhead with ⟨event, heq⟩ | heq <;> cases heq

/-- A deframer that waits for the rest of a frame of an older socket tells all packets on the new
one, if and only if the first receive there is tidy. -/
theorem tells_iff_of_waits {g : Nat} {held : Stretch} {turns : List Turn}
    (hd : d.Waits limit g held) (hlater : g ≠ generation)
    (hserves : s.Serves x generation ⟨Packet.stream packets, closed, turns⟩)
    (hsound : ∀ p ∈ packets, p.Sound limit) (hsteps : 9 ≤ steps) :
    Packet.Tidy packets (Source.next d.wanted ⟨Packet.stream packets, closed, turns⟩) ↔
      ∀ calls, Tells packets closed (Packet.stream packets).length calls
        (told (pulls steps calls d s).1) := by
  have hanswers := hserves.tick.receiveOver hd.wanted_pos hsteps
  constructor
  · intro htidy calls
    cases calls with
    | zero => exact ⟨List.nil_prefix, .inl (Nat.zero_le _)⟩
    | succ calls =>
      refine (pull_anew hd hlater rfl hsound htidy hanswers).tells (by omega) ?_
      intro packets' source' held' d' s' hsuffix h'
      exact pulls_attends h' (fun p hp => hsound p (hsuffix.subset hp)) hsteps calls
  · intro htells
    apply Decidable.byContradiction
    intro huntidy
    simp only [Packet.Tidy, Classical.not_forall, not_or, Nat.not_le] at huntidy
    obtain ⟨p, hp, hrides, hlong⟩ := huntidy
    obtain ⟨more, rfl⟩ : ∃ more, packets = p :: more := List.head?_eq_some_iff.mp hp
    obtain ⟨d', released, s', hpull⟩ := pull_anew_untidy hd hlater rfl
      (hsound p (List.mem_cons_self ..)) hrides hlong hanswers
    apply (htells 1).head?_ne.1
    rw [told_pulls_succ hpull]
    rfl

/-- **What a new socket recovers.** A fresh deframer has read over a link, whatever the sockets
brought and whatever others did meanwhile, and now a new socket is installed, on which sound packets
are queued. Some calls tell what is left of whole frames of older sockets, without reading. The
calls behind them tell all packets in order, and nothing else before the new socket ends, if and
only if no frame of an older socket is refused and the first receive from the new one is tidy. If a
frame is refused, every call comes to that error, or to that panic, and nothing is ever told of the
new socket. So it is from the start if a call before the exchange came to it. -/
theorem recovers_iff (config : DeframerConfig) (clock : ClockFollower) (baseTime : Option Word)
    {scene s : Scene} {d : Deframer} {results : List (Result SessionError FrameOutcome)}
    {steps₀ calls₀ steps : Nat} {new : SocketId} {packets : List Packet} {closed : Bool}
    {turns : List Turn}
    (hrun : pulls steps₀ calls₀ { config, clock, baseTime } scene = (results, d, s))
    (hserves : (s.exchange (some new)).Serves new (s.link.generation + 1)
      ⟨Packet.stream packets, closed, turns⟩)
    (hsound : ∀ p ∈ packets, p.Sound config.maxInline) (hsteps : 9 ≤ steps) :
    ∃ left older d' s', pulls steps left d (s.exchange (some new)) = (older, d', s') ∧
      older.length = left ∧ s'.log = s.log ∧
      (d'.refusal? = none ∧
          Packet.Tidy packets (Source.next d'.wanted ⟨Packet.stream packets, closed, turns⟩) ↔
        ∀ calls, Tells packets closed (Packet.stream packets).length calls
          (told (pulls steps calls d' s').1)) ∧
      (∀ r, d'.refusal? = some r →
        ∀ calls, (pulls steps calls d' s').1 = List.replicate calls (r.mapError .frame)) ∧
      ∀ r : Result FrameError FrameOutcome, r.mapError .frame ∈ results → r.isLocal = false →
        left = 0 ∧ d'.refusal? = some r := by
  have hfresh : Follows config.maxInline scene.log scene.link.generation
      { config, clock, baseTime } := .fresh rfl ⟨rfl, rfl, rfl⟩
  have hfollows := pulls_follows hfresh steps₀ calls₀
  rw [hrun] at hfollows
  obtain ⟨left, older, d', s', hdrained, hcount, hlog, hserves', hstuck, hrest⟩ :=
    drains hfollows hserves steps
  refine ⟨left, older, d', s', hdrained, hcount, hlog, ?_, ?_, ?_⟩
  · rcases hrest with ⟨r, hrefused⟩ | ⟨hfree, g, held, hle, hwaits⟩
    · have hclogged : ¬ ∀ calls, Tells packets closed (Packet.stream packets).length calls
          (told (pulls steps calls d' s').1) := by
        intro htells
        obtain ⟨hnoError, hnoPanic⟩ := (htells 1).head?_ne
        rw [(pulls_of_refusal? hrefused 1 s').1] at hnoError hnoPanic
        have hspoils := isLocal_of_refusal? hrefused
        cases r with
        | ok outcome => cases hspoils
        | error e => exact hnoError e rfl
        | panic message => exact hnoPanic message rfl
      rw [hrefused]
      exact iff_of_false (fun h => nomatch h.1) hclogged
    · have hlater : g ≠ s.link.generation + 1 := by
        have hle' : g ≤ s.link.generation := hle
        omega
      rw [and_iff_right hfree]
      exact tells_iff_of_waits hwaits hlater hserves' hsound hsteps
  · intro r hrefused calls
    exact (pulls_of_refusal? hrefused calls s').1
  · intro r hmem hspoils
    have hrefused : d.refusal? = some r := by
      have hlast : (pulls steps₀ calls₀ { config, clock, baseTime } scene).2.1.refusal? = some r :=
        refusal?_of_pulls (by rw [hrun]; exact hmem) hspoils
      rw [hrun] at hlast
      exact hlast
    obtain ⟨hleft, rfl⟩ := hstuck r hrefused
    exact ⟨hleft, hrefused⟩

/-- An inline frame of two bytes. -/
def shortPacket : Packet :=
  ⟨.inlined 7 2, .inlined [4, 5]⟩

/-- A socket on which the header of a frame is queued that is too large. -/
def oversized : Scene where
  link := { socket := some 0, generation := 1 }
  source id :=
    if id = 0 then ⟨Stretch.plain (Header.inlined 5 300).encode, false, []⟩
    else ⟨Packet.stream [shortPacket], false, []⟩

/-- The header that was refused before the exchange is refused behind it. -/
theorem recovers_iff_oversized :
    let run := pulls 9 2 { config := { maxInline := 200 } } oversized
    let tooLarge : FrameError := .payloadTooLarge 300 200
    .error (.frame tooLarge) ∈ run.1 ∧ tooLarge.isLocal = false ∧
    (run.2.2.exchange (some 1)).Serves 1 (run.2.2.link.generation + 1)
      ⟨Packet.stream [shortPacket], false, []⟩ ∧
    (∀ p ∈ [shortPacket], p.Sound 200) ∧ 9 ≤ 9 ∧
    ∀ calls, (pulls 9 calls run.2.1 (run.2.2.exchange (some 1))).1 =
      List.replicate calls (.error (.frame tooLarge)) := by
  intro run tooLarge
  have hrun : pulls 9 2 { config := { maxInline := 200 } } oversized =
      (run.1, run.2.1, run.2.2) := rfl
  have hmem : .error (.frame tooLarge) ∈ run.1 := by
    have htold : .error (.frame tooLarge) ∈ told run.1 := by decide +kernel
    obtain ⟨result, hresult, hsame⟩ := List.mem_filterMap.mp htold
    have heq : result = .error (.frame tooLarge) := by
      rcases result with (_ | _ | _ | _) | _ | _ <;> cases hsame <;> rfl
    exact heq ▸ hresult
  have hserves : (run.2.2.exchange (some 1)).Serves 1 (run.2.2.link.generation + 1)
      ⟨Packet.stream [shortPacket], false, []⟩ := {
    alone := by decide +kernel
    spent := by decide +kernel
    socket := by decide +kernel
    running := by decide +kernel
    generation := by decide +kernel
    steady := nofun
    source := by decide +kernel }
  have hsound : ∀ p ∈ [shortPacket], p.Sound 200 :=
    List.forall_mem_singleton.mpr (.inlined rfl rfl (by decide) (by decide))
  refine ⟨hmem, rfl, hserves, hsound, Nat.le_refl 9, ?_⟩
  obtain ⟨left, older, d', s', hdrained, hcount, -, -, hstuck, hrefused⟩ :=
    recovers_iff { maxInline := 200 } { config := {} } none hrun hserves hsound (Nat.le_refl 9)
  obtain ⟨rfl, hd'⟩ := hrefused (.error tooLarge) hmem rfl
  cases hdrained
  exact hstuck (.error tooLarge) hd'

end Scene

end Framecast
