import Framecast.Proofs.Frame.Refusal
import Framecast.Proofs.Session.Reading

/-!
# Waiting for the rest of a frame

As long as nothing is installed on a link and no frame was too large, nor so large that a call
panicked, the deframer that reads over it holds less than a frame after every call, and only of the
generation that is installed: `pull_waits` is the single call, `pulls_waits` a run of them, whatever
the socket brings and whatever others do to the link besides.
-/

namespace Framecast

namespace Deframer

/-- Less than a frame is held, and of one generation only. -/
structure Waits (limit : Word) (generation : Nat) (held : Stretch) (d : Deframer) : Prop where
  holds : d.Holds limit held
  sized : Grammar.Sized limit held
  lead : Grammar.lead limit held = .fragment
  noted : (d.stream = none ∧ held = []) ∨ d.stream = some generation

variable {limit : Word} {generation : Nat} {held : Stretch} {d : Deframer}

theorem Waits.of_holds_nil (hd : d.Holds limit []) (hstream : d.stream = none ∨
    d.stream = some generation) : d.Waits limit generation [] := by
  refine ⟨hd, ?_, rfl, hstream.imp_left fun h => ⟨h, rfl⟩⟩
  intro h hdecode
  cases hdecode

theorem Waits.parse (h : d.Waits limit generation held) (now : Readings) :
    d.parse now = ⟨.ok none, d, []⟩ :=
  parse_fragment h.holds h.sized h.lead now

/-- A deframer that waits asks for something. -/
theorem Waits.wanted_pos (h : d.Waits limit generation held) : 0 < d.wanted :=
  (wanted_of_fragment h.holds h.sized h.lead).1

theorem Waits.reset (h : d.Waits limit generation held) :
    d.reset.1.Waits limit generation [] :=
  .of_holds_nil h.holds.reset (h.noted.imp_left And.left)

/-- Another socket makes a deframer forget what it held. -/
theorem Waits.setStream (h : d.Waits limit generation held) {later : Nat}
    (hlater : generation ≠ later) :
    (d.setStream later).1.Holds limit [] ∧ (d.setStream later).1.stream = some later := by
  rcases h.noted with ⟨hnone, rfl⟩ | hsome
  · rw [Deframer.setStream, hnone]
    exact ⟨⟨h.holds.limit, h.holds.bytes, h.holds.pending⟩, rfl⟩
  · rw [Deframer.setStream, hsome]
    dsimp only
    rw [if_neg hlater]
    exact ⟨⟨h.holds.limit, rfl, rfl⟩, rfl⟩

/-- What is held is a fragment, is refused for good, or begins with a whole frame. -/
theorem parse_outcome (hd : d.Holds limit held) (now : Readings) :
    (Grammar.Sized limit held ∧ Grammar.lead limit held = .fragment) ∨
      (d.parse now).result.isLocal = false ∨
      (Grammar.Sized limit held ∧ ∃ e n, Grammar.lead limit held = .whole e n) := by
  by_cases hsized : Grammar.Sized limit held
  · cases hlead : Grammar.lead limit held with
    | fragment => exact .inl ⟨hsized, rfl⟩
    | oversized size =>
      rw [parse_oversized hd hlead now]
      exact .inr (.inl rfl)
    | whole e n => exact .inr (.inr ⟨hsized, e, n, rfl⟩)
  · simp only [Grammar.Sized, Classical.not_forall] at hsized
    obtain ⟨h, hdecode, hinl, hle, hbig⟩ := hsized
    have hadd : Word.add? 24 h.payloadSize = none := if_neg hbig
    right
    left
    unfold Deframer.parse
    rw [hd.header?_eq, hdecode]
    dsimp only
    rw [if_pos hinl, hd.limit, if_neg hle, hadd]
    rfl

/-- Data are pushed and parsed, after what was held of another socket is dropped. -/
theorem absorbReceived_data (now : Readings) (arrival : Arrival) (g : Nat) (d : Deframer) :
    let pushed := (d.setStream g).1.push arrival.bytes arrival.descriptors
    (d.absorbReceived now (.data arrival g)).result = (pushed.parse now).toStep.result ∧
      (d.absorbReceived now (.data arrival g)).deframer = (pushed.parse now).deframer := by
  unfold absorbReceived
  dsimp only
  rcases d.setStream g with ⟨d', released⟩
  exact ⟨rfl, rfl⟩

/-- Bytes of the same generation, and no more than were asked for: unless they spoil the stream,
less than a frame is held afterwards. -/
theorem Waits.absorb (h : d.Waits limit generation held) {chunk : Stretch}
    (hchunk : chunk.length ≤ d.wanted) (now : Readings)
    (hlocal : (d.absorbReceived now (.data chunk.arrival generation)).result.isLocal = true) :
    ∃ held', (d.absorbReceived now (.data chunk.arrival generation)).deframer.Waits limit
      generation held' := by
  let d' : Deframer := { d with stream := some generation }
  have hset : (d.setStream generation).1 = d' := by
    rcases h.noted with ⟨hnone, -⟩ | hsome
    · rw [Deframer.setStream, hnone]
    · rw [Deframer.setStream, hsome]
      dsimp only
      rw [if_pos rfl]
      show d = { d with stream := some generation }
      rw [← hsome]
  have hd' : d'.Holds limit held := ⟨h.holds.limit, h.holds.bytes, h.holds.pending⟩
  have hpushed := hd'.push chunk
  have hwithin := (wanted_of_fragment h.holds h.sized h.lead).2 chunk hchunk
  have hstream := stream_parse now (d'.push chunk.bytes chunk.descriptors)
  obtain ⟨hresult, hdeframer⟩ := absorbReceived_data now chunk.arrival generation d
  rw [hset] at hresult hdeframer
  rw [hresult] at hlocal
  rw [hdeframer]
  dsimp only [Stretch.arrival] at hlocal ⊢
  rcases parse_outcome hpushed now with
    ⟨hsized, hlead⟩ | hspoils | ⟨hsized, e, n, hwhole⟩
  · rw [parse_fragment hpushed hsized hlead now]
    exact ⟨_, hpushed, hsized, hlead, .inr rfl⟩
  · rw [Parsed.isLocal_toStep, hspoils] at hlocal
    cases hlocal
  · have hlen := hwithin e n hwhole
    have hdrop : (held ++ chunk).drop n = [] := List.drop_of_length_le (Nat.le_of_eq hlen)
    have hclean : Stretch.descriptors ((held ++ chunk).drop n) = [] := by rw [hdrop]; rfl
    have hholds := (parse_whole hpushed hsized hwhole hclean (.inl hlen) now).2
    rw [hdrop] at hholds
    exact ⟨[], .of_holds_nil hholds (.inr hstream)⟩

end Deframer

namespace Scene

open Deframer

variable {limit : Word} {d : Deframer} {s s' : Scene} {held : Stretch} {steps : Nat}

theorem generation_pull {call : Result SessionError FrameOutcome × Deframer × List Descriptor}
    (h : pull steps d s = some (call, s')) : s.link.generation ≤ s'.link.generation := by
  refine pull_keeps (P := fun later => s.link.generation ≤ later.link.generation)
    (fun _ hle => hle) ?_ h (Nat.le_refl _)
  intro size s₁ result s₂ hle hread
  exact Nat.le_trans hle (receiveOver_traced hread).2

theorem generation_pulls (steps calls : Nat) (d : Deframer) (s : Scene) :
    s.link.generation ≤ (pulls steps calls d s).2.2.link.generation :=
  pulls_keep (P := fun later => s.link.generation ≤ later.link.generation)
    (fun _ _ _ _ hle hpull => Nat.le_trans hle (generation_pull hpull)) calls d (Nat.le_refl _)

/-- As long as nothing is installed and the stream is not spoiled, less than a frame is held after
every call. -/
theorem pull_waits {generation : Nat} (hd : d.Waits limit generation held)
    (hgeneration : s.link.generation = generation)
    {call : Result SessionError FrameOutcome × Deframer × List Descriptor}
    (h : pull steps d s = some (call, s')) (hsame : s'.link.generation = generation)
    (hlocal : ∀ e, call.1 = .error (.frame e) → e.isLocal = true)
    (hreturned : ∀ message, call.1 ≠ .panic message) :
    ∃ held', call.2.1.Waits limit generation held' := by
  have hnone : (d.parse s.now).result = .ok none := by rw [hd.parse]
  rw [pull_of_parse_eq steps hnone] at h
  cases hreceive : receiveOver steps d.wanted s.tick with
  | none =>
    rw [hreceive] at h
    cases h
  | some received =>
    obtain ⟨result, s₁⟩ := received
    have htraced := (receiveOver_traced hreceive).1
    rw [hreceive] at h
    cases result with
    | error e =>
      cases h
      exact ⟨held, hd⟩
    | ok received =>
      cases h
      cases received with
      | flushing => exact ⟨held, hd⟩
      | endOfStream => exact ⟨[], hd.reset⟩
      | data arrival g =>
        obtain ⟨⟨hge, hle⟩, chunk, hchunk, rfl, -⟩ := htraced
        have hg : g = generation := by
          have hge' : s.link.generation ≤ g := hge
          have hle' : g ≤ s₁.tick.link.generation := hle
          omega
        subst hg
        apply hd.absorb hchunk s₁.now
        cases hresult : (d.absorbReceived s₁.now (.data chunk.arrival g)).result with
        | ok outcome => rfl
        | error e => exact hlocal e (congrArg (Result.mapError SessionError.frame) hresult)
        | panic message =>
          exact absurd (congrArg (Result.mapError SessionError.frame) hresult) (hreturned message)

/-- A run on one socket without an error for good leaves a deframer that waits. -/
theorem pulls_waits {generation calls : Nat} (hd : d.Waits limit generation held)
    (hgeneration : s.link.generation = generation)
    (hsame : (pulls steps calls d s).2.2.link.generation = generation)
    (hlocal : ∀ e, .error (.frame e) ∈ (pulls steps calls d s).1 → e.isLocal = true)
    (hreturned : ∀ message, .panic message ∉ (pulls steps calls d s).1) :
    ∃ held', (pulls steps calls d s).2.1.Waits limit generation held' := by
  induction calls generalizing d s held with
  | zero => exact ⟨held, hd⟩
  | succ calls ih =>
    rw [pulls] at hsame hlocal hreturned ⊢
    cases hpull : pull steps d s with
    | none => exact ⟨held, hd⟩
    | some called =>
      obtain ⟨⟨result, d₁, released⟩, s₁⟩ := called
      rw [hpull] at hsame hlocal hreturned
      dsimp only at hlocal hreturned ⊢
      have hlater : (pulls steps calls d₁ s₁).2.2.link.generation = generation := hsame
      have hone : s₁.link.generation = generation := by
        have hle := generation_pull hpull
        have hle' := generation_pulls steps calls d₁ s₁
        omega
      obtain ⟨held₁, hd₁⟩ := pull_waits hd hgeneration hpull hone
        (fun e he => hlocal e (he ▸ List.mem_cons_self ..))
        (fun message hpanic => hreturned message (hpanic ▸ List.mem_cons_self ..))
      exact ih hd₁ hone hlater (fun e he => hlocal e (List.mem_cons_of_mem _ he))
        fun message hpanic => hreturned message (List.mem_cons_of_mem _ hpanic)

end Scene

end Framecast
