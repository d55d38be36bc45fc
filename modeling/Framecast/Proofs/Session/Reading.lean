import Framecast.Proofs.Session.Scene

/-!
# Reading in a scene

What a whole read does to the scene around it, whatever others do meanwhile: the generations only
grow, and what the read returns is what was noted of the generation that it names. Nothing else is
noted. `advance_traced` is the single step, `receiveOver_traced` the whole read.
-/

namespace Framecast

open Deframer (Step)

namespace Scene

theorem bind_scened {α β : Type} (x : Scened α) (f : α → Scened β) (s : Scene) :
    (x >>= f) s = (x s).bind fun p => f p.1 p.2 := rfl

/-- A program comes to an end if its parts do. -/
theorem bind_eq_some_iff {α β : Type} {x : Scened α} {f : α → Scened β} {s : Scene}
    {r : β × Scene} : (x >>= f) s = some r ↔ ∃ a s', x s = some (a, s') ∧ f a s' = some r := by
  rw [bind_scened, Option.bind_eq_some_iff]
  constructor
  · rintro ⟨⟨a, s'⟩, hx, hf⟩
    exact ⟨a, s', hx, hf⟩
  · rintro ⟨a, s', hx, hf⟩
    exact ⟨(a, s'), hx, hf⟩

/-- What every turn of a loop keeps holds when the loop ends. -/
theorem iterate_keeps {σ α : Type} {body : σ → Scened (σ ⊕ α)} {P : σ → Scene → Prop}
    {Q : α → Scene → Prop}
    (hnext : ∀ st s next s', P st s → body st s = some (.inl next, s') → P next s')
    (hdone : ∀ st s a s', P st s → body st s = some (.inr a, s') → Q a s')
    {steps : Nat} {start : σ} {s : Scene} {a : α} {s' : Scene}
    (h : iterate body steps start s = some (a, s')) (hstart : P start s) : Q a s' := by
  induction steps generalizing start s with
  | zero => cases h
  | succ steps ih =>
    rw [iterate] at h
    split at h
    · cases h
    · rename_i next s₁ hbody
      exact ih h (hnext start s next s₁ hstart hbody)
    · rename_i a₁ s₁ hbody
      cases h
      exact hdone start s a s' hstart hbody

/-- Some steps later nothing more was read, and no generation was taken back. -/
structure Later (s s' : Scene) : Prop where
  log : s'.log = s.log
  generation : s.link.generation ≤ s'.link.generation

namespace Later

theorem refl (s : Scene) : Later s s := ⟨rfl, Nat.le_refl _⟩

theorem trans {s s' s'' : Scene} (h : Later s s') (h' : Later s' s'') : Later s s'' :=
  ⟨h'.log.trans h.log, Nat.le_trans h.generation h'.generation⟩

end Later

theorem later_meet (s : Scene) : Later s s.meet := by
  unfold meet
  split
  · exact .refl s
  · exact ⟨rfl, LinkAct.generation_le ..⟩

theorem later_runHandler (s : Scene) : Later s s.runHandler := by
  unfold runHandler
  split
  · exact .refl s
  · exact ⟨rfl, LinkAct.generation_le ..⟩

/-- A poll reads nothing, and others only move on. -/
theorem later_awaitAny {socket : SocketId} {s s' : Scene} {r : Except IoError Readiness}
    (h : s.awaitAny socket = some (r, s')) : Later s s' := by
  fun_induction awaitAny socket s with
  | case1 s ready hready =>
    cases h
    exact .refl _
  | case2 s ready hready hothers => cases h
  | case3 s ready hready acts rest hothers ih => exact (later_meet s).trans (ih h)

/-- A receive brings what is noted of it, or fails and brings nothing. -/
theorem receive_noted {size : Nat} (hsize : 0 < size) (w : Watch) (s : Scene) :
    ∃ chunk : Stretch, chunk.length ≤ size ∧
      (s.receive w size).2.log = noted s.log w.generation chunk ∧
      (∀ arrival, (s.receive w size).1 = .ok arrival → arrival = chunk.arrival) ∧
      ∀ e, (s.receive w size).1 = .error e → chunk = [] := by
  obtain ⟨hlen, hok, herror⟩ := (Source.gives_attempt hsize (s.source w.socket)).takenBy
  exact ⟨_, hlen, rfl, hok, herror⟩

/-! ### The steps of a read -/

section Steps

variable (size : Nat) (w : Watch) (s : Scene)

theorem advance_entering : ReadPhase.entering.advance host size s =
    some (ReadPhase.ofEntering size s.meet.link.enter, s.meet) := rfl

theorem advance_waiting : (ReadPhase.waiting w).advance host size s =
    (s.meet.awaitAny w.socket).map fun (r, s) => (ReadPhase.ofPoll w r, s) := by
  show (s.meet.awaitAny w.socket).bind (fun p => some (ReadPhase.ofPoll w p.1, p.2)) = _
  cases s.meet.awaitAny w.socket <;> rfl

theorem advance_woken : ReadPhase.woken.advance host size s =
    some (if s.meet.link.cancelled then .entering else .draining, s.meet) := rfl

theorem advance_draining : ReadPhase.draining.advance host size s =
    some (.entering, { s.meet with link := s.meet.link.drain }) := rfl

theorem advance_reading : (ReadPhase.reading w).advance host size s =
    some (ReadPhase.ofReceive w (s.meet.receive w size).1, (s.meet.receive w size).2) := rfl

theorem advance_ending : (ReadPhase.ending w).advance host size s =
    some (.concluding w, s.meet.runHandler) := rfl

theorem advance_concluding : (ReadPhase.concluding w).advance host size s =
    some (ReadPhase.ofEnding (s.meet.link.conclude w).1,
      { s.meet with link := (s.meet.link.conclude w).2 }) := rfl

end Steps

/-! ### A whole read -/

/-- Where a read stands, that began in some generation when so much had been read. -/
def Traced (log : Nat → Stretch) (first size : Nat) (s : Scene) : ReadPhase → Prop
  | .entering | .woken | .draining | .ending _ | .concluding _ => s.log = log
  | .waiting w | .reading w =>
    s.log = log ∧ (first ≤ w.generation ∧ w.generation ≤ s.link.generation) ∧ 0 < size
  | .done (.ok (.data arrival g)) =>
    (first ≤ g ∧ g ≤ s.link.generation) ∧ ∃ chunk : Stretch, chunk.length ≤ size ∧
      arrival = chunk.arrival ∧ s.log = noted log g chunk
  | .done _ => s.log = log

theorem noted_nil (log : Nat → Stretch) (g : Nat) : noted log g [] = log := by
  funext h
  unfold noted
  split
  · exact List.append_nil _
  · rfl

/-- What was read stays noted. -/
theorem prefix_noted (log : Nat → Stretch) (generation : Nat) (chunk : Stretch) (g : Nat) :
    log g <+: noted log generation chunk g := by
  unfold noted
  split
  · exact List.prefix_append ..
  · exact List.prefix_refl _

variable {log : Nat → Stretch} {first size : Nat} {s s' : Scene}

theorem traced_ofEntering (h : s.log = log) (hfirst : first ≤ s.link.generation) :
    Traced log first size s (ReadPhase.ofEntering size s.link.enter) := by
  unfold Link.enter
  split
  · exact h
  · split
    · unfold ReadPhase.ofEntering
      dsimp only
      split
      · exact ⟨⟨hfirst, Nat.le_refl _⟩, [], Nat.zero_le _, rfl, h.trans (noted_nil ..).symm⟩
      · exact ⟨h, ⟨hfirst, Nat.le_refl _⟩, by omega⟩
    · exact h

theorem traced_ofPoll {w : Watch} (h : s.log = log)
    (hw : first ≤ w.generation ∧ w.generation ≤ s.link.generation) (hsize : 0 < size)
    (r : Except IoError Readiness) : Traced log first size s (ReadPhase.ofPoll w r) := by
  unfold ReadPhase.ofPoll
  split
  · exact h
  · split
    · exact h
    · split
      · exact ⟨h, hw, hsize⟩
      · exact h

/-- What a receive brings is what was noted. -/
theorem traced_ofReceive {w : Watch} (h : s.log = log)
    (hw : first ≤ w.generation ∧ w.generation ≤ s.link.generation) (hsize : 0 < size) :
    Traced log first size (s.receive w size).2 (ReadPhase.ofReceive w (s.receive w size).1) := by
  obtain ⟨chunk, hlen, hlog, hok, herror⟩ := receive_noted hsize w s
  have hw' : first ≤ w.generation ∧ w.generation ≤ (s.receive w size).2.link.generation := hw
  rw [h] at hlog
  generalize s.receive w size = received at hlog hok herror hw' ⊢
  obtain ⟨result, s'⟩ := received
  cases result with
  | error e =>
    dsimp only at hlog
    rw [herror e rfl, noted_nil] at hlog
    unfold ReadPhase.ofReceive
    dsimp only
    split
    · exact hlog
    · exact hlog
  | ok arrival =>
    dsimp only at hlog
    cases hok arrival rfl
    unfold ReadPhase.ofReceive
    dsimp only
    split
    · rename_i hempty
      have hnil := Stretch.bytes_eq_nil_iff.mp (List.isEmpty_iff.mp hempty)
      rw [hnil, noted_nil] at hlog
      exact hlog
    · exact ⟨hw', chunk, hlen, rfl, hlog⟩

theorem traced_ofEnding (h : s.log = log) (ending : Link.Ending) :
    Traced log first size s (ReadPhase.ofEnding ending) := by
  cases ending with
  | replaced => exact h
  | ended socket => exact h

/-- A step of a read notes what it brings. -/
theorem advance_traced {phase phase' : ReadPhase} (h : Traced log first size s phase)
    (hfirst : first ≤ s.link.generation) (hstep : phase.advance host size s = some (phase', s')) :
    Traced log first size s' phase' ∧ s.link.generation ≤ s'.link.generation := by
  have hmeet := later_meet s
  cases phase with
  | entering =>
    rw [advance_entering] at hstep
    cases hstep
    exact ⟨traced_ofEntering (hmeet.log.trans h) (Nat.le_trans hfirst hmeet.generation),
      hmeet.generation⟩
  | waiting w =>
    obtain ⟨hlog, hw, hsize⟩ := h
    rw [advance_waiting, Option.map_eq_some_iff] at hstep
    obtain ⟨⟨r, s₁⟩, hpoll, heq⟩ := hstep
    cases heq
    have hlater := hmeet.trans (later_awaitAny hpoll)
    have hw' := And.intro hw.1 (Nat.le_trans hw.2 hlater.generation)
    exact ⟨traced_ofPoll (hlater.log.trans hlog) hw' hsize r, hlater.generation⟩
  | woken =>
    rw [advance_woken] at hstep
    cases hstep
    refine ⟨?_, hmeet.generation⟩
    split
    · exact hmeet.log.trans h
    · exact hmeet.log.trans h
  | draining =>
    rw [advance_draining] at hstep
    cases hstep
    exact ⟨hmeet.log.trans h, hmeet.generation⟩
  | reading w =>
    obtain ⟨hlog, hw, hsize⟩ := h
    rw [advance_reading, Option.some.injEq, Prod.mk.injEq] at hstep
    obtain ⟨rfl, rfl⟩ := hstep
    have hw' := And.intro hw.1 (Nat.le_trans hw.2 hmeet.generation)
    exact ⟨traced_ofReceive (hmeet.log.trans hlog) hw' hsize, hmeet.generation⟩
  | ending w =>
    rw [advance_ending] at hstep
    cases hstep
    have hlater := hmeet.trans (later_runHandler s.meet)
    exact ⟨hlater.log.trans h, hlater.generation⟩
  | concluding w =>
    rw [advance_concluding, Option.some.injEq, Prod.mk.injEq] at hstep
    obtain ⟨rfl, rfl⟩ := hstep
    have hsame := Link.generation_conclude w s.meet.link
    have hlog' : ({ s.meet with link := (s.meet.link.conclude w).2 } : Scene).log = log :=
      hmeet.log.trans h
    refine ⟨traced_ofEnding hlog' _, ?_⟩
    show s.link.generation ≤ (s.meet.link.conclude w).2.generation
    rw [hsame]
    exact hmeet.generation
  | done result =>
    cases hstep
    exact ⟨h, Nat.le_refl _⟩

/-- A step that is not the last is an advance. -/
theorem step_eq_some {phase : ReadPhase} {r : ReadPhase ⊕ Except SessionError Received}
    (h : phase.step host size s = some (r, s')) :
    ∃ phase', phase.advance host size s = some (phase', s') ∧
      match r with
      | .inl next => next = phase'
      | .inr result => phase' = .done result := by
  obtain ⟨phase', s₁, hadvance, hr⟩ := bind_eq_some_iff.mp h
  cases phase' with
  | done result =>
    cases hr
    exact ⟨_, hadvance, rfl⟩
  | _ =>
    cases hr
    exact ⟨_, hadvance, rfl⟩

/-- What every step of a read keeps holds when the read ends. -/
theorem receiveOver_keeps {P : ReadPhase → Scene → Prop} {steps : Nat}
    {result : Except SessionError Received}
    (hadvance : ∀ phase s phase' s', P phase s → phase.advance host size s = some (phase', s') →
      P phase' s')
    (h : receiveOver steps size s = some (result, s')) (hs : P .entering s) :
    P (.done result) s' := by
  refine iterate_keeps (P := P) (Q := fun result => P (.done result)) ?_ ?_ h hs
  · intro phase s₁ next s₂ hP hstep
    obtain ⟨phase', hphase, hnext⟩ := step_eq_some hstep
    dsimp only at hnext
    rw [hnext]
    exact hadvance phase s₁ phase' s₂ hP hphase
  · intro phase s₁ result s₂ hP hstep
    obtain ⟨phase', hphase, hdone⟩ := step_eq_some hstep
    dsimp only at hdone
    rw [← hdone]
    exact hadvance phase s₁ phase' s₂ hP hphase

/-- A whole read. What it returns is noted of the generation that it names, and nothing else. -/
theorem receiveOver_traced {steps : Nat} {result : Except SessionError Received}
    (h : receiveOver steps size s = some (result, s')) :
    Traced s.log s.link.generation size s' (.done result) ∧
      s.link.generation ≤ s'.link.generation := by
  refine receiveOver_keeps
    (P := fun phase s₁ => Traced s.log s.link.generation size s₁ phase ∧
      s.link.generation ≤ s₁.link.generation) ?_ h ⟨rfl, Nat.le_refl _⟩
  rintro phase s₁ phase' s₂ ⟨htraced, hfirst⟩ hadvance
  obtain ⟨htraced', hle⟩ := advance_traced htraced hfirst hadvance
  exact ⟨htraced', Nat.le_trans hfirst hle⟩

/-! ### A whole call -/

/-- What a step comes to for the caller. -/
def finished (step : Step) : Result SessionError FrameOutcome × Deframer × List Descriptor :=
  (step.result.mapError .frame, step.deframer, step.released)

/-- A frame that is held already is told of without a receive. -/
theorem pull_of_parse_ne (steps : Nat) {d : Deframer} (h : (d.parse s.now).result ≠ .ok none) :
    pull steps d s = some (finished (d.parse s.now).toStep, s.tick) :=
  Deframer.pullOver_of_parse_ne rfl h

/-- Without a frame, a call receives once and looks again. -/
theorem pull_of_parse_eq (steps : Nat) {d : Deframer} (h : (d.parse s.now).result = .ok none) :
    pull steps d s =
      match receiveOver steps d.wanted s.tick with
      | none => none
      | some (.error e, s') => some ((.error e, d, []), s')
      | some (.ok received, s') => some (finished (d.absorbReceived s'.now received), s'.tick) := by
  have hclocks : readClocks s = some (s.now, s.tick) := rfl
  rw [pull, Deframer.pullOver_of_parse_eq hclocks h]
  rcases receiveOver steps d.wanted s.tick with _ | ⟨_ | received, s'⟩ <;> rfl

/-- What a look at the clocks and every read keep, a call keeps. -/
theorem pull_keeps {P : Scene → Prop} {steps : Nat} (htick : ∀ s, P s → P s.tick)
    (hread : ∀ size s result s', P s → receiveOver steps size s = some (result, s') → P s')
    {d : Deframer} {call : Result SessionError FrameOutcome × Deframer × List Descriptor}
    (h : pull steps d s = some (call, s')) (hs : P s) : P s' := by
  by_cases hparse : (d.parse s.now).result = .ok none
  · rw [pull_of_parse_eq steps hparse] at h
    split at h
    · cases h
    · rename_i hreceive
      cases h
      exact hread _ _ _ _ (htick s hs) hreceive
    · rename_i hreceive
      cases h
      exact htick _ (hread _ _ _ _ (htick s hs) hreceive)
  · rw [pull_of_parse_ne steps hparse] at h
    cases h
    exact htick s hs

/-- What every call keeps, a run of calls keeps. -/
theorem pulls_keep {P : Scene → Prop} {steps : Nat}
    (hpull : ∀ d s call s', P s → pull steps d s = some (call, s') → P s') (calls : Nat)
    (d : Deframer) (hs : P s) : P (pulls steps calls d s).2.2 := by
  induction calls generalizing d s with
  | zero => exact hs
  | succ calls ih =>
    rw [pulls]
    cases hcall : pull steps d s with
    | none => exact hs
    | some called => exact ih _ (hpull d s _ _ hs hcall)

end Scene

end Framecast
