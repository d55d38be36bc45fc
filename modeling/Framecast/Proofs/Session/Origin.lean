import Framecast.Proofs.Frame.Holding
import Framecast.Proofs.Session.Generations

/-!
# Where frames come from

A frame that a reader completes over a link was read from one socket in one generation, whatever
others do to the link meanwhile: its header and its inline payload are consecutive bytes of what was
read of that generation, and its descriptor rode on one of the header's bytes.

The invariant is that what a deframer holds is the end of what was read of the generation that it
noted. Only the descriptors of the older part of it may be gone, with a corrupt frame before. That
a generation was read from one socket only is `Scene.Tied`.
-/

namespace Framecast

/-- The frame was made of this part of a stream. -/
def Frame.MadeOf (part : Stretch) (f : Frame) : Prop :=
  match f.buffer.memory with
  | .heap payload => part.bytes = f.header.encode ++ payload
  | .region r => part.bytes = f.header.encode ∧ r.descriptor ∈ part.descriptors

/-- The frame was made of a part of what was read of one generation. -/
def Frame.ComesFrom (log : Nat → Stretch) (f : Frame) : Prop :=
  ∃ g part, part <:+: log g ∧ f.MadeOf part

/-- A frame has a header, so that there is something that it was made of. -/
theorem Frame.MadeOf.ne_nil {part : Stretch} {f : Frame} (h : f.MadeOf part) : part ≠ [] := by
  have hheader : f.header.encode <+: part.bytes := by
    unfold Frame.MadeOf at h
    split at h
    · exact ⟨_, h.symm⟩
    · exact h.1 ▸ List.prefix_refl _
  rintro rfl
  have hempty := congrArg List.length (List.prefix_nil.mp hheader)
  rw [Header.length_encode] at hempty
  cases hempty

/-- A frame still comes of what was read once more was read. -/
theorem Frame.ComesFrom.grow {log log' : Nat → Stretch} {f : Frame} (h : f.ComesFrom log)
    (hgrows : ∀ g, log g <+: log' g) : f.ComesFrom log' := by
  obtain ⟨g, part, hpart, hmade⟩ := h
  exact ⟨g, part, hpart.trans (hgrows g).isInfix, hmade⟩

/-- An older part of a stream, of which only the bytes are left, and a newer one. -/
def Stretch.bareThen (old new : Stretch) : Stretch :=
  Stretch.plain old.bytes ++ new

namespace Stretch

@[simp] theorem bytes_bareThen (old new : Stretch) :
    (bareThen old new).bytes = (old ++ new).bytes := by
  rw [bareThen, bytes_append, bytes_plain, bytes_append]

@[simp] theorem descriptors_bareThen (old new : Stretch) :
    (bareThen old new).descriptors = new.descriptors := by
  rw [bareThen, descriptors_append, descriptors_plain, List.nil_append]

@[simp] theorem length_bareThen (old new : Stretch) :
    (bareThen old new).length = (old ++ new).length := by
  rw [← length_bytes, bytes_bareThen, length_bytes]

theorem bareThen_append (old new chunk : Stretch) :
    bareThen old new ++ chunk = bareThen old (new ++ chunk) :=
  List.append_assoc ..

end Stretch

namespace Deframer

variable {limit : Word} {old new : Stretch} {d : Deframer}

/-- What looking for a frame leaves of what was held: everything behind some part of it, and if
there is a frame, it was made of that part. -/
def Splits (limit : Word) (old new : Stretch) (p : Parsed) : Prop :=
  ∃ part old' new', old ++ new = part ++ (old' ++ new') ∧
    p.deframer.Holds limit (Stretch.bareThen old' new') ∧
    ∀ f, p.result = .ok (some f) → f.MadeOf part

theorem Splits.of_same (hd : d.Holds limit (Stretch.bareThen old new))
    {result : Result FrameError (Option Frame)} (hresult : ∀ f, result ≠ .ok (some f)) :
    Splits limit old new ⟨result, d, []⟩ :=
  ⟨[], old, new, rfl, hd, fun f hf => absurd hf (hresult f)⟩

/-- A frame at the front is made of what is taken off. -/
theorem splits_finish {d' : Deframer} {part old' new' : Stretch}
    (hsplit : old ++ new = part ++ (old' ++ new'))
    (hd : d'.Holds limit (Stretch.bareThen old' new')) (now : Readings) (h : Header)
    (memory : Memory) (hmade : ∀ pts, Frame.MadeOf part ⟨h, memory, pts⟩) :
    Splits limit old new (d'.finish now h memory) := by
  refine ⟨part, old', new', hsplit, hd.finish now h memory, ?_⟩
  intro f hf
  cases hf
  exact hmade _

/-- An inline frame is made of its header and its payload. -/
theorem splits_finishInline (hd : d.Holds limit (Stretch.bareThen old new)) (now : Readings)
    {h : Header} (hdecode : Header.decode? (old ++ new).bytes = some h) (size : Nat) :
    Splits limit old new (d.finishInline now h size) := by
  have hbuffered : d.backlog.toBytes = (old ++ new).bytes := by
    rw [← Stretch.bytes_bareThen]
    exact hd.bytes
  have hholds : Holds limit (Stretch.bareThen ((old ++ new).drop (Header.length + size)) [])
      { d with backlog := d.backlog.drop (Header.length + size), pending := [] } := by
    refine ⟨hd.limit, ?_, ?_⟩
    · rw [buffered, Backlog.toBytes_drop, Stretch.bytes_bareThen, List.append_nil,
        Stretch.bytes_drop, hbuffered]
    · rw [Stretch.descriptors_bareThen, Stretch.descriptors_nil]
  have hsplit : old ++ new = (old ++ new).take (Header.length + size) ++
      ((old ++ new).drop (Header.length + size) ++ []) := by
    rw [List.append_nil, List.take_append_drop]
  unfold finishInline
  dsimp only
  split
  · refine splits_finish hsplit hholds now h _ ?_
    intro pts
    show Stretch.bytes ((old ++ new).take (Header.length + size)) = _
    rw [Stretch.bytes_take, List.take_add, Header.take_eq_encode_of_decode? hdecode,
      Backlog.slice_eq, hbuffered, Bytes.slice]
  · refine ⟨_, _, _, hsplit, hholds, ?_⟩
    intro f hf
    cases hf

/-- A referenced frame is made of its header, and of the descriptor on it. -/
theorem splits_finishReferenced (hd : d.Holds limit (Stretch.bareThen old new)) (now : Readings)
    {h : Header} (hdecode : Header.decode? (old ++ new).bytes = some h) :
    Splits limit old new (d.finishReferenced now h) := by
  have hholds : Holds limit (Stretch.bareThen [] []) { d with backlog := .empty, pending := [] } :=
    ⟨hd.limit, rfl, rfl⟩
  have hsplit : old ++ new = (old ++ new) ++ ([] ++ []) := by
    rw [List.append_nil, List.append_nil]
  unfold finishReferenced
  dsimp only
  split
  · exact ⟨_, _, _, hsplit, hholds, nofun⟩
  · rename_i htrailing
    split
    · exact ⟨_, _, _, hsplit, hholds, nofun⟩
    · rename_i r hregion
      refine splits_finish hsplit hholds now h _ ?_
      intro pts
      have hlength := hd.length_eq
      have hmin := Header.length_le_of_decode? hdecode
      rw [Stretch.length_bareThen, ← Stretch.length_bytes] at hlength
      have hall : (old ++ new).bytes.take Header.length = (old ++ new).bytes := by
        apply List.take_of_length_le
        omega
      refine ⟨?_, ?_⟩
      · rw [← hall, Header.take_eq_encode_of_decode? hdecode]
      · have hpending := hd.pending
        rw [Stretch.descriptors_bareThen, eq_of_region hregion] at hpending
        rw [Stretch.descriptors_append, ← hpending]
        exact List.mem_append_right _ (List.mem_singleton_self _)

/-- Whatever a parse finds was made of what it takes off. -/
theorem splits_parse (hd : d.Holds limit (Stretch.bareThen old new)) (now : Readings) :
    Splits limit old new (d.parse now) := by
  unfold parse
  rw [hd.header?_eq, Stretch.bytes_bareThen]
  cases hdecode : Header.decode? (old ++ new).bytes with
  | none => exact .of_same hd nofun
  | some h =>
    dsimp only
    split
    · split
      · exact .of_same hd nofun
      · split
        · exact .of_same hd nofun
        · split
          · exact .of_same hd nofun
          · exact splits_finishInline hd now hdecode _
    · exact splits_finishReferenced hd now hdecode

/-! ### Following a generation -/

/-- What is held is the end of what was read of the generation that was noted. -/
inductive Follows (limit : Word) (log : Nat → Stretch) (generation : Nat) (d : Deframer) : Prop
  | fresh (hstream : d.stream = none) (hd : d.Holds limit [])
  | noted (g : Nat) (before old new : Stretch) (hstream : d.stream = some g) (hle : g ≤ generation)
      (hlog : log g = before ++ (old ++ new)) (hd : d.Holds limit (Stretch.bareThen old new))

namespace Follows

variable {log log' : Nat → Stretch} {generation generation' : Nat}

theorem later (h : d.Follows limit log generation) (hsame : log' = log)
    (hgrows : generation ≤ generation') : d.Follows limit log' generation' := by
  subst hsame
  cases h with
  | fresh hstream hd => exact .fresh hstream hd
  | noted g before old new hstream hle hlog hd =>
    exact .noted g before old new hstream (Nat.le_trans hle hgrows) hlog hd

theorem reset (h : d.Follows limit log generation) : d.reset.1.Follows limit log generation := by
  cases h with
  | fresh hstream hd => exact .fresh hstream hd.reset
  | noted g before old new hstream hle hlog hd =>
    exact .noted g (log g) [] [] hstream hle (List.append_nil _).symm hd.reset

/-- A parse keeps the end of what was read, and a frame comes from it. -/
theorem parse (h : d.Follows limit log generation) (now : Readings) :
    (d.parse now).deframer.Follows limit log generation ∧
      ∀ f, (d.parse now).result = .ok (some f) → f.ComesFrom log := by
  cases h with
  | fresh hstream hd =>
    rw [parse_fragment hd nofun rfl now]
    exact ⟨.fresh hstream hd, nofun⟩
  | noted g before old new hstream hle hlog hd =>
    obtain ⟨part, old', new', hsplit, hrest, hmade⟩ := splits_parse hd now
    rw [hsplit] at hlog
    have hsame := (stream_parse now d).trans hstream
    refine ⟨.noted g (before ++ part) old' new' hsame hle ?_ hrest, ?_⟩
    · rw [hlog, List.append_assoc]
    · intro f hf
      refine ⟨g, part, ?_, hmade f hf⟩
      rw [hlog, ← List.append_assoc]
      exact List.infix_append ..

/-- What is received of a generation goes on with what is held of it, or replaces it. -/
theorem push (h : d.Follows limit log generation) {g : Nat} (hg : g ≤ generation)
    (chunk : Stretch) :
    ((d.setStream g).1.push chunk.bytes chunk.descriptors).Follows limit (Scene.noted log g chunk)
      generation := by
  have hnoted : Scene.noted log g chunk g = log g ++ chunk := if_pos rfl
  cases h with
  | fresh hstream hd =>
    have hset : d.setStream g = ({ d with stream := some g }, []) := by
      rw [setStream, hstream]
    have hheld : Holds limit [] { d with stream := some g } := ⟨hd.limit, hd.bytes, hd.pending⟩
    rw [hset]
    exact .noted g (log g) [] chunk rfl hg hnoted (hheld.push chunk)
  | noted current before old new hstream hle hlog hd =>
    by_cases hsame : current = g
    · have hset : d.setStream g = (d, []) := by
        rw [setStream, hstream]
        exact if_pos hsame
      rw [hset]
      refine .noted g before old (new ++ chunk) (hsame ▸ hstream) hg ?_ ?_
      · rw [hnoted, ← hsame, hlog, List.append_assoc, List.append_assoc]
      · rw [← Stretch.bareThen_append]
        exact hd.push chunk
    · have hset : (d.setStream g).1 = { d.reset.1 with stream := some g } := by
        rw [setStream, hstream]
        dsimp only
        rw [if_neg hsame]
      have hheld : Holds limit [] { d.reset.1 with stream := some g } := ⟨hd.limit, rfl, rfl⟩
      rw [hset]
      exact .noted g (log g) [] chunk rfl hg hnoted (hheld.push chunk)

end Follows

end Deframer

namespace Scene

open Deframer

variable {limit : Word} {d : Deframer} {s s' : Scene}

theorem frame_finished {step : Step} {f : Frame} (h : (finished step).1 = .ok (.frame f)) :
    step.result = .ok (.frame f) := by
  unfold finished at h
  cases hresult : step.result with
  | error | panic =>
    rw [hresult] at h
    cases h
  | ok outcome =>
    rw [hresult] at h
    cases h
    rfl

theorem frame_toStep {p : Parsed} {f : Frame} (h : p.toStep.result = .ok (.frame f)) :
    p.result = .ok (some f) := by
  unfold Parsed.toStep at h
  rcases hresult : p.result with (_ | f') | _ | _
  · rw [hresult] at h
    cases h
  · rw [hresult] at h
    cases h
    rfl
  · rw [hresult] at h
    cases h
  · rw [hresult] at h
    cases h

theorem grows_of_eq {log log' : Nat → Stretch} (h : log' = log) (g : Nat) : log g <+: log' g := by
  subst h
  exact List.prefix_refl _

/-- What a call does to a deframer that follows what is read. -/
structure Called (limit : Word) (s : Scene)
    (call : Result SessionError FrameOutcome × Deframer × List Descriptor) (s' : Scene) : Prop where
  follows : call.2.1.Follows limit s'.log s'.link.generation
  grows : ∀ g, s.log g <+: s'.log g
  frame : ∀ f, call.1 = .ok (.frame f) → f.ComesFrom s'.log

theorem called_absorbReceived {size : Nat} {received : Received}
    (hd : d.Follows limit s.log s.link.generation)
    (htraced : Traced s.log s.link.generation size s' (.done (.ok received)))
    (hle : s.link.generation ≤ s'.link.generation) :
    Called limit s (finished (d.absorbReceived s'.now received)) s'.tick := by
  cases received with
  | flushing =>
    have hlog : s'.log = s.log := htraced
    exact ⟨hd.later hlog hle, grows_of_eq hlog, nofun⟩
  | endOfStream =>
    have hlog : s'.log = s.log := htraced
    exact ⟨(hd.later hlog hle).reset, grows_of_eq hlog, nofun⟩
  | data arrival g =>
    obtain ⟨⟨-, hg⟩, chunk, -, rfl, hlog⟩ := htraced
    have hpushed := (hd.later rfl hle).push hg chunk
    rw [← hlog] at hpushed
    obtain ⟨hfollows, hframe⟩ := hpushed.parse s'.now
    refine ⟨hfollows, ?_, ?_⟩
    · intro g'
      show s.log g' <+: s'.log g'
      rw [hlog]
      exact prefix_noted ..
    · intro f hf
      exact hframe f (frame_toStep (frame_finished hf))

/-- One call over a link keeps the invariant, and its frame comes from what was read. -/
theorem pull_called {steps : Nat} (hd : d.Follows limit s.log s.link.generation)
    {call : Result SessionError FrameOutcome × Deframer × List Descriptor}
    (h : pull steps d s = some (call, s')) : Called limit s call s' := by
  by_cases hparse : (d.parse s.now).result = .ok none
  · rw [pull_of_parse_eq steps hparse] at h
    split at h
    · cases h
    · rename_i e s₁ hreceive
      cases h
      obtain ⟨htraced, hle⟩ := receiveOver_traced hreceive
      have hlog : s'.log = s.log := htraced
      exact ⟨hd.later hlog hle, grows_of_eq hlog, nofun⟩
    · rename_i received s₁ hreceive
      cases h
      obtain ⟨htraced, hle⟩ := receiveOver_traced hreceive
      exact called_absorbReceived hd htraced hle
  · rw [pull_of_parse_ne steps hparse] at h
    cases h
    obtain ⟨hfollows, hframe⟩ := hd.parse s.now
    refine ⟨hfollows, fun g => List.prefix_refl _, ?_⟩
    intro f hf
    exact hframe f (frame_toStep (frame_finished hf))

/-- Every frame of a run comes from what was read of one generation. -/
theorem pulls_come_from (hd : d.Follows limit s.log s.link.generation) (steps calls : Nat) :
    (∀ g, s.log g <+: (pulls steps calls d s).2.2.log g) ∧
      ∀ f, .ok (.frame f) ∈ (pulls steps calls d s).1 →
        f.ComesFrom (pulls steps calls d s).2.2.log := by
  induction calls generalizing d s with
  | zero =>
    rw [pulls]
    exact ⟨fun g => List.prefix_refl _, fun f hf => absurd hf List.not_mem_nil⟩
  | succ calls ih =>
    rw [pulls]
    cases hpull : pull steps d s with
    | none => exact ⟨fun g => List.prefix_refl _, fun f hf => absurd hf List.not_mem_nil⟩
    | some called =>
      obtain ⟨⟨result, d₁, released⟩, s₁⟩ := called
      obtain ⟨hfollows, hgrows, hframe⟩ := pull_called hd hpull
      obtain ⟨hlater, hothers⟩ := ih hfollows
      refine ⟨fun g => List.IsPrefix.trans (hgrows g) (hlater g), ?_⟩
      intro f hf
      rcases List.mem_cons.mp hf with heq | hf
      · exact (hframe f heq.symm).grow hlater
      · exact hothers f hf

/-- **No frame mixes two sockets.** A fresh deframer reads frames over a link, while others exchange
the link's socket, wake, cancel and resume its reads at any points, and so does the handler when a
socket has ended. Every socket that was put on the link is a generation of its own. Whatever the
sockets bring, every frame was made of consecutive bytes of what was read of one generation, and its
descriptor rode on one of these bytes. All of it came from the socket that was on the link in that
generation: what was read of the generation is a stretch of what this socket brings. -/
theorem frames_come_from_one_generation (config : DeframerConfig) (clock : ClockFollower)
    (baseTime : Option Word) (link : Link) (source : SocketId → Source)
    (handler others : List (List LinkAct)) (clocks : List Readings) (steps calls : Nat) :
    let start : Scene := { link, source, handler, others, clocks }
    let run := pulls steps calls { config, clock, baseTime } start
    run.2.2.link.generation = link.generation + run.2.2.installed.length ∧
      ∀ f, .ok (.frame f) ∈ run.1 → ∃ g x part,
        start.InstalledAs run.2.2 g x ∧ run.2.2.log g <:+: (source x).unread ∧
          part <:+: run.2.2.log g ∧ f.MadeOf part := by
  intro start run
  have hd : Follows config.maxInline start.log start.link.generation
      { config, clock, baseTime } := .fresh rfl ⟨rfl, rfl, rfl⟩
  have hstart : Tied start start.link.generation start := tied_start rfl rfl
  obtain ⟨last, htied⟩ := tied_pulls hstart steps calls { config, clock, baseTime }
  refine ⟨htied.generation, ?_⟩
  intro f hf
  obtain ⟨g, part, hpart, hmade⟩ := (pulls_come_from hd steps calls).2 f hf
  have hread : run.2.2.log g ≠ [] := by
    intro hnone
    have hpart : part <:+: run.2.2.log g := hpart
    rw [hnone] at hpart
    exact hmade.ne_nil (List.infix_nil.mp hpart)
  obtain ⟨-, x, hinstalled, hstretch⟩ := htied.past g hread
  exact ⟨g, x, part, hinstalled, hstretch, hpart, hmade⟩

end Scene

end Framecast
