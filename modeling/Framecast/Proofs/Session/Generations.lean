import Framecast.Proofs.Session.Reading

/-!
# Generations and sockets

Every socket that is installed on a link is a generation of its own, whatever else is done to the
link and whenever. So a generation tells which socket a reader watched, and what was read of a
generation is a stretch of what that socket brings: the reader turns to newer generations only, and
nobody else reads in between.

`Tied` says this of a scene and of the scene that it came from. `Tied.receive` is the single
receive, `tied_advance` a step of a read and `tied_pulls` a run of calls.
-/

namespace Framecast

/-- The socket on the link is the last that was installed. -/
theorem LinkAct.socket_eq (acts : List LinkAct) (l : Link) :
    (applyAll acts l).socket = (installs acts).getLast?.getD l.socket := by
  induction acts generalizing l with
  | nil => rfl
  | cons act rest ih =>
    have hrest : (applyAll (act :: rest) l).socket =
        (installs rest).getLast?.getD (act.apply l).socket := ih (act.apply l)
    rw [hrest, installs_cons]
    cases act with
    | install socket =>
      show _ = ([socket] ++ installs rest).getLast?.getD l.socket
      rw [List.getLast?_append]
      cases (installs rest).getLast? <;> rfl
    | wake | cancel | resume => rfl

namespace Scene

/-- In a scene that began so, the generation is the one in which this socket was on the link: it was
there at the start, or it was installed since. -/
def InstalledAs (start s : Scene) (g : Nat) (x : SocketId) : Prop :=
  ∃ count, g = start.link.generation + count ∧
    (start.link.socket :: s.installed)[count]? = some (some x)

/-- How the notes of a scene hang together, if nothing was read of generations after this one. -/
structure Tied (start : Scene) (last : Nat) (s : Scene) : Prop where
  generation : s.link.generation = start.link.generation + s.installed.length
  socket : ∀ x, s.link.socket = some x → start.InstalledAs s s.link.generation x
  last_le : last ≤ s.link.generation
  /-- What is left of a stream is the end of it. -/
  left : ∀ x, (s.source x).unread <:+ (start.source x).unread
  past : ∀ g, s.log g ≠ [] → g ≤ last ∧
    ∃ x, start.InstalledAs s g x ∧ s.log g <:+: (start.source x).unread
  /-- What was read of the last generation lies directly before what is left of its stream. -/
  present : ∀ x, s.log last ≠ [] → start.InstalledAs s last x →
    s.log last ++ (s.source x).unread <:+ (start.source x).unread

variable {start s s' : Scene} {g last size : Nat} {x y : SocketId} {phase phase' : ReadPhase}

/-- A generation has one socket. -/
theorem InstalledAs.unique (hx : start.InstalledAs s g x) (hy : start.InstalledAs s g y) :
    x = y := by
  obtain ⟨count, hcount, hx⟩ := hx
  obtain ⟨count', hcount', hy⟩ := hy
  obtain rfl : count = count' := by omega
  rw [hx] at hy
  exact Option.some.inj (Option.some.inj hy)

/-- What was installed stays noted. -/
theorem InstalledAs.later (h : start.InstalledAs s g x) (hgrows : s.installed <+: s'.installed) :
    start.InstalledAs s' g x := by
  obtain ⟨count, hcount, hx⟩ := h
  obtain ⟨more, hmore⟩ := hgrows
  refine ⟨count, hcount, ?_⟩
  have hlt := (List.getElem?_eq_some_iff.mp hx).1
  rw [← hmore, ← List.cons_append, List.getElem?_append_left hlt, hx]

/-- No generation has its socket in advance. -/
theorem InstalledAs.le (h : start.InstalledAs s g x) (htied : Tied start last s) :
    g ≤ s.link.generation := by
  obtain ⟨count, hcount, hx⟩ := h
  have hlt := (List.getElem?_eq_some_iff.mp hx).1
  rw [List.length_cons] at hlt
  have hgeneration := htied.generation
  omega

/-- Where nothing was read yet, there is nothing to tie. -/
theorem tied_start (hlog : start.log = fun _ => []) (hinstalled : start.installed = []) :
    Tied start start.link.generation start where
  generation := by rw [hinstalled]; rfl
  socket x hx := ⟨0, rfl, by rw [hx]; rfl⟩
  last_le := Nat.le_refl _
  left x := List.suffix_refl _
  past g hread := absurd (congrFun hlog g) hread
  present x hread := absurd (congrFun hlog _) hread

namespace Tied

/-- Only the link, what was installed, the streams and the log count. -/
theorem same (h : Tied start last s) (hlink : s'.link = s.link)
    (hinstalled : s'.installed = s.installed) (hsource : s'.source = s.source)
    (hlog : s'.log = s.log) : Tied start last s' := by
  cases s'
  dsimp only at hlink hinstalled hsource hlog
  subst hlink hinstalled hsource hlog
  exact ⟨h.generation, h.socket, h.last_le, h.left, h.past, h.present⟩

/-- What others do to the link is noted as far as they install something. -/
theorem act (h : Tied start last s) (acts : List LinkAct) : Tied start last (s.act acts) := by
  have hgrows : s.installed <+: (s.act acts).installed := List.prefix_append ..
  have hgeneration : (s.act acts).link.generation =
      start.link.generation + (s.act acts).installed.length := by
    show (LinkAct.applyAll acts s.link).generation = _ + (s.installed ++ _).length
    rw [LinkAct.generation_eq, h.generation, List.length_append, Nat.add_assoc]
  have hlater : s.link.generation ≤ (s.act acts).link.generation := LinkAct.generation_le ..
  refine ⟨hgeneration, ?_, Nat.le_trans h.last_le hlater, h.left, ?_, ?_⟩
  · intro x hx
    have hsocket : (LinkAct.installs acts).getLast?.getD s.link.socket = some x := by
      rw [← LinkAct.socket_eq]
      exact hx
    cases hlast : (LinkAct.installs acts).getLast? with
    | none =>
      -- Nothing was installed.
      have hnothing := List.getLast?_eq_none_iff.mp hlast
      rw [hlast, Option.getD_none] at hsocket
      have hsame : (s.act acts).link.generation = s.link.generation := by
        show (LinkAct.applyAll acts s.link).generation = _
        rw [LinkAct.generation_eq, hnothing]
        rfl
      rw [hsame]
      exact (h.socket x hsocket).later hgrows
    | some socket =>
      rw [hlast, Option.getD_some] at hsocket
      subst hsocket
      refine ⟨(s.act acts).installed.length, hgeneration, ?_⟩
      have hend : (start.link.socket :: (s.act acts).installed).getLast? = some (some x) := by
        show (start.link.socket :: (s.installed ++ LinkAct.installs acts)).getLast? = _
        rw [← List.cons_append, List.getLast?_append, hlast]
        rfl
      rw [List.getLast?_eq_getElem?] at hend
      exact hend
  · intro g hread
    obtain ⟨hle, x, hx, hpart⟩ := h.past g hread
    exact ⟨hle, x, hx.later hgrows, hpart⟩
  · intro x hread hx
    obtain ⟨-, y, hy, -⟩ := h.past last hread
    have hsame := (hy.later hgrows).unique hx
    exact h.present x hread (hsame ▸ hy)

theorem meet (h : Tied start last s) :
    Tied start last s.meet ∧ s.installed <+: s.meet.installed := by
  unfold Scene.meet
  split
  · exact ⟨h, List.prefix_refl _⟩
  · rename_i acts rest _
    exact ⟨(h.act acts).same rfl rfl rfl rfl, List.prefix_append ..⟩

theorem runHandler (h : Tied start last s) : Tied start last s.runHandler := by
  unfold Scene.runHandler
  split
  · exact h
  · rename_i acts rest _
    exact (h.act acts).same rfl rfl rfl rfl

theorem awaitAny (h : Tied start last s) {r : Except IoError Readiness}
    (hpoll : s.awaitAny x = some (r, s')) :
    Tied start last s' ∧ s.installed <+: s'.installed := by
  fun_induction Scene.awaitAny x s with
  | case1 s ready hready =>
    cases hpoll
    exact ⟨h, List.prefix_refl _⟩
  | case2 s ready hready hothers => cases hpoll
  | case3 s ready hready acts rest hothers ih =>
    obtain ⟨hmeet, hgrows⟩ := h.meet
    obtain ⟨hlater, hmore⟩ := ih hmeet hpoll
    exact ⟨hlater, hgrows.trans hmore⟩

/-- Whatever is done to the flags of a link, and also if its socket is taken off. -/
theorem ofLink (h : Tied start last s) {l : Link} (hgeneration : l.generation = s.link.generation)
    (hsocket : ∀ x, l.socket = some x → s.link.socket = some x) :
    Tied start last { s with link := l } := by
  refine ⟨hgeneration.trans h.generation, ?_, hgeneration ▸ h.last_le, h.left, h.past, h.present⟩
  intro x hx
  show start.InstalledAs s l.generation x
  rw [hgeneration]
  exact h.socket x (hsocket x hx)

theorem tick (h : Tied start last s) : Tied start last s.tick :=
  h.same rfl rfl rfl rfl

/-- A receive takes what is next on the stream of its socket, so that what was read of its
generation goes on with it. -/
theorem receive (h : Tied start last s) {w : Watch} (hlast : last ≤ w.generation)
    (hw : start.InstalledAs s w.generation w.socket) (hsize : 0 < size) :
    Tied start w.generation (s.receive w size).2 := by
  have hgives := Source.gives_attempt hsize (s.source w.socket)
  have hunread := hgives.unread_eq
  generalize hafter : ((s.source w.socket).attempt size).2 = after at hunread
  have hsource (x : SocketId) : ((s.receive w size).2.source x).unread =
      if x = w.socket then after.unread else (s.source x).unread := by
    show (if x = w.socket then ((s.source w.socket).attempt size).2 else s.source x).unread = _
    rw [hafter]
    split <;> rfl
  let chunk := (s.source w.socket).takenBy after
  have hlog : (s.receive w size).2.log = noted s.log w.generation chunk := by
    show noted s.log w.generation
      ((s.source w.socket).takenBy ((s.source w.socket).attempt size).2) = _
    rw [hafter]
  have hpresent : s.log w.generation ++ (chunk ++ after.unread) <:+
      (start.source w.socket).unread := by
    rw [← hunread]
    by_cases hread : s.log w.generation = []
    · rw [hread, List.nil_append]
      exact h.left w.socket
    · obtain rfl := Nat.le_antisymm hlast (h.past _ hread).1
      exact h.present w.socket hread hw
  have hnow : (s.receive w size).2.log w.generation = s.log w.generation ++ chunk := by
    rw [hlog]
    exact if_pos rfl
  refine ⟨h.generation, h.socket, hw.le h, ?_, ?_, ?_⟩
  · intro x
    rw [hsource]
    split
    · rename_i hx
      subst hx
      refine List.IsSuffix.trans ?_ (h.left w.socket)
      rw [hunread]
      exact List.suffix_append ..
    · exact h.left x
  · intro g hread
    by_cases hg : g = w.generation
    · subst hg
      refine ⟨Nat.le_refl _, w.socket, hw, ?_⟩
      rw [hnow]
      rw [← List.append_assoc] at hpresent
      exact (List.prefix_append ..).isInfix.trans hpresent.isInfix
    · have hsame : (s.receive w size).2.log g = s.log g := by
        rw [hlog]
        exact if_neg hg
      rw [hsame] at hread ⊢
      obtain ⟨hle, x, hx, hpart⟩ := h.past g hread
      exact ⟨Nat.le_trans hle hlast, x, hx, hpart⟩
  · intro x _ hx
    obtain rfl := hw.unique hx
    rw [hnow, hsource, if_pos rfl, List.append_assoc]
    exact hpresent

end Tied

/-! ### Reads and calls -/

/-- The watched socket is that of its generation, and nothing was read of a later one. -/
def Aimed (start : Scene) (last size : Nat) (s : Scene) : ReadPhase → Prop
  | .waiting w | .reading w =>
    last ≤ w.generation ∧ start.InstalledAs s w.generation w.socket ∧ 0 < size
  | _ => True

theorem aimed_ofEntering (h : Tied start last s) :
    Aimed start last size s (ReadPhase.ofEntering size s.link.enter) := by
  unfold Link.enter
  split
  · trivial
  · split
    · rename_i x hx
      unfold ReadPhase.ofEntering
      dsimp only
      split
      · trivial
      · exact ⟨h.last_le, h.socket x hx, by omega⟩
    · trivial

theorem aimed_ofPoll {w : Watch} (h : Aimed start last size s (.waiting w))
    (r : Except IoError Readiness) : Aimed start last size s (ReadPhase.ofPoll w r) := by
  unfold ReadPhase.ofPoll
  split
  · trivial
  · split
    · trivial
    · split
      · exact h
      · trivial

/-- A step of a read takes from the watched socket only, and in its turn. -/
theorem tied_advance (h : Tied start last s) (haimed : Aimed start last size s phase)
    (hstep : phase.advance host size s = some (phase', s')) :
    ∃ last', Tied start last' s' ∧ Aimed start last' size s' phase' := by
  obtain ⟨hmeet, hgrows⟩ := h.meet
  cases phase with
  | entering =>
    rw [advance_entering] at hstep
    cases hstep
    exact ⟨last, hmeet, aimed_ofEntering hmeet⟩
  | waiting w =>
    obtain ⟨hlast, hw, hsize⟩ := haimed
    rw [advance_waiting, Option.map_eq_some_iff] at hstep
    obtain ⟨⟨r, s₁⟩, hpoll, heq⟩ := hstep
    cases heq
    obtain ⟨hlater, hmore⟩ := hmeet.awaitAny hpoll
    exact ⟨last, hlater, aimed_ofPoll ⟨hlast, hw.later (hgrows.trans hmore), hsize⟩ r⟩
  | woken =>
    rw [advance_woken] at hstep
    cases hstep
    refine ⟨last, hmeet, ?_⟩
    split <;> trivial
  | draining =>
    rw [advance_draining] at hstep
    cases hstep
    exact ⟨last, hmeet.ofLink rfl fun _ hx => hx, trivial⟩
  | reading w =>
    obtain ⟨hlast, hw, hsize⟩ := haimed
    rw [advance_reading] at hstep
    cases hstep
    refine ⟨_, hmeet.receive hlast (hw.later hgrows) hsize, ?_⟩
    unfold ReadPhase.ofReceive
    split
    · split <;> trivial
    · split <;> trivial
  | ending w =>
    rw [advance_ending] at hstep
    cases hstep
    exact ⟨last, hmeet.runHandler, trivial⟩
  | concluding w =>
    rw [advance_concluding] at hstep
    cases hstep
    refine ⟨last, hmeet.ofLink (Link.generation_conclude ..) ?_, ?_⟩
    · intro x hx
      unfold Link.conclude at hx
      split at hx
      · exact hx
      · cases hx
    · unfold ReadPhase.ofEnding
      split <;> trivial
  | done result =>
    cases hstep
    exact ⟨last, h, trivial⟩

theorem tied_receiveOver (h : Tied start last s) {steps : Nat}
    {result : Except SessionError Received} (hread : receiveOver steps size s = some (result, s')) :
    ∃ last', Tied start last' s' := by
  have hdone := receiveOver_keeps
    (P := fun phase s₁ => ∃ last', Tied start last' s₁ ∧ Aimed start last' size s₁ phase)
    (fun _ _ _ _ ⟨_, htied, haimed⟩ hstep => tied_advance htied haimed hstep)
    hread ⟨last, h, trivial⟩
  obtain ⟨last', hlater, -⟩ := hdone
  exact ⟨last', hlater⟩

/-- Calls for frames, one after the other. -/
theorem tied_pulls (h : Tied start last s) (steps calls : Nat) (d : Deframer) :
    ∃ last', Tied start last' (pulls steps calls d s).2.2 := by
  refine pulls_keep (P := fun s₁ => ∃ last', Tied start last' s₁) ?_ calls d ⟨last, h⟩
  intro d s₁ call s₂ htied hpull
  refine pull_keeps (P := fun s₁ => ∃ last', Tied start last' s₁) ?_ ?_ hpull htied
  · rintro s ⟨last', htied⟩
    exact ⟨last', htied.tick⟩
  · rintro size s result s' ⟨last', htied⟩ hread
    exact tied_receiveOver htied hread

end Scene

end Framecast
