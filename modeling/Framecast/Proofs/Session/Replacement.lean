import Framecast.Proofs.Session.Lifecycle

/-!
# Sockets that are installed while an older one ends

While a read still has to deal with the end of its socket, somebody may install another. The read
takes that one up by itself, but first it runs the handler for the older socket, and what the
handler installs takes the place of whatever is there by then.

`installed_move` says what one move can do to a socket that is installed, and `follows_move` where
the read can go meanwhile. `stays_installed_iff` is about whole runs: a replacement stays until its
own end unless somebody else or the handler installs, and as long as it stays the read is its own.
-/

namespace Framecast

/-- Whether a socket is installed, or the socket is taken away. -/
def Deed.isInstall : Deed → Bool
  | .onLink (.install _) => true
  | .onLink .wake | .onLink .cancel | .onLink .resume | .send .. | .close _ => false

/-- What can be noted as long as every read is a read from one socket: that it brought bytes or
nothing, that the read was cancelled, or that the socket failed. -/
def Note.Suits (v : Watch) : Note → Prop
  | .drained u => u = v
  | .returned (.ok (.data _ generation)) => generation = v.generation
  | .returned (.ok .endOfStream) => False
  | .returned (.error e) => e ≠ .socket .notConnected
  | .returned (.ok .flushing) | .installed _ | .sent .. | .closed _ | .handled => True

theorem Note.IsForeign.suits {n : Note} (hn : n.IsForeign) (v : Watch) : n.Suits v := by
  cases hn <;> trivial

theorem Notes.ended_mono {earlier notes : Notes} (h : earlier <:+ notes) {e : Watch}
    (he : e ∈ earlier.ended) : e ∈ notes.ended := by
  obtain ⟨since, rfl⟩ := h
  induction since with
  | nil => exact he
  | cons n since ih =>
    by_cases hn : n = .returned (.ok .endOfStream)
    · subst hn
      exact List.mem_append_right _ ih
    · rw [List.cons_append, ended]
      · exact ih
      · exact hn

namespace Chronicle

/-- What others do in a move. -/
def Move.deeds : Move → List Deed
  | .meet deed => [deed]
  | .begin _ | .advance => []

/-- What the handler does in the next step of a read that has come so far. -/
def handledFrom (phase : ReadPhase) (c : Chronicle) : List Deed :=
  match phase with
  | .ending _ => c.handler.headD []
  | _ => []

/-- What the handler does in a move. -/
def handledIn (m : Move) (c : Chronicle) : List Deed :=
  match m, c.reading with
  | .advance, some (_, phase) => c.handledFrom phase
  | _, _ => []

/-- What the handler does in a run. -/
def handled : List Move → Chronicle → List Deed
  | [], _ => []
  | m :: rest, c => c.handledIn m ++ handled rest (c.move m)

/-- The socket of a watch is installed, and no other was installed since. -/
structure Installed (c : Chronicle) (v : Watch) : Prop where
  socket : c.link.socket = some v.socket
  generation : c.link.generation = v.generation

variable {c c' d : Chronicle} {size : Nat} {phase : ReadPhase} {v w : Watch}

theorem handledIn_advance (h : c.reading = some (size, phase)) :
    c.handledIn .advance = c.handledFrom phase := by
  simp [handledIn, h]

/-! ### What a move notes -/

/-- Deeds of others add foreign notes only. -/
theorem notes_meetAll (deeds : List Deed) (c : Chronicle) :
    ∃ since, (c.meetAll deeds).notes = since ++ c.notes ∧ ∀ n ∈ since, n.IsForeign := by
  induction deeds generalizing c with
  | nil => exact ⟨[], rfl, by simp⟩
  | cons deed rest ih =>
    obtain ⟨since, hsince, hforeign⟩ := ih (c.meet deed)
    rcases notes_meet deed c with heq | ⟨n, hn, heq⟩
    · exact ⟨since, hsince.trans (by rw [heq]), hforeign⟩
    · refine ⟨since ++ [n], hsince.trans (by simp [heq]), ?_⟩
      intro m hm
      rcases List.mem_append.mp hm with hm | hm
      · exact hforeign m hm
      · rw [List.mem_singleton.mp hm]
        exact hn

theorem Valid.notes_advance (h : c.Valid) : c.notes <:+ c.advance.notes := by
  match hreading : c.reading with
  | none => simp [advance_of_idle hreading]
  | some (size, phase) =>
    have hstepped := advance_stepped hreading (h.stands size phase hreading)
    generalize c.advance = after at hstepped ⊢
    cases hstepped with
    | handled w =>
      obtain ⟨since, hsince, -⟩ :=
        notes_meetAll (c.handler.headD []) { c with handler := c.handler.tail }
      exact ⟨.handled :: since, (congrArg (List.cons Note.handled) hsince).symm⟩
    | waited | signalled | ready | stopped | woken | silenced | retried | watched | replaced =>
      exact List.suffix_refl _
    | cancelled | missing | askedNothing | failed | drained | brought | ended =>
      exact List.suffix_cons _ _

theorem Valid.notes_move (h : c.Valid) (m : Move) : c.notes <:+ (c.move m).notes := by
  cases m with
  | meet deed =>
    rcases notes_meet deed c with heq | ⟨n, -, heq⟩
    · exact (List.suffix_refl _).trans (heq ▸ List.suffix_refl _)
    · exact heq ▸ List.suffix_cons n _
  | begin size =>
    show c.notes <:+ (c.begin size).notes
    unfold Chronicle.begin
    split <;> exact List.suffix_refl _
  | advance => exact h.notes_advance

/-- Notes stay. -/
theorem Valid.notes_run (h : c.Valid) (moves : List Move) : c.notes <:+ (c.run moves).notes := by
  induction moves generalizing c with
  | nil => exact List.suffix_refl _
  | cons m rest ih => exact (h.notes_move m).trans (ih (h.move m))

/-! ### Staying installed -/

/-- A socket that is installed has not ended. -/
theorem Installed.not_ended (hv : c.Installed v) (h : c.Valid) : v ∉ c.notes.ended := by
  intro hended
  have hcurrent : c.notes.current = some v.socket := h.sound.socket.symm.trans hv.socket
  obtain ⟨-, hspent⟩ := h.sound.lawful.spent v hended
  rw [hspent (hv.generation.symm.trans h.sound.generation)] at hcurrent
  cases hcurrent

theorem Installed.meet (hv : c.Installed v) {deed : Deed} (hdeed : deed.isInstall = false) :
    (c.meet deed).Installed v := by
  cases deed with
  | onLink act =>
    cases act with
    | install socket => cases hdeed
    | wake | cancel | resume => exact ⟨hv.socket, hv.generation⟩
  | send x chunk =>
    by_cases hclosed : (c.queue x).closed = true
    · rw [meet_send_of_closed chunk hclosed]
      exact hv
    · rw [meet_send_of_open chunk hclosed]
      exact ⟨hv.socket, hv.generation⟩
  | close x => exact ⟨hv.socket, hv.generation⟩

/-- A socket stays where others install nothing. -/
theorem Installed.meetAll (hv : c.Installed v) {deeds : List Deed}
    (hdeeds : ∀ deed ∈ deeds, deed.isInstall = false) : (c.meetAll deeds).Installed v := by
  induction deeds generalizing c with
  | nil => exact hv
  | cons deed rest ih =>
    rw [List.forall_mem_cons] at hdeeds
    exact ih (hv.meet hdeeds.1) hdeeds.2

/-- If nothing is replaced, it is the socket itself that has ended. -/
theorem Installed.eq_of_not_replaced (hv : c.Installed v) (h : c.Valid)
    (hreading : c.reading = some (size, .concluding w)) (hkept : c.link.isReplaced w = false) :
    w = v := by
  have hlatest : c.link.generation = w.generation := by
    simpa [Link.isReplaced, hv.socket] using hkept
  have hgeneration : w.generation = v.generation := hlatest.symm.trans hv.generation
  have hw : c.notes.socketOf? w.generation = some w.socket := by
    cases h.stands _ _ hreading with
    | concluding _ _ hw => exact hw.installed
  have hcurrent : c.notes.socketOf? c.notes.installs = some v.socket :=
    Notes.socketOf?_installs (h.sound.socket.symm.trans hv.socket)
  rw [← h.sound.generation, hv.generation, ← hgeneration, hw, Option.some.injEq] at hcurrent
  cases w
  cases v
  rw [Watch.mk.injEq]
  exact ⟨hcurrent, hgeneration⟩

/-- In one step, a socket stays or ends, if the handler installs nothing. -/
theorem Installed.advance (hv : c.Installed v) (h : c.Valid)
    (hhandler : ∀ deed ∈ c.handledIn .advance, deed.isInstall = false) :
    c.advance.Installed v ∨ v ∈ c.advance.notes.ended := by
  match hreading : c.reading with
  | none =>
    rw [advance_of_idle hreading]
    exact .inl hv
  | some (size, phase) =>
    have hstepped := advance_stepped hreading (h.stands size phase hreading)
    rw [handledIn_advance hreading] at hhandler
    generalize c.advance = after at hstepped ⊢
    cases hstepped with
    | handled w =>
      have hafter : Installed { c with handler := c.handler.tail } v := ⟨hv.socket, hv.generation⟩
      obtain ⟨hsocket, hgeneration⟩ := hafter.meetAll hhandler
      exact .inl ⟨hsocket, hgeneration⟩
    | ended w hkept =>
      obtain rfl := hv.eq_of_not_replaced h hreading hkept
      right
      have hlast : c.notes.lastDrained = some w := by
        cases h.stands _ _ hreading with
        | concluding _ _ _ _ hdrained => exact hdrained.last
      show w ∈ Notes.ended (.returned (.ok .endOfStream) :: c.notes)
      simp [Notes.ended, hlast]
    | cancelled | missing | askedNothing | watched | waited | signalled | ready | stopped | woken
    | silenced | failed | retried | drained | brought | replaced =>
      exact .inl ⟨hv.socket, hv.generation⟩

/-- Unless somebody installs, a socket stays installed until it has ended. -/
theorem installed_move (hv : c.Installed v) (h : c.Valid) {m : Move}
    (hdeeds : ∀ deed ∈ m.deeds ++ c.handledIn m, deed.isInstall = false) :
    (c.move m).Installed v ∨ v ∈ (c.move m).notes.ended := by
  rw [List.forall_mem_append] at hdeeds
  cases m with
  | meet deed => exact .inl (hv.meet (hdeeds.1 deed (List.mem_singleton_self _)))
  | begin size =>
    left
    show (c.begin size).Installed v
    unfold Chronicle.begin
    split
    · exact ⟨hv.socket, hv.generation⟩
    · exact hv
  | advance => exact hv.advance h hdeeds.2

/-! ### Counting generations -/

/-- A generation more for each socket that is installed. -/
theorem generation_meet (deed : Deed) (c : Chronicle) :
    (c.meet deed).link.generation = c.link.generation + [deed].countP Deed.isInstall := by
  cases deed with
  | onLink act => cases act <;> rfl
  | send x chunk =>
    by_cases hclosed : (c.queue x).closed = true
    · rw [meet_send_of_closed chunk hclosed]
      rfl
    · rw [meet_send_of_open chunk hclosed]
      rfl
  | close => rfl

theorem generation_meetAll (deeds : List Deed) (c : Chronicle) :
    (c.meetAll deeds).link.generation = c.link.generation + deeds.countP Deed.isInstall := by
  induction deeds generalizing c with
  | nil => rfl
  | cons deed rest ih =>
    rw [List.countP_cons, Nat.add_comm (rest.countP _), ← Nat.add_assoc,
      ← List.countP_singleton, ← generation_meet]
    exact ih _

/-- A step counts what its handler installs. -/
theorem Valid.generation_advance (h : c.Valid) : c.advance.link.generation =
    c.link.generation + (c.handledIn .advance).countP Deed.isInstall := by
  match hreading : c.reading with
  | none =>
    rw [advance_of_idle hreading]
    simp [handledIn, hreading]
  | some (size, phase) =>
    have hstepped := advance_stepped hreading (h.stands size phase hreading)
    rw [handledIn_advance hreading]
    generalize c.advance = after at hstepped ⊢
    cases hstepped with
    | handled w => exact generation_meetAll (c.handler.headD []) _
    | _ => rfl

/-- Each installation is one generation more, whoever installs. -/
theorem Valid.generation_move (h : c.Valid) (m : Move) : (c.move m).link.generation =
    c.link.generation + (m.deeds ++ c.handledIn m).countP Deed.isInstall := by
  cases m with
  | meet deed => exact generation_meet deed c
  | begin size =>
    show (c.begin size).link.generation = _
    unfold Chronicle.begin
    split <;> rfl
  | advance => exact h.generation_advance

/-- A run counts what everybody installs. -/
theorem Valid.generation_run (h : c.Valid) (moves : List Move) :
    (c.run moves).link.generation = c.link.generation +
      ((moves.flatMap Move.deeds).countP Deed.isInstall +
        (c.handled moves).countP Deed.isInstall) := by
  induction moves generalizing c with
  | nil => rfl
  | cons m rest ih =>
    have hmove := h.generation_move m
    have hrest := ih (h.move m)
    simp only [handled, List.flatMap_cons, List.countP_append] at hmove hrest ⊢
    show ((c.move m).run rest).link.generation = _
    omega

/-- A socket that was installed all along: nobody installed anything. -/
theorem Installed.untouched (hv : c.Installed v) (h : c.Valid) {moves : List Move}
    (hd : (c.run moves).Installed v) :
    (∀ deed ∈ moves.flatMap Move.deeds, deed.isInstall = false) ∧
      ∀ deed ∈ c.handled moves, deed.isInstall = false := by
  have hcount := h.generation_run moves
  rw [hv.generation, hd.generation] at hcount
  have hnone (deeds : List Deed) (hzero : deeds.countP Deed.isInstall = 0) :
      ∀ deed ∈ deeds, deed.isInstall = false := by
    simpa [List.countP_eq_zero] using hzero
  exact ⟨hnone _ (by omega), hnone _ (by omega)⟩

/-- In a run, a socket stays or ends, if nothing is installed. -/
theorem Installed.run (hv : c.Installed v) (h : c.Valid) {moves : List Move}
    (hothers : ∀ deed ∈ moves.flatMap Move.deeds, deed.isInstall = false)
    (hhandler : ∀ deed ∈ c.handled moves, deed.isInstall = false) :
    (c.run moves).Installed v ∨ v ∈ (c.run moves).notes.ended := by
  induction moves generalizing c with
  | nil => exact .inl hv
  | cons m rest ih =>
    rw [List.flatMap_cons, List.forall_mem_append] at hothers
    rw [handled, List.forall_mem_append] at hhandler
    rcases installed_move hv h (List.forall_mem_append.mpr ⟨hothers.1, hhandler.1⟩) with hm | hended
    · exact ih hm (h.move m) hothers.2 hhandler.2
    · exact .inr (Notes.ended_mono ((h.move m).notes_run rest) hended)

/-- What is still there after a run was there after its first move. -/
theorem Installed.of_run (hv : c.Installed v) (h : c.Valid) {m : Move} {rest : List Move}
    (hd : (c.run (m :: rest)).Installed v) : (c.move m).Installed v := by
  obtain ⟨hothers, hhandler⟩ := hv.untouched h hd
  rw [List.flatMap_cons, List.forall_mem_append] at hothers
  rw [handled, List.forall_mem_append] at hhandler
  have hmove := installed_move hv h (List.forall_mem_append.mpr ⟨hothers.1, hhandler.1⟩)
  refine hmove.resolve_right ?_
  intro hended
  exact hd.not_ended (h.run _) (Notes.ended_mono ((h.move m).notes_run rest) hended)

/-! ### Where the reads go meanwhile -/

/-- A read that has come so far reads from the socket of `v`, or has the end of `w` to deal with. -/
def Heads (w v : Watch) : ReadPhase → Prop
  | .entering | .woken | .draining => True
  | .waiting u | .reading u => u = v
  | .ending u | .concluding u => u = w ∨ u = v
  | .done _ => False

/-- The reads go on so, and what was noted since suits this. -/
structure Follows (w v : Watch) (c d : Chronicle) : Prop where
  heads : ∀ size phase, d.reading = some (size, phase) → Heads w v phase
  noted : ∃ since, d.notes = since ++ c.notes ∧ ∀ n ∈ since, n.Suits v

theorem Follows.trans (h : Follows w v c c') (h' : Follows w v c' d) : Follows w v c d := by
  obtain ⟨since, hsince, hsuits⟩ := h.noted
  obtain ⟨later, hlater, hsuits'⟩ := h'.noted
  refine ⟨h'.heads, later ++ since, ?_, List.forall_mem_append.mpr ⟨hsuits', hsuits⟩⟩
  rw [hlater, hsince, List.append_assoc]

theorem follows_goOn (hnotes : c'.notes = c.notes) (hphase : Heads w v phase) :
    Follows w v c (c'.goOn size phase) := by
  refine ⟨?_, [], hnotes, by simp⟩
  intro size' phase' hreading
  cases hreading
  exact hphase

theorem follows_answer {result : Except SessionError Received} (hnotes : c'.notes = c.notes)
    (hresult : (Note.returned result).Suits v) : Follows w v c (c'.answer result) := by
  refine ⟨fun _ _ => nofun, [.returned result], congrArg (List.cons _) hnotes, ?_⟩
  simpa using hresult

theorem follows_advance (h : c.Valid) (hv : c.Installed v) (hafter : c.advance.Installed v)
    (hheads : ∀ size phase, c.reading = some (size, phase) → Heads w v phase) :
    Follows w v c c.advance := by
  match hreading : c.reading with
  | none =>
    rw [advance_of_idle hreading]
    exact ⟨hheads, [], rfl, by simp⟩
  | some (size, phase) =>
    have hstepped := advance_stepped hreading (h.stands size phase hreading)
    have hphase := hheads size phase hreading
    generalize c.advance = after at hstepped hafter ⊢
    cases hstepped with
    | cancelled => exact follows_answer rfl trivial
    | missing _ hsocket =>
      rw [hv.socket] at hsocket
      cases hsocket
    | askedNothing => exact follows_answer rfl hv.generation
    | watched x hsocket =>
      rw [hv.socket, Option.some.injEq] at hsocket
      have hwatch : (⟨x, c.link.generation⟩ : Watch) = v := by rw [← hsocket, hv.generation]
      exact follows_goOn rfl hwatch
    | waited => exact ⟨hheads, [], rfl, by simp⟩
    | signalled => exact follows_goOn rfl trivial
    | ready => exact follows_goOn rfl hphase
    | stopped | woken | silenced | retried => exact follows_goOn rfl trivial
    | failed => exact follows_answer rfl (by simp [Note.Suits])
    | drained u =>
      have hsuits : ∀ n ∈ [Note.drained u], n.Suits v := List.forall_mem_singleton.mpr hphase
      refine ⟨?_, [.drained u], rfl, hsuits⟩
      intro size' phase' hreading'
      cases hreading'
      exact .inr hphase
    | brought u =>
      obtain rfl : u = v := hphase
      exact follows_answer rfl rfl
    | handled u =>
      obtain ⟨since, hsince, hforeign⟩ :=
        notes_meetAll (c.handler.headD []) { c with handler := c.handler.tail }
      refine ⟨?_, .handled :: since, congrArg (List.cons Note.handled) hsince, ?_⟩
      · intro size' phase' hreading'
        cases hreading'
        exact hphase
      · exact List.forall_mem_cons.mpr ⟨trivial, fun n hn => (hforeign n hn).suits v⟩
    | replaced => exact follows_goOn rfl trivial
    | ended => cases hafter.socket

theorem follows_move (h : c.Valid) (hv : c.Installed v) {m : Move} (hafter : (c.move m).Installed v)
    (hheads : ∀ size phase, c.reading = some (size, phase) → Heads w v phase) :
    Follows w v c (c.move m) := by
  cases m with
  | meet deed =>
    obtain ⟨since, hsince, hforeign⟩ := notes_meetAll [deed] c
    refine ⟨?_, since, hsince, fun n hn => (hforeign n hn).suits v⟩
    intro size phase hreading
    exact hheads size phase ((reading_meet deed c).symm.trans hreading)
  | begin size =>
    show Follows w v c (c.begin size)
    unfold Chronicle.begin
    split
    · exact follows_goOn rfl trivial
    · exact ⟨hheads, [], rfl, by simp⟩
  | advance => exact follows_advance h hv hafter hheads

/-- Where a run leaves the read. -/
theorem follows_run (h : c.Valid) (hv : c.Installed v) {moves : List Move}
    (hd : (c.run moves).Installed v)
    (hheads : ∀ size phase, c.reading = some (size, phase) → Heads w v phase) :
    Follows w v c (c.run moves) := by
  induction moves generalizing c with
  | nil => exact ⟨hheads, [], rfl, by simp⟩
  | cons m rest ih =>
    have hm := hv.of_run h hd
    have hmove := follows_move h hv hm hheads
    exact hmove.trans (ih (h.move m) hm hd hmove.heads)

/-! ### How soon a read is there -/

/-- The steps between dealing with the end of a socket and waiting for the next. -/
def stepsLeft : ReadPhase → Nat
  | .ending _ => 3
  | .concluding _ => 2
  | .entering => 1
  | .waiting _ | .woken | .draining | .reading _ | .done _ => 0

/-- The phases that a read goes through in these steps. -/
inductive Nears (w v : Watch) : ReadPhase → Prop
  | ending : Nears w v (.ending w)
  | concluding : Nears w v (.concluding w)
  | entering : Nears w v .entering
  | waiting : Nears w v (.waiting v)

/-- A read was cancelled since. -/
def CancelledSince (c d : Chronicle) : Prop :=
  ∃ since, d.notes = since ++ c.notes ∧ .returned (.ok .flushing) ∈ since

theorem CancelledSince.of_suffix (h : CancelledSince c' d) (hnotes : c.notes <:+ c'.notes) :
    CancelledSince c d := by
  obtain ⟨since, hsince, hmem⟩ := h
  obtain ⟨first, hfirst⟩ := hnotes
  exact ⟨since ++ first, by rw [hsince, ← hfirst, List.append_assoc],
    List.mem_append_left _ hmem⟩

/-- A step brings a read nearer to the socket, unless it was cancelled. -/
theorem nears_advance (h : c.Valid) (hv : c.Installed v) (hafter : c.advance.Installed v)
    (hsize : 0 < size) (hnears : Nears w v phase) (hreading : c.reading = some (size, phase))
    (hleft : 0 < stepsLeft phase) :
    (∃ next, c.advance.reading = some (size, next) ∧ Nears w v next ∧
      stepsLeft next + 1 = stepsLeft phase) ∨ CancelledSince c c.advance := by
  have hstepped := advance_stepped hreading (h.stands size phase hreading)
  generalize c.advance = after at hstepped hafter ⊢
  cases hnears with
  | ending =>
    cases hstepped with
    | handled => exact .inl ⟨_, rfl, .concluding, rfl⟩
  | concluding =>
    cases hstepped with
    | replaced => exact .inl ⟨_, rfl, .entering, rfl⟩
    | ended => cases hafter.socket
  | entering =>
    cases hstepped with
    | cancelled => exact .inr ⟨[.returned (.ok .flushing)], rfl, by simp⟩
    | missing _ hsocket =>
      rw [hv.socket] at hsocket
      cases hsocket
    | askedNothing _ _ hzero => omega
    | watched x hsocket =>
      rw [hv.socket, Option.some.injEq] at hsocket
      have hwatch : (⟨x, c.link.generation⟩ : Watch) = v := by rw [← hsocket, hv.generation]
      exact .inl ⟨.waiting v, by rw [← hwatch]; rfl, .waiting, rfl⟩
  | waiting => cases hleft

/-- After its steps, a read waits on the socket, unless it was cancelled. -/
theorem waits_of_steps (h : c.Valid) (hv : c.Installed v) {moves : List Move}
    (hd : (c.run moves).Installed v) (hsize : 0 < size) (hnears : Nears w v phase)
    (hreading : c.reading = some (size, phase)) (hsteps : moves.count .advance = stepsLeft phase) :
    (c.run moves).reading = some (size, .waiting v) ∨ CancelledSince c (c.run moves) := by
  induction moves generalizing c phase with
  | nil =>
    cases hnears with
    | waiting => exact .inl hreading
    | ending | concluding | entering => cases hsteps
  | cons m rest ih =>
    have hm := hv.of_run h hd
    cases m with
    | meet deed =>
      rw [List.count_cons_of_ne (by simp)] at hsteps
      have hstill : (c.meet deed).reading = some (size, phase) :=
        (reading_meet deed c).trans hreading
      exact (ih (h.move _) hm hd hnears hstill hsteps).imp_right (·.of_suffix (h.notes_move _))
    | begin size' =>
      rw [List.count_cons_of_ne (by simp)] at hsteps
      have hsame : c.begin size' = c := by
        unfold Chronicle.begin
        rw [hreading]
      have hstill : (c.begin size').reading = some (size, phase) := by rw [hsame, hreading]
      exact (ih (h.move _) hm hd hnears hstill hsteps).imp_right (·.of_suffix (h.notes_move _))
    | advance =>
      rw [List.count_cons_self] at hsteps
      rcases nears_advance h hv hm hsize hnears hreading (by omega) with
        ⟨next, hnext, hnears', hleft⟩ | hcancelled
      · exact (ih (h.move _) hm hd hnears' hnext (by omega)).imp_right
          (·.of_suffix (h.notes_move _))
      · right
        obtain ⟨since, hsince, hmem⟩ := hcancelled
        obtain ⟨more, hmore⟩ := (h.move .advance).notes_run rest
        refine ⟨more ++ since, ?_, List.mem_append_right _ hmem⟩
        rw [List.append_assoc, ← hsince]
        exact hmore.symm

/-- **Which replacement is kept.** Whatever happens around a link, in whatever order: take a read
that deals with the end of its socket, of which a receive brought nothing, and let another socket be
installed. It stays installed exactly as long as nobody else installs one or takes it away, nor does
the handler, which runs for the older socket all the same, and until its own end was returned. As
long as it stays, every read reads from it and none returns an end; after the steps that it still
has to take, the read waits for the new socket, unless it was cancelled. -/
theorem stays_installed_iff (turns : SocketId → List Turn) (handler : List (List Deed))
    (moves later : List Move) {size : Nat} {phase : ReadPhase} {v w : Watch} :
    let c := (start turns handler).run moves
    let d := c.run later
    c.reading = some (size, phase) → phase = .ending w ∨ phase = .concluding w → c.Installed v →
      (d.Installed v ↔
        (∀ deed ∈ later.flatMap Move.deeds, deed.isInstall = false) ∧
        (∀ deed ∈ c.handled later, deed.isInstall = false) ∧ v ∉ d.notes.ended) ∧
      ∃ since, d.notes = since ++ c.notes ∧
        (d.Installed v → (∀ n ∈ since, n.Suits v) ∧
          (later.count .advance = stepsLeft phase →
            d.reading = some (size, .waiting v) ∨ .returned (.ok .flushing) ∈ since)) := by
  intro c d hreading hphase hv
  have h : c.Valid := (valid_start turns handler).run moves
  have hd : d.Valid := h.run later
  have hnears : Nears w v phase := by
    rcases hphase with rfl | rfl
    · exact .ending
    · exact .concluding
  have hsize : 0 < size := by
    have hstands := h.stands size phase hreading
    rcases hphase with rfl | rfl
    · cases hstands with
      | ending _ _ _ hsize => exact hsize
    · cases hstands with
      | concluding _ _ _ hsize => exact hsize
  refine ⟨⟨?_, ?_⟩, ?_⟩
  · intro hstays
    obtain ⟨hothers, hhandler⟩ := hv.untouched h hstays
    exact ⟨hothers, hhandler, hstays.not_ended hd⟩
  · rintro ⟨hothers, hhandler, hgoing⟩
    exact (hv.run h hothers hhandler).resolve_right hgoing
  · obtain ⟨since, hsince⟩ := h.notes_run later
    refine ⟨since, hsince.symm, ?_⟩
    intro hstays
    have hheads : ∀ size' phase', c.reading = some (size', phase') → Heads w v phase' := by
      intro size' phase' hreading'
      rw [hreading, Option.some.injEq, Prod.mk.injEq] at hreading'
      rw [← hreading'.2]
      rcases hphase with rfl | rfl <;> exact .inl rfl
    have hsame {more : Notes} (hmore : d.notes = more ++ c.notes) : more = since :=
      List.append_cancel_right (hmore.symm.trans hsince.symm)
    refine ⟨?_, ?_⟩
    · obtain ⟨more, hmore, hsuits⟩ := (follows_run h hv hstays hheads).noted
      exact hsame hmore ▸ hsuits
    · intro hsteps
      refine (waits_of_steps h hv hstays hsize hnears hreading hsteps).imp_right ?_
      rintro ⟨more, hmore, hmem⟩
      exact hsame hmore ▸ hmem

/-- The peer of the first socket has closed, and a receive finds this out just when somebody
installs the second. -/
def replacedInTime : List Move :=
  [.meet (.onLink (.install (some 0))), .meet (.close 0), .begin 16, .advance, .advance,
    .meet (.onLink (.install (some 1))), .meet (.send 1 (Stretch.plain [7])), .advance]

/-- A handler that installs a third socket takes the second away, with the bytes that wait in it;
without a handler the read goes on with the second. -/
theorem stays_installed_iff_replacedInTime :
    let c := (start (fun _ => []) [[.onLink (.install (some 2))]]).run replacedInTime
    let d := c.run [.advance]
    let alone := (start (fun _ => []) []).run replacedInTime
    c.reading = some (16, .ending ⟨0, 1⟩) ∧ c.Installed ⟨1, 2⟩ ∧ ¬d.Installed ⟨1, 2⟩ ∧
    d.link.socket = some 2 ∧ (d.queue 1).unread = Stretch.plain [7] ∧
    (alone.run (List.replicate 3 .advance)).reading = some (16, .waiting ⟨1, 2⟩) := by
  intro c d alone
  have hreading : c.reading = some (16, .ending ⟨0, 1⟩) := rfl
  have hinstalled : c.Installed ⟨1, 2⟩ := ⟨rfl, rfl⟩
  have hhandled : c.handled [.advance] = [.onLink (.install (some 2))] := rfl
  refine ⟨hreading, hinstalled, ?_, rfl, rfl, rfl⟩
  rw [(stays_installed_iff (fun _ => []) [[.onLink (.install (some 2))]] replacedInTime [.advance]
    hreading (.inl rfl) hinstalled).1]
  rintro ⟨-, hhandler, -⟩
  rw [hhandled] at hhandler
  cases hhandler _ (List.mem_singleton_self _)

end Chronicle

end Framecast
