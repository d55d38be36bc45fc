import Framecast.Proofs.Session.Chronicle

/-!
# The life of a link

Whatever happens around a link, in whatever order, its state is what the notes of a chronicle say,
and no bytes are lost, repeated or reordered between the peer of a socket and the results of the
reads. The handler runs once for each receive that brings nothing. The end of a stream is returned
once for a generation, when everything was read, the peer has closed and no other socket was put in
its place; from then on every read returns at once, until a socket is installed.

`Valid` is the invariant: `Sound` is its part about the link and the sockets, `Stands` its part
about the read that is in progress. `Valid.meet` keeps it over whatever others do, `Valid.advance`
over a step of the reader, of which `Stepped` says what it can do. `orderly_run` is the whole life.
-/

namespace Framecast

namespace Chronicle

variable {c c' : Chronicle} {size : Nat} {phase : ReadPhase} {w : Watch} {x : SocketId}

/-- The link and the sockets are what the notes say. -/
structure Sound (c : Chronicle) : Prop where
  generation : c.link.generation = c.notes.installs
  socket : c.link.socket = c.notes.current
  ended : c.link.ended = c.notes.hasEnded
  closed : ∀ x, (c.queue x).closed = true ↔ .closed x ∈ c.notes
  flow : ∀ x,
    (c.notes.sentOn x).arrival = (c.notes.heardOn x).append (c.queue x).unread.arrival
  lawful : c.notes.Lawful

/-- Nothing is left in the socket of a watch, of which a receive brought nothing. -/
structure Drained (c : Chronicle) (w : Watch) : Prop where
  last : c.notes.lastDrained = some w
  unread : (c.queue w.socket).unread = []
  closed : (c.queue w.socket).closed = true

/-- What a read relies on, by how far it has come. -/
inductive Stands (c : Chronicle) (size : Nat) : ReadPhase → Prop
  | entering (hidle : c.notes.unhandled = none) : Stands c size .entering
  | waiting (w : Watch) (hidle : c.notes.unhandled = none) (hw : c.notes.Watched w)
      (hsize : 0 < size) : Stands c size (.waiting w)
  | woken (hidle : c.notes.unhandled = none) (hgoing : c.notes.isOver = false) :
      Stands c size .woken
  | draining (hidle : c.notes.unhandled = none) (hgoing : c.notes.isOver = false) :
      Stands c size .draining
  | reading (w : Watch) (hidle : c.notes.unhandled = none) (hw : c.notes.Watched w)
      (hsize : 0 < size) : Stands c size (.reading w)
  | ending (w : Watch) (hdue : c.notes.unhandled = some w) (hw : c.notes.Watched w)
      (hsize : 0 < size) (hdrained : c.Drained w) : Stands c size (.ending w)
  | concluding (w : Watch) (hidle : c.notes.unhandled = none) (hw : c.notes.Watched w)
      (hsize : 0 < size) (hdrained : c.Drained w) : Stands c size (.concluding w)

/-! ### What others do -/

/-- On a closed socket, nothing more is sent. -/
theorem meet_send_of_closed (chunk : Stretch) (h : (c.queue x).closed = true) :
    c.meet (.send x chunk) = c :=
  if_pos h

theorem meet_send_of_open (chunk : Stretch) (h : ¬(c.queue x).closed = true) :
    c.meet (.send x chunk) =
      (c.onQueue x fun q => { q with unread := q.unread ++ chunk }).note (.sent x chunk) :=
  if_neg h

/-- A deed of others adds one foreign note at most. -/
theorem notes_meet (deed : Deed) (c : Chronicle) : (c.meet deed).notes = c.notes ∨
    ∃ n, n.IsForeign ∧ (c.meet deed).notes = n :: c.notes := by
  cases deed with
  | onLink act =>
    cases act with
    | install socket => exact .inr ⟨_, .installed socket, rfl⟩
    | wake | cancel | resume => exact .inl rfl
  | send x chunk =>
    by_cases hclosed : (c.queue x).closed = true
    · rw [meet_send_of_closed chunk hclosed]
      exact .inl rfl
    · rw [meet_send_of_open chunk hclosed]
      exact .inr ⟨_, .sent x chunk, rfl⟩
  | close x => exact .inr ⟨_, .closed x, rfl⟩

theorem queue_onQueue (x y : SocketId) (f : Source → Source) (c : Chronicle) :
    (c.onQueue x f).queue y = if y = x then f (c.queue x) else c.queue y := rfl

/-- A socket that is at its end stays there, whatever others do. -/
theorem Drained.meet (h : c.Drained w) (deed : Deed) : (c.meet deed).Drained w := by
  have hlast : (c.meet deed).notes.lastDrained = some w := by
    rcases notes_meet deed c with heq | ⟨n, hn, heq⟩
    · rw [heq]
      exact h.last
    · rw [heq, Notes.lastDrained_foreign hn]
      exact h.last
  cases deed with
  | onLink act => exact ⟨hlast, h.unread, h.closed⟩
  | send x chunk =>
    by_cases hclosed : (c.queue x).closed = true
    · rw [meet_send_of_closed chunk hclosed]
      exact h
    · have hother : w.socket ≠ x := by
        intro heq
        exact hclosed (heq ▸ h.closed)
      rw [meet_send_of_open chunk hclosed] at hlast ⊢
      refine ⟨hlast, ?_, ?_⟩
      · show (ite _ _ _ : Source).unread = []
        rw [if_neg hother]
        exact h.unread
      · show (ite _ _ _ : Source).closed = true
        rw [if_neg hother]
        exact h.closed
  | close x =>
    refine ⟨hlast, ?_, ?_⟩
    · show (ite _ _ _ : Source).unread = []
      split
      · rename_i heq
        exact heq ▸ h.unread
      · exact h.unread
    · show (ite _ _ _ : Source).closed = true
      split
      · rfl
      · exact h.closed

/-- A read stands where it stands, whatever others do. -/
theorem Stands.meet (h : c.Stands size phase) (deed : Deed) : (c.meet deed).Stands size phase := by
  have hunhandled : (c.meet deed).notes.unhandled = c.notes.unhandled := by
    rcases notes_meet deed c with heq | ⟨n, hn, heq⟩
    · rw [heq]
    · rw [heq, Notes.unhandled_foreign hn]
  have hgoes (hgoing : c.notes.isOver = false) : (c.meet deed).notes.isOver = false := by
    rcases notes_meet deed c with heq | ⟨n, hn, heq⟩
    · rw [heq]
      exact hgoing
    · rw [heq]
      exact Notes.isOver_foreign hn hgoing
  have hkept (w : Watch) (hw : c.notes.Watched w) : (c.meet deed).notes.Watched w := by
    rcases notes_meet deed c with heq | ⟨n, hn, heq⟩
    · rw [heq]
      exact hw
    · rw [heq]
      exact hw.foreign hn
  cases h with
  | entering hidle => exact .entering (hunhandled.trans hidle)
  | waiting w hidle hw hsize => exact .waiting w (hunhandled.trans hidle) (hkept w hw) hsize
  | woken hidle hgoing => exact .woken (hunhandled.trans hidle) (hgoes hgoing)
  | draining hidle hgoing => exact .draining (hunhandled.trans hidle) (hgoes hgoing)
  | reading w hidle hw hsize => exact .reading w (hunhandled.trans hidle) (hkept w hw) hsize
  | ending w hdue hw hsize hdrained =>
    exact .ending w (hunhandled.trans hdue) (hkept w hw) hsize (hdrained.meet deed)
  | concluding w hidle hw hsize hdrained =>
    exact .concluding w (hunhandled.trans hidle) (hkept w hw) hsize (hdrained.meet deed)

/-- Noting anything else closes nothing. -/
theorem Sound.closed_cons (h : c.Sound) {n : Note} (hn : ∀ x, .closed x ≠ n) (x : SocketId) :
    (c.queue x).closed = true ↔ .closed x ∈ n :: c.notes := by
  rw [List.mem_cons, or_iff_right (hn x)]
  exact h.closed x

theorem Sound.send (h : c.Sound) (chunk : Stretch) (hopen : ¬(c.queue x).closed = true) :
    ((c.onQueue x fun q => { q with unread := q.unread ++ chunk }).note (.sent x chunk)).Sound := by
  have hunclosed : .closed x ∉ c.notes := fun hmem => hopen ((h.closed x).mpr hmem)
  refine ⟨h.generation, h.socket, h.ended, ?_, ?_, h.lawful.cons (.sent x chunk hunclosed)⟩
  · intro y
    show (ite _ _ _ : Source).closed = true ↔ _ ∈ _ :: c.notes
    have hnote := h.closed_cons (n := .sent x chunk) (fun _ => nofun) y
    by_cases heq : y = x
    · rw [if_pos heq]
      exact heq ▸ hnote
    · rw [if_neg heq]
      exact hnote
  · intro y
    show (Notes.sentOn y (.sent x chunk :: c.notes)).arrival =
      (c.notes.heardOn y).append (ite _ _ _ : Source).unread.arrival
    by_cases heq : y = x
    · subst heq
      rw [Notes.sentOn, if_pos rfl, if_pos rfl, Stretch.arrival_append, h.flow,
        Stretch.arrival_append, Arrival.append_assoc]
    · rw [Notes.sentOn, if_neg (Ne.symm heq), if_neg heq]
      exact h.flow y

theorem Sound.close (h : c.Sound) (x : SocketId) : (c.meet (.close x)).Sound := by
  refine ⟨h.generation, h.socket, h.ended, ?_, ?_, h.lawful.cons (.closed x)⟩
  · intro y
    show (ite _ _ _ : Source).closed = true ↔ _ ∈ _ :: c.notes
    by_cases heq : y = x
    · subst heq
      simp
    · have hne : Note.closed y ≠ .closed x := by simpa using heq
      rw [if_neg heq, List.mem_cons, or_iff_right hne]
      exact h.closed y
  · intro y
    show (c.notes.sentOn y).arrival =
      (c.notes.heardOn y).append (ite _ _ _ : Source).unread.arrival
    by_cases heq : y = x
    · rw [if_pos heq]
      exact heq ▸ h.flow y
    · rw [if_neg heq]
      exact h.flow y

theorem Sound.meet (h : c.Sound) (deed : Deed) : (c.meet deed).Sound := by
  cases deed with
  | onLink act =>
    cases act with
    | install socket =>
      exact ⟨congrArg (· + 1) h.generation, rfl, rfl, h.closed_cons fun _ => nofun, h.flow,
        h.lawful.cons (.installed socket)⟩
    | wake | cancel | resume =>
      exact ⟨h.generation, h.socket, h.ended, h.closed, h.flow, h.lawful⟩
  | send x chunk =>
    by_cases hclosed : (c.queue x).closed = true
    · rw [meet_send_of_closed chunk hclosed]
      exact h
    · rw [meet_send_of_open chunk hclosed]
      exact h.send chunk hclosed
  | close x => exact h.close x

/-! ### What the reader does -/

theorem Sound.onTurns (h : c.Sound) (x : SocketId) (turns : List Turn) :
    (c.onQueue x ({ · with turns := turns })).Sound := by
  have hsame (y : SocketId) :
      ((c.onQueue x ({ · with turns := turns })).queue y).closed = (c.queue y).closed ∧
        ((c.onQueue x ({ · with turns := turns })).queue y).unread = (c.queue y).unread := by
    rw [queue_onQueue]
    by_cases heq : y = x
    · subst heq
      rw [if_pos rfl]
      exact ⟨rfl, rfl⟩
    · rw [if_neg heq]
      exact ⟨rfl, rfl⟩
  refine ⟨h.generation, h.socket, h.ended, ?_, ?_, h.lawful⟩
  · intro y
    rw [(hsame y).1]
    exact h.closed y
  · intro y
    rw [(hsame y).2]
    exact h.flow y

theorem Sound.goOn (h : c.Sound) (size : Nat) (phase : ReadPhase) : (c.goOn size phase).Sound :=
  ⟨h.generation, h.socket, h.ended, h.closed, h.flow, h.lawful⟩

theorem Stands.goOn (h : c.Stands size phase) (size' : Nat) (phase' : ReadPhase) :
    (c.goOn size' phase').Stands size phase := by
  cases h with
  | entering hidle => exact .entering hidle
  | waiting w hidle hw hsize => exact .waiting w hidle hw hsize
  | woken hidle hgoing => exact .woken hidle hgoing
  | draining hidle hgoing => exact .draining hidle hgoing
  | reading w hidle hw hsize => exact .reading w hidle hw hsize
  | ending w hdue hw hsize hdrained =>
    exact .ending w hdue hw hsize ⟨hdrained.last, hdrained.unread, hdrained.closed⟩
  | concluding w hidle hw hsize hdrained =>
    exact .concluding w hidle hw hsize ⟨hdrained.last, hdrained.unread, hdrained.closed⟩

/-- A socket that is installed can be watched. -/
theorem Sound.watched (h : c.Sound) (hsocket : c.link.socket = some x) :
    c.notes.Watched ⟨x, c.link.generation⟩ := by
  have hcurrent : c.notes.current = some x := h.socket.symm.trans hsocket
  refine ⟨?_, ?_, ?_, ?_⟩
  · rw [h.generation]
    exact Notes.socketOf?_installs hcurrent
  · by_cases hover : c.notes.isOver = true
    · rw [Notes.current_of_isOver hover] at hcurrent
      cases hcurrent
    · simpa using hover
  · intro e he
    obtain ⟨hle, hspent⟩ := h.lawful.spent e he
    rw [h.generation]
    apply Nat.lt_of_le_of_ne hle
    intro heq
    rw [hspent heq] at hcurrent
    cases hcurrent
  · intro a g hmem
    rw [h.generation]
    exact h.lawful.data_le hmem

/-- A read returns something, but no bytes and no end. -/
theorem Sound.answer (h : c.Sound) {result : Except SessionError Received}
    (hresult : result = .ok .flushing ∨ ∃ e, result = .error e)
    (hfits : (Note.returned result).Fits c.notes) : (c.answer result).Sound := by
  have hlawful := h.lawful.cons hfits
  have hclosed := h.closed_cons (n := .returned result) fun _ => nofun
  rcases hresult with rfl | ⟨e, rfl⟩
  · exact ⟨h.generation, h.socket, h.ended, hclosed, h.flow, hlawful⟩
  · exact ⟨h.generation, h.socket, h.ended, hclosed, h.flow, hlawful⟩

/-- A read returns bytes that were first in the socket of its watch. -/
theorem Sound.answer_data (h : c.Sound) (hidle : c.notes.unhandled = none)
    (hw : c.notes.Watched w) {chunk rest : Stretch} (turns : List Turn)
    (hunread : (c.queue w.socket).unread = chunk ++ rest) :
    ((c.onQueue w.socket ({ · with unread := rest, turns := turns })).answer
      (.ok (.data chunk.arrival w.generation))).Sound := by
  have hfits : (Note.returned (.ok (.data chunk.arrival w.generation))).Fits c.notes :=
    .data _ _ w.socket hidle hw.going hw.installed hw.latest
  refine ⟨h.generation, h.socket, h.ended, ?_, ?_, h.lawful.cons hfits⟩
  · intro y
    show (ite _ _ _ : Source).closed = true ↔ _ ∈ _ :: c.notes
    have hnote := h.closed_cons
      (n := .returned (.ok (.data chunk.arrival w.generation))) (fun _ => nofun) y
    by_cases heq : y = w.socket
    · rw [if_pos heq]
      exact heq ▸ hnote
    · rw [if_neg heq]
      exact hnote
  · intro y
    show (c.notes.sentOn y).arrival = Arrival.append
      (ite (c.notes.socketOf? w.generation = some y) _ (c.notes.heardOn y))
      (ite (y = w.socket) _ (c.queue y) : Source).unread.arrival
    rw [hw.installed]
    by_cases heq : y = w.socket
    · subst heq
      rw [if_pos rfl, if_pos rfl, h.flow, hunread, Stretch.arrival_append, ← Arrival.append_assoc]
      rfl
    · have hne : ¬some w.socket = some y := fun hsome => heq (Option.some.inj hsome).symm
      rw [if_neg hne, if_neg heq]
      exact h.flow y

theorem onQueue_self {f : Source → Source} (h : f (c.queue x) = c.queue x) :
    c.onQueue x f = c := by
  have hqueue : (c.onQueue x f).queue = c.queue := by
    funext y
    rw [queue_onQueue]
    split
    · rename_i heq
      rw [heq, h]
    · rfl
  show { c with queue := (c.onQueue x f).queue } = c
  rw [hqueue]

/-- Nothing is left in the socket of a watch and nothing took its place, so the stream has ended. -/
theorem Sound.answer_endOfStream (h : c.Sound) (hidle : c.notes.unhandled = none)
    (hw : c.notes.Watched w) (hdrained : c.Drained w) (hkept : c.link.isReplaced w = false) :
    ({ c with link := { c.link with socket := none, ended := true } }.answer
      (.ok .endOfStream)).Sound := by
  have hheard : c.notes.heardOn w.socket = (c.notes.sentOn w.socket).arrival := by
    rw [h.flow, hdrained.unread]
    exact (Arrival.append_empty _).symm
  have hplace : c.notes.current = none ∨ c.notes.installs = w.generation := by
    rw [← h.socket, ← h.generation]
    cases hsocket : c.link.socket with
    | none => exact .inl rfl
    | some x => exact .inr (by simpa [Link.isReplaced, hsocket] using hkept)
  have hexhausted : c.notes.Exhausted w :=
    ⟨hw.installed, hheard, (h.closed _).mp hdrained.closed, hdrained.last, hplace, hw.fresh⟩
  exact ⟨h.generation, rfl, rfl, h.closed_cons fun _ => nofun, h.flow,
    h.lawful.cons (.endOfStream w hidle hw.going hexhausted)⟩

/-! ### A whole life -/

/-- The link and the sockets are what the notes say, and so is the read that is in progress. -/
structure Valid (c : Chronicle) : Prop where
  sound : c.Sound
  idle : c.reading = none → c.notes.unhandled = none
  stands : ∀ size phase, c.reading = some (size, phase) → c.Stands size phase

theorem Valid.goOn (h : c.Sound) (hstands : c.Stands size phase) : (c.goOn size phase).Valid := by
  refine ⟨h.goOn size phase, ?_, ?_⟩
  · intro heq
    cases heq
  · intro size' phase' heq
    cases heq
    exact hstands.goOn size phase

theorem Valid.answer {result : Except SessionError Received} (h : (c.answer result).Sound)
    (hidle : c.notes.unhandled = none) : (c.answer result).Valid := by
  refine ⟨h, fun _ => hidle, ?_⟩
  intro size phase heq
  cases heq

theorem reading_meet (deed : Deed) (c : Chronicle) : (c.meet deed).reading = c.reading := by
  cases deed with
  | onLink act => rfl
  | send x chunk =>
    by_cases hclosed : (c.queue x).closed = true
    · rw [meet_send_of_closed chunk hclosed]
    · rw [meet_send_of_open chunk hclosed]
      rfl
  | close x => rfl

theorem Valid.meet (h : c.Valid) (deed : Deed) : (c.meet deed).Valid := by
  refine ⟨h.sound.meet deed, ?_, ?_⟩
  · intro hreading
    have hidle := h.idle ((reading_meet deed c).symm.trans hreading)
    rcases notes_meet deed c with heq | ⟨n, hn, heq⟩
    · rw [heq]
      exact hidle
    · rw [heq, Notes.unhandled_foreign hn]
      exact hidle
  · intro size phase hreading
    exact (h.stands size phase ((reading_meet deed c).symm.trans hreading)).meet deed

theorem sound_stands_meetAll (h : c.Sound) (hstands : c.Stands size phase) (deeds : List Deed) :
    (c.meetAll deeds).Sound ∧ (c.meetAll deeds).Stands size phase := by
  induction deeds generalizing c with
  | nil => exact ⟨h, hstands⟩
  | cons deed rest ih => exact ih (h.meet deed) (hstands.meet deed)

/-- The handler runs in the middle of a read, which goes on. -/
theorem Valid.runHandler (h : c.Sound) (hstands : c.Stands size (.ending w)) :
    (c.runHandler.goOn size (.concluding w)).Valid := by
  have hsound : Sound { c with handler := c.handler.tail } :=
    ⟨h.generation, h.socket, h.ended, h.closed, h.flow, h.lawful⟩
  have hending : Stands { c with handler := c.handler.tail } size (.ending w) := by
    cases hstands with
    | ending _ hdue hw hsize hdrained =>
      exact .ending w hdue hw hsize ⟨hdrained.last, hdrained.unread, hdrained.closed⟩
  obtain ⟨hs, hstill⟩ := sound_stands_meetAll hsound hending (c.handler.headD [])
  unfold Chronicle.runHandler
  generalize meetAll _ _ = later at hs hstill ⊢
  cases hstill with
  | ending _ hdue hw hsize hdrained =>
    apply Valid.goOn
    · exact ⟨hs.generation, hs.socket, hs.ended, hs.closed_cons fun _ => nofun, hs.flow,
        hs.lawful.cons (.handled w hdue)⟩
    · have hlatest (a : Arrival) (g : Nat)
          (hmem : .returned (.ok (.data a g)) ∈ .handled :: later.notes) : g ≤ w.generation :=
        hw.latest a g (by simpa using hmem)
      exact .concluding w rfl ⟨hw.installed, hw.going, hw.fresh, hlatest⟩ hsize
        ⟨hdrained.last, hdrained.unread, hdrained.closed⟩

/-- A receive brought nothing. -/
theorem Valid.drained (h : c.Sound) (hidle : c.notes.unhandled = none) (hw : c.notes.Watched w)
    (hsize : 0 < size) (hunread : (c.queue w.socket).unread = [])
    (hclosed : (c.queue w.socket).closed = true) :
    ((c.note (.drained w)).goOn size (.ending w)).Valid := by
  apply Valid.goOn
  · exact ⟨h.generation, h.socket, h.ended, h.closed_cons fun _ => nofun, h.flow,
      h.lawful.cons (.drained w hidle hw.installed)⟩
  · have hlatest (a : Arrival) (g : Nat)
        (hmem : .returned (.ok (.data a g)) ∈ .drained w :: c.notes) : g ≤ w.generation :=
      hw.latest a g (by simpa using hmem)
    exact .ending w rfl ⟨hw.installed, hw.going, hw.fresh, hlatest⟩ hsize ⟨rfl, hunread, hclosed⟩

/-- Every step of a read is one of those that `Stepped` lists. -/
theorem advance_stepped (h : c.reading = some (size, phase)) (hstands : c.Stands size phase) :
    Stepped c size phase c.advance := by
  cases hstands with
  | entering => exact stepped_entering h
  | waiting => exact stepped_waiting h
  | woken => exact stepped_woken h
  | draining => exact stepped_draining h
  | reading _ _ _ hsize => exact stepped_reading h hsize
  | ending => exact stepped_ending h
  | concluding => exact stepped_concluding h

/-- Every step of a read keeps the chronicle valid. -/
theorem Valid.advance (h : c.Valid) : c.advance.Valid := by
  match hreading : c.reading with
  | none =>
    rw [advance_of_idle hreading]
    exact h
  | some (size, phase) =>
    have hs := h.sound
    have hstands := h.stands size phase hreading
    have hstepped := advance_stepped hreading hstands
    generalize c.advance = after at hstepped ⊢
    -- one case for each step, and what the read relied on when it was taken
    cases hstepped with
    | cancelled _ =>
      cases hstands with
      | entering hidle => exact .answer (hs.answer (.inl rfl) (.flushing hidle)) hidle
    | missing _ _ =>
      cases hstands with
      | entering hidle =>
        exact .answer (hs.answer (.inr ⟨_, rfl⟩) (.failed _ hidle fun _ => rfl)) hidle
    | askedNothing x hsocket hsize =>
      cases hstands with
      | entering hidle =>
        have hunread : (c.queue x).unread = [] ++ (c.queue x).unread := rfl
        have hdata := hs.answer_data hidle (hs.watched hsocket) (c.queue x).turns hunread
        rw [onQueue_self rfl] at hdata
        exact .answer hdata hidle
    | watched x hsocket hsize =>
      cases hstands with
      | entering hidle => exact .goOn hs (.waiting _ hidle (hs.watched hsocket) hsize)
    | waited w => exact h
    | signalled w =>
      cases hstands with
      | waiting _ hidle hw => exact .goOn hs (.woken hidle hw.going)
    | ready w =>
      cases hstands with
      | waiting _ hidle hw hsize => exact .goOn hs (.reading w hidle hw hsize)
    | stopped =>
      cases hstands with
      | woken hidle => exact .goOn hs (.entering hidle)
    | woken =>
      cases hstands with
      | woken hidle hgoing => exact .goOn hs (.draining hidle hgoing)
    | silenced =>
      cases hstands with
      | draining hidle =>
        have hdrain : Sound { c with link := c.link.drain } :=
          ⟨hs.generation, hs.socket, hs.ended, hs.closed, hs.flow, hs.lawful⟩
        exact .goOn hdrain (.entering hidle)
    | failed w turns e =>
      cases hstands with
      | reading _ hidle hw =>
        have hfits : (Note.returned (.error (.socket (.io e)))).Fits c.notes := by
          refine .failed _ hidle ?_
          rw [hw.going]
          exact nofun
        exact .answer ((hs.onTurns w.socket turns).answer (.inr ⟨_, rfl⟩) hfits) hidle
    | retried w turns =>
      cases hstands with
      | reading _ hidle => exact .goOn (hs.onTurns w.socket turns) (.entering hidle)
    | drained w turns hunread hclosed =>
      cases hstands with
      | reading _ hidle hw hsize =>
        apply Valid.drained (hs.onTurns w.socket turns) hidle hw hsize
        all_goals
          rw [queue_onQueue, if_pos rfl]
          assumption
    | brought w turns chunk rest hunread =>
      cases hstands with
      | reading _ hidle hw => exact .answer (hs.answer_data hidle hw turns hunread) hidle
    | handled w => exact .runHandler hs hstands
    | replaced w _ =>
      cases hstands with
      | concluding _ hidle => exact .goOn hs (.entering hidle)
    | ended w hkept =>
      cases hstands with
      | concluding _ hidle hw _ hdrained =>
        exact .answer (hs.answer_endOfStream hidle hw hdrained hkept) hidle

theorem Valid.begin (h : c.Valid) (size : Nat) : (c.begin size).Valid := by
  unfold Chronicle.begin
  match hreading : c.reading with
  | none => exact .goOn h.sound (.entering (h.idle hreading))
  | some _ => exact h

theorem Valid.move (h : c.Valid) (m : Move) : (c.move m).Valid := by
  cases m with
  | meet deed => exact h.meet deed
  | begin size => exact h.begin size
  | advance => exact h.advance

/-- Every run keeps the chronicle valid. -/
theorem Valid.run (h : c.Valid) (moves : List Move) : (c.run moves).Valid := by
  induction moves generalizing c with
  | nil => exact h
  | cons m rest ih => exact ih (h.move m)

theorem valid_start (turns : SocketId → List Turn) (handler : List (List Deed)) :
    (start turns handler).Valid := by
  have hlawful : Notes.Lawful [] := by
    intro n earlier hsuffix
    cases List.suffix_nil.mp hsuffix
  refine ⟨⟨rfl, rfl, rfl, ?_, fun x => rfl, hlawful⟩, fun _ => rfl, ?_⟩
  · intro x
    simp [start]
  · intro size phase heq
    cases heq

end Chronicle

namespace Chronicle

variable {c : Chronicle} {size : Nat} {w : Watch} {x : SocketId}

/-- An end that was not handled yet is handled by the read that saw it. -/
theorem Valid.due (h : c.Valid) (hdue : c.notes.unhandled = some w) :
    ∃ size, c.reading = some (size, .ending w) := by
  match hreading : c.reading with
  | none =>
    rw [h.idle hreading] at hdue
    cases hdue
  | some (size, phase) =>
    cases h.stands size phase hreading with
    | ending v hdue' =>
      rw [hdue'] at hdue
      cases hdue
      exact ⟨size, rfl⟩
    | entering hidle | waiting _ hidle | woken hidle | draining hidle | reading _ hidle
    | concluding _ hidle =>
      rw [hidle] at hdue
      cases hdue

/-- A read whose socket was not replaced reports the end. -/
theorem Valid.ends (h : c.Valid) (hreading : c.reading = some (size, .concluding w))
    (hkept : c.link.isReplaced w = false) :
    c.advance = { c with link := { c.link with socket := none, ended := true } }.answer
      (.ok .endOfStream) := by
  have hstepped := advance_stepped hreading (h.stands _ _ hreading)
  generalize c.advance = after at hstepped ⊢
  cases hstepped with
  | replaced _ hreplaced =>
    rw [hkept] at hreplaced
    cases hreplaced
  | ended => rfl

/-- A read whose socket was replaced goes on with the replacement. -/
theorem Valid.goesOn (h : c.Valid) (hreading : c.reading = some (size, .concluding w))
    (hreplaced : c.link.isReplaced w = true) (hresumed : c.link.cancelled = false) :
    ∃ x, c.link.socket = some x ∧
      c.advance.advance = c.goOn size (.waiting ⟨x, c.link.generation⟩) := by
  have hstands := h.stands _ _ hreading
  have hstepped := advance_stepped hreading hstands
  generalize c.advance = after at hstepped ⊢
  cases hstepped with
  | ended _ hkept =>
    rw [hkept] at hreplaced
    cases hreplaced
  | replaced =>
    have hnext : Stepped (c.goOn size .entering) size .entering (c.goOn size .entering).advance :=
      stepped_entering rfl
    generalize (c.goOn size .entering).advance = next at hnext ⊢
    cases hnext with
    | cancelled hcancelled =>
      have hboth : c.link.cancelled = true := hcancelled
      rw [hresumed] at hboth
      cases hboth
    | missing _ hsocket =>
      have hnone : c.link.socket = none := hsocket
      simp [Link.isReplaced, hnone] at hreplaced
    | askedNothing _ _ hzero =>
      cases hstands with
      | concluding _ _ _ hsize => omega
    | watched x hsocket => exact ⟨x, hsocket, rfl⟩

theorem advance_of_missing (hreading : c.reading = some (size, .entering))
    (hsocket : c.link.socket = none) : c.advance =
      c.answer (if c.link.cancelled then .ok .flushing else .error (.socket .notConnected)) := by
  have hstepped : Stepped c size .entering c.advance := stepped_entering hreading
  generalize c.advance = after at hstepped ⊢
  cases hstepped with
  | cancelled hcancelled => rw [if_pos hcancelled]
  | missing hresumed =>
    rw [hresumed]
    rfl
  | askedNothing x hsome | watched x hsome =>
    rw [hsocket] at hsome
    cases hsome

/-- After the end, a read returns at once. -/
theorem Valid.afterEnd (h : c.Valid) (hover : c.notes.isOver = true) (size : Nat) :
    (c.begin size).advance =
      c.answer (if c.link.cancelled then .ok .flushing else .error (.socket .notConnected)) := by
  have hsocket : c.link.socket = none := by
    rw [h.sound.socket]
    exact Notes.current_of_isOver hover
  have hnot (hgoing : c.notes.isOver = false) : False := by
    rw [hover] at hgoing
    cases hgoing
  unfold Chronicle.begin
  match hreading : c.reading with
  | none => exact advance_of_missing (c := c.goOn size .entering) rfl hsocket
  | some (size', phase) =>
    cases h.stands size' phase hreading with
    | entering => exact advance_of_missing hreading hsocket
    | woken _ hgoing | draining _ hgoing => exact (hnot hgoing).elim
    | waiting _ _ hw | reading _ _ hw | ending _ _ hw | concluding _ _ hw =>
      exact (hnot hw.going).elim

/-- What can be said at any time in the life of a link. -/
structure Orderly (c : Chronicle) : Prop where
  /-- The generation counts the installations. -/
  generation : c.link.generation = c.notes.installs
  /-- A link that has ended has no socket. -/
  empty : c.link.ended = true → c.link.socket = none
  /-- Each note fits those before it. -/
  lawful : c.notes.Lawful
  /-- What the peer of a socket sent was returned, in this order, or still waits in the socket. -/
  flow : ∀ x,
    (c.notes.sentOn x).arrival = (c.notes.heardOn x).append (c.queue x).unread.arrival
  /-- What was returned of a generation was sent in one piece. -/
  piece : ∀ g x, c.notes.socketOf? g = some x → ∃ before after : Arrival,
    c.notes.heardOn x = (before.append (c.notes.heardOf g)).append after
  /-- Of a socket that was installed once, only its generation was returned. -/
  whole : ∀ g x, c.notes.socketOf? g = some x →
    (∀ g', c.notes.socketOf? g' = some x → g' = g) → c.notes.heardOn x = c.notes.heardOf g
  /-- The handler ran as often as a receive brought nothing, or is about to run. -/
  handlings : c.notes.drains = c.notes.handlings + c.notes.unhandled.toList.length
  due : ∀ w, c.notes.unhandled = some w → ∃ size, c.reading = some (size, .ending w)
  /-- The end of the stream was returned at most once of each generation. -/
  once : (c.notes.ended.map (·.generation)).Nodup
  /-- The handler ran, and no socket took the place of the one that had ended. -/
  ends : ∀ size w, c.reading = some (size, .concluding w) → c.link.isReplaced w = false →
    c.advance = { c with link := { c.link with socket := none, ended := true } }.answer
      (.ok .endOfStream)
  /-- The handler ran, and the same read goes on with the socket that took the place of the one that
  had ended. -/
  goesOn : ∀ size w, c.reading = some (size, .concluding w) → c.link.isReplaced w = true →
    c.link.cancelled = false → ∃ x, c.link.socket = some x ∧
      c.advance.advance = c.goOn size (.waiting ⟨x, c.link.generation⟩)
  /-- After the end of the stream a read returns at once. -/
  afterEnd : c.notes.isOver = true → ∀ size, (c.begin size).advance =
    c.answer (if c.link.cancelled then .ok .flushing else .error (.socket .notConnected))

/-- **The life of a link.** Sockets are installed and taken away, reads are cancelled and resumed,
peers send and close, a reader reads, and the handler does any of this but read; whatever happens in
whatever order and however the receives go, the link is orderly. -/
theorem orderly_run (turns : SocketId → List Turn) (handler : List (List Deed))
    (moves : List Move) : ((start turns handler).run moves).Orderly := by
  have h := (valid_start turns handler).run moves
  generalize (start turns handler).run moves = c at h
  have hlawful := h.sound.lawful
  refine
    { generation := h.sound.generation
      empty := ?_
      lawful := hlawful
      flow := h.sound.flow
      piece := ?_
      whole := ?_
      handlings := hlawful.drains
      due := fun w => h.due
      once := hlawful.once
      ends := fun size w => h.ends
      goesOn := fun size w => h.goesOn
      afterEnd := h.afterEnd }
  · intro hended
    rw [h.sound.socket]
    apply Notes.current_of_hasEnded
    rw [← h.sound.ended]
    exact hended
  · intro g x hg
    obtain ⟨before, after, hsplit, -⟩ := hlawful.between hg
    exact ⟨before, after, hsplit⟩
  · intro g x hg hx
    refine hlawful.whole ?_ hx
    intro y hy
    rw [hg] at hy
    exact (Option.some.inj hy).symm

/-- A socket ends after one byte, and the handler puts another in its place, which has ended too. -/
example :
    let shared : List Move :=
      [.meet (.send 0 (Stretch.plain [7])), .meet (.close 0), .meet (.close 1),
        .meet (.onLink (.install (some 0)))]
    let c := (start (fun _ => []) [[.onLink (.install (some 1))]]).run
      (shared ++ .begin 8 :: List.replicate 3 .advance ++ .begin 8 :: List.replicate 10 .advance)
    c.notes.heardOf 1 = ⟨[7], []⟩ ∧ c.notes.ended = [⟨1, 2⟩] ∧ c.notes.handlings = 2 := by
  refine ⟨rfl, rfl, rfl⟩

end Chronicle

end Framecast
