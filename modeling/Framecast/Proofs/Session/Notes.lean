import Framecast.Proofs.Session.Scene

/-!
# What happened around a link

The notes of what happened around a link tell everything about it: which socket is installed, what
was sent and closed, what the reads returned of a generation or of a socket, and whether the stream
has ended. Notes are lawful when each fits those before it; what follows from that alone is here.
-/

namespace Framecast

/-- One thing after another. -/
def Arrival.append (first second : Arrival) : Arrival :=
  ⟨first.bytes ++ second.bytes, first.descriptors ++ second.descriptors⟩

@[simp] theorem Arrival.append_empty (a : Arrival) : a.append ⟨[], []⟩ = a := by
  simp [Arrival.append]

theorem Arrival.append_assoc (a b c : Arrival) :
    (a.append b).append c = a.append (b.append c) := by
  simp [Arrival.append]

theorem Stretch.arrival_append (s t : Stretch) :
    Stretch.arrival (s ++ t) = s.arrival.append t.arrival := by
  simp [Stretch.arrival, Arrival.append]

/-- What is noted of a link and its sockets. -/
inductive Note where
  /-- A socket was installed, or the socket was taken away. -/
  | installed (socket : Option SocketId)
  | sent (socket : SocketId) (chunk : Stretch)
  | closed (socket : SocketId)
  /-- A receive from the watched socket brought no bytes. -/
  | drained (watch : Watch)
  /-- The end-of-stream handler ran. -/
  | handled
  /-- A read returned. -/
  | returned (result : Except SessionError Received)

/-- What happened, last first. -/
abbrev Notes := List Note

namespace Notes

/-- How often a socket was installed or taken away. -/
def installs : Notes → Nat
  | [] => 0
  | .installed _ :: earlier => installs earlier + 1
  | _ :: earlier => installs earlier

/-- The socket that was installed as a generation. -/
def socketOf? (generation : Nat) : Notes → Option SocketId
  | [] => none
  | .installed socket :: earlier =>
    if generation = installs earlier + 1 then socket else socketOf? generation earlier
  | _ :: earlier => socketOf? generation earlier

/-- The socket that is installed. -/
def current : Notes → Option SocketId
  | [] => none
  | .installed socket :: _ => socket
  | .returned (.ok .endOfStream) :: _ => none
  | _ :: earlier => current earlier

/-- Whether the end of the stream was returned since the last installation. -/
def hasEnded : Notes → Bool
  | [] => false
  | .installed _ :: _ => false
  | .returned (.ok .endOfStream) :: _ => true
  | _ :: earlier => hasEnded earlier

/-- Whether the end of the stream was returned and no socket was installed since. -/
def isOver : Notes → Bool
  | [] => false
  | .installed (some _) :: _ => false
  | .returned (.ok .endOfStream) :: _ => true
  | _ :: earlier => isOver earlier

/-- What the peer of a socket sent. -/
def sentOn (socket : SocketId) : Notes → Stretch
  | [] => []
  | .sent other chunk :: earlier =>
    if other = socket then sentOn socket earlier ++ chunk else sentOn socket earlier
  | _ :: earlier => sentOn socket earlier

/-- What the reads returned of a generation. -/
def heardOf (generation : Nat) : Notes → Arrival
  | [] => ⟨[], []⟩
  | .returned (.ok (.data arrival g)) :: earlier =>
    if g = generation then (heardOf generation earlier).append arrival
    else heardOf generation earlier
  | _ :: earlier => heardOf generation earlier

/-- What the reads returned of all generations as which a socket was installed. -/
def heardOn (socket : SocketId) : Notes → Arrival
  | [] => ⟨[], []⟩
  | .returned (.ok (.data arrival g)) :: earlier =>
    if socketOf? g earlier = some socket then (heardOn socket earlier).append arrival
    else heardOn socket earlier
  | _ :: earlier => heardOn socket earlier

/-- The last watch of which a receive brought no bytes. -/
def lastDrained : Notes → Option Watch
  | [] => none
  | .drained w :: _ => some w
  | _ :: earlier => lastDrained earlier

/-- How many receives brought no bytes. -/
def drains : Notes → Nat
  | [] => 0
  | .drained _ :: earlier => drains earlier + 1
  | _ :: earlier => drains earlier

/-- How often the handler ran. -/
def handlings : Notes → Nat
  | [] => 0
  | .handled :: earlier => handlings earlier + 1
  | _ :: earlier => handlings earlier

/-- The watch of which a receive brought no bytes, as long as the handler has not run for it. -/
def unhandled : Notes → Option Watch
  | [] => none
  | .drained w :: _ => some w
  | .handled :: _ => none
  | _ :: earlier => unhandled earlier

/-- The watches whose end of stream was returned, last first. -/
def ended : Notes → List Watch
  | [] => []
  | .returned (.ok .endOfStream) :: earlier => (lastDrained earlier).toList ++ ended earlier
  | _ :: earlier => ended earlier

end Notes

/-! ### Reading the notes -/

namespace Notes

variable {notes : Notes} {x : SocketId} {g : Nat}

/-- Generations are counted by what was installed. -/
theorem le_installs (h : notes.socketOf? g = some x) : g ≤ notes.installs := by
  fun_induction socketOf? g notes with
  | case1 => cases h
  | case2 socket earlier hg => exact Nat.le_of_eq hg
  | case3 socket earlier hother ih => exact Nat.le_succ_of_le (ih h)
  | case4 n earlier hother ih =>
    rw [installs]
    · exact ih h
    · exact hother

theorem socketOf?_installs (h : notes.current = some x) :
    notes.socketOf? notes.installs = some x := by
  fun_induction current notes with
  | case1 => cases h
  | case2 socket earlier =>
    rw [installs, socketOf?, if_pos rfl]
    exact h
  | case3 earlier => cases h
  | case4 n earlier hinstalled hover ih =>
    rw [installs, socketOf?]
    · exact ih h
    all_goals exact hinstalled

theorem current_of_hasEnded (h : notes.hasEnded = true) : notes.current = none := by
  fun_induction hasEnded notes with
  | case1 => cases h
  | case2 socket earlier => cases h
  | case3 earlier => rfl
  | case4 n earlier hinstalled hover ih =>
    rw [current]
    · exact ih h
    · exact hinstalled
    · exact hover

theorem current_of_isOver (h : notes.isOver = true) : notes.current = none := by
  fun_induction isOver notes with
  | case1 => cases h
  | case2 x earlier => cases h
  | case3 earlier => rfl
  | case4 n earlier hinstalled hover ih =>
    by_cases hnone : n = .installed none
    · rw [hnone]
      rfl
    · rw [current]
      · exact ih h
      · intro socket hsocket
        cases socket with
        | none => exact hnone hsocket
        | some x => exact hinstalled x hsocket
      · exact hover

/-- Everything that was sent on the socket of a watch was returned, its peer has closed, and no
other socket took its place. -/
structure Exhausted (notes : Notes) (w : Watch) : Prop where
  installed : notes.socketOf? w.generation = some w.socket
  heard : notes.heardOn w.socket = (notes.sentOn w.socket).arrival
  closed : .closed w.socket ∈ notes
  drained : notes.lastDrained = some w
  kept : notes.current = none ∨ notes.installs = w.generation
  first : ∀ e ∈ notes.ended, e.generation < w.generation

end Notes

/-- What is so when something is noted. -/
inductive Note.Fits (earlier : Notes) : Note → Prop
  | installed (socket : Option SocketId) : Fits earlier (.installed socket)
  | sent (x : SocketId) (chunk : Stretch) (hopen : .closed x ∉ earlier) :
      Fits earlier (.sent x chunk)
  | closed (x : SocketId) : Fits earlier (.closed x)
  | drained (w : Watch) (hidle : earlier.unhandled = none)
      (hinstalled : earlier.socketOf? w.generation = some w.socket) : Fits earlier (.drained w)
  | handled (w : Watch) (hdue : earlier.unhandled = some w) : Fits earlier .handled
  | data (arrival : Arrival) (g : Nat) (x : SocketId) (hidle : earlier.unhandled = none)
      (hgoing : earlier.isOver = false) (hinstalled : earlier.socketOf? g = some x)
      (hlatest : ∀ a g', .returned (.ok (.data a g')) ∈ earlier → g' ≤ g) :
      Fits earlier (.returned (.ok (.data arrival g)))
  | flushing (hidle : earlier.unhandled = none) : Fits earlier (.returned (.ok .flushing))
  | endOfStream (w : Watch) (hidle : earlier.unhandled = none) (hgoing : earlier.isOver = false)
      (hexhausted : earlier.Exhausted w) : Fits earlier (.returned (.ok .endOfStream))
  | failed (e : SessionError) (hidle : earlier.unhandled = none)
      (hover : earlier.isOver = true → e = .socket .notConnected) :
      Fits earlier (.returned (.error e))

namespace Notes

variable {notes : Notes} {n : Note} {w : Watch} {x : SocketId} {g : Nat}

/-- Each note fits those before it. -/
def Lawful (notes : Notes) : Prop :=
  ∀ n earlier, n :: earlier <:+ notes → n.Fits earlier

/-- One more fitting note keeps the notes lawful. -/
theorem Lawful.cons (h : notes.Lawful) (hn : n.Fits notes) : Lawful (n :: notes) := by
  intro m earlier hsuffix
  rcases List.suffix_cons_iff.mp hsuffix with heq | hlater
  · cases heq
    exact hn
  · exact h m earlier hlater

theorem Lawful.tail (h : Lawful (n :: notes)) : notes.Lawful :=
  fun m earlier hsuffix => h m earlier (hsuffix.trans (List.suffix_cons n notes))

theorem Lawful.head (h : Lawful (n :: notes)) : n.Fits notes :=
  h n notes (List.suffix_refl _)

/-- A generation whose end was returned is over: no socket is installed, or a later one is. -/
theorem Lawful.spent (h : notes.Lawful) : ∀ e ∈ notes.ended,
    e.generation ≤ notes.installs ∧ (e.generation = notes.installs → notes.current = none) := by
  induction notes with
  | nil => exact nofun
  | cons n earlier ih =>
    have hold := ih h.tail
    cases h.head with
    | installed socket =>
      intro e he
      have hle : e.generation ≤ installs earlier := (hold e he).1
      refine ⟨Nat.le_succ_of_le hle, ?_⟩
      intro heq
      have hnext : e.generation = installs earlier + 1 := heq
      omega
    | endOfStream w hidle hgoing hexhausted =>
      have hended : ended (.returned (.ok .endOfStream) :: earlier) = w :: ended earlier := by
        rw [ended, hexhausted.drained]
        rfl
      rw [hended]
      intro e he
      refine ⟨?_, fun _ => rfl⟩
      rcases List.mem_cons.mp he with rfl | he
      · exact le_installs hexhausted.installed
      · exact (hold e he).1
    | sent | closed | drained | handled | data | flushing | failed => exact hold

/-- Data come of generations that were installed. -/
theorem Lawful.data_le {a : Arrival} (h : notes.Lawful)
    (hmem : .returned (.ok (.data a g)) ∈ notes) : g ≤ notes.installs := by
  induction notes with
  | nil => cases hmem
  | cons n earlier ih =>
    have hmono : installs earlier ≤ installs (n :: earlier) := by
      cases n with
      | installed => exact Nat.le_succ _
      | _ => exact Nat.le_refl _
    rcases List.mem_cons.mp hmem with rfl | hmem
    · cases h.head with
      | data _ _ x hidle hgoing hinstalled => exact Nat.le_trans (le_installs hinstalled) hmono
    · exact Nat.le_trans (ih h.tail hmem) hmono

/-- What the reader says about a watch as long as its read goes on. -/
structure Watched (notes : Notes) (w : Watch) : Prop where
  installed : notes.socketOf? w.generation = some w.socket
  going : notes.isOver = false
  fresh : ∀ e ∈ notes.ended, e.generation < w.generation
  latest : ∀ a g, .returned (.ok (.data a g)) ∈ notes → g ≤ w.generation

end Notes

/-- A note of what somebody else than the reader did. -/
inductive Note.IsForeign : Note → Prop
  | installed (socket : Option SocketId) : IsForeign (.installed socket)
  | sent (x : SocketId) (chunk : Stretch) : IsForeign (.sent x chunk)
  | closed (x : SocketId) : IsForeign (.closed x)

namespace Notes

variable {notes : Notes} {n : Note} {w : Watch} {x : SocketId} {g : Nat}

theorem socketOf?_cons (hg : g ≤ notes.installs) (n : Note) :
    socketOf? g (n :: notes) = notes.socketOf? g := by
  by_cases hn : ∃ socket, n = .installed socket
  · obtain ⟨socket, rfl⟩ := hn
    rw [socketOf?, if_neg (by omega)]
  · rw [socketOf?]
    intro socket hsocket
    exact hn ⟨socket, hsocket⟩

/-- What others do leaves open what was to be handled. -/
theorem unhandled_foreign (hn : n.IsForeign) : unhandled (n :: notes) = notes.unhandled := by
  cases hn <;> rfl

theorem lastDrained_foreign (hn : n.IsForeign) : lastDrained (n :: notes) = notes.lastDrained := by
  cases hn <;> rfl

theorem ended_foreign (hn : n.IsForeign) : ended (n :: notes) = notes.ended := by
  cases hn <;> rfl

theorem isOver_foreign (hn : n.IsForeign) (h : notes.isOver = false) :
    isOver (n :: notes) = false := by
  cases hn with
  | installed socket =>
    cases socket with
    | none => exact h
    | some x => rfl
  | sent | closed => exact h

theorem Watched.foreign (h : notes.Watched w) (hn : n.IsForeign) : Watched (n :: notes) w := by
  refine ⟨?_, isOver_foreign hn h.going, ?_, ?_⟩
  · rw [socketOf?_cons (le_installs h.installed)]
    exact h.installed
  · rw [ended_foreign hn]
    exact h.fresh
  · intro a g hmem
    rcases List.mem_cons.mp hmem with rfl | hmem
    · cases hn
    · exact h.latest a g hmem

/-! ### What lawful notes say -/

/-- Every end was handled, but for one that still is to be. -/
theorem Lawful.drains (h : notes.Lawful) :
    notes.drains = notes.handlings + notes.unhandled.toList.length := by
  induction notes with
  | nil => rfl
  | cons n earlier ih =>
    have hold := ih h.tail
    cases h.head with
    | drained w hidle =>
      rw [hidle] at hold
      exact congrArg (· + 1) hold
    | handled w hdue =>
      rw [hdue] at hold
      exact hold
    | installed | sent | closed | data | flushing | endOfStream | failed => exact hold

/-- No generation ends twice. -/
theorem Lawful.once (h : notes.Lawful) : (notes.ended.map (·.generation)).Nodup := by
  induction notes with
  | nil => exact List.nodup_nil
  | cons n earlier ih =>
    have hold := ih h.tail
    cases h.head with
    | endOfStream w hidle hgoing hexhausted =>
      have hended : ended (.returned (.ok .endOfStream) :: earlier) = w :: ended earlier := by
        rw [ended, hexhausted.drained]
        rfl
      rw [hended, List.map_cons, List.nodup_cons]
      refine ⟨?_, hold⟩
      intro hmem
      obtain ⟨e, he, heq⟩ := List.mem_map.mp hmem
      have hlt := hexhausted.first e he
      omega
    | installed | sent | closed | drained | handled | data | flushing | failed => exact hold

theorem heardOf_eq_empty (h : ∀ a, .returned (.ok (.data a g)) ∉ notes) :
    notes.heardOf g = ⟨[], []⟩ := by
  fun_induction heardOf g notes with
  | case1 => rfl
  | case2 arrival earlier ih => exact absurd (List.mem_cons_self ..) (h arrival)
  | case3 arrival other earlier hother ih =>
    exact ih fun a hmem => h a (List.mem_cons_of_mem _ hmem)
  | case4 n earlier hdata ih => exact ih fun a hmem => h a (List.mem_cons_of_mem _ hmem)

/-- What was returned of a generation was returned of its socket between other things. If something
came after it, that was of a later generation. -/
def Between (notes : Notes) (g : Nat) (x : SocketId) : Prop :=
  ∃ before after : Arrival, notes.heardOn x = (before.append (notes.heardOf g)).append after ∧
    (after ≠ ⟨[], []⟩ → ∃ a g', .returned (.ok (.data a g')) ∈ notes ∧ g < g')

theorem Between.of_empty (h : notes.heardOf g = ⟨[], []⟩) : notes.Between g x := by
  refine ⟨notes.heardOn x, ⟨[], []⟩, ?_, fun hne => absurd rfl hne⟩
  rw [h, Arrival.append_empty, Arrival.append_empty]

theorem Between.cons (h : notes.Between g x)
    (hon : heardOn x (n :: notes) = notes.heardOn x)
    (hof : heardOf g (n :: notes) = notes.heardOf g) : Between (n :: notes) g x := by
  obtain ⟨before, after, hsplit, hlater⟩ := h
  refine ⟨before, after, ?_, ?_⟩
  · rw [hon, hof]
    exact hsplit
  · intro hne
    obtain ⟨a, g', hmem, hlt⟩ := hlater hne
    exact ⟨a, g', List.mem_cons_of_mem _ hmem, hlt⟩

/-- Data of a later generation keep what lies between. -/
theorem Between.data (h : notes.Between g x) {arrival : Arrival} {g' : Nat} {y : SocketId}
    (hg : notes.socketOf? g = some x) (hg' : notes.socketOf? g' = some y)
    (hlatest : ∀ a g'', .returned (.ok (.data a g'')) ∈ notes → g'' ≤ g') :
    Between (.returned (.ok (.data arrival g')) :: notes) g x := by
  by_cases hsame : g' = g
  · subst hsame
    obtain ⟨before, after, hsplit, hlater⟩ := h
    have hafter : after = ⟨[], []⟩ := by
      apply Classical.byContradiction
      intro hne
      obtain ⟨a, g'', hmem, hlt⟩ := hlater hne
      exact absurd (hlatest a g'' hmem) (Nat.not_le_of_lt hlt)
    refine ⟨before, ⟨[], []⟩, ?_, fun hne => absurd rfl hne⟩
    rw [heardOn, if_pos hg, heardOf, if_pos rfl, hsplit, hafter, Arrival.append_empty,
      Arrival.append_empty, Arrival.append_assoc]
  · have hof : heardOf g (.returned (.ok (.data arrival g')) :: notes) = notes.heardOf g := by
      rw [heardOf, if_neg hsame]
    by_cases hsocket : y = x
    · subst hsocket
      by_cases hlt : g < g'
      · obtain ⟨before, after, hsplit, -⟩ := h
        refine ⟨before, after.append arrival, ?_, fun _ =>
          ⟨arrival, g', List.mem_cons_self .., hlt⟩⟩
        rw [heardOn, if_pos hg', hof, hsplit, Arrival.append_assoc]
      · apply Between.of_empty
        rw [hof]
        apply heardOf_eq_empty
        intro a hmem
        have hle := hlatest a g hmem
        omega
    · apply h.cons _ hof
      have hne : ¬notes.socketOf? g' = some x := by
        rw [hg']
        exact fun heq => hsocket (Option.some.inj heq)
      rw [heardOn, if_neg hne]

/-- What was heard of a socket in one generation lies together. -/
theorem Lawful.between (h : notes.Lawful) (hg : notes.socketOf? g = some x) :
    notes.Between g x := by
  induction notes with
  | nil => cases hg
  | cons n earlier ih =>
    have hlater := ih h.tail
    cases h.head with
    | installed socket =>
      by_cases hnew : g = installs earlier + 1
      · apply Between.of_empty
        apply heardOf_eq_empty
        intro a hmem
        have hle : g ≤ installs earlier := h.tail.data_le (by simpa using hmem)
        omega
      · rw [socketOf?, if_neg hnew] at hg
        exact (hlater hg).cons rfl rfl
    | data arrival g' y hidle hgoing hinstalled hlatest =>
      exact (hlater hg).data hg hinstalled hlatest
    | sent | closed | drained | handled | flushing | endOfStream | failed =>
      exact (hlater hg).cons rfl rfl

/-- Of a socket that was installed once, all was heard in one generation. -/
theorem Lawful.whole (h : notes.Lawful) (hg : ∀ y, notes.socketOf? g = some y → y = x)
    (hx : ∀ g', notes.socketOf? g' = some x → g' = g) : notes.heardOn x = notes.heardOf g := by
  induction notes with
  | nil => rfl
  | cons n earlier ih =>
    have hmono (g' : Nat) (y : SocketId) (hy : socketOf? g' earlier = some y) :
        socketOf? g' (n :: earlier) = some y := by
      rw [socketOf?_cons (le_installs hy)]
      exact hy
    have hold := ih h.tail (fun y hy => hg y (hmono g y hy)) (fun g' hg' => hx g' (hmono g' x hg'))
    cases h.head with
    | data arrival g' y hidle hgoing hinstalled hlatest =>
      rw [heardOn, heardOf]
      by_cases hsame : g' = g
      · have hy : y = x := hg y (hmono g y (hsame ▸ hinstalled))
        rw [if_pos (hy ▸ hinstalled), if_pos hsame, hold]
      · have hne : ¬socketOf? g' earlier = some x := fun heq => hsame (hx g' (hmono g' x heq))
        rw [if_neg hne, if_neg hsame, hold]
    | installed | sent | closed | drained | handled | flushing | endOfStream | failed => exact hold

end Notes

end Framecast
