import Framecast.Proofs.Session.WholeFrames

/-!
# Renderings that overlap

A rendering lists the clients, then writes its packet while it has the framer for itself, and then
removes the clients whose write failed, one after the other. Other renderings may come between, and
so may calls that add or remove clients: whoever listed the clients before the last removal still
writes to all that it listed.

So a frame that broke off in the middle can have another one behind it. `broken_run` says when: the
socket of a client that failed is given something only by a rendering that had listed it, and as
long as nobody has listed it or can do so, it is given nothing.
-/

namespace Framecast

namespace Hall

variable {h h' : Hall} {buffer : Buffer} {targets : List FanoutClient}

/-- A broadcast concerns the sockets it is for, and no other. -/
theorem broadcast_outlet (packet : Packet) (targets : List FanoutClient) (h : Hall) :
    ∃ outlet, (Fanout.broadcast host.send packet targets h).2 = { h with outlet := outlet } ∧
      ∀ x, (∀ c ∈ targets, c.socket ≠ x) → outlet x = h.outlet x := by
  induction targets generalizing h with
  | nil => exact ⟨h.outlet, rfl, fun _ _ => rfl⟩
  | cons c rest ih =>
    obtain ⟨outlet, hrest, hsame⟩ :=
      ih (h.setScript c.socket (wrote packet (h.outlet c.socket).script).2)
    refine ⟨outlet, ?_, ?_⟩
    · rw [Fanout.broadcast, bind_apply, write_host]
      exact hrest
    · intro x hx
      rw [hsame x fun d hd => hx d (List.mem_cons_of_mem _ hd),
        outlet_setScript_ne (hx c (List.mem_cons_self ..)).symm]

/-- Writing out a buffer changes the sockets of its targets, and no client. -/
structure OnlyWrote (targets : List FanoutClient) (h h' : Hall) : Prop where
  clients : h'.fanout.clients = h.fanout.clients
  nextId : h'.fanout.nextId = h.fanout.nextId
  used : h'.used = h.used
  outlet : ∀ x, (∀ c ∈ targets, c.socket ≠ x) → h'.outlet x = h.outlet x

theorem WroteOut.only {result : Except SessionError (Packet × List Delivery)}
    (wroteOut : WroteOut buffer targets h result h') : OnlyWrote targets h h' := by
  cases wroteOut with
  | refused e framer names => exact ⟨rfl, rfl, rfl, fun _ _ => rfl⟩
  | sent packet framer names deliveries h₁ _ _ hwrote =>
    obtain ⟨outlet, hbroadcast, hsame⟩ :=
      broadcast_outlet packet targets (h.prepared framer names)
    rw [hwrote] at hbroadcast
    cases hbroadcast
    exact ⟨clients_record _ _, nextId_record _ _, rfl, hsame⟩

/-- A socket that is willing gets the whole packet, whatever it took before. -/
theorem WroteOut.taken {packet : Packet} {deliveries : List Delivery} {c : FanoutClient}
    (wroteOut : WroteOut buffer targets h (.ok (packet, deliveries)) h')
    (hsockets : (targets.map (·.socket)).Nodup) (hc : c ∈ targets)
    (hwilling : (h.outlet c.socket).script.Willing) :
    h'.taken c.socket = h.taken c.socket ++ packet.stretch := by
  cases wroteOut with
  | sent _ framer names _ h₁ _ _ hwrote =>
    have hmem : c.socket ∈ targets.map (·.socket) := List.mem_map.mpr ⟨c, hc, rfl⟩
    rw [broadcast_eq packet hsockets] at hwrote
    cases hwrote
    show (ite _ _ _ : Outlet).script.accepted = _
    rw [if_pos hmem]
    have hwritten := (packet.write_of_willing false hwilling).1
    exact (packet.write_accepted false (h.outlet c.socket).script).1 hwritten

end Hall

/-- How far a rendering has come. -/
inductive RenderPhase where
  /-- It has listed the clients that it will write to. -/
  | listed (buffer : Buffer) (clients : List FanoutClient)
  /-- It has written, and these are to be removed, because their write failed. -/
  | dropping (clients : List Nat)

/-- A hall in which renderings overlap. -/
structure Rush where
  hall : Hall
  /-- The rendering that each thread is at. -/
  phase : Nat → Option RenderPhase := fun _ => none
  /-- The clients whose write failed when their socket had taken something of the packet. -/
  broken : List FanoutClient := []

namespace Rush

/-- Set where a thread stands in its rendering. -/
def setPhase (thread : Nat) (phase : Option RenderPhase) (s : Rush) : Rush :=
  { s with phase := fun t => if t = thread then phase else s.phase t }

/-- A rendering begins, unless there is nobody to render to. -/
def list (thread : Nat) (buffer : Buffer) (s : Rush) : Rush :=
  match s.phase thread with
  | some _ => s
  | none =>
    if s.hall.fanout.clients.isEmpty then s
    else s.setPhase thread (some (.listed buffer s.hall.fanout.clients))

/-- Those of the targets that failed, and whose socket took something. -/
def brokenBy (h h' : Hall) (targets : List FanoutClient) (deliveries : List Delivery) :
    List FanoutClient :=
  targets.filter fun c =>
    decide (c.id ∈ Delivery.failed deliveries) && decide (h'.taken c.socket ≠ h.taken c.socket)

/-- A thread writes its buffer to all that it has listed. -/
def write (thread : Nat) (now : Readings) (s : Rush) : Rush :=
  match s.phase thread with
  | some (.listed buffer targets) =>
    match Fanout.writeOut Hall.host buffer targets { s.hall with clocks := now } with
    | (.error _, h) => { s with hall := h }.setPhase thread none
    | (.ok (_, deliveries), h) =>
      { s with hall := h, broken := brokenBy s.hall h targets deliveries ++ s.broken }.setPhase
        thread (some (.dropping (Delivery.failed deliveries)))
  | _ => s

/-- A rendering removes the next client, or ends. -/
def drop (thread : Nat) (s : Rush) : Rush :=
  match s.phase thread with
  | some (.dropping []) => s.setPhase thread none
  | some (.dropping (client :: rest)) =>
    { s with hall := (Fanout.unregister Hall.host client s.hall).2 }.setPhase thread
      (some (.dropping rest))
  | _ => s

/-- One step of a rush. -/
inductive Move where
  /-- A client is added on a socket of its own. -/
  | add (outlet : Outlet)
  /-- A client is added on a socket that was added before. -/
  | share (socket : SocketId)
  | remove (client : Nat)
  | list (thread : Nat) (buffer : Buffer)
  | write (thread : Nat) (now : Readings)
  | drop (thread : Nat)

/-- Make a move. -/
def move (m : Move) (s : Rush) : Rush :=
  match m with
  | .add outlet => { s with hall := (s.hall.add outlet).2 }
  | .share socket =>
    if socket < s.hall.used then
      { s with hall := (Fanout.register Hall.host socket s.hall).2 }
    else s
  | .remove client => { s with hall := (s.hall.remove client).2 }
  | .list thread buffer => s.list thread buffer
  | .write thread now => s.write thread now
  | .drop thread => s.drop thread

/-- Make several moves, one after the other. -/
def run (moves : List Move) (s : Rush) : Rush :=
  moves.foldl (fun s m => s.move m) s

/-- A rush in which nothing was done yet. -/
def start (framer : Framer) (writeTimeout : Option Duration) (producer : Producer)
    (names : Arena.NameSpace) : Rush where
  hall := .start framer writeTimeout producer names

variable {s s' : Rush} {m : Move} {c : FanoutClient} {thread : Nat}

/-! ### A rendering that nothing comes between -/

theorem setPhase_self (phase : Option RenderPhase) (s : Rush) :
    (s.setPhase thread phase).phase thread = phase :=
  if_pos rfl

section Steps

variable {buffer : Buffer} {targets : List FanoutClient} {now : Readings} {h : Hall}

/-- A thread lists the clients that are there. -/
theorem list_of_idle (hidle : s.phase thread = none)
    (hsome : s.hall.fanout.clients.isEmpty = false) (buffer : Buffer) :
    s.list thread buffer = s.setPhase thread (some (.listed buffer s.hall.fanout.clients)) := by
  unfold list
  rw [hidle, hsome]
  rfl

theorem write_of_error {e : SessionError} (hphase : s.phase thread = some (.listed buffer targets))
    (hwrote : Fanout.writeOut Hall.host buffer targets { s.hall with clocks := now } =
      (.error e, h)) :
    s.write thread now = { s with hall := h }.setPhase thread none := by
  unfold write
  rw [hphase]
  dsimp only
  rw [hwrote]

/-- A thread that has written goes on to drop the clients that failed. -/
theorem write_of_ok {packet : Packet} {deliveries : List Delivery}
    (hphase : s.phase thread = some (.listed buffer targets))
    (hwrote : Fanout.writeOut Hall.host buffer targets { s.hall with clocks := now } =
      (.ok (packet, deliveries), h)) :
    s.write thread now =
      { s with hall := h, broken := brokenBy s.hall h targets deliveries ++ s.broken }.setPhase
        thread (some (.dropping (Delivery.failed deliveries))) := by
  unfold write
  rw [hphase]
  dsimp only
  rw [hwrote]

theorem drop_of_nil (hphase : s.phase thread = some (.dropping [])) :
    s.drop thread = s.setPhase thread none := by
  unfold drop
  rw [hphase]

theorem drop_of_cons {client : Nat} {rest : List Nat}
    (hphase : s.phase thread = some (.dropping (client :: rest))) :
    s.drop thread =
      { s with hall := (Fanout.unregister Hall.host client s.hall).2 }.setPhase thread
        (some (.dropping rest)) := by
  unfold drop
  rw [hphase]

end Steps

/-- A thread drops its clients one by one, and then is done. -/
theorem run_drop {clients : List Nat} (hphase : s.phase thread = some (.dropping clients)) :
    (s.run (List.replicate (clients.length + 1) (.drop thread))).hall =
        (Fanout.unregisterAll Hall.host clients s.hall).2 ∧
      (s.run (List.replicate (clients.length + 1) (.drop thread))).phase thread = none := by
  induction clients generalizing s with
  | nil =>
    show (s.drop thread).hall = s.hall ∧ (s.drop thread).phase thread = none
    rw [drop_of_nil hphase]
    exact ⟨rfl, setPhase_self none s⟩
  | cons client rest ih =>
    have hrun : s.run (List.replicate ((client :: rest).length + 1) (.drop thread)) =
      (s.drop thread).run (List.replicate (rest.length + 1) (.drop thread)) := rfl
    rw [hrun, drop_of_cons hphase]
    exact ih (setPhase_self (some (.dropping rest)) _)

/-- The phases of a rendering, one right after the other, come to `Fanout.render`. -/
theorem run_alone (hidle : s.phase thread = none)
    (hsome : s.hall.fanout.clients.isEmpty = false) (buffer : Buffer) (now : Readings) :
    ∃ drops, (s.run (.list thread buffer :: .write thread now ::
          List.replicate drops (.drop thread))).hall =
        (Fanout.render Hall.host buffer { s.hall with clocks := now }).2 ∧
      (s.run (.list thread buffer :: .write thread now ::
          List.replicate drops (.drop thread))).phase thread = none := by
  let listed := s.setPhase thread (some (.listed buffer s.hall.fanout.clients))
  have hlisted : listed.phase thread = some (.listed buffer s.hall.fanout.clients) :=
    setPhase_self _ s
  have hrun (drops : List Move) : s.run (.list thread buffer :: .write thread now :: drops) =
      (listed.write thread now).run drops := by
    show ((s.list thread buffer).write thread now).run drops = _
    rw [list_of_idle hidle hsome]
  have hrender : Fanout.render Hall.host buffer { s.hall with clocks := now } =
    Fanout.renderTo Hall.host buffer s.hall.fanout.clients { s.hall with clocks := now } := rfl
  rw [hrender, Hall.renderTo_eq hsome]
  cases hwrote : Fanout.writeOut Hall.host buffer s.hall.fanout.clients
      { s.hall with clocks := now } with
  | mk result h =>
    cases result with
    | error e =>
      refine ⟨0, ?_⟩
      rw [hrun, write_of_error hlisted hwrote]
      exact ⟨rfl, setPhase_self none _⟩
    | ok sent =>
      refine ⟨(Delivery.failed sent.2).length + 1, ?_⟩
      rw [hrun, write_of_ok hlisted hwrote]
      exact run_drop (setPhase_self _ _)

/-! ### What a move can do -/

/-- The client has its number and its socket from this hall. -/
def Known (h : Hall) (c : FanoutClient) : Prop :=
  c.id < h.fanout.nextId ∧ c.socket < h.used

/-- All that a move can do. -/
structure Moved (m : Move) (s s' : Rush) : Prop where
  nextId : s.hall.fanout.nextId ≤ s'.hall.fanout.nextId
  used : s.hall.used ≤ s'.hall.used
  newcomers : ∀ c ∈ s'.hall.fanout.clients, c ∈ s.hall.fanout.clients ∨
    s.hall.fanout.nextId ≤ c.id ∧ Known s'.hall c ∧
      (s.hall.used ≤ c.socket ∨ m = .share c.socket)
  outlet : ∀ x < s.hall.used, s'.hall.outlet x = s.hall.outlet x ∨
    ∃ thread now buffer targets, m = .write thread now ∧
      s.phase thread = some (.listed buffer targets) ∧ ∃ c ∈ targets, c.socket = x
  listed : ∀ thread buffer targets, s'.phase thread = some (.listed buffer targets) →
    s.phase thread = some (.listed buffer targets) ∨ targets = s.hall.fanout.clients
  /-- Who is to be removed is so until it was removed. -/
  dropping : ∀ thread clients, s.phase thread = some (.dropping clients) →
    ∀ c ∈ s'.hall.fanout.clients, c.id ∈ clients →
      ∃ rest, s'.phase thread = some (.dropping rest) ∧ c.id ∈ rest
  broken : ∀ c ∈ s'.broken, c ∈ s.broken ∨
    ∃ thread buffer targets clients, s.phase thread = some (.listed buffer targets) ∧ c ∈ targets ∧
      s'.phase thread = some (.dropping clients) ∧ c.id ∈ clients

/-- Something happened to the hall, and to no rendering. -/
theorem moved_of_hall {h : Hall} (hnextId : s.hall.fanout.nextId ≤ h.fanout.nextId)
    (hused : s.hall.used ≤ h.used)
    (hnew : ∀ c ∈ h.fanout.clients, c ∈ s.hall.fanout.clients ∨
      s.hall.fanout.nextId ≤ c.id ∧ Known h c ∧ (s.hall.used ≤ c.socket ∨ m = .share c.socket))
    (houtlet : ∀ x < s.hall.used, h.outlet x = s.hall.outlet x) :
    Moved m s { s with hall := h } where
  nextId := hnextId
  used := hused
  newcomers := hnew
  outlet x hx := .inl (houtlet x hx)
  listed _ _ _ hphase := .inl hphase
  dropping _ clients hphase _ _ hid := ⟨clients, hphase, hid⟩
  broken _ hc := .inl hc

theorem Moved.refl (m : Move) (s : Rush) : Moved m s s :=
  moved_of_hall (Nat.le_refl _) (Nat.le_refl _) (fun _ hc => .inl hc) fun _ _ => rfl

/-- Besides, the rendering of one thread has got further. -/
theorem Moved.setPhase {h : Hall} {phase : Option RenderPhase} {broken : List FanoutClient}
    (moved : Moved m s { s with hall := h })
    (hlisted : ∀ buffer targets, phase = some (.listed buffer targets) →
      targets = s.hall.fanout.clients)
    (hdropping : ∀ clients, s.phase thread = some (.dropping clients) →
      ∀ c ∈ h.fanout.clients, c.id ∈ clients →
        ∃ rest, phase = some (.dropping rest) ∧ c.id ∈ rest)
    (hbroken : ∀ c ∈ broken, c ∈ s.broken ∨ ∃ buffer targets clients,
      s.phase thread = some (.listed buffer targets) ∧ c ∈ targets ∧
        phase = some (.dropping clients) ∧ c.id ∈ clients) :
    Moved m s ({ s with hall := h, broken := broken }.setPhase thread phase) := by
  refine ⟨moved.nextId, moved.used, moved.newcomers, moved.outlet, ?_, ?_, ?_⟩
  · intro t buffer targets ht
    by_cases heq : t = thread
    · rw [heq, setPhase_self] at ht
      exact .inr (hlisted buffer targets ht)
    · exact .inl ((if_neg heq).symm.trans ht)
  · intro t clients ht c hc hid
    by_cases heq : t = thread
    · rw [heq] at ht ⊢
      rw [setPhase_self]
      exact hdropping clients ht c hc hid
    · exact ⟨clients, (if_neg heq).trans ht, hid⟩
  · intro c hc
    rcases hbroken c hc with hold | ⟨buffer, targets, clients, hphase, htarget, hnext, hid⟩
    · exact .inl hold
    · exact .inr ⟨thread, buffer, targets, clients, hphase, htarget,
        (setPhase_self phase _).trans hnext, hid⟩

theorem moved_of_quiet {h : Hall} (hquiet : Hall.Quiet s.hall h) : Moved m s { s with hall := h } :=
  moved_of_hall hquiet.nextId hquiet.used (fun _ hc => .inl (hquiet.clients ▸ hc)) hquiet.outlet

theorem moved_of_joined {h : Hall} (hjoined : Hall.Joined s.hall h c) :
    Moved m s { s with hall := h } := by
  refine moved_of_hall hjoined.nextId hjoined.used ?_ hjoined.outlet
  intro d hd
  rw [hjoined.clients] at hd
  rcases List.mem_append.mp hd with hd | hd
  · exact .inl hd
  · rw [List.mem_singleton.mp hd]
    exact .inr ⟨hjoined.id_ge, ⟨hjoined.id_lt, hjoined.socket_lt⟩, .inl hjoined.socket_ge⟩

theorem moved_of_left {h : Hall} {client : Nat} (hleft : Hall.Left s.hall h client) :
    Moved m s { s with hall := h } := by
  refine moved_of_hall hleft.nextId hleft.used ?_ hleft.outlet
  intro d hd
  rw [hleft.clients] at hd
  exact .inl (List.mem_filter.mp hd).1

theorem moved_add (outlet : Outlet) (s : Rush) :
    Moved (.add outlet) s { s with hall := (s.hall.add outlet).2 } := by
  have hregistered := Hall.registered_opened (Hall.beside_opened outlet s.hall) rfl (Nat.le_refl _)
    (Nat.lt_succ_self _)
  unfold Hall.add
  generalize Fanout.register Hall.host s.hall.used (s.hall.opened outlet) = registered
    at hregistered ⊢
  obtain ⟨result, h⟩ := registered
  cases hregistered with
  | failed e _ hquiet => exact moved_of_quiet hquiet
  | joined c _ hjoined =>
    have hmoved := moved_of_joined (m := .add outlet) hjoined
    exact moved_of_hall hmoved.nextId hmoved.used hmoved.newcomers hjoined.outlet

theorem moved_share {socket : SocketId} (hsocket : socket < s.hall.used) :
    Moved (.share socket) s
      { s with hall := (Fanout.register Hall.host socket s.hall).2 } := by
  rw [Hall.register_eq]
  cases (s.hall.outlet socket).bounded with
  | error e => exact .refl _ s
  | ok u =>
    refine moved_of_hall (Nat.le_succ _) (Nat.le_refl _) ?_ fun _ _ => rfl
    intro d hd
    rcases List.mem_append.mp hd with hd | hd
    · exact .inl hd
    · rw [List.mem_singleton.mp hd]
      exact .inr ⟨Nat.le_refl _, ⟨Nat.lt_succ_self _, hsocket⟩, .inr rfl⟩

theorem moved_remove (client : Nat) (s : Rush) :
    Moved (.remove client) s { s with hall := (s.hall.remove client).2 } := by
  have hleft := Hall.left_unregister client s.hall
  unfold Hall.remove
  generalize Fanout.unregister Hall.host client s.hall = unregistered at hleft ⊢
  obtain ⟨found, h⟩ := unregistered
  have hmoved := moved_of_left (m := .remove client) hleft
  cases found with
  | false => exact hmoved
  | true => exact moved_of_hall hmoved.nextId hmoved.used hmoved.newcomers hleft.outlet

theorem moved_list (buffer : Buffer) (s : Rush) :
    Moved (.list thread buffer) s (s.list thread buffer) := by
  unfold list
  split
  · exact .refl _ s
  · rename_i hidle
    split
    · exact .refl _ s
    · refine Moved.setPhase (.refl _ s) ?_ ?_ fun _ hc => .inl hc
      · intro _ targets hphase
        cases hphase
        rfl
      · intro clients hphase
        rw [hidle] at hphase
        cases hphase

theorem moved_write (now : Readings) (s : Rush) :
    Moved (.write thread now) s (s.write thread now) := by
  unfold write
  split
  case h_2 => exact .refl _ s
  rename_i buffer targets hlisted
  have honly := (Hall.wroteOut_writeOut buffer targets { s.hall with clocks := now }).only
  generalize Fanout.writeOut Hall.host buffer targets { s.hall with clocks := now } = wrote
    at honly ⊢
  obtain ⟨result, h⟩ := wrote
  have hwrote : Moved (.write thread now) s { s with hall := h } := by
    refine ⟨Nat.le_of_eq honly.nextId.symm, Nat.le_of_eq honly.used.symm,
      fun _ hc => .inl (honly.clients ▸ hc), ?_, fun _ _ _ hphase => .inl hphase,
      fun _ clients hphase _ _ hid => ⟨clients, hphase, hid⟩, fun _ hc => .inl hc⟩
    intro x _
    by_cases hx : ∃ c ∈ targets, c.socket = x
    · exact .inr ⟨thread, now, buffer, targets, rfl, hlisted, hx⟩
    · exact .inl (honly.outlet x fun c hc heq => hx ⟨c, hc, heq⟩)
  have hnone (clients : List Nat) (hphase : s.phase thread = some (.dropping clients)) : False := by
    rw [hlisted] at hphase
    cases hphase
  cases result with
  | error e =>
    exact hwrote.setPhase nofun (fun _ hphase => (hnone _ hphase).elim) fun _ hc => .inl hc
  | ok sent =>
    obtain ⟨packet, deliveries⟩ := sent
    refine hwrote.setPhase nofun (fun _ hphase => (hnone _ hphase).elim) ?_
    intro c hc
    rcases List.mem_append.mp hc with hc | hc
    · obtain ⟨htarget, hboth⟩ := List.mem_filter.mp hc
      have hfailed := of_decide_eq_true (Bool.and_eq_true_iff.mp hboth).1
      exact .inr ⟨buffer, targets, _, hlisted, htarget, rfl, hfailed⟩
    · exact .inl hc

theorem moved_drop (s : Rush) : Moved (.drop thread) s (s.drop thread) := by
  unfold drop
  split
  · rename_i hphase
    refine Moved.setPhase (.refl _ s) nofun ?_ fun _ hc => .inl hc
    intro clients hclients
    rw [hphase] at hclients
    cases hclients
    exact fun _ _ hid => absurd hid List.not_mem_nil
  · rename_i client rest hphase
    have hleft := Hall.left_unregister client s.hall
    refine Moved.setPhase (moved_of_left hleft) nofun ?_ fun _ hc => .inl hc
    intro clients hclients c hc hid
    rw [hphase] at hclients
    cases hclients
    -- whoever is still a client is not the one that was removed
    rw [hleft.clients] at hc
    have hne : c.id ≠ client := by simpa using (List.mem_filter.mp hc).2
    exact ⟨rest, rfl, (List.mem_cons.mp hid).resolve_left hne⟩
  · exact .refl _ s

/-- Every move is one of those that `Moved` lists. -/
theorem moved_move (m : Move) (s : Rush) : Moved m s (s.move m) := by
  cases m with
  | add outlet => exact moved_add outlet s
  | share socket =>
    unfold move
    dsimp only
    split
    · rename_i hsocket
      exact moved_share hsocket
    · exact .refl _ s
  | remove client => exact moved_remove client s
  | list thread buffer => exact moved_list buffer s
  | write thread now => exact moved_write now s
  | drop thread => exact moved_drop s

/-! ### What holds all the time -/

/-- A client that failed is one only as long as it is still to be removed. -/
structure Kept (s : Rush) : Prop where
  clients : ∀ c ∈ s.hall.fanout.clients, Known s.hall c
  listed : ∀ thread buffer targets, s.phase thread = some (.listed buffer targets) →
    ∀ c ∈ targets, Known s.hall c
  broken : ∀ c ∈ s.broken, Known s.hall c
  leaving : ∀ c ∈ s.broken, c ∈ s.hall.fanout.clients →
    ∃ thread clients, s.phase thread = some (.dropping clients) ∧ c.id ∈ clients

/-- Clients stay known. -/
theorem Moved.known (moved : Moved m s s') (hc : Known s.hall c) : Known s'.hall c :=
  ⟨Nat.lt_of_lt_of_le hc.1 moved.nextId, Nat.lt_of_lt_of_le hc.2 moved.used⟩

/-- Every move keeps the account of broken clients. -/
theorem Kept.moved (kept : Kept s) (moved : Moved m s s') : Kept s' where
  clients := by
    intro c hc
    rcases moved.newcomers c hc with hold | ⟨-, hknown, -⟩
    · exact moved.known (kept.clients c hold)
    · exact hknown
  listed := by
    intro thread buffer targets hphase c hc
    rcases moved.listed thread buffer targets hphase with hold | rfl
    · exact moved.known (kept.listed thread buffer targets hold c hc)
    · exact moved.known (kept.clients c hc)
  broken := by
    intro c hc
    rcases moved.broken c hc with hold | ⟨thread, buffer, targets, -, hphase, htarget, -⟩
    · exact moved.known (kept.broken c hold)
    · exact moved.known (kept.listed thread buffer targets hphase c htarget)
  leaving := by
    intro c hc hclient
    rcases moved.broken c hc with hold | ⟨thread, -, -, clients, -, -, hphase, hid⟩
    · rcases moved.newcomers c hclient with hstill | ⟨hge, -⟩
      · obtain ⟨thread, clients, hphase, hid⟩ := kept.leaving c hold hstill
        obtain ⟨rest, hlater, hrest⟩ := moved.dropping thread clients hphase c hclient hid
        exact ⟨thread, rest, hlater, hrest⟩
      · exact absurd (kept.broken c hold).1 (Nat.not_lt_of_le hge)
    · exact ⟨thread, clients, hphase, hid⟩

theorem kept_start (framer : Framer) (writeTimeout : Option Duration) (producer : Producer)
    (names : Arena.NameSpace) : Kept (start framer writeTimeout producer names) where
  clients _ hc := absurd hc List.not_mem_nil
  listed := nofun
  broken _ hc := absurd hc List.not_mem_nil
  leaving _ hc := absurd hc List.not_mem_nil

/-- Every run keeps the account of broken clients. -/
theorem Kept.run (kept : Kept s) (moves : List Move) : Kept (s.run moves) := by
  induction moves generalizing s with
  | nil => exact kept
  | cons m rest ih => exact ih (kept.moved (moved_move m s))

/-! ### Behind a frame that broke off -/

/-- The socket belongs to no client, and no rendering has listed one on it. -/
structure Forsaken (s : Rush) (socket : SocketId) : Prop where
  clients : ∀ c ∈ s.hall.fanout.clients, c.socket ≠ socket
  listed : ∀ thread buffer targets, s.phase thread = some (.listed buffer targets) →
    ∀ c ∈ targets, c.socket ≠ socket

/-- A socket that nobody writes to takes nothing in a move. -/
theorem Forsaken.moved {socket : SocketId} (forsaken : Forsaken s socket) (moved : Moved m s s')
    (hused : socket < s.hall.used) (hm : m ≠ .share socket) :
    Forsaken s' socket ∧ s'.hall.taken socket = s.hall.taken socket := by
  refine ⟨⟨?_, ?_⟩, ?_⟩
  · intro c hc heq
    rcases moved.newcomers c hc with hold | ⟨-, -, hge | hshare⟩
    · exact forsaken.clients c hold heq
    · exact absurd (heq ▸ hused) (Nat.not_lt_of_le hge)
    · exact hm (heq ▸ hshare)
  · intro thread buffer targets hphase
    rcases moved.listed thread buffer targets hphase with hold | rfl
    · exact forsaken.listed thread buffer targets hold
    · exact forsaken.clients
  · rcases moved.outlet socket hused with
      hsame | ⟨thread, _, buffer, targets, -, hphase, c, hc, heq⟩
    · rw [Hall.taken, hsame, Hall.taken]
    · exact absurd heq (forsaken.listed thread buffer targets hphase c hc)

/-- A socket that nobody writes to takes nothing in a run. -/
theorem Forsaken.run {socket : SocketId} (forsaken : Forsaken s socket)
    (hused : socket < s.hall.used) {moves : List Move} (hmoves : Move.share socket ∉ moves) :
    (s.run moves).hall.taken socket = s.hall.taken socket := by
  induction moves generalizing s with
  | nil => rfl
  | cons m rest ih =>
    have hm : m ≠ .share socket := by
      rintro rfl
      exact hmoves (List.mem_cons_self ..)
    have hmoved := moved_move m s
    obtain ⟨hlater, htaken⟩ := forsaken.moved hmoved hused hm
    have hlast := ih hlater (Nat.lt_of_lt_of_le hused hmoved.used) fun hrest =>
      hmoves (List.mem_cons_of_mem _ hrest)
    exact hlast.trans htaken

/-- What becomes of a client whose write failed in the middle of a frame. -/
structure Broken (s : Rush) (c : FanoutClient) : Prop where
  /-- It is a client only as long as the rendering that failed has not removed it. -/
  leaving : c ∈ s.hall.fanout.clients →
    ∃ thread clients, s.phase thread = some (.dropping clients) ∧ c.id ∈ clients
  /-- Only a rendering that has listed a client on its socket gives that socket anything. -/
  listed : ∀ m, (s.move m).hall.taken c.socket ≠ s.hall.taken c.socket →
    ∃ thread now buffer targets, m = .write thread now ∧
      s.phase thread = some (.listed buffer targets) ∧ ∃ d ∈ targets, d.socket = c.socket
  /-- Such a rendering puts its whole packet behind the part that is there, if the socket lets
  it. -/
  behind : ∀ thread now buffer targets packet deliveries h,
    s.phase thread = some (.listed buffer targets) → (targets.map (·.socket)).Nodup →
    c ∈ targets → (s.hall.outlet c.socket).script.Willing →
    Fanout.writeOut Hall.host buffer targets { s.hall with clocks := now } =
      (.ok (packet, deliveries), h) →
    (s.move (.write thread now)).hall.taken c.socket = s.hall.taken c.socket ++ packet.stretch
  /-- When no rendering has listed its socket and none can, the socket is given nothing more, unless
  it is added again. -/
  silent : Forsaken s c.socket → ∀ moves, .share c.socket ∉ moves →
    (s.run moves).hall.taken c.socket = s.hall.taken c.socket

/-- A client that was broken is on its way out. -/
theorem Kept.isBroken (kept : Kept s) (hc : c ∈ s.broken) : Broken s c where
  leaving := kept.leaving c hc
  listed := by
    intro m hchanged
    rcases (moved_move m s).outlet c.socket (kept.broken c hc).2 with hsame | hwrote
    · rw [Hall.taken, hsame] at hchanged
      exact absurd rfl hchanged
    · exact hwrote
  behind := by
    intro thread now buffer targets packet deliveries h hphase hsockets htarget hwilling hwrote
    have wroteOut := Hall.wroteOut_writeOut buffer targets { s.hall with clocks := now }
    rw [hwrote] at wroteOut
    show (s.write thread now).hall.taken c.socket = _
    rw [write_of_ok hphase hwrote]
    exact wroteOut.taken hsockets htarget hwilling
  silent hforsaken _ hmoves := hforsaken.run (kept.broken c hc).2 hmoves

/-- However renderings, additions and removals come between one another, and however the sockets
behave, this is what follows a frame that broke off in the middle. -/
theorem broken_run (framer : Framer) (writeTimeout : Option Duration) (producer : Producer)
    (names : Arena.NameSpace) (moves : List Move) (c : FanoutClient)
    (hc : c ∈ ((start framer writeTimeout producer names).run moves).broken) :
    Broken ((start framer writeTimeout producer names).run moves) c :=
  ((kept_start framer writeTimeout producer names).run moves).isBroken hc

/-- Two renderings have listed the same client, and the packet of the first breaks off after ten
bytes. -/
def overlapping : Rush :=
  (start { config := { inlineThreshold := 100 } } none default default).run
    [.add ⟨⟨[.ok 10, .error (.system 11)], false, []⟩, .ok ()⟩, .list 0 ⟨.heap [1, 2, 3], none⟩,
      .list 1 ⟨.heap [4, 5], none⟩, .write 0 default]

/-- The second rendering puts its packet behind those ten bytes. -/
theorem broken_run_overlapping :
    ⟨1, 0⟩ ∈ overlapping.broken ∧ Broken overlapping ⟨1, 0⟩ ∧
      ((overlapping.move (.write 1 default)).hall.taken 0).bytes =
        (Packet.mk (.inlined 0 3) (.inlined [1, 2, 3])).wire.take 10 ++
          (Packet.mk (.inlined 0 2) (.inlined [4, 5])).wire :=
  ⟨by decide +kernel, broken_run _ _ _ _ _ ⟨1, 0⟩ (by decide +kernel), by decide +kernel⟩

/-- Without any overlap: the socket has a second client, which was skipped while it was full. -/
example :
    let s := (start { config := { inlineThreshold := 100 } } none default default).run
      [.add ⟨⟨[.ok 10, .error (.system 11), .error (.system 11)], false, []⟩, .ok ()⟩, .share 0,
        .list 0 ⟨.heap [1, 2, 3], none⟩, .write 0 default, .drop 0, .drop 0,
        .list 0 ⟨.heap [4, 5], none⟩]
    ⟨1, 0⟩ ∈ s.broken ∧ s.hall.fanout.clients = [⟨2, 0⟩] ∧
      ((s.move (.write 0 default)).hall.taken 0).bytes =
        (Packet.mk (.inlined 0 3) (.inlined [1, 2, 3])).wire.take 10 ++
          (Packet.mk (.inlined 0 2) (.inlined [4, 5])).wire := by decide +kernel

end Rush

end Framecast
