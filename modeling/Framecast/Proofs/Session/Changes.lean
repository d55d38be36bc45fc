import Framecast.Proofs.Session.Hall
import Mathlib.Data.List.Nodup

/-!
# What the calls change

What registering, removing, rendering and attaching do to a hall: who is a client afterwards, what
each socket was given, and that nothing else has changed or only grown. A client gets a packet from
the script of its own socket alone, so a `broadcast` can be told client by client.
-/

namespace Framecast

namespace Fanout

variable {m : Type → Type} [Monad m]

/-- What a rendering does while it has the framer for itself. -/
def writeOut (host : FanoutHost m) (buffer : Buffer) (targets : List FanoutClient) :
    m (Except SessionError (Packet × List Delivery)) := do
  let (sleeps, checked, framer) ← host.onFanout check
  host.sleep sleeps
  match checked with
  | .error e => return .error (.frame e)
  | .ok () =>
    match ← prepare host framer buffer with
    | .error e => return .error (.frame e)
    | .ok packet =>
      let deliveries ← broadcast host.send packet targets
      host.onFanout fun f => ((), f.record deliveries)
      return .ok (packet, deliveries)

end Fanout

namespace Hall

/-- All but the clients is as it was, or has only grown. -/
structure Beside (h h' : Hall) : Prop where
  nextId : h.fanout.nextId ≤ h'.fanout.nextId
  used : h.used ≤ h'.used
  outlet : ∀ x, x < h.used → h'.outlet x = h.outlet x
  sent : h'.fanout.framer.framesSent = h.fanout.framer.framesSent
  replies : h'.replies = h.replies
  granted : h'.granted = h.granted
  notes : h'.notes = h.notes

/-- Nothing happened to the clients. -/
structure Quiet (h h' : Hall) : Prop extends Beside h h' where
  clients : h'.fanout.clients = h.fanout.clients

/-- There is one client more, with a number and a socket of its own. -/
structure Joined (h h' : Hall) (c : FanoutClient) : Prop extends Beside h h' where
  clients : h'.fanout.clients = h.fanout.clients ++ [c]
  id_ge : h.fanout.nextId ≤ c.id
  id_lt : c.id < h'.fanout.nextId
  socket_ge : h.used ≤ c.socket
  socket_lt : c.socket < h'.used

/-- Only clients of this number have left. -/
structure Left (h h' : Hall) (client : Nat) : Prop extends Beside h h' where
  clients : h'.fanout.clients = h.fanout.clients.filter (·.id ≠ client)

variable {h h' : Hall}

theorem Beside.refl (h : Hall) : Beside h h :=
  ⟨Nat.le_refl _, Nat.le_refl _, fun _ _ => rfl, rfl, rfl, rfl, rfl⟩

theorem Quiet.refl (h : Hall) : Quiet h h :=
  ⟨.refl h, rfl⟩

theorem outlet_opened (outlet : Outlet) (h : Hall) {x : SocketId} (hx : x < h.used) :
    (h.opened outlet).outlet x = h.outlet x :=
  if_neg (Nat.ne_of_lt hx)

theorem beside_opened (outlet : Outlet) (h : Hall) : Beside h (h.opened outlet) :=
  ⟨Nat.le_refl _, Nat.le_succ _, fun _ hx => outlet_opened outlet h hx, rfl, rfl, rfl, rfl⟩

theorem Beside.trans {h'' : Hall} (first : Beside h h') (second : Beside h' h'') :
    Beside h h'' where
  nextId := Nat.le_trans first.nextId second.nextId
  used := Nat.le_trans first.used second.used
  outlet x hx :=
    (second.outlet x (Nat.lt_of_lt_of_le hx first.used)).trans (first.outlet x hx)
  sent := second.sent.trans first.sent
  replies := second.replies.trans first.replies
  granted := second.granted.trans first.granted
  notes := second.notes.trans first.notes

/-! ### Registering and removing -/

theorem register_eq (socket : SocketId) (h : Hall) :
    Fanout.register host socket h =
      match (h.outlet socket).bounded with
      | .error e => (.error (.socket e), h)
      | .ok () => (.ok h.fanout.nextId, { h with fanout := (h.fanout.add socket).2 }) := by
  unfold Fanout.register
  rw [bind_apply, bind_apply]
  show (match (h.outlet socket).bounded with
    | .error e => _
    | .ok () => _ : StateM Hall (Except SessionError Nat)) h = _
  cases (h.outlet socket).bounded with
  | error e => rfl
  | ok u => rfl

theorem unregister_eq (client : Nat) (h : Hall) :
    Fanout.unregister host client h =
      ((h.fanout.socketOf? client).isSome, { h with fanout := h.fanout.remove client }) := by
  have hstep : host.onFanout (fun f => (f.socketOf? client, f.remove client)) h =
    (h.fanout.socketOf? client, { h with fanout := h.fanout.remove client }) := rfl
  unfold Fanout.unregister
  rw [bind_apply, hstep]
  cases h.fanout.socketOf? client with
  | none => rfl
  | some socket => rfl

theorem left_unregister (client : Nat) (h : Hall) :
    Left h (Fanout.unregister host client h).2 client := by
  rw [unregister_eq]
  exact ⟨⟨Nat.le_refl _, Nat.le_refl _, fun _ _ => rfl, rfl, rfl, rfl, rfl⟩, rfl⟩

/-- What registering a new socket comes to. -/
inductive Registered (h : Hall) : Except SessionError Nat → Hall → Prop
  | failed (e : SessionError) (h' : Hall) (hquiet : Quiet h h') : Registered h (.error e) h'
  | joined (c : FanoutClient) (h' : Hall) (hjoined : Joined h h' c) : Registered h (.ok c.id) h'

/-- What registering a new socket comes to. -/
theorem registered_opened {first : Hall} (hbeside : Beside h first)
    (hclients : first.fanout.clients = h.fanout.clients) {socket : SocketId}
    (hge : h.used ≤ socket) (hlt : socket < first.used) :
    Registered h (Fanout.register host socket first).1 (Fanout.register host socket first).2 := by
  rw [register_eq]
  cases (first.outlet socket).bounded with
  | error e => exact .failed _ _ ⟨hbeside, hclients⟩
  | ok u =>
    refine .joined ⟨first.fanout.nextId, socket⟩ _ ⟨⟨?_, hbeside.used, hbeside.outlet, hbeside.sent,
      hbeside.replies, hbeside.granted, hbeside.notes⟩, ?_, hbeside.nextId, ?_, hge, hlt⟩
    · exact Nat.le_succ_of_le hbeside.nextId
    · show first.fanout.clients ++ _ = h.fanout.clients ++ _
      rw [hclients]
    · exact Nat.lt_succ_self _

theorem isSome_socketOf? {f : Fanout} {client : Nat} :
    (f.socketOf? client).isSome = true ↔ ∃ c ∈ f.clients, c.id = client := by
  unfold Fanout.socketOf?
  rw [Option.isSome_map, List.find?_isSome]
  simp

/-- A client's attachment is given up: the client is removed. -/
theorem giveUp_of_client {a : Attachment} {client : Nat} (ha : a.client? = some client) (h : Hall) :
    h.giveUp a = { h with fanout := h.fanout.remove client }.note (.givenUp client) := by
  obtain ⟨r, hr, rfl⟩ := Option.map_eq_some_iff.mp ha
  unfold giveUp noteFor
  rw [ha]
  unfold Attachment.giveUp
  rw [hr]
  dsimp only
  rw [bind_apply, unregister_eq]
  rfl

/-- Nothing becomes of the clients when an attachment is given up that was committed. -/
theorem giveUp_of_none {a : Attachment} (ha : a.client? = none) (h : Hall) : h.giveUp a = h := by
  unfold giveUp noteFor
  rw [ha]
  unfold Attachment.giveUp
  rw [Option.map_eq_none_iff.mp ha]
  rfl

/-! ### Attaching -/

/-- A client that joins and leaves again has changed nothing. -/
theorem Joined.left {h'' : Hall} {c : FanoutClient} (hjoined : Joined h h' c)
    (hleft : Left h' h'' c.id) (hbelow : ∀ d ∈ h.fanout.clients, d.id < h.fanout.nextId) :
    Quiet h h'' := by
  refine ⟨hjoined.toBeside.trans hleft.toBeside, ?_⟩
  have hstay : h.fanout.clients.filter (·.id ≠ c.id) = h.fanout.clients := by
    rw [List.filter_eq_self]
    intro d hd
    have hlt := hbelow d hd
    have hge := hjoined.id_ge
    simp only [ne_eq, decide_eq_true_eq]
    omega
  rw [hleft.clients, hjoined.clients, List.filter_append, hstay]
  simp

/-- What an attach comes to, before it is noted. -/
inductive Welcomed (h : Hall) : Except SessionError Attachment → Hall → Prop
  | failed (e : SessionError) (h' : Hall) (hquiet : Quiet h h') : Welcomed h (.error e) h'
  | joined (a : Attachment) (c : FanoutClient) (h' : Hall) (hjoined : Joined h h' c)
      (hclient : a.client? = some c.id) : Welcomed h (.ok a) h'

/-- What an attach comes to, case by case. -/
theorem welcomed_attach (hbelow : ∀ c ∈ h.fanout.clients, c.id < h.fanout.nextId) :
    Welcomed h (Producer.attach producerHost h).1 (Producer.attach producerHost h).2 := by
  unfold Producer.attach
  rw [bind_apply]
  cases hconnection : h.attempt.connection with
  | error e =>
    have hpair : producerHost.pair h = (.error e, h) := by
      show connect h = _
      rw [connect, hconnection]
    rw [hpair]
    exact .failed _ _ (.refl h)
  | ok outlet =>
    have hpair : producerHost.pair h =
        (.ok (h.used, h.used + 1), (h.opened outlet).opened outlet) := by
      show connect h = _
      rw [connect, hconnection]
    have hbeside : Beside h ((h.opened outlet).opened outlet) :=
      (beside_opened outlet h).trans (beside_opened outlet _)
    have hused : h.used < ((h.opened outlet).opened outlet).used :=
      Nat.lt_succ_of_lt (Nat.lt_succ_self _)
    have hregistered := registered_opened hbeside rfl (Nat.le_refl _) hused
    rw [hpair]
    dsimp only [producerHost]
    rw [bind_apply]
    generalize Fanout.register host h.used _ = registered at hregistered ⊢
    obtain ⟨result, h₁⟩ := registered
    cases hregistered with
    | failed e _ hquiet => exact .failed _ _ hquiet
    | joined c _ hjoined =>
      dsimp only
      rw [bind_apply, bind_apply, bind_apply]
      dsimp only
      generalize Producer.conclude h₁.attempt.caps h₁.producer = concluded
      obtain ⟨⟨sleeps, result⟩, producer⟩ := concluded
      have hlater : Joined h { h₁ with producer := producer } c :=
        ⟨⟨hjoined.nextId, hjoined.used, hjoined.outlet, hjoined.sent, hjoined.replies,
          hjoined.granted, hjoined.notes⟩, hjoined.clients, hjoined.id_ge, hjoined.id_lt,
          hjoined.socket_ge, hjoined.socket_lt⟩
      rw [bind_apply]
      cases result with
      | ok caps => exact .joined _ c _ hlater rfl
      | error e => exact .failed _ _ (hlater.left (left_unregister c.id _) hbelow)

/-- An attach that fails leaves no client behind. -/
theorem welcome_error (hbelow : ∀ c ∈ h.fanout.clients, c.id < h.fanout.nextId) {e : SessionError}
    (hwelcome : h.welcome = (.error e, h')) : Quiet h h' := by
  have hwelcomed := welcomed_attach hbelow
  unfold welcome at hwelcome
  generalize Producer.attach producerHost h = attached at hwelcomed hwelcome
  obtain ⟨result, h₁⟩ := attached
  cases hwelcomed with
  | failed e _ hquiet =>
    cases hwelcome
    exact hquiet
  | joined a c _ hjoined hclient => cases hwelcome

/-- An attach that succeeds leaves one client more. -/
theorem welcome_ok (hbelow : ∀ c ∈ h.fanout.clients, c.id < h.fanout.nextId) {a : Attachment}
    (hwelcome : h.welcome = (.ok a, h')) : ∃ c h₀, Joined h h₀ c ∧ a.client? = some c.id ∧
      h' = h₀.note (.attached c.id) := by
  have hwelcomed := welcomed_attach hbelow
  unfold welcome at hwelcome
  generalize Producer.attach producerHost h = attached at hwelcomed hwelcome
  obtain ⟨result, h₀⟩ := attached
  cases hwelcomed with
  | failed e _ hquiet => cases hwelcome
  | joined a c _ hjoined hclient =>
    cases hwelcome
    refine ⟨c, h₀, hjoined, hclient, ?_⟩
    unfold noteFor
    rw [hclient]

/-! ### Rendering -/

/-- What a socket makes of a packet. -/
def wrote (packet : Packet) (script : SendScript) : Except FrameError WriteOutcome × SendScript :=
  packet.write SendScript.sender false script

/-- What giving a packet to a client comes to. -/
def delivery (packet : Packet) (h : Hall) (c : FanoutClient) : Delivery :=
  ⟨c.id, (wrote packet (h.outlet c.socket).script).1⟩

/-- A packet was written to sockets. -/
def wroteTo (packet : Packet) (sockets : List SocketId) (h : Hall) : Hall :=
  { h with outlet := fun x =>
    if x ∈ sockets then ⟨(wrote packet (h.outlet x).script).2, (h.outlet x).bounded⟩
    else h.outlet x }

theorem outlet_setScript_ne {socket x : SocketId} (hne : x ≠ socket) (script : SendScript)
    (h : Hall) : (h.setScript socket script).outlet x = h.outlet x :=
  if_neg hne

theorem wroteTo_setScript {packet : Packet} {socket : SocketId} {sockets : List SocketId}
    (hnot : socket ∉ sockets) (h : Hall) :
    (h.setScript socket (wrote packet (h.outlet socket).script).2).wroteTo packet sockets =
      h.wroteTo packet (socket :: sockets) := by
  unfold wroteTo
  congr 1
  funext x
  by_cases hx : x = socket
  · subst hx
    rw [if_neg hnot, if_pos (List.mem_cons_self ..)]
    exact if_pos rfl
  · rw [outlet_setScript_ne hx]
    simp [hx]

/-- Writing to one client changes only what its socket is to answer. -/
theorem write_host (packet : Packet) (socket : SocketId) (h : Hall) :
    packet.write (host.send socket) false h =
      ((wrote packet (h.outlet socket).script).1,
        h.setScript socket (wrote packet (h.outlet socket).script).2) :=
  congrFun (Packet.write_lift (scriptPart socket) SendScript.sender false packet) h

/-- Each client is written the packet, on its own socket. -/
theorem broadcast_eq (packet : Packet) {targets : List FanoutClient}
    (hnodup : (targets.map (·.socket)).Nodup) (h : Hall) :
    Fanout.broadcast host.send packet targets h =
      (targets.map (delivery packet h), h.wroteTo packet (targets.map (·.socket))) := by
  induction targets generalizing h with
  | nil =>
    have hsame : h.wroteTo packet [] = h := by simp [wroteTo]
    rw [List.map_nil, List.map_nil, hsame]
    rfl
  | cons c rest ih =>
    obtain ⟨hnot, hrest⟩ := List.nodup_cons.mp hnodup
    -- the other sockets are not the one that was written to
    have hsame (d : FanoutClient) (hd : d ∈ rest) :
        delivery packet (h.setScript c.socket (wrote packet (h.outlet c.socket).script).2) d =
          delivery packet h d := by
      have hne : d.socket ≠ c.socket := by
        intro heq
        exact hnot (List.mem_map.mpr ⟨d, hd, heq⟩)
      rw [delivery, outlet_setScript_ne hne, delivery]
    rw [Fanout.broadcast, bind_apply, write_host]
    dsimp only
    rw [bind_apply, ih hrest]
    show (_ :: _, _) = _
    rw [List.map_cons, List.map_cons, wroteTo_setScript hnot, List.map_congr_left hsame]
    rfl

/-- Clients were removed. -/
def withoutAll (clients : List Nat) (h : Hall) : Hall :=
  { h with fanout := { h.fanout with clients := h.fanout.clients.filter (·.id ∉ clients) } }

/-- All of these clients are removed, and no other. -/
theorem unregisterAll_eq {clients : List Nat} (hnodup : clients.Nodup)
    (hregistered : ∀ client ∈ clients, ∃ c ∈ h.fanout.clients, c.id = client) :
    Fanout.unregisterAll host clients h = (clients.length, h.withoutAll clients) := by
  induction clients generalizing h with
  | nil =>
    have hsame : h.withoutAll [] = h := by simp [withoutAll]
    rw [hsame]
    rfl
  | cons client rest ih =>
    obtain ⟨hnot, hrest⟩ := List.nodup_cons.mp hnodup
    have hfound : (h.fanout.socketOf? client).isSome = true :=
      isSome_socketOf?.mpr (hregistered client (List.mem_cons_self ..))
    let h₁ : Hall := { h with fanout := h.fanout.remove client }
    have hothers (other : Nat) (hother : other ∈ rest) : ∃ c ∈ h₁.fanout.clients, c.id = other := by
      obtain ⟨c, hc, hid⟩ := hregistered other (List.mem_cons_of_mem _ hother)
      refine ⟨c, List.mem_filter.mpr ⟨hc, ?_⟩, hid⟩
      have hne : c.id ≠ client := by
        intro heq
        exact hnot (heq.symm.trans hid ▸ hother)
      simpa using hne
    have hclients : h₁.fanout.clients.filter (·.id ∉ rest) =
        h.fanout.clients.filter (·.id ∉ client :: rest) := by
      show (h.fanout.clients.filter _).filter _ = _
      rw [List.filter_filter]
      congr 1
      funext c
      simp [Bool.and_comm]
    have hboth : h₁.withoutAll rest = h.withoutAll (client :: rest) := by
      unfold withoutAll
      rw [hclients]
      rfl
    rw [Fanout.unregisterAll, bind_apply, unregister_eq, hfound]
    dsimp only
    rw [bind_apply, ih hrest hothers]
    show (rest.length + 1, _) = _
    rw [hboth]
    rfl

/-- What a buffer came to that was made a packet. -/
def rendering (packet : Packet) (h : Hall) : Rendering :=
  let deliveries := h.fanout.clients.map (delivery packet h)
  ⟨some packet, deliveries, (Delivery.failed deliveries).length⟩

/-- A packet was given to every client, and those that failed were removed. -/
structure Published (buffer : Buffer) (packet : Packet) (h h' : Hall) : Prop where
  made : ∃ (framer : Framer) (names : Arena.NameSpace),
    (framer.prepare h.clocks buffer names).1 = .ok packet
  clients : h'.fanout.clients =
    h.fanout.clients.filter (·.id ∉ Delivery.failed (rendering packet h).deliveries)
  nextId : h'.fanout.nextId = h.fanout.nextId
  used : h'.used = h.used
  outlet : h'.outlet = (h.wroteTo packet (h.fanout.clients.map (·.socket))).outlet
  sent : h'.fanout.framer.framesSent = h.fanout.framer.framesSent +
    if (rendering packet h).deliveries.any (·.isWhole) then 1 else 0
  replies : h'.replies = h.replies
  granted : h'.granted = h.granted
  notes : h'.notes = h.notes

/-- What rendering comes to, before it is noted. -/
inductive Rendered (buffer : Buffer) (h : Hall) : Except SessionError Rendering → Hall → Prop
  | idle (hnone : h.fanout.clients = []) : Rendered buffer h (.ok {}) h
  | failed (e : SessionError) (h' : Hall) (hquiet : Quiet h h') : Rendered buffer h (.error e) h'
  | published (packet : Packet) (h' : Hall) (hpublished : Published buffer packet h h') :
      Rendered buffer h (.ok (rendering packet h)) h'

theorem failed_delivery (packet : Packet) (h : Hall) (clients : List FanoutClient) :
    Delivery.failed (clients.map (delivery packet h)) =
      (clients.filter fun c => (delivery packet h c).isFailed).map (·.id) := by
  unfold Delivery.failed
  rw [List.filter_map, List.map_map]
  rfl

/-- A hall in which a packet was given to all clients. -/
def published (packet : Packet) (h : Hall) : Hall :=
  let deliveries := (rendering packet h).deliveries
  let wrote := h.wroteTo packet (h.fanout.clients.map (·.socket))
  { wrote with fanout := h.fanout.record deliveries }.withoutAll (Delivery.failed deliveries)

theorem nextId_record (deliveries : List Delivery) (f : Fanout) :
    (f.record deliveries).nextId = f.nextId := by
  unfold Fanout.record
  split <;> rfl

theorem clients_record (deliveries : List Delivery) (f : Fanout) :
    (f.record deliveries).clients = f.clients := by
  unfold Fanout.record
  split <;> rfl

/-- Publishing a packet writes it to each client once. -/
theorem publish_eq (packet : Packet) (hids : (h.fanout.clients.map (·.id)).Nodup)
    (hsockets : (h.fanout.clients.map (·.socket)).Nodup) :
    Fanout.publish host packet h.fanout.clients h = (rendering packet h, h.published packet) := by
  let deliveries := h.fanout.clients.map (delivery packet h)
  let recorded : Hall :=
    { h.wroteTo packet (h.fanout.clients.map (·.socket)) with
      fanout := h.fanout.record deliveries }
  have hfailed : Delivery.failed deliveries =
      (h.fanout.clients.filter fun c => (delivery packet h c).isFailed).map (·.id) :=
    failed_delivery packet h h.fanout.clients
  have hnodup : (Delivery.failed deliveries).Nodup := by
    rw [hfailed]
    exact hids.sublist (List.filter_sublist.map _)
  have hregistered (client : Nat) (hclient : client ∈ Delivery.failed deliveries) :
      ∃ c ∈ recorded.fanout.clients, c.id = client := by
    rw [hfailed] at hclient
    obtain ⟨c, hc, hid⟩ := List.mem_map.mp hclient
    refine ⟨c, ?_, hid⟩
    show c ∈ (h.fanout.record deliveries).clients
    rw [clients_record]
    exact (List.mem_filter.mp hc).1
  have hremoved := unregisterAll_eq (h := recorded) hnodup hregistered
  unfold Fanout.publish
  rw [bind_apply, broadcast_eq packet hsockets]
  dsimp only
  rw [bind_apply, bind_apply]
  show ((⟨some packet, deliveries, (Fanout.unregisterAll host _ recorded).1⟩ : Rendering),
    (Fanout.unregisterAll host _ recorded).2) = _
  rw [hremoved]
  rfl

/-- A packet counts as sent if some client got all of it. -/
theorem framesSent_record (deliveries : List Delivery) (f : Fanout) :
    (f.record deliveries).framer.framesSent =
      f.framer.framesSent + if deliveries.any (·.isWhole) then 1 else 0 := by
  unfold Fanout.record
  split <;> rfl

/-- The hall when a buffer was prepared. -/
def prepared (framer : Framer) (names : Arena.NameSpace) (h : Hall) : Hall :=
  { h with fanout := { h.fanout with framer := framer }, names := names }

theorem published_prepared {buffer : Buffer} {packet : Packet} {framer : Framer}
    (names : Arena.NameSpace) (hsent : framer.framesSent = h.fanout.framer.framesSent)
    (made : ∃ (framer : Framer) (names : Arena.NameSpace),
      (framer.prepare h.clocks buffer names).1 = .ok packet) :
    Published buffer packet h ((h.prepared framer names).published packet) where
  made := made
  clients := by
    show ((Fanout.record _ _).clients).filter _ = _
    rw [clients_record]
    rfl
  nextId := nextId_record _ _
  used := rfl
  outlet := rfl
  sent := by
    show (Fanout.record _ _).framer.framesSent = _
    rw [framesSent_record, ← hsent]
    rfl
  replies := rfl
  granted := rfl
  notes := rfl

theorem quiet_prepared {framer : Framer} (names : Arena.NameSpace)
    (hsent : framer.framesSent = h.fanout.framer.framesSent) : Quiet h (h.prepared framer names) :=
  ⟨⟨Nat.le_refl _, Nat.le_refl _, fun _ _ => rfl, hsent, rfl, rfl, rfl⟩, rfl⟩

/-- A rendering writes out its packet and removes those whose write failed. -/
theorem renderTo_eq {targets : List FanoutClient} (hsome : targets.isEmpty = false)
    (buffer : Buffer) (h : Hall) :
    Fanout.renderTo host buffer targets h =
      match Fanout.writeOut host buffer targets h with
      | (.error e, h₁) => (.error e, h₁)
      | (.ok (packet, deliveries), h₁) =>
        let removed := Fanout.unregisterAll host (Delivery.failed deliveries) h₁
        (.ok ⟨some packet, deliveries, removed.1⟩, removed.2) := by
  unfold Fanout.renderTo Fanout.writeOut
  rw [hsome, if_neg Bool.false_ne_true, bind_apply, bind_apply]
  generalize host.onFanout Fanout.check h = checked
  obtain ⟨⟨sleeps, checked, framer⟩, h₁⟩ := checked
  dsimp only
  rw [bind_apply, bind_apply]
  cases checked with
  | error e => rfl
  | ok u =>
    dsimp only
    rw [bind_apply, bind_apply]
    generalize Fanout.prepare host framer buffer _ = made
    obtain ⟨e | packet, h₂⟩ := made <;> rfl

/-- What writing out a buffer comes to. -/
inductive WroteOut (buffer : Buffer) (targets : List FanoutClient) (h : Hall) :
    Except SessionError (Packet × List Delivery) → Hall → Prop
  | refused (e : FrameError) (framer : Framer) (names : Arena.NameSpace)
      (hsent : framer.framesSent = h.fanout.framer.framesSent) :
      WroteOut buffer targets h (.error (.frame e)) (h.prepared framer names)
  | sent (packet : Packet) (framer : Framer) (names : Arena.NameSpace)
      (deliveries : List Delivery) (h₁ : Hall)
      (hsent : framer.framesSent = h.fanout.framer.framesSent)
      (hmade : ∃ (framer : Framer) (names : Arena.NameSpace),
        (framer.prepare h.clocks buffer names).1 = .ok packet)
      (hwrote : Fanout.broadcast host.send packet targets (h.prepared framer names) =
        (deliveries, h₁)) :
      WroteOut buffer targets h (.ok (packet, deliveries))
        { h₁ with fanout := h₁.fanout.record deliveries }

/-- What writing to the listed clients comes to. -/
theorem wroteOut_writeOut (buffer : Buffer) (targets : List FanoutClient) (h : Hall) :
    WroteOut buffer targets h (Fanout.writeOut host buffer targets h).1
      (Fanout.writeOut host buffer targets h).2 := by
  have hsent := h.fanout.framer.framesSent_runCheckpoint
  have hcheck : host.onFanout Fanout.check h =
    (h.fanout.framer.runCheckpoint, h.prepared h.fanout.framer.runCheckpoint.2.2 h.names) := rfl
  unfold Fanout.writeOut
  rw [bind_apply, hcheck]
  generalize h.fanout.framer.runCheckpoint = checked at hsent ⊢
  obtain ⟨sleeps, checked, framer⟩ := checked
  dsimp only at hsent ⊢
  rw [bind_apply]
  cases checked with
  | error e => exact .refused e framer h.names hsent
  | ok u =>
    have hprepare : Fanout.prepare host framer buffer
        (host.sleep sleeps (h.prepared framer h.names)).2 =
        ((framer.prepare h.clocks buffer h.names).1,
          h.prepared (framer.prepare h.clocks buffer h.names).2.1
            (framer.prepare h.clocks buffer h.names).2.2) := rfl
    have hlater := framer.framesSent_prepare h.clocks buffer h.names
    have hmade (packet : Packet)
        (hpacket : (framer.prepare h.clocks buffer h.names).1 = .ok packet) :
        ∃ (framer : Framer) (names : Arena.NameSpace),
          (framer.prepare h.clocks buffer names).1 = .ok packet :=
      ⟨framer, h.names, hpacket⟩
    dsimp only
    rw [bind_apply, hprepare]
    generalize framer.prepare h.clocks buffer h.names = made at hlater hmade ⊢
    obtain ⟨e | packet, framer', names⟩ := made
    · exact .refused e framer' names (hlater.trans hsent)
    · exact .sent packet framer' names _ _ (hlater.trans hsent) (hmade packet rfl) rfl

/-- What a rendering comes to, case by case. -/
theorem rendered_render (buffer : Buffer) (hids : (h.fanout.clients.map (·.id)).Nodup)
    (hsockets : (h.fanout.clients.map (·.socket)).Nodup) :
    Rendered buffer h (Fanout.render host buffer h).1 (Fanout.render host buffer h).2 := by
  have htargets : Fanout.render host buffer h =
    Fanout.renderTo host buffer h.fanout.clients h := rfl
  rw [htargets]
  cases hnone : h.fanout.clients.isEmpty with
  | true =>
    rw [Fanout.renderTo, if_pos hnone]
    exact .idle (List.isEmpty_iff.mp hnone)
  | false =>
    have wroteOut := wroteOut_writeOut buffer h.fanout.clients h
    rw [renderTo_eq hnone]
    generalize Fanout.writeOut host buffer h.fanout.clients h = written at wroteOut ⊢
    obtain ⟨result, h₁⟩ := written
    cases wroteOut with
    | refused e framer names hsent => exact .failed _ _ (quiet_prepared names hsent)
    | sent packet framer names deliveries h₂ hsent hmade hwrote =>
      have hpublish : Fanout.publish host packet h.fanout.clients (h.prepared framer names) =
          (rendering packet h, (h.prepared framer names).published packet) :=
        publish_eq (h := h.prepared framer names) packet hids hsockets
      rw [Fanout.publish, bind_apply, hwrote] at hpublish
      obtain ⟨hrendering, hafter⟩ := Prod.mk.inj hpublish
      have hsame := congrArg₂ (Rendered buffer h) (congrArg Except.ok hrendering) hafter
      exact hsame.mpr (.published packet _ (published_prepared names hsent hmade))

/-- A rendering that fails as a whole reaches nobody. -/
theorem render_error (hids : (h.fanout.clients.map (·.id)).Nodup)
    (hsockets : (h.fanout.clients.map (·.socket)).Nodup) {buffer : Buffer} {now : Readings}
    {e : SessionError} (hrender : h.render buffer now = (.error e, h')) :
    Quiet { h with clocks := now } h' := by
  have hrendered := rendered_render (h := { h with clocks := now }) buffer hids hsockets
  unfold render at hrender
  generalize Fanout.render host buffer { h with clocks := now } = rendered at hrendered hrender
  obtain ⟨result, h₁⟩ := rendered
  cases hrendered with
  | idle hnone => cases hrender
  | published packet _ hpublished => cases hrender
  | failed e _ hquiet =>
    cases hrender
    exact hquiet

/-- Nobody was there, or a packet was given to everybody. -/
theorem render_ok (hids : (h.fanout.clients.map (·.id)).Nodup)
    (hsockets : (h.fanout.clients.map (·.socket)).Nodup) {buffer : Buffer} {now : Readings}
    {r : Rendering} (hrender : h.render buffer now = (.ok r, h')) :
    (h.fanout.clients = [] ∧ r = {} ∧
      h' = { h with clocks := now }.note (.rendered {})) ∨
    ∃ packet h₀, Published buffer packet { h with clocks := now } h₀ ∧
      r = rendering packet h ∧ h' = h₀.note (.rendered (rendering packet h)) := by
  have hrendered := rendered_render (h := { h with clocks := now }) buffer hids hsockets
  unfold render at hrender
  generalize Fanout.render host buffer { h with clocks := now } = rendered at hrendered hrender
  obtain ⟨result, h₁⟩ := rendered
  cases hrendered with
  | idle hnone =>
    cases hrender
    exact .inl ⟨hnone, rfl, rfl⟩
  | failed e _ hquiet => cases hrender
  | published packet _ hpublished =>
    cases hrender
    exact .inr ⟨packet, h₁, hpublished, rfl, rfl⟩

/-! ### Answering a request -/

/-- The conversation has gone on. -/
def talked (party : Party) (h : Hall) : Hall :=
  { h with party := party }

/-- What answering a request comes to: it did not come to an attach, the attach failed, or its
attachment was delivered or not. -/
inductive Handled (h : Hall) : Except SessionError Unit → Hall → Prop
  | unasked (e : SessionError) (party : Party) : Handled h (.error e) (h.talked party)
  | refused (before after : Party) (h₁ : Hall) (e e' : SessionError)
      (hwelcome : (h.talked before).welcome = (.error e', h₁)) :
      Handled h (.error e) (h₁.talked after)
  | kept (before after : Party) (h₁ : Hall) (a : Attachment)
      (hwelcome : (h.talked before).welcome = (.ok a, h₁)) :
      Handled h (.ok ()) (((h₁.talked after).noteFor .committed a).giveUp a.commit)
  | takenBack (before after : Party) (h₁ : Hall) (a : Attachment) (e : SessionError)
      (hwelcome : (h.talked before).welcome = (.ok a, h₁)) :
      Handled h (.error e) ((h₁.talked after).giveUp a)

theorem talked_talked (first second : Party) (h : Hall) :
    (h.talked first).talked second = h.talked second := rfl

theorem lift_partyPart {α : Type} (x : StateM Party α) (h : Hall) :
    partyPart.lift x h = ((x h.party).1, h.talked (x h.party).2) := rfl

theorem write_channel (patience : Duration) (data : Bytes) (descriptors : List Descriptor) :
    Line.write channel.send patience data descriptors =
      partyPart.lift (Line.write Party.channel.send patience data descriptors) :=
  Line.write_lift partyPart Party.channel.send patience data descriptors

/-- Reading a line concerns only the peer. -/
theorem read_channel (limit : Nat) (patience : Duration) :
    Line.read channel.receive limit patience =
      partyPart.lift (Line.read Party.channel.receive limit patience) :=
  Line.read_lift partyPart Party.channel.receive limit patience

theorem answerError_channel (config : EndpointConfig) (text : String) (cause : SessionError)
    (h : Hall) : ∃ e party,
      Exchange.answerError config channel text cause h = (.error e, h.talked party) := by
  unfold Exchange.answerError
  rw [write_channel, bind_apply, lift_partyPart]
  generalize Line.write Party.channel.send config.timeout _ [] h.party = written
  obtain ⟨written, party⟩ := written
  cases written with
  | error e => exact ⟨e, party, rfl⟩
  | ok u => exact ⟨cause, party, rfl⟩

/-- The request was understood, and the attach and its answer remain. -/
theorem handled_service (config : EndpointConfig) (party : Party) (h : Hall) :
    let answered : StateM Hall (Except SessionError Unit) := do
      match ← service.attach with
      | .ok a => Exchange.deliver config channel service a
      | .error e => Exchange.answerError config channel e.message e
    Handled h (answered (h.talked party)).1 (answered (h.talked party)).2 := by
  dsimp only
  rw [bind_apply]
  have hservice : service.attach (h.talked party) = (h.talked party).welcome := rfl
  rw [hservice]
  cases hwelcome : (h.talked party).welcome with
  | mk result h₁ =>
    cases result with
    | error e =>
      obtain ⟨e', after, hanswer⟩ := answerError_channel config e.message e h₁
      dsimp only
      rw [hanswer]
      exact .refused party after h₁ e' e hwelcome
    | ok a =>
      dsimp only [Exchange.deliver]
      rw [write_channel, bind_apply, lift_partyPart]
      generalize Line.write Party.channel.send config.timeout _ _ h₁.party = written
      obtain ⟨written, after⟩ := written
      cases written with
      | error e => exact .takenBack party after h₁ a e hwelcome
      | ok u => exact .kept party after h₁ a hwelcome

/-- What answering a request comes to, case by case. -/
theorem handled_answer (config : EndpointConfig) (h : Hall) :
    Handled h (Exchange.answer config channel service h).1
      (Exchange.answer config channel service h).2 := by
  unfold Exchange.answer
  have hrelease (strays : List Descriptor) (h : Hall) : channel.release strays h =
    ((), h.talked (Party.channel.release strays h.party).2) := rfl
  rw [read_channel, bind_apply, lift_partyPart]
  generalize Line.read Party.channel.receive config.maxMessage config.timeout h.party = read
  obtain ⟨⟨line, strays⟩, party⟩ := read
  dsimp only
  rw [bind_apply, hrelease, talked_talked]
  generalize (Party.channel.release strays _).2 = party
  cases hline : line.map AttachRequest.decode with
  | error e => exact .unasked e party
  | ok decoded =>
    cases decoded with
    | error fault =>
      obtain ⟨e, after, hanswer⟩ := answerError_channel config
        ("invalid request: " ++ fault.message) (.malformed fault) (h.talked party)
      dsimp only
      rw [hanswer, talked_talked]
      exact .unasked e after
    | ok request =>
      dsimp only
      by_cases hattach : request = .attach
      · rw [if_pos hattach, bind_apply]
        exact handled_service config party h
      · obtain ⟨e, after, hanswer⟩ := answerError_channel config
          (Refusal.unknownMethod request.method).message
          (.refused (.unknownMethod request.method)) (h.talked party)
        rw [if_neg hattach, hanswer, talked_talked]
        exact .unasked e after

theorem setTimeouts_channel (timeout : Option Duration) (h : Hall) :
    ∃ result party, channel.setTimeouts timeout h = (result, h.talked party) := by
  have hread (h : Hall) : channel.setReadTimeout timeout h =
    (h.party.bounds.headD (.ok ()), h.talked (Party.bound timeout h.party).2) := rfl
  have hwrite (h : Hall) : channel.setWriteTimeout timeout h =
    (h.party.bounds.headD (.ok ()), h.talked (Party.bound timeout h.party).2) := rfl
  unfold Channel.setTimeouts
  rw [bind_apply, hread]
  cases h.party.bounds.headD (.ok ()) with
  | error e => exact ⟨_, _, rfl⟩
  | ok u =>
    dsimp only
    rw [hwrite, talked_talked]
    exact ⟨_, _, rfl⟩

theorem Handled.of_talked {party : Party} {result : Except SessionError Unit}
    (handled : Handled (h.talked party) result h') : Handled h result h' := by
  cases handled with
  | unasked e after => exact .unasked e after
  | refused before after h₁ e e' hwelcome => exact .refused before after h₁ e e' hwelcome
  | kept before after h₁ a hwelcome => exact .kept before after h₁ a hwelcome
  | takenBack before after h₁ a e hwelcome => exact .takenBack before after h₁ a e hwelcome

/-- What a conversation comes to, case by case. -/
theorem handled_handle (config : EndpointConfig) (h : Hall) :
    Handled h (Exchange.handle config channel service h).1
      (Exchange.handle config channel service h).2 := by
  obtain ⟨result, party, hbound⟩ := setTimeouts_channel (some config.timeout) h
  unfold Exchange.handle
  rw [bind_apply, hbound]
  cases result with
  | error e => exact .unasked _ party
  | ok u =>
    have hanswer := (handled_answer config (h.talked party)).of_talked
    dsimp only
    rw [bind_apply]
    generalize Exchange.answer config channel service (h.talked party) = answered at hanswer ⊢
    obtain ⟨result, h₁⟩ := answered
    exact hanswer

end Hall

end Framecast
