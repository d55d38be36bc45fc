import Framecast.Proofs.Frame.Packets
import Framecast.Proofs.Session.Changes

/-!
# Whole frames

A fan-out gives each client whole packets, in the order in which they were rendered, and nothing of
a packet that was skipped. Only a client whose write failed may be left with a part of a packet, at
the very end; it is no client any longer, and its socket is given nothing more.

`Follows` says what became of the clients of a hall from one moment to a later one. Every change
satisfies it and it can be chained, so every run does.
-/

namespace Framecast

namespace Hall

variable {h h' h'' : Hall} {c : FanoutClient}

/-- What a socket has taken. -/
def taken (h : Hall) (socket : SocketId) : Stretch :=
  (h.outlet socket).script.accepted

/-- The packet of a rendering, if the client got all of it. -/
def Note.gave (client : Nat) : Note → List Packet
  | .rendered r =>
    if r.deliveries.any fun d => d.client = client && d.isWhole then r.packet.toList else []
  | _ => []

/-- The packets that a client got, in order. -/
def got (client : Nat) (notes : List Note) : List Packet :=
  notes.reverse.flatMap (Note.gave client)

/-- What a client got earlier comes first. -/
theorem got_append (client : Nat) (later earlier : List Note) :
    got client (later ++ earlier) = got client earlier ++ got client later := by
  simp [got]

/-- The packet that a client got only a part of. -/
def FailedAt (client : Nat) (packet : Packet) (notes : List Note) : Prop :=
  ∃ r, .rendered r ∈ notes ∧ client ∈ Delivery.failed r.deliveries ∧ r.packet = some packet

/-- What was put into a client's socket: packets that it got, and a part of one more at most, if a
write failed. -/
def Served (client : Nat) (notes : List Note) (before after : Stretch) : Prop :=
  ∃ torn, after = before ++ (got client notes).flatMap Packet.stretch ++ torn ∧
    (torn = [] ∨ ∃ packet, FailedAt client packet notes ∧ torn.IsTorn packet.stretch)

/-- The clients differ from one another, and from those to come. -/
structure Distinct (h : Hall) : Prop where
  ids : (h.fanout.clients.map (·.id)).Nodup
  sockets : (h.fanout.clients.map (·.socket)).Nodup
  id_lt : ∀ c ∈ h.fanout.clients, c.id < h.fanout.nextId
  socket_lt : ∀ c ∈ h.fanout.clients, c.socket < h.used

/-- What became of a hall, and of the clients that it had. -/
structure Follows (h h' : Hall) (later : List Note) : Prop where
  notes : h'.notes = later ++ h.notes
  nextId : h.fanout.nextId ≤ h'.fanout.nextId
  used : h.used ≤ h'.used
  newcomers : ∀ c ∈ h'.fanout.clients,
    c ∈ h.fanout.clients ∨ (h.fanout.nextId ≤ c.id ∧ h.used ≤ c.socket)
  silent : ∀ x, x < h.used → (∀ c ∈ h.fanout.clients, c.socket ≠ x) → h'.taken x = h.taken x
  reached : ∀ r, .rendered r ∈ later → ∀ d ∈ r.deliveries, d.client < h.fanout.nextId →
    ∃ c ∈ h.fanout.clients, c.id = d.client
  served : ∀ c ∈ h.fanout.clients, Served c.id later (h.taken c.socket) (h'.taken c.socket)
  gone : ∀ c ∈ h.fanout.clients, ∀ r, .rendered r ∈ later → c.id ∈ Delivery.failed r.deliveries →
    c ∉ h'.fanout.clients

/-! ### Clients differ -/

theorem Distinct.eq_of_id (h : Distinct h') {c d : FanoutClient} (hc : c ∈ h'.fanout.clients)
    (hd : d ∈ h'.fanout.clients) (hid : c.id = d.id) : c = d :=
  List.inj_on_of_nodup_map h.ids hc hd hid

/-- No two clients share a socket. -/
theorem Distinct.eq_of_socket (h : Distinct h') {c d : FanoutClient}
    (hc : c ∈ h'.fanout.clients) (hd : d ∈ h'.fanout.clients) (hsocket : c.socket = d.socket) :
    c = d :=
  List.inj_on_of_nodup_map h.sockets hc hd hsocket

/-- Clients may leave. -/
theorem Distinct.sublist (h : Distinct h') (hsub : h''.fanout.clients.Sublist h'.fanout.clients)
    (hnextId : h'.fanout.nextId ≤ h''.fanout.nextId) (hused : h'.used ≤ h''.used) :
    Distinct h'' where
  ids := h.ids.sublist (hsub.map _)
  sockets := h.sockets.sublist (hsub.map _)
  id_lt c hc := Nat.lt_of_lt_of_le (h.id_lt c (hsub.subset hc)) hnextId
  socket_lt c hc := Nat.lt_of_lt_of_le (h.socket_lt c (hsub.subset hc)) hused

/-- A new client is distinct from all others. -/
theorem Distinct.joined (h : Distinct h') (hjoined : Joined h' h'' c) : Distinct h'' := by
  have hclients := hjoined.clients
  refine ⟨?_, ?_, ?_, ?_⟩
  · rw [hclients, List.map_append, List.nodup_append]
    refine ⟨h.ids, by simp, ?_⟩
    intro id hid other hother
    obtain ⟨d, hd, rfl⟩ := List.mem_map.mp hid
    have hother : other = c.id := by simpa using hother
    rw [hother]
    exact Nat.ne_of_lt (Nat.lt_of_lt_of_le (h.id_lt d hd) hjoined.id_ge)
  · rw [hclients, List.map_append, List.nodup_append]
    refine ⟨h.sockets, by simp, ?_⟩
    intro socket hsocket other hother
    obtain ⟨d, hd, rfl⟩ := List.mem_map.mp hsocket
    have hother : other = c.socket := by simpa using hother
    rw [hother]
    exact Nat.ne_of_lt (Nat.lt_of_lt_of_le (h.socket_lt d hd) hjoined.socket_ge)
  · intro d hd
    rw [hclients] at hd
    rcases List.mem_append.mp hd with hd | hd
    · exact Nat.lt_of_lt_of_le (h.id_lt d hd) hjoined.nextId
    · rw [List.mem_singleton.mp hd]
      exact hjoined.id_lt
  · intro d hd
    rw [hclients] at hd
    rcases List.mem_append.mp hd with hd | hd
    · exact Nat.lt_of_lt_of_le (h.socket_lt d hd) hjoined.used
    · rw [List.mem_singleton.mp hd]
      exact hjoined.socket_lt

/-! ### From one moment to the next -/

theorem FailedAt.mono {client : Nat} {packet : Packet} {notes more : List Note}
    (h : FailedAt client packet notes) (hsub : ∀ n ∈ notes, n ∈ more) :
    FailedAt client packet more := by
  obtain ⟨r, hr, hfailed⟩ := h
  exact ⟨r, hsub _ hr, hfailed⟩

/-- A client that got a part of a packet first is given nothing later. -/
theorem Served.left {client : Nat} {earlier later : List Note} {before after : Stretch}
    (served : Served client earlier before after) (hgot : got client later = []) :
    Served client (later ++ earlier) before after := by
  obtain ⟨torn, hafter, htorn⟩ := served
  refine ⟨torn, ?_, ?_⟩
  · rw [hafter, got_append, hgot, List.append_nil]
  · rcases htorn with hnone | ⟨packet, hfailed, hpart⟩
    · exact .inl hnone
    · exact .inr ⟨packet, hfailed.mono fun n hn => List.mem_append_right _ hn, hpart⟩

/-- No write to the client failed first, and it is served later. -/
theorem Served.trans {client : Nat} {earlier later : List Note} {before between after : Stretch}
    (first : Served client earlier before between)
    (hnever : ∀ r, .rendered r ∈ earlier → client ∉ Delivery.failed r.deliveries)
    (second : Served client later between after) : Served client (later ++ earlier) before after := by
  obtain ⟨torn, hbetween, htorn⟩ := first
  have hnone : torn = [] := by
    rcases htorn with hnone | ⟨packet, ⟨r, hr, hfailed, -⟩, -⟩
    · exact hnone
    · exact absurd hfailed (hnever r hr)
  obtain ⟨torn', hafter, htorn'⟩ := second
  refine ⟨torn', ?_, ?_⟩
  · rw [hafter, hbetween, hnone, got_append, List.flatMap_append]
    simp only [List.append_assoc, List.nil_append]
  · rcases htorn' with hnone' | ⟨packet, hfailed, hpart⟩
    · exact .inl hnone'
    · exact .inr ⟨packet, hfailed.mono fun n hn => List.mem_append_left _ hn, hpart⟩

/-- What a client left behind is not found with those who are there later. -/
theorem Follows.alone {later : List Note} (hdistinct : Distinct h) (follows : Follows h h' later)
    (hc : c ∈ h.fanout.clients) (hnot : c ∉ h'.fanout.clients) :
    ∀ d ∈ h'.fanout.clients, d.id ≠ c.id ∧ d.socket ≠ c.socket := by
  intro d hd
  rcases follows.newcomers d hd with hold | ⟨hid, hsocket⟩
  · constructor
    · intro heq
      exact hnot (hdistinct.eq_of_id hold hc heq ▸ hd)
    · intro heq
      exact hnot (hdistinct.eq_of_socket hold hc heq ▸ hd)
  · exact ⟨Nat.ne_of_gt (Nat.lt_of_lt_of_le (hdistinct.id_lt c hc) hid),
      Nat.ne_of_gt (Nat.lt_of_lt_of_le (hdistinct.socket_lt c hc) hsocket)⟩

/-- A client that has left is not reached again. -/
theorem Follows.got_eq_nil {later : List Note} (h : Follows h' h'' later)
    (hlt : c.id < h'.fanout.nextId) (hnot : ∀ d ∈ h'.fanout.clients, d.id ≠ c.id) :
    got c.id later = [] := by
  rw [got, List.flatMap_eq_nil_iff]
  intro n hn
  cases n with
  | rendered r =>
    apply if_neg
    rw [List.any_eq_true]
    rintro ⟨d, hd, hwhole⟩
    have hid : d.client = c.id := by
      have hboth := (Bool.and_eq_true_iff.mp hwhole).1
      simpa using hboth
    obtain ⟨e, he, heq⟩ := h.reached r (List.mem_reverse.mp hn) d hd (hid ▸ hlt)
    exact hnot e he (heq.trans hid)
  | added | attached | committed | givenUp | removed => rfl

/-- What clients took in several calls adds up. -/
theorem Follows.trans {earlier later : List Note} (hdistinct : Distinct h)
    (first : Follows h h' earlier) (second : Follows h' h'' later) :
    Follows h h'' (later ++ earlier) where
  notes := by rw [second.notes, first.notes, List.append_assoc]
  nextId := Nat.le_trans first.nextId second.nextId
  used := Nat.le_trans first.used second.used
  newcomers := by
    intro c hc
    rcases second.newcomers c hc with hc | ⟨hid, hsocket⟩
    · exact first.newcomers c hc
    · exact .inr ⟨Nat.le_trans first.nextId hid, Nat.le_trans first.used hsocket⟩
  silent := by
    intro x hx hnot
    rw [second.silent x (Nat.lt_of_lt_of_le hx first.used), first.silent x hx hnot]
    intro c hc
    rcases first.newcomers c hc with hc | ⟨-, hsocket⟩
    · exact hnot c hc
    · exact Nat.ne_of_gt (Nat.lt_of_lt_of_le hx hsocket)
  reached := by
    intro r hr d hd hlt
    rcases List.mem_append.mp hr with hr | hr
    · obtain ⟨c, hc, hid⟩ := second.reached r hr d hd (Nat.lt_of_lt_of_le hlt first.nextId)
      rcases first.newcomers c hc with hc | ⟨hge, -⟩
      · exact ⟨c, hc, hid⟩
      · omega
    · exact first.reached r hr d hd hlt
  served := by
    intro c hc
    by_cases hstill : c ∈ h'.fanout.clients
    · refine (first.served c hc).trans ?_ (second.served c hstill)
      intro r hr hfailed
      exact first.gone c hc r hr hfailed hstill
    -- its number and its socket are given to nobody else
    · have halone := first.alone hdistinct hc hstill
      have hlt := Nat.lt_of_lt_of_le (hdistinct.id_lt c hc) first.nextId
      have hgot := second.got_eq_nil hlt fun d hd => (halone d hd).1
      have hsilent := second.silent c.socket
        (Nat.lt_of_lt_of_le (hdistinct.socket_lt c hc) first.used) fun d hd => (halone d hd).2
      rw [hsilent]
      exact (first.served c hc).left hgot
  gone := by
    intro c hc r hr hfailed hlast
    have hstill : c ∈ h'.fanout.clients := by
      rcases second.newcomers c hlast with hstill | ⟨hge, -⟩
      · exact hstill
      · have hlt := Nat.lt_of_lt_of_le (hdistinct.id_lt c hc) first.nextId
        omega
    rcases List.mem_append.mp hr with hr | hr
    · exact second.gone c hstill r hr hfailed hlast
    · exact first.gone c hc r hr hfailed hstill

/-! ### The changes -/

/-- Among what was noted, no client was rendered to. -/
def Unrendered (later : List Note) : Prop :=
  ∀ r, .rendered r ∈ later → r.deliveries = []

theorem unrendered_nil : Unrendered [] :=
  fun _ hr => absurd hr List.not_mem_nil

/-- Nothing was rendered to any client, and no socket was written to. -/
theorem Follows.of_unrendered {later : List Note} (hnotes : h'.notes = later ++ h.notes)
    (hnextId : h.fanout.nextId ≤ h'.fanout.nextId) (hused : h.used ≤ h'.used)
    (hnewcomers : ∀ c ∈ h'.fanout.clients,
      c ∈ h.fanout.clients ∨ (h.fanout.nextId ≤ c.id ∧ h.used ≤ c.socket))
    (houtlet : ∀ x, x < h.used → h'.outlet x = h.outlet x)
    (hsockets : ∀ c ∈ h.fanout.clients, c.socket < h.used)
    (hnone : Unrendered later) : Follows h h' later where
  notes := hnotes
  nextId := hnextId
  used := hused
  newcomers := hnewcomers
  silent x hx _ := by rw [taken, houtlet x hx, taken]
  reached := by
    intro r hr d hd
    rw [hnone r hr] at hd
    cases hd
  served := by
    intro c hc
    have hgot : got c.id later = [] := by
      rw [got, List.flatMap_eq_nil_iff]
      intro n hn
      cases n with
      | rendered r =>
        show (if _ then _ else _ : List Packet) = _
        rw [hnone r (List.mem_reverse.mp hn)]
        rfl
      | added | attached | committed | givenUp | removed => rfl
    refine ⟨[], ?_, .inl rfl⟩
    rw [hgot, taken, houtlet c.socket (hsockets c hc), taken]
    simp
  gone := by
    intro c _ r hr hfailed
    rw [hnone r hr] at hfailed
    cases hfailed

theorem Follows.of_quiet (hdistinct : Distinct h) (hquiet : Quiet h h') : Follows h h' [] := by
  apply Follows.of_unrendered hquiet.notes hquiet.nextId hquiet.used _ hquiet.outlet
    hdistinct.socket_lt unrendered_nil
  intro c hc
  rw [hquiet.clients] at hc
  exact .inl hc

theorem Follows.of_joined (hdistinct : Distinct h) (hjoined : Joined h h' c) :
    Follows h h' [] := by
  apply Follows.of_unrendered hjoined.notes hjoined.nextId hjoined.used _ hjoined.outlet
    hdistinct.socket_lt unrendered_nil
  intro d hd
  rw [hjoined.clients] at hd
  rcases List.mem_append.mp hd with hd | hd
  · exact .inl hd
  · rw [List.mem_singleton.mp hd]
    exact .inr ⟨hjoined.id_ge, hjoined.socket_ge⟩

theorem Follows.of_left (hdistinct : Distinct h) {client : Nat} (hleft : Left h h' client) :
    Follows h h' [] := by
  apply Follows.of_unrendered hleft.notes hleft.nextId hleft.used _ hleft.outlet
    hdistinct.socket_lt unrendered_nil
  intro d hd
  rw [hleft.clients] at hd
  exact .inl (List.mem_filter.mp hd).1

/-- What a script makes of a packet, if it is noted. -/
theorem served_wrote (packet : Packet) (client : Nat) (script : SendScript) {notes : List Note}
    (hgot : got client notes =
      if (Delivery.mk client (wrote packet script).1).isWhole then [packet] else [])
    (hfailed : (Delivery.mk client (wrote packet script).1).isFailed = true →
      FailedAt client packet notes) :
    Served client notes script.accepted (wrote packet script).2.accepted := by
  obtain ⟨hwritten, hskipped⟩ := packet.write_accepted false script
  unfold wrote at hgot hfailed ⊢
  cases houtcome : (packet.write SendScript.sender false script).1 with
  | error e =>
    obtain ⟨torn, htorn, haccepted⟩ := Packet.write_torn houtcome
    rw [houtcome] at hgot hfailed
    refine ⟨torn, ?_, .inr ⟨packet, hfailed rfl, htorn⟩⟩
    rw [hgot, haccepted]
    exact congrArg (· ++ torn) (List.append_nil _).symm
  | ok outcome =>
    rw [houtcome] at hgot
    cases outcome with
    | written =>
      refine ⟨[], ?_, .inl rfl⟩
      rw [hgot, hwritten houtcome]
      simp [Delivery.isWhole]
    | wouldBlock =>
      refine ⟨[], ?_, .inl rfl⟩
      rw [hgot, hskipped houtcome]
      simp [Delivery.isWhole]

/-- The clients to drop are those whose delivery failed. -/
theorem mem_failed {client : Nat} {deliveries : List Delivery} :
    client ∈ Delivery.failed deliveries ↔
      ∃ d ∈ deliveries, d.isFailed = true ∧ d.client = client := by
  unfold Delivery.failed
  simp [and_assoc]

/-- A rendering gives a client its packet, if that was taken whole. -/
theorem gave_rendering (packet : Packet) (hdistinct : Distinct h) (hc : c ∈ h.fanout.clients) :
    Note.gave c.id (.rendered (rendering packet h)) =
      if (delivery packet h c).isWhole then [packet] else [] := by
  have hwhole : ((rendering packet h).deliveries.any fun d => d.client = c.id && d.isWhole) =
      (delivery packet h c).isWhole := by
    rw [Bool.eq_iff_iff, List.any_eq_true]
    constructor
    · rintro ⟨d, hd, hboth⟩
      obtain ⟨e, he, rfl⟩ := List.mem_map.mp hd
      obtain ⟨hid, hd⟩ := Bool.and_eq_true_iff.mp hboth
      have heq : e = c := hdistinct.eq_of_id he hc (of_decide_eq_true hid)
      exact heq ▸ hd
    · intro hwhole
      refine ⟨delivery packet h c, List.mem_map.mpr ⟨c, hc, rfl⟩, ?_⟩
      rw [hwhole]
      simp [delivery]
  show (if _ then _ else _ : List Packet) = _
  rw [hwhole]
  rfl

/-- A packet that is published reaches each client whole, in part or not at all. -/
theorem follows_published {buffer : Buffer} {packet : Packet} (hdistinct : Distinct h)
    (hpublished : Published buffer packet h h') :
    Follows h (h'.note (.rendered (rendering packet h))) [.rendered (rendering packet h)] where
  notes := congrArg _ hpublished.notes
  nextId := Nat.le_of_eq hpublished.nextId.symm
  used := Nat.le_of_eq hpublished.used.symm
  newcomers := by
    intro c hc
    have hc' : c ∈ h'.fanout.clients := hc
    rw [hpublished.clients] at hc'
    exact .inl (List.mem_filter.mp hc').1
  silent := by
    intro x hx hnot
    have hx : x ∉ h.fanout.clients.map (·.socket) := by
      intro hmem
      obtain ⟨c, hc, heq⟩ := List.mem_map.mp hmem
      exact hnot c hc heq
    show (h'.outlet x).script.accepted = _
    rw [hpublished.outlet]
    show (ite _ _ _ : Outlet).script.accepted = _
    rw [if_neg hx]
    rfl
  reached := by
    intro r hr d hd hlt
    have hr : r = rendering packet h := by simpa using hr
    rw [hr] at hd
    obtain ⟨c, hc, rfl⟩ := List.mem_map.mp hd
    exact ⟨c, hc, rfl⟩
  served := by
    intro c hc
    have hsocket : c.socket ∈ h.fanout.clients.map (·.socket) := List.mem_map.mpr ⟨c, hc, rfl⟩
    have hafter : (h'.note (.rendered (rendering packet h))).taken c.socket =
        (wrote packet (h.outlet c.socket).script).2.accepted := by
      show (h'.outlet c.socket).script.accepted = _
      rw [hpublished.outlet]
      show (ite _ _ _ : Outlet).script.accepted = _
      rw [if_pos hsocket]
    rw [hafter]
    apply served_wrote packet c.id (h.outlet c.socket).script
    · rw [got, List.reverse_singleton, List.flatMap_singleton]
      exact gave_rendering packet hdistinct hc
    · intro hfailed
      refine ⟨rendering packet h, List.mem_singleton.mpr rfl, ?_, rfl⟩
      exact mem_failed.mpr ⟨delivery packet h c, List.mem_map.mpr ⟨c, hc, rfl⟩, hfailed, rfl⟩
  gone := by
    intro c hc r hr hfailed hstill
    have hr : r = rendering packet h := by simpa using hr
    have hstill : c ∈ h'.fanout.clients := hstill
    rw [hpublished.clients] at hstill
    have hnot : c.id ∉ Delivery.failed (rendering packet h).deliveries := by
      simpa using (List.mem_filter.mp hstill).2
    exact hnot (hr ▸ hfailed)

/-! ### The calls -/

/-- The clients of a hall are served until a later moment, and differ again. -/
def Goes (h h' : Hall) : Prop :=
  Distinct h → Distinct h' ∧ ∃ later, Follows h h' later

theorem Goes.trans (first : Goes h h') (second : Goes h' h'') : Goes h h'' := by
  intro hdistinct
  obtain ⟨hdistinct', earlier, hfirst⟩ := first hdistinct
  obtain ⟨hdistinct'', later, hsecond⟩ := second hdistinct'
  exact ⟨hdistinct'', later ++ earlier, hfirst.trans hdistinct hsecond⟩

theorem goes_of_quiet (hquiet : Quiet h h') : Goes h h' := by
  intro hdistinct
  have hsub : h'.fanout.clients.Sublist h.fanout.clients := by
    rw [hquiet.clients]
  exact ⟨hdistinct.sublist hsub hquiet.nextId hquiet.used, [], .of_quiet hdistinct hquiet⟩

theorem goes_of_joined (hjoined : Joined h h' c) : Goes h h' :=
  fun hdistinct => ⟨hdistinct.joined hjoined, [], .of_joined hdistinct hjoined⟩

theorem goes_of_left {client : Nat} (hleft : Left h h' client) : Goes h h' := by
  intro hdistinct
  have hsub : h'.fanout.clients.Sublist h.fanout.clients := by
    rw [hleft.clients]
    exact List.filter_sublist
  exact ⟨hdistinct.sublist hsub hleft.nextId hleft.used, [], .of_left hdistinct hleft⟩

theorem goes_of_published {buffer : Buffer} {packet : Packet}
    (hpublished : Published buffer packet h h') :
    Goes h (h'.note (.rendered (rendering packet h))) := by
  intro hdistinct
  have hsub : h'.fanout.clients.Sublist h.fanout.clients := by
    rw [hpublished.clients]
    exact List.filter_sublist
  exact ⟨hdistinct.sublist hsub (Nat.le_of_eq hpublished.nextId.symm)
    (Nat.le_of_eq hpublished.used.symm), _, follows_published hdistinct hpublished⟩

/-- Something happened that is of no interest to the clients. -/
theorem goes_of_same (later : List Note) (hfanout : h'.fanout = h.fanout)
    (houtlet : h'.outlet = h.outlet) (hused : h'.used = h.used)
    (hnotes : h'.notes = later ++ h.notes) (hnone : Unrendered later) : Goes h h' := by
  intro hdistinct
  have hnextId : h.fanout.nextId ≤ h'.fanout.nextId := Nat.le_of_eq (by rw [hfanout])
  have hused' : h.used ≤ h'.used := Nat.le_of_eq hused.symm
  have hsub : h'.fanout.clients.Sublist h.fanout.clients := by rw [hfanout]
  refine ⟨hdistinct.sublist hsub hnextId hused', later, ?_⟩
  apply Follows.of_unrendered hnotes hnextId hused' _ _ hdistinct.socket_lt hnone
  · intro c hc
    exact .inl (hsub.subset hc)
  · intro x hx
    rw [houtlet]

/-- The fan-out and the sockets are as they were, and nothing was noted. -/
theorem goes_of_untold (hfanout : h'.fanout = h.fanout) (houtlet : h'.outlet = h.outlet)
    (hused : h'.used = h.used) (hnotes : h'.notes = h.notes) : Goes h h' :=
  goes_of_same [] hfanout houtlet hused hnotes unrendered_nil

theorem goes_note {n : Note} (hnone : Unrendered [n]) (h : Hall) : Goes h (h.note n) :=
  goes_of_same [n] rfl rfl rfl rfl hnone

/-- Whether the note is of a rendering. -/
def Note.isRendered : Note → Bool
  | .rendered _ => true
  | _ => false

theorem unrendered_singleton {n : Note} (hn : n.isRendered = false) : Unrendered [n] := by
  intro r hr
  rw [← List.mem_singleton.mp hr] at hn
  cases hn

theorem goes_noteFor {about : Nat → Note} (hnone : ∀ client, Unrendered [about client])
    (a : Attachment) (h : Hall) : Goes h (h.noteFor about a) := by
  unfold noteFor
  cases a.client? with
  | none => exact goes_of_untold rfl rfl rfl rfl
  | some client => exact goes_note (hnone client) h

theorem goes_add (outlet : Outlet) (h : Hall) : Goes h (h.add outlet).2 := by
  have hregistered := registered_opened (beside_opened outlet h) rfl (Nat.le_refl _)
    (Nat.lt_succ_self _)
  unfold add
  generalize Fanout.register host h.used (h.opened outlet) = registered at hregistered ⊢
  obtain ⟨result, h₁⟩ := registered
  cases hregistered with
  | failed e _ hquiet => exact goes_of_quiet hquiet
  | joined c _ hjoined =>
    exact (goes_of_joined hjoined).trans
      (goes_note (unrendered_singleton rfl) h₁)

theorem goes_remove (client : Nat) (h : Hall) : Goes h (h.remove client).2 := by
  have hleft := left_unregister client h
  unfold remove
  generalize Fanout.unregister host client h = unregistered at hleft ⊢
  obtain ⟨found, h₁⟩ := unregistered
  cases found with
  | false => exact goes_of_left hleft
  | true =>
    exact (goes_of_left hleft).trans
      (goes_note (unrendered_singleton rfl) h₁)

theorem goes_render (buffer : Buffer) (now : Readings) (h : Hall) :
    Goes h (h.render buffer now).2 := by
  have hclocks : Goes h { h with clocks := now } := goes_of_untold rfl rfl rfl rfl
  apply hclocks.trans
  intro hdistinct
  cases hrender : h.render buffer now with
  | mk result h' =>
    cases result with
    | error e =>
      exact goes_of_quiet (render_error hdistinct.ids hdistinct.sockets hrender) hdistinct
    | ok r =>
      rcases render_ok hdistinct.ids hdistinct.sockets hrender with
        ⟨-, rfl, rfl⟩ | ⟨packet, h₀, hpublished, rfl, rfl⟩
      · have hempty : Unrendered [.rendered {}] := by
          intro r hr
          cases List.mem_singleton.mp hr
          rfl
        exact goes_note hempty _ hdistinct
      · exact goes_of_published hpublished hdistinct

theorem goes_welcome (h : Hall) : Goes h h.welcome.2 := by
  intro hdistinct
  cases hwelcome : h.welcome with
  | mk result h' =>
    cases result with
    | error e => exact goes_of_quiet (welcome_error hdistinct.id_lt hwelcome) hdistinct
    | ok a =>
      obtain ⟨c, h₀, hjoined, -, rfl⟩ := welcome_ok hdistinct.id_lt hwelcome
      exact (goes_of_joined hjoined).trans
        (goes_note (unrendered_singleton rfl) h₀) hdistinct

theorem goes_giveUp (a : Attachment) (h : Hall) : Goes h (h.giveUp a) := by
  cases ha : a.client? with
  | none =>
    rw [giveUp_of_none ha]
    exact goes_of_quiet (.refl h)
  | some client =>
    have hleft := left_unregister client h
    rw [unregister_eq] at hleft
    rw [giveUp_of_client ha]
    exact (goes_of_left hleft).trans
      (goes_note (unrendered_singleton rfl) _)

theorem goes_talked (party : Party) (h : Hall) : Goes h (h.talked party) :=
  goes_of_untold rfl rfl rfl rfl

theorem goes_committed (a : Attachment) (h : Hall) : Goes h (h.noteFor .committed a) :=
  goes_noteFor (fun _ => unrendered_singleton rfl) a h

theorem goes_attach (attempt : Attempt) (h : Hall) : Goes h (h.attach attempt).2 := by
  have hattempt : Goes h { h with attempt := attempt } := goes_of_untold rfl rfl rfl rfl
  have hwelcome := hattempt.trans (goes_welcome _)
  unfold attach
  generalize welcome { h with attempt := attempt } = welcomed at hwelcome ⊢
  obtain ⟨result, h₁⟩ := welcomed
  cases result with
  | error e => exact hwelcome
  | ok a => exact hwelcome.trans (goes_of_untold rfl rfl rfl rfl)

theorem goes_handle (config : EndpointConfig) (attempt : Attempt) (party : Party) (h : Hall) :
    Goes h (h.handle config attempt party).2 := by
  have hready : Goes h { h with attempt := attempt, party := party } :=
    goes_of_untold rfl rfl rfl rfl
  apply hready.trans
  have handled := handled_handle config { h with attempt := attempt, party := party }
  unfold handle
  generalize Exchange.handle config channel service _ = answered at handled ⊢
  obtain ⟨result, h'⟩ := answered
  generalize { h with attempt := attempt, party := party } = ready at handled ⊢
  cases handled with
  | unasked e after => exact goes_talked after ready
  | refused before after h₁ e e' hwelcome =>
    have hgoes := goes_welcome (ready.talked before)
    rw [hwelcome] at hgoes
    exact ((goes_talked before ready).trans hgoes).trans (goes_talked after h₁)
  | kept before after h₁ a hwelcome =>
    have hgoes := goes_welcome (ready.talked before)
    rw [hwelcome] at hgoes
    have htalked := ((goes_talked before ready).trans hgoes).trans (goes_talked after h₁)
    exact (htalked.trans (goes_committed a _)).trans (goes_giveUp a.commit _)
  | takenBack before after h₁ a e hwelcome =>
    have hgoes := goes_welcome (ready.talked before)
    rw [hwelcome] at hgoes
    have htalked := ((goes_talked before ready).trans hgoes).trans (goes_talked after h₁)
    exact htalked.trans (goes_giveUp a _)

theorem goes_setReply (reply : Nat) (a : Option Attachment) (h : Hall) :
    Goes h (h.setReply reply a) :=
  goes_of_untold rfl rfl rfl rfl

theorem goes_call (c : Call) (h : Hall) : Goes h (h.call c) := by
  cases c with
  | add outlet => exact goes_add outlet h
  | remove client => exact goes_remove client h
  | render buffer now => exact goes_render buffer now h
  | attach attempt => exact goes_attach attempt h
  | handle config attempt party => exact goes_handle config attempt party h
  | commit reply =>
    show Goes h (h.commit reply)
    unfold commit
    cases h.replies reply with
    | none => exact goes_of_quiet (.refl h)
    | some a => exact (goes_setReply reply _ h).trans (goes_committed a _)
  | takeApart reply =>
    show Goes h (h.takeApart reply)
    unfold takeApart
    cases h.replies reply with
    | none => exact goes_of_quiet (.refl h)
    | some a => exact (goes_setReply reply _ h).trans (goes_committed a _)
  | drop reply =>
    show Goes h (h.drop reply)
    unfold drop
    cases h.replies reply with
    | none => exact goes_of_quiet (.refl h)
    | some a => exact (goes_setReply reply _ h).trans (goes_giveUp a _)

/-- Frames stay whole in every run. -/
theorem goes_run (calls : List Call) (h : Hall) : Goes h (h.run calls) := by
  induction calls generalizing h with
  | nil => exact goes_of_quiet (.refl h)
  | cons c rest ih => exact (goes_call c h).trans (ih (h.call c))

/-! ### Every run -/

/-- A client that never failed took exactly its frames. -/
theorem Served.complete {client : Nat} {notes : List Note} {before after : Stretch}
    (served : Served client notes before after)
    (hnever : ∀ r, .rendered r ∈ notes → client ∉ Delivery.failed r.deliveries) :
    after.bytes = before.bytes ++ (got client notes).flatMap Packet.wire ∧
      after.descriptors = before.descriptors ++ (got client notes).flatMap Packet.descriptors := by
  obtain ⟨torn, hafter, hnone | ⟨packet, ⟨r, hr, hfailed, -⟩, -⟩⟩ := served
  · have hwhole (packets : List Packet) :
        Stretch.bytes (packets.flatMap Packet.stretch) = packets.flatMap Packet.wire ∧
          Stretch.descriptors (packets.flatMap Packet.stretch) =
            packets.flatMap Packet.descriptors := by
      induction packets with
      | nil => exact ⟨rfl, rfl⟩
      | cons p rest ih => simp [ih]
    obtain ⟨hbytes, hdescriptors⟩ := hwhole (got client notes)
    rw [hafter, hnone, List.append_nil, Stretch.bytes_append, Stretch.descriptors_append, hbytes,
      hdescriptors]
    exact ⟨rfl, rfl⟩
  · exact absurd hfailed (hnever r hr)

/-- Every delivery is whole, skipped or failed. -/
theorem countP_deliveries (deliveries : List Delivery) :
    deliveries.countP (·.isWhole) + deliveries.countP (·.isSkipped) +
      (Delivery.failed deliveries).length = deliveries.length := by
  unfold Delivery.failed
  rw [List.length_map, ← List.countP_eq_length_filter]
  induction deliveries with
  | nil => rfl
  | cons d rest ih =>
    have hone : (if d.isWhole then 1 else 0) + (if d.isSkipped then 1 else 0) +
        (if d.isFailed then 1 else 0) = 1 := by
      obtain ⟨client, e | _ | _⟩ := d <;> rfl
    rw [List.countP_cons, List.countP_cons, List.countP_cons, List.length_cons]
    omega

/-- A rendering that succeeded, and what it did to the hall. -/
structure Accounted (buffer : Buffer) (now : Readings) (r : Rendering) (h h' : Hall) : Prop where
  /-- All clients are given the same packet, made from the buffer. -/
  packet : r.packet = none → h.fanout.clients = []
  made : ∀ packet, r.packet = some packet → ∃ (framer : Framer) (names : Arena.NameSpace),
    (framer.prepare now buffer names).1 = .ok packet
  targets : r.deliveries.map (·.client) = h.fanout.clients.map (·.id)
  tally : r.tally.delivered + r.tally.skipped + r.tally.dropped = h.fanout.clients.length
  dropped : r.tally.dropped = (Delivery.failed r.deliveries).length
  clients : h'.fanout.clients =
    h.fanout.clients.filter (·.id ∉ Delivery.failed r.deliveries)
  sent : h'.fanout.framer.framesSent =
    h.fanout.framer.framesSent + if 0 < r.tally.delivered then 1 else 0
  notes : h'.notes = .rendered r :: h.notes

/-- The tally of a rendering is right. -/
theorem accounted_published {buffer : Buffer} {now : Readings} {packet : Packet}
    (hpublished : Published buffer packet { h with clocks := now } h') :
    Accounted buffer now (rendering packet h) h (h'.note (.rendered (rendering packet h))) where
  packet := nofun
  made := by
    intro p hp
    cases hp
    exact hpublished.made
  targets := List.map_map
  tally := by
    have hall := countP_deliveries (rendering packet h).deliveries
    rw [rendering, List.length_map] at hall
    exact hall
  dropped := rfl
  clients := hpublished.clients
  sent := by
    refine hpublished.sent.trans (congrArg (h.fanout.framer.framesSent + ·) ?_)
    refine if_congr ?_ rfl rfl
    show _ ↔ 0 < List.countP _ _
    rw [List.countP_pos_iff, List.any_eq_true]
    rfl
  notes := congrArg _ hpublished.notes

theorem accounted_idle {buffer : Buffer} {now : Readings} (hnone : h.fanout.clients = []) :
    Accounted buffer now {} h ({ h with clocks := now }.note (.rendered {})) where
  packet _ := hnone
  made := nofun
  targets := by rw [hnone]; rfl
  tally := by rw [hnone]; rfl
  dropped := rfl
  clients := by rw [hnone]; exact hnone
  sent := rfl
  notes := rfl

/-- From this moment on, whatever is called, clients are given whole frames. -/
structure Fair (h : Hall) : Prop where
  served : ∀ calls, ∃ later, (h.run calls).notes = later ++ h.notes ∧
    ∀ c ∈ h.fanout.clients,
      Served c.id later (h.taken c.socket) ((h.run calls).taken c.socket) ∧
      ∀ r, .rendered r ∈ later → c.id ∈ Delivery.failed r.deliveries →
        c ∉ (h.run calls).fanout.clients
  /-- A client that never failed was given the wire form of the packets that it got, each with its
  descriptor. -/
  complete : ∀ calls later, (h.run calls).notes = later ++ h.notes → ∀ c ∈ h.fanout.clients,
    (∀ r, .rendered r ∈ later → c.id ∉ Delivery.failed r.deliveries) →
      ((h.run calls).taken c.socket).bytes =
        (h.taken c.socket).bytes ++ (got c.id later).flatMap Packet.wire ∧
      ((h.run calls).taken c.socket).descriptors =
        (h.taken c.socket).descriptors ++ (got c.id later).flatMap Packet.descriptors
  /-- A client that has left is given nothing more. -/
  silent : ∀ before after, ∀ c ∈ h.fanout.clients, c ∉ (h.run before).fanout.clients →
    ((h.run before).run after).taken c.socket = (h.run before).taken c.socket
  rendered : ∀ buffer now r h', h.render buffer now = (.ok r, h') →
    Accounted buffer now r h h'
  /-- Nothing is sent by a rendering that fails. -/
  refused : ∀ buffer now e h', h.render buffer now = (.error e, h') →
    h'.fanout.clients = h.fanout.clients ∧ h'.notes = h.notes ∧
      h'.fanout.framer.framesSent = h.fanout.framer.framesSent ∧
      ∀ x < h.used, h'.taken x = h.taken x

/-- With distinct clients, a hall is fair. -/
theorem Distinct.fair (hdistinct : Distinct h) : Fair h where
  served := by
    intro calls
    obtain ⟨-, later, follows⟩ := goes_run calls h hdistinct
    exact ⟨later, follows.notes, fun c hc => ⟨follows.served c hc, follows.gone c hc⟩⟩
  complete := by
    intro calls later hnotes c hc hnever
    obtain ⟨-, later', follows⟩ := goes_run calls h hdistinct
    have hsame : later' = later := List.append_cancel_right (follows.notes.symm.trans hnotes)
    exact (hsame ▸ follows.served c hc).complete hnever
  silent := by
    intro before after c hc hnot
    obtain ⟨hdistinct', _, first⟩ := goes_run before h hdistinct
    obtain ⟨-, _, second⟩ := goes_run after (h.run before) hdistinct'
    exact second.silent c.socket (Nat.lt_of_lt_of_le (hdistinct.socket_lt c hc) first.used)
      fun d hd => (first.alone hdistinct hc hnot d hd).2
  rendered := by
    intro buffer now r h' hrender
    rcases render_ok hdistinct.ids hdistinct.sockets hrender with
      ⟨hnone, rfl, rfl⟩ | ⟨packet, h₀, hpublished, rfl, rfl⟩
    · exact accounted_idle hnone
    · exact accounted_published hpublished
  refused := by
    intro buffer now e h' hrender
    have hquiet := render_error hdistinct.ids hdistinct.sockets hrender
    refine ⟨hquiet.clients, hquiet.notes, hquiet.sent, ?_⟩
    intro x hx
    rw [taken, hquiet.outlet x hx, taken]

theorem distinct_start (framer : Framer) (writeTimeout : Option Duration) (producer : Producer)
    (names : Arena.NameSpace) : Distinct (start framer writeTimeout producer names) where
  ids := List.nodup_nil
  sockets := List.nodup_nil
  id_lt _ hc := absurd hc List.not_mem_nil
  socket_lt _ hc := absurd hc List.not_mem_nil

/-- Whatever was called and whatever is called next, and however the sockets behave, every client is
given whole frames. -/
theorem fair_run (framer : Framer) (writeTimeout : Option Duration) (producer : Producer)
    (names : Arena.NameSpace) (calls : List Call) :
    Fair ((start framer writeTimeout producer names).run calls) :=
  (goes_run calls _ (distinct_start framer writeTimeout producer names)).1.fair

end Hall

end Framecast
