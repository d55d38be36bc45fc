import Framecast.Proofs.Session.WholeFrames

/-!
# Who is registered

The clients of a hall are those that were added directly, those whose reply is still pending and
those whose reply was committed, less those that were removed and those that a write failed for.
So no consumer stays half registered: an attach or a request that fails leaves the clients as they
were, and a reply that is dropped takes its own client with it and no other.

A `Ledger` states this for a hall of which one attachment may be in hand: it is held by whoever is
just dealing with it, and by no reply. Every change keeps the ledger, and so every run does.
-/

namespace Framecast

namespace Hall

variable {h h' h'' : Hall} {hand : Option Nat}

/-- There is a client of this number. -/
def Has (h : Hall) (client : Nat) : Prop :=
  ∃ c ∈ h.fanout.clients, c.id = client

/-- The client was added directly, or its reply was committed. -/
def Settled (notes : List Note) (client : Nat) : Prop :=
  .added client ∈ notes ∨ .committed client ∈ notes

/-- The client was removed, or a write to it failed. -/
def Lost (notes : List Note) (client : Nat) : Prop :=
  .removed client ∈ notes ∨ ∃ r, .rendered r ∈ notes ∧ client ∈ Delivery.failed r.deliveries

/-- The reply is pending and stands for the client. -/
def Awaits (h : Hall) (reply client : Nat) : Prop :=
  ∃ a, h.replies reply = some a ∧ a.client? = some client

/-- The client is settled, or its reply is still out. -/
def Due (h : Hall) (client : Nat) : Prop :=
  Settled h.notes client ∨ ∃ reply, h.Awaits reply client

/-- Who is registered, while an attachment may be in hand. -/
structure Ledger (hand : Option Nat) (h : Hall) : Prop where
  distinct : Distinct h
  has_iff : ∀ client,
    h.Has client ↔ (h.Due client ∨ hand = some client) ∧ ¬ Lost h.notes client
  due_lt : ∀ client, h.Due client → client < h.fanout.nextId
  hand_lt : ∀ client, hand = some client → client < h.fanout.nextId
  lost_lt : ∀ client, Lost h.notes client → client < h.fanout.nextId
  not_due : ∀ client, hand = some client → ¬ h.Due client
  alone : ∀ reply client, h.Awaits reply client →
    ¬ Settled h.notes client ∧ ∀ other, h.Awaits other client → other = reply
  fresh : ∀ reply, h.granted ≤ reply → h.replies reply = none

/-- A pending reply stands for the client that it always stood for. -/
structure Onward (h h' : Hall) : Prop where
  granted : h.granted ≤ h'.granted
  awaits : ∀ reply < h.granted, ∀ client, h'.Awaits reply client → h.Awaits reply client

theorem Onward.of_same (hreplies : h'.replies = h.replies) (hgranted : h'.granted = h.granted) :
    Onward h h' where
  granted := Nat.le_of_eq hgranted.symm
  awaits reply _ client hawaits := by
    unfold Awaits at hawaits ⊢
    rw [← hreplies]
    exact hawaits

theorem Onward.trans (first : Onward h h') (second : Onward h' h'') : Onward h h'' where
  granted := Nat.le_trans first.granted second.granted
  awaits reply hreply client hawaits :=
    first.awaits reply hreply client
      (second.awaits reply (Nat.lt_of_lt_of_le hreply first.granted) client hawaits)

/-- The ledger is kept. -/
def Keeps (hand hand' : Option Nat) (h h' : Hall) : Prop :=
  Ledger hand h → Ledger hand' h' ∧ Onward h h'

theorem Keeps.trans {hand hand' hand'' : Option Nat} (first : Keeps hand hand' h h')
    (second : Keeps hand' hand'' h' h'') : Keeps hand hand'' h h'' := by
  intro ledger
  obtain ⟨ledger', honward⟩ := first ledger
  obtain ⟨ledger'', honward'⟩ := second ledger'
  exact ⟨ledger'', honward.trans honward'⟩

theorem Keeps.refl (hand : Option Nat) (h : Hall) : Keeps hand hand h h :=
  fun ledger => ⟨ledger, .of_same rfl rfl⟩

/-! ### What the notes say -/

theorem settled_cons {n : Note} {notes : List Note} {client : Nat} :
    Settled (n :: notes) client ↔ Settled [n] client ∨ Settled notes client := by
  unfold Settled
  rw [List.mem_cons, List.mem_cons, List.mem_singleton, List.mem_singleton]
  exact or_or_or_comm

theorem lost_cons {n : Note} {notes : List Note} {client : Nat} :
    Lost (n :: notes) client ↔ Lost [n] client ∨ Lost notes client := by
  constructor
  · rintro (hn | ⟨r, hr, hfailed⟩)
    · rcases List.mem_cons.mp hn with rfl | hn
      · exact .inl (.inl (List.mem_cons_self ..))
      · exact .inr (.inl hn)
    · rcases List.mem_cons.mp hr with rfl | hr
      · exact .inl (.inr ⟨r, List.mem_cons_self .., hfailed⟩)
      · exact .inr (.inr ⟨r, hr, hfailed⟩)
  · rintro ((hn | ⟨r, hr, hfailed⟩) | hn | ⟨r, hr, hfailed⟩)
    · exact .inl (List.mem_singleton.mp hn ▸ List.mem_cons_self ..)
    · exact .inr ⟨r, List.mem_singleton.mp hr ▸ List.mem_cons_self .., hfailed⟩
    · exact .inl (List.mem_cons_of_mem _ hn)
    · exact .inr ⟨r, List.mem_cons_of_mem _ hr, hfailed⟩

/-- A note that settles nothing. -/
def Unsettling (n : Note) : Prop :=
  ∀ client, ¬ Settled [n] client

/-- A note of no loss. -/
def Harmless (n : Note) : Prop :=
  ∀ client, ¬ Lost [n] client

/-! ### Clients -/

section

variable {hand' : Option Nat} (hreplies : h'.replies = h.replies)
  (hsettled : ∀ client, Settled h'.notes client ↔ Settled h.notes client)

include hreplies

theorem awaits_of_same (reply client : Nat) : h'.Awaits reply client ↔ h.Awaits reply client := by
  unfold Awaits
  rw [hreplies]

include hsettled

theorem due_of_same (client : Nat) : h'.Due client ↔ h.Due client := by
  unfold Due
  rw [hsettled]
  exact or_congr_right (exists_congr fun reply => awaits_of_same hreplies reply client)

/-- Whoever was settled or awaited still is, and so it is about the others that something has to be
said. -/
theorem Ledger.of_same_due (ledger : Ledger hand h) (hgranted : h'.granted = h.granted)
    (hdistinct : Distinct h') (hnextId : h.fanout.nextId ≤ h'.fanout.nextId)
    (hhas : ∀ client,
      h'.Has client ↔ (h.Due client ∨ hand' = some client) ∧ ¬ Lost h'.notes client)
    (hhand : ∀ client, hand' = some client → client < h'.fanout.nextId ∧ ¬ h.Due client)
    (hlost : ∀ client, Lost h'.notes client → client < h'.fanout.nextId) :
    Ledger hand' h' ∧ Onward h h' := by
  have hdue := due_of_same hreplies hsettled
  have hawaits := awaits_of_same hreplies
  refine ⟨⟨hdistinct, ?_, ?_, fun client hclient => (hhand client hclient).1, hlost, ?_, ?_, ?_⟩,
    .of_same hreplies hgranted⟩
  · intro client
    rw [hdue]
    exact hhas client
  · intro client hclient
    exact Nat.lt_of_lt_of_le (ledger.due_lt client ((hdue client).mp hclient)) hnextId
  · intro client hclient
    rw [hdue]
    exact (hhand client hclient).2
  · intro reply client hreply
    rw [hsettled]
    obtain ⟨hnot, hother⟩ := ledger.alone reply client ((hawaits reply client).mp hreply)
    exact ⟨hnot, fun other hawaits' => hother other ((hawaits other client).mp hawaits')⟩
  · rw [hreplies, hgranted]
    exact ledger.fresh

end

/-- The clients and the replies are as they were, and the notes say nothing else about them. -/
theorem keeps_of_same (hdistinct : Distinct h → Distinct h')
    (hnextId : h.fanout.nextId ≤ h'.fanout.nextId)
    (hclients : h'.fanout.clients = h.fanout.clients) (hreplies : h'.replies = h.replies)
    (hgranted : h'.granted = h.granted)
    (hsettled : ∀ client, Settled h'.notes client ↔ Settled h.notes client)
    (hlost : ∀ client, Lost h'.notes client ↔ Lost h.notes client) : Keeps hand hand h h' := by
  intro ledger
  have hhas (client : Nat) : h'.Has client ↔ h.Has client := by
    unfold Has
    rw [hclients]
  apply ledger.of_same_due hreplies hsettled hgranted (hdistinct ledger.distinct) hnextId
  · intro client
    rw [hhas, hlost]
    exact ledger.has_iff client
  · intro client hclient
    exact ⟨Nat.lt_of_lt_of_le (ledger.hand_lt client hclient) hnextId,
      ledger.not_due client hclient⟩
  · intro client hlost'
    exact Nat.lt_of_lt_of_le (ledger.lost_lt client ((hlost client).mp hlost')) hnextId

/-- Where clients stay, the ledger is kept. -/
theorem keeps_of_quiet (hquiet : Quiet h h') : Keeps hand hand h h' := by
  apply keeps_of_same (fun hdistinct => (goes_of_quiet hquiet hdistinct).1) hquiet.nextId
    hquiet.clients hquiet.replies hquiet.granted
  · intro client
    rw [hquiet.notes]
  · intro client
    rw [hquiet.notes]

/-- A note that settles nobody keeps the ledger. -/
theorem keeps_note {n : Note} (hunsettling : Unsettling n) (hharmless : Harmless n) (h : Hall) :
    Keeps hand hand h (h.note n) := by
  have hdistinct : Distinct h → Distinct (h.note n) := fun hdistinct =>
    hdistinct.sublist (.refl _) (Nat.le_refl _) (Nat.le_refl _)
  refine keeps_of_same hdistinct (Nat.le_refl _) rfl rfl rfl ?_ ?_
  · intro client
    exact settled_cons.trans (or_iff_right (hunsettling client))
  · intro client
    exact lost_cons.trans (or_iff_right (hharmless client))

/-- A client that has just joined is in hand. -/
theorem keeps_joined {c : FanoutClient} (hjoined : Joined h h' c) :
    Keeps none (some c.id) h h' := by
  intro ledger
  have hsettled (client : Nat) : Settled h'.notes client ↔ Settled h.notes client := by
    rw [hjoined.notes]
  have hhas (client : Nat) : h'.Has client ↔ h.Has client ∨ c.id = client := by
    unfold Has
    rw [hjoined.clients]
    simp [or_and_right, exists_or]
  have hnew : ¬ Lost h.notes c.id := fun hlost =>
    Nat.not_lt_of_le hjoined.id_ge (ledger.lost_lt c.id hlost)
  apply ledger.of_same_due hjoined.replies hsettled hjoined.granted
    (ledger.distinct.joined hjoined) hjoined.nextId
  · intro client
    rw [hhas, hjoined.notes, ledger.has_iff]
    constructor
    · rintro (⟨hdue | hhand, hlost⟩ | rfl)
      · exact ⟨.inl hdue, hlost⟩
      · cases hhand
      · exact ⟨.inr rfl, hnew⟩
    · rintro ⟨hdue | hhand, hlost⟩
      · exact .inl ⟨.inl hdue, hlost⟩
      · exact .inr (Option.some_inj.mp hhand)
  · rintro client ⟨⟩
    refine ⟨hjoined.id_lt, ?_⟩
    intro hdue
    exact Nat.not_lt_of_le hjoined.id_ge (ledger.due_lt c.id hdue)
  · intro client hlost
    rw [hjoined.notes] at hlost
    exact Nat.lt_of_lt_of_le (ledger.lost_lt client hlost) hjoined.nextId

/-- The client in hand may stay. -/
theorem keeps_settled {n : Note} {client : Nat}
    (hsettled : ∀ other, Settled [n] other ↔ other = client) (hharmless : Harmless n) (h : Hall) :
    Keeps (some client) none h (h.note n) := by
  intro ledger
  have hlost (other : Nat) : Lost (n :: h.notes) other ↔ Lost h.notes other :=
    lost_cons.trans (or_iff_right (hharmless other))
  have hdue (other : Nat) : (h.note n).Due other ↔ h.Due other ∨ some client = some other := by
    unfold Due
    show Settled (n :: h.notes) other ∨ _ ↔ _
    rw [settled_cons, hsettled, or_assoc, or_comm, Option.some_inj, @eq_comm _ other]
    rfl
  have hhand := ledger.hand_lt client rfl
  refine ⟨⟨ledger.distinct.sublist (.refl _) (Nat.le_refl _) (Nat.le_refl _), ?_, ?_, nofun, ?_,
    nofun, ?_, ledger.fresh⟩, .of_same rfl rfl⟩
  · intro other
    rw [hdue]
    show h.Has other ↔ (_ ∨ none = some other) ∧ ¬ Lost (n :: h.notes) other
    rw [hlost, or_iff_left (fun hnone => by cases hnone)]
    exact ledger.has_iff other
  · intro other hother
    rcases (hdue other).mp hother with hother | hother
    · exact ledger.due_lt other hother
    · exact Option.some_inj.mp hother ▸ hhand
  · intro other hother
    exact ledger.lost_lt other ((hlost other).mp hother)
  · intro reply other hawaits
    obtain ⟨hnot, hothers⟩ := ledger.alone reply other hawaits
    refine ⟨?_, hothers⟩
    intro hsettled'
    rcases settled_cons.mp hsettled' with hnow | hbefore
    · have heq : other = client := (hsettled other).mp hnow
      exact ledger.not_due client rfl (.inr ⟨reply, heq ▸ hawaits⟩)
    · exact hnot hbefore

/-- Those who are gone are clients no longer. -/
theorem has_of_filter {gone : List Nat}
    (hclients : h'.fanout.clients = h.fanout.clients.filter (·.id ∉ gone)) (client : Nat) :
    h'.Has client ↔ h.Has client ∧ client ∉ gone := by
  unfold Has
  rw [hclients]
  constructor
  · rintro ⟨c, hc, rfl⟩
    obtain ⟨hc, hnot⟩ := List.mem_filter.mp hc
    exact ⟨⟨c, hc, rfl⟩, of_decide_eq_true hnot⟩
  · rintro ⟨⟨c, hc, rfl⟩, hnot⟩
    exact ⟨c, List.mem_filter.mpr ⟨hc, decide_eq_true hnot⟩, rfl⟩

theorem clients_left {client : Nat} (hleft : Left h h' client) :
    h'.fanout.clients = h.fanout.clients.filter (·.id ∉ [client]) := by
  rw [hleft.clients]
  simp

/-- The client in hand has left. -/
theorem keeps_left {client : Nat} (hleft : Left h h' client) : Keeps (some client) none h h' := by
  intro ledger
  have hsettled (other : Nat) : Settled h'.notes other ↔ Settled h.notes other := by
    rw [hleft.notes]
  apply ledger.of_same_due hleft.replies hsettled hleft.granted
    (goes_of_left hleft ledger.distinct).1 hleft.nextId
  · intro other
    rw [has_of_filter (clients_left hleft), hleft.notes, ledger.has_iff, List.mem_singleton]
    constructor
    · rintro ⟨⟨hdue | hhand, hlost⟩, hne⟩
      · exact ⟨.inl hdue, hlost⟩
      · exact absurd (Option.some_inj.mp hhand).symm hne
    · rintro ⟨hdue | hhand, hlost⟩
      · refine ⟨⟨.inl hdue, hlost⟩, ?_⟩
        rintro rfl
        exact ledger.not_due other rfl hdue
      · cases hhand
  · intro other hhand
    cases hhand
  · intro other hother
    rw [hleft.notes] at hother
    exact Nat.lt_of_lt_of_le (ledger.lost_lt other hother) hleft.nextId

/-- Clients have left for good. -/
theorem keeps_lost {n : Note} {gone : List Nat} (hgone : ∀ client ∈ gone, h.Has client)
    (hclients : h'.fanout.clients = h.fanout.clients.filter (·.id ∉ gone))
    (hnextId : h.fanout.nextId ≤ h'.fanout.nextId) (hused : h.used ≤ h'.used)
    (hreplies : h'.replies = h.replies) (hgranted : h'.granted = h.granted)
    (hnotes : h'.notes = h.notes) (hunsettling : Unsettling n)
    (hlosing : ∀ client, Lost [n] client ↔ client ∈ gone) : Keeps none none h (h'.note n) := by
  intro ledger
  have hsub : h'.fanout.clients.Sublist h.fanout.clients := by
    rw [hclients]
    exact List.filter_sublist
  have hhas (client : Nat) : (h'.note n).Has client ↔ h.Has client ∧ client ∉ gone :=
    has_of_filter hclients client
  have hsettled (client : Nat) : Settled (h'.note n).notes client ↔ Settled h.notes client := by
    rw [← hnotes]
    exact settled_cons.trans (or_iff_right (hunsettling client))
  have hlost (client : Nat) :
      Lost (h'.note n).notes client ↔ client ∈ gone ∨ Lost h.notes client := by
    rw [← hnotes, ← hlosing]
    exact lost_cons
  have hdistinct : Distinct (h'.note n) := ledger.distinct.sublist hsub hnextId hused
  have hawaited : (h'.note n).replies = h.replies := hreplies
  apply ledger.of_same_due hawaited hsettled hgranted hdistinct hnextId
  · intro client
    rw [hhas, hlost, ledger.has_iff, not_or, and_comm (a := client ∉ gone), and_assoc]
  · intro client hhand
    cases hhand
  · intro client hclient
    apply Nat.lt_of_lt_of_le _ hnextId
    rcases (hlost client).mp hclient with hnow | hbefore
    · obtain ⟨c, hc, rfl⟩ := hgone client hnow
      exact ledger.distinct.id_lt c hc
    · exact ledger.lost_lt client hbefore

/-! ### Replies -/

/-- The attachment in hand becomes a reply. -/
def placed (a : Attachment) (h : Hall) : Hall :=
  { h with
    replies := fun k => if k = h.granted then some a else h.replies k
    granted := h.granted + 1 }

/-- A new reply awaits its own client. -/
theorem awaits_placed (hfresh : h.replies h.granted = none) (a : Attachment) (reply client : Nat) :
    (h.placed a).Awaits reply client ↔
      (reply = h.granted ∧ a.client? = some client) ∨ h.Awaits reply client := by
  show (∃ b, ite _ _ _ = some b ∧ _) ↔ _
  by_cases hnew : reply = h.granted
  · subst hnew
    have hnone : ¬ h.Awaits h.granted client := by
      rintro ⟨b, hb, -⟩
      rw [hfresh] at hb
      cases hb
    rw [if_pos rfl, or_iff_left hnone]
    simp
  · rw [if_neg hnew]
    simp only [hnew, false_and, false_or]
    rfl

/-- The client of a new reply is due, and nobody else is anew. -/
theorem due_placed (hfresh : h.replies h.granted = none) (a : Attachment) (client : Nat) :
    (h.placed a).Due client ↔ h.Due client ∨ a.client? = some client := by
  unfold Due
  show Settled h.notes client ∨ _ ↔ _
  rw [exists_congr fun reply => awaits_placed hfresh a reply client, exists_or, or_assoc]
  simp [or_comm]

/-- A reply that is handed out keeps the ledger. -/
theorem keeps_placed (a : Attachment) (h : Hall) : Keeps a.client? none h (h.placed a) := by
  intro ledger
  have hfresh := ledger.fresh h.granted (Nat.le_refl _)
  have hawaits := awaits_placed hfresh a
  have hdue := due_placed hfresh a
  refine ⟨⟨ledger.distinct.sublist (.refl _) (Nat.le_refl _) (Nat.le_refl _), ?_, ?_, nofun,
    ledger.lost_lt, nofun, ?_, ?_⟩, ⟨Nat.le_succ _, ?_⟩⟩
  · intro client
    rw [hdue, or_iff_left (fun hnone => by cases hnone)]
    exact ledger.has_iff client
  · intro client hclient
    rcases (hdue client).mp hclient with hbefore | hnow
    · exact ledger.due_lt client hbefore
    · exact ledger.hand_lt client hnow
  · intro reply client hreply
    rcases (hawaits reply client).mp hreply with ⟨rfl, hnow⟩ | hbefore
    · refine ⟨fun hsettled => ledger.not_due client hnow (.inl hsettled), ?_⟩
      intro other hother
      rcases (hawaits other client).mp hother with ⟨rfl, -⟩ | hother
      · rfl
      · exact absurd (.inr ⟨other, hother⟩) (ledger.not_due client hnow)
    · obtain ⟨hnot, hothers⟩ := ledger.alone reply client hbefore
      refine ⟨hnot, ?_⟩
      intro other hother
      rcases (hawaits other client).mp hother with ⟨rfl, hnow⟩ | hother
      · exact absurd (.inr ⟨reply, hbefore⟩) (ledger.not_due client hnow)
      · exact hothers other hother
  · intro reply hreply
    have hlt : h.granted < reply := hreply
    show ite _ _ _ = none
    rw [if_neg (Nat.ne_of_gt hlt)]
    exact ledger.fresh reply (Nat.le_of_lt hlt)
  · intro reply hreply client hreply'
    rcases (hawaits reply client).mp hreply' with ⟨rfl, -⟩ | hbefore
    · exact absurd hreply (Nat.lt_irrefl _)
    · exact hbefore

section

variable {reply : Nat} {a : Attachment} {left : Option Attachment}
  (hleft : left.bind (·.client?) = none)

include hleft

/-- A reply that is taken back awaits nobody. -/
theorem awaits_setReply (other client : Nat) :
    (h.setReply reply left).Awaits other client ↔ other ≠ reply ∧ h.Awaits other client := by
  show (∃ b, ite _ _ _ = some b ∧ _) ↔ _
  by_cases hsame : other = reply
  · rw [if_pos hsame]
    refine ⟨?_, fun hboth => absurd hsame hboth.1⟩
    rintro ⟨b, hb, hclient⟩
    rw [hb, Option.bind_some, hclient] at hleft
    cases hleft
  · rw [if_neg hsame]
    simp only [ne_eq, hsame, not_false_eq_true, true_and]
    rfl

theorem due_setReply (ha : h.replies reply = some a) (client : Nat) :
    (h.setReply reply left).Due client ∨ a.client? = some client ↔ h.Due client := by
  constructor
  · rintro ((hsettled | ⟨other, hother⟩) | hclient)
    · exact .inl hsettled
    · exact .inr ⟨other, ((awaits_setReply hleft other client).mp hother).2⟩
    · exact .inr ⟨reply, a, ha, hclient⟩
  · rintro (hsettled | ⟨other, hother⟩)
    · exact .inl (.inl hsettled)
    · by_cases hsame : other = reply
      · obtain ⟨b, hb, hclient⟩ := hother
        rw [hsame, ha] at hb
        exact .inr (Option.some_inj.mp hb ▸ hclient)
      · exact .inl (.inr ⟨other, (awaits_setReply hleft other client).mpr ⟨hsame, hother⟩⟩)

/-- A reply is taken in hand. What is left of it stands for nobody. -/
theorem keeps_setReply (ha : h.replies reply = some a) :
    Keeps none a.client? h (h.setReply reply left) := by
  intro ledger
  have hawaits (other client : Nat) : (h.setReply reply left).Awaits other client →
      other ≠ reply ∧ h.Awaits other client := (awaits_setReply hleft other client).mp
  have hdue := due_setReply hleft ha
  refine ⟨⟨ledger.distinct.sublist (.refl _) (Nat.le_refl _) (Nat.le_refl _), ?_, ?_, ?_,
    ledger.lost_lt, ?_, ?_, ?_⟩, ⟨Nat.le_refl _, ?_⟩⟩
  · intro client
    rw [hdue]
    refine (ledger.has_iff client).trans ?_
    rw [or_iff_left (fun hnone => by cases hnone)]
    rfl
  · intro client hclient
    exact ledger.due_lt client ((hdue client).mp (.inl hclient))
  · intro client hclient
    exact ledger.due_lt client ((hdue client).mp (.inr hclient))
  · intro client hclient hdue'
    obtain ⟨hnot, hothers⟩ := ledger.alone reply client ⟨a, ha, hclient⟩
    rcases hdue' with hsettled | ⟨other, hother⟩
    · exact hnot hsettled
    · obtain ⟨hne, hother⟩ := hawaits other client hother
      exact hne (hothers other hother)
  · intro other client hother
    obtain ⟨hnot, hothers⟩ := ledger.alone other client (hawaits other client hother).2
    exact ⟨hnot, fun third hthird => hothers third (hawaits third client hthird).2⟩
  · intro other hother
    have hne : other ≠ reply := by
      rintro rfl
      rw [ledger.fresh other hother] at ha
      cases ha
    show ite _ _ _ = none
    rw [if_neg hne]
    exact ledger.fresh other hother
  · intro other _ client hother
    exact (hawaits other client hother).2

end

/-! ### The calls -/

theorem keeps_of_untold (hfanout : h'.fanout = h.fanout) (hused : h'.used = h.used)
    (hreplies : h'.replies = h.replies) (hgranted : h'.granted = h.granted)
    (hnotes : h'.notes = h.notes) : Keeps hand hand h h' := by
  have hdistinct : Distinct h → Distinct h' := by
    intro hdistinct
    refine hdistinct.sublist ?_ (Nat.le_of_eq ?_) (Nat.le_of_eq hused.symm)
    · rw [hfanout]
    · rw [hfanout]
  apply keeps_of_same hdistinct (Nat.le_of_eq (by rw [hfanout])) (by rw [hfanout]) hreplies hgranted
  · intro client
    rw [hnotes]
  · intro client
    rw [hnotes]

theorem keeps_talked (party : Party) (h : Hall) : Keeps hand hand h (h.talked party) :=
  keeps_of_untold rfl rfl rfl rfl rfl

theorem keeps_add (outlet : Outlet) (h : Hall) : Keeps none none h (h.add outlet).2 := by
  have hregistered := registered_opened (beside_opened outlet h) rfl (Nat.le_refl _)
    (Nat.lt_succ_self _)
  unfold add
  generalize Fanout.register host h.used (h.opened outlet) = registered at hregistered ⊢
  obtain ⟨result, h₁⟩ := registered
  cases hregistered with
  | failed e _ hquiet => exact keeps_of_quiet hquiet
  | joined c _ hjoined =>
    have hsettled (other : Nat) : Settled [.added c.id] other ↔ other = c.id := by
      simp [Settled]
    have hharmless : Harmless (.added c.id) := by simp [Harmless, Lost]
    exact (keeps_joined hjoined).trans (keeps_settled hsettled hharmless h₁)

theorem keeps_remove (client : Nat) (h : Hall) : Keeps none none h (h.remove client).2 := by
  have hleft := left_unregister client h
  have hfound : (Fanout.unregister host client h).1 = true ↔ h.Has client := by
    rw [unregister_eq]
    exact isSome_socketOf?
  unfold remove
  generalize Fanout.unregister host client h = unregistered at hleft hfound ⊢
  obtain ⟨found, h₁⟩ := unregistered
  cases found with
  | true =>
    have hunsettling : Unsettling (.removed client) := by simp [Unsettling, Settled]
    have hlosing (other : Nat) : Lost [.removed client] other ↔ other ∈ [client] := by
      simp [Lost]
    refine keeps_lost ?_ (clients_left hleft) hleft.nextId hleft.used hleft.replies hleft.granted
      hleft.notes hunsettling hlosing
    intro other hother
    exact List.mem_singleton.mp hother ▸ hfound.mp rfl
  | false =>
    apply keeps_of_quiet ⟨hleft.toBeside, ?_⟩
    rw [hleft.clients, List.filter_eq_self]
    intro c hc
    apply decide_eq_true
    rintro rfl
    exact Bool.false_ne_true (hfound.mpr ⟨c, hc, rfl⟩)

theorem keeps_of_published {buffer : Buffer} {packet : Packet}
    (hpublished : Published buffer packet h h') :
    Keeps none none h (h'.note (.rendered (rendering packet h))) := by
  have hunsettling : Unsettling (.rendered (rendering packet h)) := by simp [Unsettling, Settled]
  have hlosing (client : Nat) : Lost [.rendered (rendering packet h)] client ↔
      client ∈ Delivery.failed (rendering packet h).deliveries := by
    simp [Lost]
  refine keeps_lost ?_ hpublished.clients (Nat.le_of_eq hpublished.nextId.symm)
    (Nat.le_of_eq hpublished.used.symm) hpublished.replies hpublished.granted hpublished.notes
    hunsettling hlosing
  intro client hclient
  obtain ⟨d, hd, -, rfl⟩ := mem_failed.mp hclient
  obtain ⟨c, hc, rfl⟩ := List.mem_map.mp hd
  exact ⟨c, hc, rfl⟩

theorem keeps_render (buffer : Buffer) (now : Readings) (h : Hall) :
    Keeps none none h (h.render buffer now).2 := by
  have hclocks : Keeps none none h { h with clocks := now } := keeps_of_untold rfl rfl rfl rfl rfl
  apply hclocks.trans
  intro ledger
  have hids := ledger.distinct.ids
  have hsockets := ledger.distinct.sockets
  cases hrender : h.render buffer now with
  | mk result h' =>
    cases result with
    | error e => exact keeps_of_quiet (render_error hids hsockets hrender) ledger
    | ok r =>
      rcases render_ok hids hsockets hrender with
        ⟨-, rfl, rfl⟩ | ⟨packet, h₀, hpublished, rfl, rfl⟩
      · have hunsettling : Unsettling (.rendered {}) := by simp [Unsettling, Settled]
        have hharmless : Harmless (.rendered {}) := by simp [Harmless, Lost, Delivery.failed]
        exact keeps_note hunsettling hharmless _ ledger
      · exact keeps_of_published hpublished ledger

theorem keeps_welcome_error {e : SessionError} (hwelcome : h.welcome = (.error e, h')) :
    Keeps none none h h' :=
  fun ledger => keeps_of_quiet (welcome_error ledger.distinct.id_lt hwelcome) ledger

/-- Whoever is welcomed is in hand. -/
theorem keeps_welcome_ok {a : Attachment} (hwelcome : h.welcome = (.ok a, h')) :
    Keeps none a.client? h h' := by
  intro ledger
  obtain ⟨c, h₀, hjoined, hclient, rfl⟩ := welcome_ok ledger.distinct.id_lt hwelcome
  have hunsettling : Unsettling (.attached c.id) := by simp [Unsettling, Settled]
  have hharmless : Harmless (.attached c.id) := by simp [Harmless, Lost]
  rw [hclient]
  exact (keeps_joined hjoined).trans (keeps_note hunsettling hharmless h₀) ledger

/-- A client that may stay is settled. -/
theorem keeps_committed (a : Attachment) (h : Hall) :
    Keeps a.client? none h (h.noteFor .committed a) := by
  unfold noteFor
  cases a.client? with
  | none => exact .refl none h
  | some client =>
    have hsettled (other : Nat) : Settled [.committed client] other ↔ other = client := by
      simp [Settled]
    have hharmless : Harmless (.committed client) := by simp [Harmless, Lost]
    exact keeps_settled hsettled hharmless h

/-- A client that is given up is settled. -/
theorem keeps_giveUp (a : Attachment) (h : Hall) : Keeps a.client? none h (h.giveUp a) := by
  cases ha : a.client? with
  | none =>
    rw [giveUp_of_none ha]
    exact .refl none h
  | some client =>
    have hleft := left_unregister client h
    have hunsettling : Unsettling (.givenUp client) := by simp [Unsettling, Settled]
    have hharmless : Harmless (.givenUp client) := by simp [Harmless, Lost]
    rw [unregister_eq] at hleft
    rw [giveUp_of_client ha]
    exact (keeps_left hleft).trans (keeps_note hunsettling hharmless _)

theorem keeps_attach (attempt : Attempt) (h : Hall) : Keeps none none h (h.attach attempt).2 := by
  have hready : Keeps none none h { h with attempt := attempt } :=
    keeps_of_untold rfl rfl rfl rfl rfl
  apply hready.trans
  unfold attach
  generalize { h with attempt := attempt } = ready
  cases hwelcome : ready.welcome with
  | mk result h₁ =>
    cases result with
    | error e => exact keeps_welcome_error hwelcome
    | ok a => exact (keeps_welcome_ok hwelcome).trans (keeps_placed a h₁)

theorem keeps_handle (config : EndpointConfig) (attempt : Attempt) (party : Party) (h : Hall) :
    Keeps none none h (h.handle config attempt party).2 := by
  have hready : Keeps none none h { h with attempt := attempt, party := party } :=
    keeps_of_untold rfl rfl rfl rfl rfl
  apply hready.trans
  have handled := handled_handle config { h with attempt := attempt, party := party }
  unfold handle
  generalize Exchange.handle config channel service _ = answered at handled ⊢
  obtain ⟨result, h'⟩ := answered
  generalize { h with attempt := attempt, party := party } = ready at handled ⊢
  -- the client of the request is in hand from the attach until it is settled or given up
  cases handled with
  | unasked e after => exact keeps_talked after ready
  | refused before after h₁ e e' hwelcome =>
    exact ((keeps_talked before ready).trans (keeps_welcome_error hwelcome)).trans
      (keeps_talked after h₁)
  | kept before after h₁ a hwelcome =>
    have htalked := ((keeps_talked before ready).trans (keeps_welcome_ok hwelcome)).trans
      (keeps_talked after h₁)
    exact (htalked.trans (keeps_committed a _)).trans (keeps_giveUp a.commit _)
  | takenBack before after h₁ a e hwelcome =>
    have htalked := ((keeps_talked before ready).trans (keeps_welcome_ok hwelcome)).trans
      (keeps_talked after h₁)
    exact htalked.trans (keeps_giveUp a _)

theorem keeps_call (c : Call) (h : Hall) : Keeps none none h (h.call c) := by
  cases c with
  | add outlet => exact keeps_add outlet h
  | remove client => exact keeps_remove client h
  | render buffer now => exact keeps_render buffer now h
  | attach attempt => exact keeps_attach attempt h
  | handle config attempt party => exact keeps_handle config attempt party h
  | commit reply =>
    show Keeps none none h (h.commit reply)
    unfold commit
    cases ha : h.replies reply with
    | none => exact .refl none h
    | some a => exact (keeps_setReply rfl ha).trans (keeps_committed a _)
  | takeApart reply =>
    show Keeps none none h (h.takeApart reply)
    unfold takeApart
    cases ha : h.replies reply with
    | none => exact .refl none h
    | some a => exact (keeps_setReply rfl ha).trans (keeps_committed a _)
  | drop reply =>
    show Keeps none none h (h.drop reply)
    unfold drop
    cases ha : h.replies reply with
    | none => exact .refl none h
    | some a => exact (keeps_setReply rfl ha).trans (keeps_giveUp a _)

/-- Every run keeps the ledger. -/
theorem keeps_run (calls : List Call) (h : Hall) : Keeps none none h (h.run calls) := by
  induction calls generalizing h with
  | nil => exact .refl none h
  | cons c rest ih => exact (keeps_call c h).trans (ih (h.call c))

/-- The ledger starts in order. -/
theorem ledger_start (framer : Framer) (writeTimeout : Option Duration) (producer : Producer)
    (names : Arena.NameSpace) : Ledger none (start framer writeTimeout producer names) := by
  have hnobody (client : Nat) : ¬ (start framer writeTimeout producer names).Due client := by
    simp [Due, Settled, Awaits, start]
  have hunlost (client : Nat) : ¬ Lost (start framer writeTimeout producer names).notes client := by
    simp [Lost, start]
  refine ⟨distinct_start framer writeTimeout producer names, ?_, ?_, nofun, ?_, nofun, ?_,
    fun _ _ => rfl⟩
  · intro client
    constructor
    · rintro ⟨c, hc, -⟩
      cases hc
    · rintro ⟨hdue | hhand, -⟩
      · exact absurd hdue (hnobody client)
      · cases hhand
  · intro client hdue
    exact absurd hdue (hnobody client)
  · intro client hlost
    exact absurd hlost (hunlost client)
  · intro reply client hreply
    exact absurd (.inr ⟨reply, hreply⟩) (hnobody client)

/-! ### What single calls come to -/

/-- An attach that fails leaves the clients as they were. -/
theorem Ledger.attach_error (ledger : Ledger none h) {attempt : Attempt} {e : SessionError}
    (hattach : h.attach attempt = (.error e, h')) : h'.fanout.clients = h.fanout.clients := by
  unfold attach at hattach
  cases hwelcome : welcome { h with attempt := attempt } with
  | mk result h₁ =>
    rw [hwelcome] at hattach
    cases result with
    | ok a => cases hattach
    | error e' =>
      cases hattach
      exact (welcome_error (h := { h with attempt := attempt }) ledger.distinct.id_lt
        hwelcome).clients

/-- An attach that succeeds adds the client of its reply, and no other. -/
theorem Ledger.attach_ok (ledger : Ledger none h) {attempt : Attempt} {a : Attachment}
    (hattach : h.attach attempt = (.ok a, h')) : ∃ c, h.fanout.nextId ≤ c.id ∧
      h'.fanout.clients = h.fanout.clients ++ [c] ∧ a.client? = some c.id ∧
      h'.replies h.granted = some a := by
  unfold attach at hattach
  cases hwelcome : welcome { h with attempt := attempt } with
  | mk result h₁ =>
    rw [hwelcome] at hattach
    cases result with
    | error e' => cases hattach
    | ok a' =>
      obtain ⟨c, h₀, hjoined, hclient, rfl⟩ :=
        welcome_ok (h := { h with attempt := attempt }) ledger.distinct.id_lt hwelcome
      cases hattach
      refine ⟨c, hjoined.id_ge, hjoined.clients, hclient, ?_⟩
      show ite _ _ _ = _
      exact if_pos hjoined.granted.symm

theorem fanout_noteFor (about : Nat → Note) (a : Attachment) (h : Hall) :
    (h.noteFor about a).fanout = h.fanout := by
  unfold noteFor
  cases a.client? <;> rfl

/-- A consumer that was welcomed and given up again was never there. -/
theorem clients_giveUp_welcome (hbelow : ∀ c ∈ h.fanout.clients, c.id < h.fanout.nextId)
    {a : Attachment} (hwelcome : h.welcome = (.ok a, h')) (after : Party) :
    ((h'.talked after).giveUp a).fanout.clients = h.fanout.clients := by
  obtain ⟨c, h₀, hjoined, hclient, rfl⟩ := welcome_ok hbelow hwelcome
  have hleft := left_unregister c.id h₀
  rw [unregister_eq] at hleft
  rw [giveUp_of_client hclient]
  exact (hjoined.left hleft hbelow).clients

/-- A conversation that fails leaves the clients as they were. -/
theorem Ledger.handle_error (ledger : Ledger none h) {config : EndpointConfig} {attempt : Attempt}
    {party : Party} {e : SessionError} (hhandle : h.handle config attempt party = (.error e, h')) :
    h'.fanout.clients = h.fanout.clients := by
  have handled := handled_handle config { h with attempt := attempt, party := party }
  unfold handle at hhandle
  rw [hhandle] at handled
  cases handled with
  | unasked e after => rfl
  | refused before after h₁ e e' hwelcome =>
    exact (welcome_error (h := talked before { h with attempt := attempt, party := party })
      ledger.distinct.id_lt hwelcome).clients
  | takenBack before after h₁ a e hwelcome =>
    exact clients_giveUp_welcome (h := talked before { h with attempt := attempt, party := party })
      ledger.distinct.id_lt hwelcome after

/-- A conversation that succeeds adds a client that may stay, and no other. -/
theorem Ledger.handle_ok (ledger : Ledger none h) {config : EndpointConfig} {attempt : Attempt}
    {party : Party} (hhandle : h.handle config attempt party = (.ok (), h')) :
    ∃ c, h.fanout.nextId ≤ c.id ∧ h'.fanout.clients = h.fanout.clients ++ [c] ∧
      .committed c.id ∈ h'.notes := by
  have handled := handled_handle config { h with attempt := attempt, party := party }
  unfold handle at hhandle
  rw [hhandle] at handled
  cases handled with
  | kept before after h₁ a hwelcome =>
    obtain ⟨c, h₀, hjoined, hclient, rfl⟩ :=
      welcome_ok (h := talked before { h with attempt := attempt, party := party })
        ledger.distinct.id_lt hwelcome
    refine ⟨c, hjoined.id_ge, ?_, ?_⟩
    · rw [hclient]
      exact hjoined.clients
    · rw [hclient]
      exact List.mem_cons_self ..

/-- A reply that is dropped takes its client along, if it was still waiting. -/
theorem mem_drop (reply : Nat) (h : Hall) (c : FanoutClient) :
    c ∈ (h.drop reply).fanout.clients ↔ c ∈ h.fanout.clients ∧ ¬ h.Awaits reply c.id := by
  unfold drop Awaits
  cases h.replies reply with
  | none => simp
  | some a =>
    cases ha : a.client? with
    | none =>
      dsimp only
      rw [giveUp_of_none ha]
      simp [setReply, ha]
    | some client =>
      dsimp only
      rw [giveUp_of_client ha]
      refine List.mem_filter.trans (and_congr_right fun _ => ?_)
      rw [decide_eq_true_iff]
      apply not_congr
      constructor
      · intro hid
        exact ⟨a, rfl, hid ▸ ha⟩
      · rintro ⟨b, hb, hclient⟩
        cases hb
        exact (Option.some_inj.mp (ha.symm.trans hclient)).symm

theorem clients_commit (reply : Nat) (h : Hall) :
    (h.commit reply).fanout.clients = h.fanout.clients := by
  unfold commit
  cases h.replies reply with
  | none => rfl
  | some a => rw [fanout_noteFor]; rfl

theorem clients_takeApart (reply : Nat) (h : Hall) :
    (h.takeApart reply).fanout.clients = h.fanout.clients := by
  unfold takeApart
  cases h.replies reply with
  | none => rfl
  | some a => rw [fanout_noteFor]; rfl

/-! ### Every run -/

/-- The clients are those that there should be, and no call leaves a consumer half registered. -/
structure Accurate (h : Hall) : Prop where
  registered : ∀ client, h.Has client ↔ h.Due client ∧ ¬ Lost h.notes client
  distinct : (h.fanout.clients.map (·.id)).Nodup
  /-- A client is awaited by one reply at most, and by none if it is settled. -/
  alone : ∀ reply client, h.Awaits reply client →
    ¬ Settled h.notes client ∧ ∀ other, h.Awaits other client → other = reply
  /-- A reply stands for nobody but the client of its own attach. -/
  steady : ∀ calls, ∀ reply < h.granted, ∀ client,
    (h.run calls).Awaits reply client → h.Awaits reply client
  attach_error : ∀ attempt e h', h.attach attempt = (.error e, h') →
    h'.fanout.clients = h.fanout.clients
  attach_ok : ∀ attempt a h', h.attach attempt = (.ok a, h') → ∃ c, ¬ h.Has c.id ∧
    h'.fanout.clients = h.fanout.clients ++ [c] ∧ h'.Awaits h.granted c.id
  handle_error : ∀ config attempt party e h', h.handle config attempt party = (.error e, h') →
    h'.fanout.clients = h.fanout.clients
  handle_ok : ∀ config attempt party h', h.handle config attempt party = (.ok (), h') →
    ∃ c, ¬ h.Has c.id ∧ h'.fanout.clients = h.fanout.clients ++ [c] ∧ Settled h'.notes c.id
  drop : ∀ reply c, c ∈ (h.drop reply).fanout.clients ↔
    c ∈ h.fanout.clients ∧ ¬ h.Awaits reply c.id
  commit : ∀ reply, (h.commit reply).fanout.clients = h.fanout.clients
  takeApart : ∀ reply, (h.takeApart reply).fanout.clients = h.fanout.clients

theorem Ledger.not_has (ledger : Ledger hand h) {client : Nat} (hge : h.fanout.nextId ≤ client) :
    ¬ h.Has client := by
  rintro ⟨c, hc, rfl⟩
  exact Nat.not_lt_of_le hge (ledger.distinct.id_lt c hc)

/-- A ledger in order is an accurate account. -/
theorem Ledger.accurate (ledger : Ledger none h) : Accurate h where
  registered := by
    intro client
    refine (ledger.has_iff client).trans ?_
    rw [or_iff_left (fun hnone => by cases hnone)]
  distinct := ledger.distinct.ids
  alone := ledger.alone
  steady calls := (keeps_run calls h ledger).2.awaits
  attach_error _ _ _ := ledger.attach_error
  attach_ok := by
    intro attempt a h' hattach
    obtain ⟨c, hge, hclients, hclient, hreply⟩ := ledger.attach_ok hattach
    exact ⟨c, ledger.not_has hge, hclients, a, hreply, hclient⟩
  handle_error _ _ _ _ _ := ledger.handle_error
  handle_ok := by
    intro config attempt party h' hhandle
    obtain ⟨c, hge, hclients, hcommitted⟩ := ledger.handle_ok hhandle
    exact ⟨c, ledger.not_has hge, hclients, .inr hcommitted⟩
  drop reply c := mem_drop reply h c
  commit reply := clients_commit reply h
  takeApart reply := clients_takeApart reply h

/-- Whatever was called, and whatever the sockets, the capabilities, the checkpoints and the other
side of each conversation did. -/
theorem accurate_run (framer : Framer) (writeTimeout : Option Duration) (producer : Producer)
    (names : Arena.NameSpace) (calls : List Call) :
    Accurate ((start framer writeTimeout producer names).run calls) :=
  (keeps_run calls _ (ledger_start framer writeTimeout producer names)).1.accurate

end Hall

end Framecast
