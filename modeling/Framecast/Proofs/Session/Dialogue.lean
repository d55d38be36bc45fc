import Framecast.Proofs.Session.Message
import Framecast.Proofs.Stream.Stretch
import Framecast.Session.Exchange

/-!
# Two programs that talk

A `Talk` is a program that sends, receives and asks a service, seen from outside: what it does next,
and how it goes on when it knows what came of that. At a `Meeting` two of them talk over a pair of
pipes. Any of them may move whenever it can, a send is taken in any pieces, and a receive brings any
number of bytes that are there.

A message crosses a pipe in such pieces, `writing` on the one side and `hearing` on the other.
-/

namespace Framecast

/-- A program of one side of a conversation, as the calls that it still makes. -/
inductive Talk (α : Type) where
  | done (result : α)
  | send (call : SendCall) (next : Except IoError Nat → Talk α)
  | receive (size : Nat) (next : Except IoError Arrival → Talk α)
  /-- Ask for an attachment. -/
  | attach (next : Except SessionError Attachment → Talk α)
  | keep (a : Attachment) (next : Talk α)
  | takeBack (a : Attachment) (next : Talk α)

namespace Talk

variable {α β : Type}

/-- Go on with the result of a talk. -/
def bind (f : α → Talk β) : Talk α → Talk β
  | done result => f result
  | send call next => send call fun reply => bind f (next reply)
  | receive size next => receive size fun reply => bind f (next reply)
  | attach next => attach fun reply => bind f (next reply)
  | keep a next => keep a (bind f next)
  | takeBack a next => takeBack a (bind f next)

instance : Monad Talk where
  pure := done
  bind x f := bind f x

theorem bind_done (x : Talk α) : x >>= done = x := by
  induction x with
  | done result => rfl
  | send call next ih => exact congrArg (send call) (funext ih)
  | receive size next ih => exact congrArg (receive size) (funext ih)
  | attach next ih => exact congrArg attach (funext ih)
  | keep a next ih => exact congrArg (keep a) ih
  | takeBack a next ih => exact congrArg (takeBack a) ih

/-- One end of a conversation in which waits can be bounded and no wait is too long. -/
def channel : Channel Talk where
  receive size := receive size done
  send call := send call done
  setReadTimeout _ := done (.ok ())
  setWriteTimeout _ := done (.ok ())
  close := done ()
  release _ := done ()

/-- The calls of a program that attaches for others. -/
def service : AttachSource Talk where
  attach := attach done
  keep a := keep a (done ())
  takeBack a := takeBack a (done ())

/-- Whether the program has ended. -/
def IsDone : Talk α → Prop
  | done _ => True
  | _ => False

/-- It asks the service for something. -/
def Asks : Talk α → Prop
  | attach _ | keep .. | takeBack .. => True
  | _ => False

end Talk

/-- One direction of a connection: all that was sent, and how many bytes of it were received. -/
structure Pipe where
  sent : Stretch := []
  received : Nat := 0

/-- What the service was asked for. -/
inductive Asked where
  | attach
  | keep (a : Attachment)
  | takeBack (a : Attachment)

/-- A client and a server with the pipes between them. -/
structure Meeting where
  client : Talk (Except SessionError Attachment)
  server : Talk (Except SessionError Unit)
  requests : Pipe := {}
  answers : Pipe := {}
  asked : List Asked := []

/-- What a program may do with its pipes. Once the other one is done, the pipes end. -/
inductive Moves {α : Type} (alone : Prop) :
    Talk α → Pipe → Pipe → Talk α → Pipe → Pipe → Prop
  | send (call : SendCall) (next : Except IoError Nat → Talk α) (incoming outgoing : Pipe) (n : Nat)
      (hpos : 0 < n) (hle : n ≤ call.data.length) :
      Moves alone (.send call next) incoming outgoing (next (.ok n)) incoming
        { outgoing with
          sent := outgoing.sent ++ Stretch.ofMessage call.descriptors (call.data.take n) }
  | broken (call : SendCall) (next : Except IoError Nat → Talk α) (incoming outgoing : Pipe)
      (e : IoError) (halone : alone) :
      Moves alone (.send call next) incoming outgoing (next (.error e)) incoming outgoing
  | receive (size : Nat) (next : Except IoError Arrival → Talk α) (incoming outgoing : Pipe)
      (n : Nat) (hpos : 0 < n) (hsize : n ≤ size)
      (hle : incoming.received + n ≤ incoming.sent.length) :
      Moves alone (.receive size next) incoming outgoing
        (next (.ok (Stretch.arrival ((incoming.sent.drop incoming.received).take n))))
        { incoming with received := incoming.received + n } outgoing
  | ended (size : Nat) (next : Except IoError Arrival → Talk α) (incoming outgoing : Pipe)
      (halone : alone) (hall : incoming.received = incoming.sent.length) :
      Moves alone (.receive size next) incoming outgoing (next (.ok ⟨[], []⟩)) incoming outgoing

namespace Meeting

/-- The service gives one answer. -/
inductive Step (answer : Except SessionError Attachment) : Meeting → Meeting → Prop
  | client (m : Meeting) (client : Talk (Except SessionError Attachment)) (answers requests : Pipe)
      (hmoves : Moves m.server.IsDone m.client m.answers m.requests client answers requests) :
      Step answer m { m with client := client, answers := answers, requests := requests }
  | server (m : Meeting) (server : Talk (Except SessionError Unit)) (requests answers : Pipe)
      (hmoves : Moves m.client.IsDone m.server m.requests m.answers server requests answers) :
      Step answer m { m with server := server, requests := requests, answers := answers }
  | attach (m : Meeting) (next : Except SessionError Attachment → Talk (Except SessionError Unit))
      (hnext : m.server = .attach next) :
      Step answer m { m with server := next answer, asked := m.asked ++ [.attach] }
  | keep (m : Meeting) (a : Attachment) (next : Talk (Except SessionError Unit))
      (hnext : m.server = .keep a next) :
      Step answer m { m with server := next, asked := m.asked ++ [.keep a] }
  | takeBack (m : Meeting) (a : Attachment) (next : Talk (Except SessionError Unit))
      (hnext : m.server = .takeBack a next) :
      Step answer m { m with server := next, asked := m.asked ++ [.takeBack a] }

/-- Unless the server asks the service, one of the two moves. -/
theorem Step.moves {answer : Except SessionError Attachment} {m m' : Meeting}
    (hstep : Step answer m m') (hserver : ¬ m.server.Asks) :
    (∃ client answers requests,
      Moves m.server.IsDone m.client m.answers m.requests client answers requests ∧
        m' = { m with client := client, answers := answers, requests := requests }) ∨
    ∃ server requests answers,
      Moves m.client.IsDone m.server m.requests m.answers server requests answers ∧
        m' = { m with server := server, requests := requests, answers := answers } := by
  cases hstep with
  | client client answers requests hmoves => exact .inl ⟨client, answers, requests, hmoves, rfl⟩
  | server server requests answers hmoves => exact .inr ⟨server, requests, answers, hmoves, rfl⟩
  | attach next hnext => exact absurd (hnext ▸ trivial) hserver
  | keep a next hnext => exact absurd (hnext ▸ trivial) hserver
  | takeBack a next hnext => exact absurd (hnext ▸ trivial) hserver

/-- So many steps lead from one meeting to the other. -/
inductive Run (answer : Except SessionError Attachment) : Nat → Meeting → Meeting → Prop
  | refl (m : Meeting) : Run answer 0 m m
  | step {n : Nat} {m m' m'' : Meeting} (hfirst : Step answer m m') (hrest : Run answer n m' m'') :
      Run answer (n + 1) m m''

/-- Somebody asks for an attachment, and nothing was said yet. -/
def opening (client server : EndpointConfig) : Meeting where
  client := Exchange.ask client Talk.channel
  server := Exchange.handle server Talk.channel Talk.service

end Meeting

/-! ### A message on its way -/

namespace Talk

variable {α : Type} (message : Bytes) (descriptors : List Descriptor)

/-- The message as a stretch of the stream. -/
def spoken : Stretch :=
  Stretch.ofMessage descriptors (asLine message)

/-- Go on to write the message of which so many bytes were taken. -/
def writing (patience : Duration) (after : Except SessionError Unit → Talk α) (k : Nat) : Talk α :=
  Line.write channel.send patience ((asLine message).drop k) (if k = 0 then descriptors else []) >>=
    after

/-- Go on to read the message of which so many bytes have come. -/
def hearing (limit : Nat) (patience : Duration)
    (after : Except SessionError Bytes × List Descriptor → Talk α) (j : Nat) : Talk α :=
  if j = (asLine message).length then after (.ok message, descriptors)
  else
    Line.readFrom channel.receive limit patience ((asLine message).take j)
      (Stretch.descriptors ((spoken message descriptors).take j)) >>= after

variable {message descriptors}

theorem length_asLine (message : Bytes) : (asLine message).length = message.length + 1 := by
  simp [asLine]

theorem length_spoken : (spoken message descriptors).length = (asLine message).length :=
  Stretch.length_ofMessage ..

/-- With all bytes out, a write is done. -/
theorem writing_done {patience : Duration} {after : Except SessionError Unit → Talk α} {k : Nat}
    (hk : k = (asLine message).length) :
    writing message descriptors patience after k = after (.ok ()) := by
  unfold writing
  rw [hk, List.drop_length, Line.write]
  rfl

theorem take_add_spoken (k n : Nat) :
    (spoken message descriptors).take (k + n) = (spoken message descriptors).take k ++
      Stretch.ofMessage (if k = 0 then descriptors else []) (((asLine message).drop k).take n) := by
  unfold spoken
  rw [List.take_add]
  congr 1
  by_cases hk : k = 0
  · rw [hk, if_pos rfl, List.drop_zero, List.drop_zero, Stretch.take_ofMessage]
  · rw [if_neg hk, Stretch.drop_ofMessage descriptors (Nat.pos_of_ne_zero hk),
      Stretch.ofMessage_nil, Stretch.plain, Stretch.plain, List.map_take]

/-- A write sends what is left, with the descriptors on the first byte. -/
theorem writing_send (descriptors : List Descriptor) (patience : Duration)
    (after : Except SessionError Unit → Talk α) {k : Nat} (hk : k < (asLine message).length) :
    ∃ next, writing message descriptors patience after k =
        send ⟨(asLine message).drop k, if k = 0 then descriptors else [], true⟩ next ∧
      ∀ n, 0 < n → next (.ok n) = writing message descriptors patience after (k + n) := by
  have hne : (asLine message).drop k ≠ [] := by
    rw [ne_eq, List.drop_eq_nil_iff]
    omega
  unfold writing
  rw [Line.write, List.isEmpty_eq_false_iff.mpr hne, if_neg Bool.false_ne_true]
  refine ⟨_, rfl, ?_⟩
  intro n hn
  have hmore : ¬ (n = 0 ∨ (asLine message).drop k = []) := by
    rintro (hzero | hnil)
    · omega
    · exact hne hnil
  dsimp only [bind]
  rw [dif_neg hmore, List.drop_drop, if_neg (by omega)]
  rfl

/-- The line end is the last byte of a line. -/
theorem contains_take_asLine {j : Nat} (hmessage : newline ∉ message) :
    ((asLine message).take j).contains newline = decide ((asLine message).length ≤ j) := by
  by_cases hj : (asLine message).length ≤ j
  · rw [List.take_of_length_le hj, decide_eq_true hj]
    simp [asLine]
  · have htake : (asLine message).take j = message.take j := by
      rw [length_asLine] at hj
      unfold asLine
      rw [List.take_append_of_le_length (by omega)]
    rw [htake, decide_eq_false hj, Bool.eq_false_iff]
    intro hcontains
    exact hmessage (List.mem_of_mem_take (List.contains_iff_mem.mp hcontains))

/-- A read receives until the line is there. -/
theorem hearing_receive (descriptors : List Descriptor) {limit : Nat} (patience : Duration)
    (after : Except SessionError Bytes × List Descriptor → Talk α) (hmessage : newline ∉ message)
    (hlimit : message.length ≤ limit) {j : Nat} (hj : j < (asLine message).length) :
    ∃ next, hearing message descriptors limit patience after j = receive Line.chunkSize next ∧
      ∀ n, 0 < n → j + n ≤ (asLine message).length →
        next (.ok (Stretch.arrival (((spoken message descriptors).drop j).take n))) =
          hearing message descriptors limit patience after (j + n) := by
  have hbytes : Stretch.bytes (spoken message descriptors) = asLine message :=
    Stretch.bytes_ofMessage ..
  unfold hearing
  rw [if_neg (Nat.ne_of_lt hj), Line.readFrom]
  refine ⟨_, rfl, ?_⟩
  intro n hn hle
  have harrival : Stretch.arrival (((spoken message descriptors).drop j).take n) =
      ⟨((asLine message).drop j).take n,
        Stretch.descriptors (((spoken message descriptors).drop j).take n)⟩ := by
    rw [Stretch.arrival, Stretch.bytes_take, Stretch.bytes_drop, hbytes]
  have hne : ((asLine message).drop j).take n ≠ [] := by
    rw [ne_eq, List.take_eq_nil_iff, List.drop_eq_nil_iff]
    omega
  have hlonger : (asLine message).take j ++ ((asLine message).drop j).take n =
      (asLine message).take (j + n) := List.take_add.symm
  have hreceived : Stretch.descriptors ((spoken message descriptors).take j) ++
      Stretch.descriptors (((spoken message descriptors).drop j).take n) =
        Stretch.descriptors ((spoken message descriptors).take (j + n)) := by
    rw [← Stretch.descriptors_append, ← List.take_add]
  rw [harrival]
  dsimp only [bind]
  rw [dif_neg hne, hlonger, hreceived, contains_take_asLine hmessage]
  -- the line break is the last byte, so the line is whole only with the last piece
  by_cases hlast : j + n = (asLine message).length
  · have hline : (asLine message).take (j + n) = asLine message := by
      rw [hlast, List.take_length]
    have hall : (spoken message descriptors).take (j + n) = spoken message descriptors := by
      rw [hlast, ← length_spoken, List.take_length]
    have hdescriptors : Stretch.descriptors (spoken message descriptors) = descriptors :=
      Stretch.descriptors_ofMessage (by simp [asLine])
    rw [if_pos hlast, if_pos (decide_eq_true (Nat.le_of_eq hlast.symm)), hline, hall, hdescriptors,
      takeWhile_asLine hmessage]
    rfl
  · have hshort : ¬ limit < ((asLine message).take (j + n)).length := by
      rw [List.length_take]
      have hlength := length_asLine message
      omega
    rw [if_neg hlast, if_neg (by simp; omega), dif_neg hshort]
    rfl

/-! ### Moves of those who write and hear it -/

variable {alone : Prop} {incoming outgoing incoming' outgoing' : Pipe} {program : Talk α}

theorem not_isDone_writing (patience : Duration) (after : Except SessionError Unit → Talk α)
    {k : Nat} (hk : k < (asLine message).length) :
    ¬ (writing message descriptors patience after k).IsDone := by
  obtain ⟨next, hsend, -⟩ := writing_send descriptors patience after hk
  rw [hsend]
  exact id

/-- A step of a writer puts some bytes into its pipe. -/
theorem moves_writing {patience : Duration} {after : Except SessionError Unit → Talk α} {k r : Nat}
    (hk : k < (asLine message).length) (halone : ¬ alone)
    (hmoves : Moves alone (writing message descriptors patience after k) incoming
      ⟨(spoken message descriptors).take k, r⟩ program incoming' outgoing') :
    ∃ n, 0 < n ∧ k + n ≤ (asLine message).length ∧
      program = writing message descriptors patience after (k + n) ∧ incoming' = incoming ∧
      outgoing' = ⟨(spoken message descriptors).take (k + n), r⟩ := by
  obtain ⟨next, hsend, hnext⟩ := writing_send descriptors patience after hk
  rw [hsend] at hmoves
  cases hmoves with
  | broken _ _ _ _ e halone' => exact absurd halone' halone
  | send _ _ _ _ n hpos hle =>
    have hle : n ≤ ((asLine message).drop k).length := hle
    rw [List.length_drop] at hle
    refine ⟨n, hpos, by omega, hnext n hpos, rfl, ?_⟩
    rw [take_add_spoken]

/-- A writer can always go on. -/
theorem writing_moves (alone : Prop) (patience : Duration)
    (after : Except SessionError Unit → Talk α) {k : Nat} (hk : k < (asLine message).length)
    (incoming outgoing : Pipe) : ∃ program incoming' outgoing',
      Moves alone (writing message descriptors patience after k) incoming outgoing program
        incoming' outgoing' := by
  obtain ⟨next, hsend, -⟩ := writing_send descriptors patience after hk
  rw [hsend]
  refine ⟨_, _, _, .send _ _ _ _ 1 Nat.one_pos ?_⟩
  rw [List.length_drop]
  omega

section

variable {limit : Nat} {patience : Duration}
  {after : Except SessionError Bytes × List Descriptor → Talk α} (hmessage : newline ∉ message)
  (hlimit : message.length ≤ limit)

include hmessage hlimit

theorem not_isDone_hearing {j : Nat} (hj : j < (asLine message).length) :
    ¬ (hearing message descriptors limit patience after j).IsDone := by
  obtain ⟨next, hreceive, -⟩ :=
    hearing_receive descriptors patience after hmessage hlimit hj
  rw [hreceive]
  exact id

/-- A step of a reader takes some bytes out of its pipe. -/
theorem moves_hearing {j k : Nat} (hj : j < (asLine message).length)
    (hk : k ≤ (asLine message).length) (halone : alone → j < k)
    (hmoves : Moves alone (hearing message descriptors limit patience after j)
      ⟨(spoken message descriptors).take k, j⟩ outgoing program incoming' outgoing') :
    ∃ n, 0 < n ∧ j + n ≤ k ∧
      program = hearing message descriptors limit patience after (j + n) ∧
      incoming' = ⟨(spoken message descriptors).take k, j + n⟩ ∧ outgoing' = outgoing := by
  have hlength : ((spoken message descriptors).take k).length = k := by
    rw [List.length_take, length_spoken, Nat.min_eq_left hk]
  obtain ⟨next, hreceive, hnext⟩ :=
    hearing_receive descriptors patience after hmessage hlimit hj
  rw [hreceive] at hmoves
  cases hmoves with
  | ended _ _ _ _ halone' hall =>
    have hall : j = ((spoken message descriptors).take k).length := hall
    have hlt := halone halone'
    omega
  | receive _ _ _ _ n hpos hsize hle =>
    have hle : j + n ≤ ((spoken message descriptors).take k).length := hle
    rw [hlength] at hle
    have hpiece : (((spoken message descriptors).take k).drop j).take n =
        ((spoken message descriptors).drop j).take n := by
      rw [List.drop_take, List.take_take, Nat.min_eq_left (by omega)]
    refine ⟨n, hpos, hle, ?_, rfl, rfl⟩
    dsimp only
    rw [hpiece]
    exact hnext n hpos (by omega)

/-- A reader can go on as long as there are bytes in its pipe. -/
theorem hearing_moves (alone : Prop) (patience : Duration)
    (after : Except SessionError Bytes × List Descriptor → Talk α) {j k : Nat} (hjk : j < k)
    (hk : k ≤ (asLine message).length) (outgoing : Pipe) : ∃ program incoming' outgoing',
      Moves alone (hearing message descriptors limit patience after j)
        ⟨(spoken message descriptors).take k, j⟩ outgoing program incoming' outgoing' := by
  obtain ⟨next, hreceive, -⟩ :=
    hearing_receive descriptors patience after hmessage hlimit (Nat.lt_of_lt_of_le hjk hk)
  rw [hreceive]
  refine ⟨_, _, _, .receive _ _ _ _ 1 Nat.one_pos (by decide) ?_⟩
  show j + 1 ≤ ((spoken message descriptors).take k).length
  rw [List.length_take, length_spoken]
  omega

end

end Talk

end Framecast
