import Framecast.Proofs.Session.Dialogue

/-!
# Both sides agree

A client that asks for an attachment and the server that it asks understand each other, in whatever
pieces their messages cross the connection and whoever moves first. The client gets the very socket
and the capabilities that the service gave, or the very words of its refusal, and the server knows
which of the two it was.

A meeting goes through a few stages, each with a bound on the steps that are left. A step leads to a
stage with a lower one, and only at the last stage is there none to take.
-/

namespace Framecast

namespace Meeting

open Talk

/-- The message that answers a request, given what the service said. -/
def reply : Except SessionError Attachment → Bytes
  | .ok a => AttachAnswer.encode { caps := some a.caps, handle := some a.handle }
  | .error e => AttachAnswer.encode { error := some e.message }

/-- The descriptors that go with it. -/
def carried : Except SessionError Attachment → List Descriptor
  | .ok a => [a.channel]
  | .error _ => []

/-- What the client makes of it. -/
def told : Except SessionError Attachment → Except SessionError Attachment
  | .ok a => .ok { channel := a.channel, caps := a.caps }
  | .error e => .error (.refused (.stated e.message))

/-- What the service is asked for besides the attachment. -/
def settled : Except SessionError Attachment → List Asked
  | .ok a => [.keep a]
  | .error _ => []

/-! ### What the two do -/

/-- The request of a client that wants to attach. -/
def request : Bytes :=
  AttachRequest.attach.encode

/-- The client has read the answer. -/
def concluded (read : Except SessionError Bytes × List Descriptor) :
    Talk (Except SessionError Attachment) :=
  done (Exchange.conclude read.1 read.2)

/-- The client has written its request. -/
def requested (client : EndpointConfig) :
    Except SessionError Unit → Talk (Except SessionError Attachment)
  | .error e => done (.error e)
  | .ok () => Line.read channel.receive client.maxMessage client.replyTimeout >>= concluded

/-- The server has written its answer. -/
def replied : Except SessionError Attachment → Except SessionError Unit →
    Talk (Except SessionError Unit)
  | .ok a, .error e => takeBack a (done (.error e))
  | .ok a, .ok () => keep a (done (.ok ()))
  | .error _, .error e => done (.error e)
  | .error e, .ok () => done (.error e)

/-- The server has read the request. -/
def heard (server : EndpointConfig) (read : Except SessionError Bytes × List Descriptor) :
    Talk (Except SessionError Unit) :=
  match read.1.map AttachRequest.decode with
  | .error e => done (.error e)
  | .ok (.error fault) =>
    Exchange.answerError server channel ("invalid request: " ++ fault.message) (.malformed fault)
  | .ok (.ok r) =>
    if r = .attach then
      attach fun answer =>
        writing (reply answer) (carried answer) server.timeout (replied answer) 0
    else
      Exchange.answerError server channel (Refusal.unknownMethod r.method).message
        (.refused (.unknownMethod r.method))

/-- A client writes its request before all else. -/
theorem request_eq (client : EndpointConfig) :
    Exchange.request client channel =
      Line.write channel.send client.timeout (asLine request) [] >>= requested client := by
  unfold Exchange.request
  congr 1
  funext written
  cases written with
  | error e => rfl
  | ok u =>
    show (Line.read channel.receive client.maxMessage client.replyTimeout >>= _ : Talk _) = _
    unfold requested
    congr 1
    funext read
    obtain ⟨line, descriptors⟩ := read
    dsimp only
    split <;> rfl

/-- A client is a request to write, and then a reply to read. -/
theorem ask_eq (client : EndpointConfig) :
    Exchange.ask client channel = writing request [] client.timeout (requested client) 0 := by
  have hclose : Exchange.ask client channel = Exchange.request client channel >>= done := rfl
  rw [hclose, bind_done, request_eq]
  rfl

theorem requested_ok (client : EndpointConfig) (message : Bytes) (descriptors : List Descriptor) :
    requested client (.ok ()) =
      hearing message descriptors client.maxMessage client.replyTimeout concluded 0 := by
  have hne : ¬ 0 = (asLine message).length := by simp [asLine]
  unfold hearing
  rw [if_neg hne]
  rfl

/-- A server that delivers writes its reply, with the socket on it. -/
theorem deliver_eq (server : EndpointConfig) (a : Attachment) :
    Exchange.deliver server channel service a =
      writing (reply (.ok a)) [a.channel] server.timeout (replied (.ok a)) 0 := by
  refine congrArg
    (bind · (Line.write channel.send server.timeout (asLine (reply (.ok a))) [a.channel])) ?_
  funext written
  cases written <;> rfl

theorem answerError_eq (server : EndpointConfig) (e : SessionError) :
    Exchange.answerError server channel e.message e =
      writing (reply (.error e)) [] server.timeout (replied (.error e)) 0 := by
  refine congrArg
    (bind · (Line.write channel.send server.timeout (asLine (reply (.error e))) [])) ?_
  funext written
  cases written <;> rfl

theorem answer_eq (server : EndpointConfig) :
    Exchange.answer server channel service =
      Line.read channel.receive server.maxMessage server.timeout >>= heard server := by
  unfold Exchange.answer
  congr 1
  funext read
  obtain ⟨line, descriptors⟩ := read
  unfold heard
  dsimp only
  cases line.map AttachRequest.decode with
  | error e => rfl
  | ok decoded =>
    cases decoded with
    | error fault => rfl
    | ok r =>
      by_cases hattach : r = .attach
      · dsimp only
        rw [if_pos hattach, if_pos hattach]
        refine congrArg attach (funext fun answer => ?_)
        cases answer with
        | ok a => exact deliver_eq server a
        | error e => exact answerError_eq server e
      · dsimp only
        rw [if_neg hattach, if_neg hattach]
        rfl

/-- A server is a request to read, and then a reply to write. -/
theorem handle_eq (server : EndpointConfig) :
    Exchange.handle server channel service =
      hearing request [] server.maxMessage server.timeout (heard server) 0 := by
  have hclose : Exchange.handle server channel service =
    Exchange.answer server channel service >>= done := rfl
  have hne : ¬ 0 = (asLine request).length := by simp [asLine]
  unfold hearing
  rw [hclose, bind_done, answer_eq, if_neg hne]
  rfl

/-- A server that has read the request asks the service. -/
theorem heard_request (server : EndpointConfig) :
    heard server (.ok request, []) = attach fun answer =>
      writing (reply answer) (carried answer) server.timeout (replied answer) 0 := by
  have hdecode : (Except.ok request : Except SessionError Bytes).map AttachRequest.decode =
    .ok (AttachRequest.decode request) := rfl
  unfold heard
  rw [hdecode, request, AttachRequest.decode_encode]
  exact if_pos rfl

theorem newline_not_mem_reply (answer : Except SessionError Attachment) :
    newline ∉ reply answer := by
  cases answer with
  | ok a => exact AttachAnswer.newline_not_mem_encode _
  | error e => exact AttachAnswer.newline_not_mem_encode _

/-- What a client concludes from a reply is what the server answered. -/
theorem conclude_reply {answer : Except SessionError Attachment}
    (hhandle : ∀ a, answer = .ok a → a.handle = 0) :
    Exchange.conclude (.ok (reply answer)) (carried answer) = told answer := by
  have hmap (message : Bytes) : (Except.ok message : Except SessionError Bytes).map
    AttachAnswer.decode = .ok (AttachAnswer.decode message) := rfl
  unfold Exchange.conclude
  cases answer with
  | error e =>
    have hnone : ∀ n ∈ (none : Option Nat), n < 0x100000000 := by
      intro n hn
      cases hn
    rw [hmap, reply, AttachAnswer.decode_encode hnone]
    rfl
  | ok a =>
    have hzero := hhandle a rfl
    have hsmall : ∀ n ∈ some a.handle, n < 0x100000000 := by
      intro n hn
      rw [Option.mem_some_iff.mp hn |>.symm, hzero]
      decide
    rw [hmap, reply, AttachAnswer.decode_encode hsmall]
    show (Exchange.accept _ [a.channel]).mapError _ = _
    unfold Exchange.accept
    dsimp only
    rw [hzero]
    rfl

/-! ### Stages -/

section

variable (client server : EndpointConfig) (answer : Except SessionError Attachment)

/-- The client, when it has written so many bytes of its request. -/
def asking (k : Nat) : Talk (Except SessionError Attachment) :=
  writing request [] client.timeout (requested client) k

/-- The client, when it has read so many bytes of the answer. -/
def listening (j : Nat) : Talk (Except SessionError Attachment) :=
  hearing (reply answer) (carried answer) client.maxMessage client.replyTimeout concluded j

/-- The server, when it has read so many bytes of the request. -/
def attending (j : Nat) : Talk (Except SessionError Unit) :=
  hearing request [] server.maxMessage server.timeout (heard server) j

/-- The server, when it has written so many bytes of its answer. -/
def replying (k : Nat) : Talk (Except SessionError Unit) :=
  writing (reply answer) (carried answer) server.timeout (replied answer) k

/-- The pipe to the server when so many bytes were put into it and so many were taken out. -/
def questions (k j : Nat) : Pipe :=
  ⟨(spoken request []).take k, j⟩

/-- The pipe to the client when so many bytes were put into it and so many were taken out. -/
def answering (k j : Nat) : Pipe :=
  ⟨(spoken (reply answer) (carried answer)).take k, j⟩

/-- How many bytes the request takes, its line end among them. -/
def requestLength : Nat := (asLine request).length

/-- How many bytes the reply takes, its line end among them. -/
def replyLength : Nat := (asLine (reply answer)).length

/-- Where a meeting is, and how many steps it has left at most. -/
inductive Stage : Nat → Meeting → Prop
  /-- The request is on its way. -/
  | asking (k j : Nat) (hjk : j ≤ k) (hk : k ≤ requestLength) (hj : j < requestLength) :
      Stage (requestLength - k + (requestLength - j) + 2 * replyLength answer + 2)
        ⟨asking client k, attending server j, questions k j, {}, []⟩
  /-- The request was understood. -/
  | attaching :
      Stage (2 * replyLength answer + 2) ⟨listening client answer 0, attending server requestLength,
        questions requestLength requestLength, {}, []⟩
  /-- The answer is on its way. -/
  | replying (k j : Nat) (hjk : j ≤ k) (hk : k < replyLength answer) :
      Stage (replyLength answer - k + (replyLength answer - j) + 1)
        ⟨listening client answer j, replying server answer k,
          questions requestLength requestLength, answering answer k j, [.attach]⟩
  /-- The answer was written, and the attachment stays. -/
  | keeping (a : Attachment) (ha : answer = .ok a) (j : Nat) (hj : j ≤ replyLength answer) :
      Stage (replyLength answer - j + 1)
        ⟨listening client answer j, keep a (done (.ok ())),
          questions requestLength requestLength, answering answer (replyLength answer) j, [.attach]⟩
  /-- The server is done. -/
  | leaving (j : Nat) (hj : j ≤ replyLength answer) :
      Stage (replyLength answer - j)
        ⟨listening client answer j, done (answer.map fun _ => ()),
          questions requestLength requestLength, answering answer (replyLength answer) j,
          .attach :: settled answer⟩

end

section

variable {client server : EndpointConfig} {answer : Except SessionError Attachment}

theorem replyLength_pos : 0 < replyLength answer := by
  unfold replyLength
  rw [length_asLine]
  exact Nat.succ_pos _

theorem newline_not_mem_request : newline ∉ request :=
  AttachRequest.newline_not_mem_encode _

theorem asking_all (client : EndpointConfig) (answer : Except SessionError Attachment) :
    asking client requestLength = listening client answer 0 := by
  have hdone : asking client requestLength = requested client (.ok ()) := writing_done rfl
  rw [hdone]
  exact requested_ok client (reply answer) (carried answer)

theorem attending_all :
    attending server requestLength = attach fun answer => replying server answer 0 := by
  have hall : attending server requestLength = heard server (.ok request, []) := by
    unfold attending hearing
    exact if_pos rfl
  rw [hall]
  exact heard_request server

theorem replying_all : replying server answer (replyLength answer) = replied answer (.ok ()) :=
  writing_done rfl

theorem listening_all : listening client answer (replyLength answer) =
    concluded (.ok (reply answer), carried answer) :=
  if_pos rfl

/-- When the answer was written, the server keeps the attachment or is done. -/
theorem stage_replied (client server : EndpointConfig) {j : Nat} (hj : j ≤ replyLength answer) :
    ∃ n ≤ replyLength answer - j + 1, Stage client server answer n
      ⟨listening client answer j, replying server answer (replyLength answer),
        questions requestLength requestLength, answering answer (replyLength answer) j,
        [.attach]⟩ := by
  rw [replying_all]
  cases answer with
  | ok a => exact ⟨_, Nat.le_refl _, .keeping a rfl j hj⟩
  | error e => exact ⟨_, Nat.le_succ _, .leaving j hj⟩

variable (hrequest : request.length ≤ server.maxMessage)
  (hreply : (reply answer).length ≤ client.maxMessage)

include hrequest in

theorem attending_receives {j : Nat} (hj : j < requestLength) :
    ∃ size next, attending server j = receive size next := by
  obtain ⟨next, hreceive, -⟩ := hearing_receive [] server.timeout (heard server)
    newline_not_mem_request hrequest hj
  exact ⟨_, next, hreceive⟩

theorem replying_sends (server : EndpointConfig) {k : Nat} (hk : k < replyLength answer) :
    ∃ call next, replying server answer k = send call next := by
  obtain ⟨next, hsend, -⟩ :=
    writing_send (carried answer) server.timeout (replied answer) hk
  exact ⟨_, next, hsend⟩

include hreply

/-- The client can only read what was written. -/
theorem listening_step {j k : Nat} (hj : j < replyLength answer) (hk : k ≤ replyLength answer)
    {alone : Prop} (halone : alone → j < k) {program : Talk (Except SessionError Attachment)}
    {requests answers requests' : Pipe}
    (hmoves : Moves alone (listening client answer j) (answering answer k j) requests program
      answers requests') : ∃ n, 0 < n ∧ j + n ≤ k ∧ program = listening client answer (j + n) ∧
      answers = answering answer k (j + n) ∧ requests' = requests :=
  moves_hearing (newline_not_mem_reply answer) hreply hj hk halone hmoves

theorem not_isDone_listening {j : Nat} (hj : j < replyLength answer) :
    ¬ (listening client answer j).IsDone :=
  not_isDone_hearing (newline_not_mem_reply answer) hreply hj

theorem not_isDone_asking {k : Nat} (hk : k ≤ requestLength) : ¬ (asking client k).IsDone := by
  rcases Nat.lt_or_eq_of_le hk with hk | rfl
  · exact not_isDone_writing client.timeout (requested client) hk
  · rw [asking_all client answer]
    exact not_isDone_listening hreply replyLength_pos

include hrequest

/-- A step while the request is under way. -/
theorem step_asking {k j : Nat} (hjk : j ≤ k) (hk : k ≤ requestLength) (hj : j < requestLength)
    {m : Meeting} (hstep : Step answer
      ⟨asking client k, attending server j, questions k j, {}, []⟩ m) :
    ∃ n < requestLength - k + (requestLength - j) + 2 * replyLength answer + 2,
      Stage client server answer n m := by
  obtain ⟨size, next, hreceive⟩ := attending_receives hrequest hj
  have hserver : ¬ (attending server j).IsDone ∧ ¬ (attending server j).Asks := by
    rw [hreceive]
    exact ⟨id, id⟩
  rcases hstep.moves hserver.2 with ⟨program, answers, requests, hmoves, rfl⟩ |
    ⟨program, requests, answers, hmoves, rfl⟩
  · dsimp only at hmoves
    rcases Nat.lt_or_eq_of_le hk with hlt | rfl
    · obtain ⟨n, hn, hle, rfl, rfl, rfl⟩ := moves_writing hlt hserver.1 hmoves
      exact ⟨_, by omega, .asking (k + n) j (by omega) hle hj⟩
    · rw [asking_all client answer] at hmoves
      -- the client listens, but nothing of the answer was written yet
      obtain ⟨n, hn, hle, -⟩ :=
        listening_step (k := 0) hreply replyLength_pos (Nat.zero_le _) (absurd · hserver.1) hmoves
      omega
  · obtain ⟨n, hn, hle, rfl, rfl, rfl⟩ := moves_hearing newline_not_mem_request hrequest hj hk
      (absurd · (not_isDone_asking hreply hk)) hmoves
    rcases Nat.lt_or_eq_of_le (Nat.le_trans hle hk) with hlt | heq
    · exact ⟨_, by omega, .asking k (j + n) hle hk hlt⟩
    · have hall : k = requestLength := by omega
      rw [hall, heq, asking_all client answer]
      exact ⟨_, by omega, .attaching⟩

omit hrequest in

/-- A step while the service is asked. -/
theorem step_attaching {m : Meeting} (hstep : Step answer ⟨listening client answer 0,
      attending server requestLength, questions requestLength requestLength, {}, []⟩ m) :
    ∃ n < 2 * replyLength answer + 2, Stage client server answer n m := by
  rw [attending_all] at hstep
  cases hstep with
  | keep a next hnext => cases hnext
  | takeBack a next hnext => cases hnext
  | server program requests answers hmoves => cases hmoves
  | client program answers requests hmoves =>
    obtain ⟨n, hn, hle, -⟩ :=
      listening_step (k := 0) hreply replyLength_pos (Nat.zero_le _) (fun h => h.elim) hmoves
    omega
  | attach next hnext =>
    cases hnext
    exact ⟨_, by omega, .replying 0 0 (Nat.le_refl _) replyLength_pos⟩

omit hrequest in

/-- A step while the reply is under way. -/
theorem step_replying {k j : Nat} (hjk : j ≤ k) (hk : k < replyLength answer) {m : Meeting}
    (hstep : Step answer ⟨listening client answer j, replying server answer k,
      questions requestLength requestLength, answering answer k j, [.attach]⟩ m) :
    ∃ n < replyLength answer - k + (replyLength answer - j) + 1,
      Stage client server answer n m := by
  obtain ⟨call, next, hsend⟩ := replying_sends server hk
  have hj := Nat.lt_of_le_of_lt hjk hk
  have hserver : ¬ (replying server answer k).IsDone ∧ ¬ (replying server answer k).Asks := by
    rw [hsend]
    exact ⟨id, id⟩
  rcases hstep.moves hserver.2 with ⟨program, answers, requests, hmoves, rfl⟩ |
    ⟨program, requests, answers, hmoves, rfl⟩
  · obtain ⟨n, hn, hle, rfl, rfl, rfl⟩ :=
      listening_step hreply hj (Nat.le_of_lt hk) (absurd · hserver.1) hmoves
    exact ⟨_, by omega, .replying k (j + n) hle hk⟩
  · obtain ⟨n, hn, hle, rfl, rfl, rfl⟩ :=
      moves_writing hk (not_isDone_listening hreply hj) hmoves
    rcases Nat.lt_or_eq_of_le hle with hlt | heq
    · exact ⟨_, by omega, .replying (k + n) j (by omega) hlt⟩
    · have hall : k + n = replyLength answer := heq
      obtain ⟨n', hn', hstage⟩ := stage_replied client server (Nat.le_of_lt hj)
      rw [hall]
      exact ⟨n', by omega, hstage⟩

omit hrequest in

/-- A step while the service is told to keep the attachment. -/
theorem step_keeping {a : Attachment} (ha : answer = .ok a) {j : Nat} (hj : j ≤ replyLength answer)
    {m : Meeting} (hstep : Step answer ⟨listening client answer j, keep a (done (.ok ())),
      questions requestLength requestLength, answering answer (replyLength answer) j,
      [.attach]⟩ m) :
    ∃ n < replyLength answer - j + 1, Stage client server answer n m := by
  cases hstep with
  | attach next hnext => cases hnext
  | takeBack a next hnext => cases hnext
  | server program requests answers hmoves => cases hmoves
  | keep b next hnext =>
    cases hnext
    have hleaving : Stage client server answer _ _ := .leaving j hj
    rw [ha] at hleaving
    rw [ha]
    exact ⟨_, by omega, hleaving⟩
  | client program answers requests hmoves =>
    rcases Nat.lt_or_eq_of_le hj with hlt | rfl
    · obtain ⟨n, hn, hle, rfl, rfl, rfl⟩ :=
        listening_step hreply hlt (Nat.le_refl _) (fun h => h.elim) hmoves
      exact ⟨_, by omega, .keeping a ha (j + n) hle⟩
    · rw [listening_all] at hmoves
      cases hmoves

omit hrequest in

/-- A step while the client reads what is left. -/
theorem step_leaving {j : Nat} (hj : j ≤ replyLength answer) {m : Meeting}
    (hstep : Step answer ⟨listening client answer j, done (answer.map fun _ => ()),
      questions requestLength requestLength, answering answer (replyLength answer) j,
      .attach :: settled answer⟩ m) :
    ∃ n < replyLength answer - j, Stage client server answer n m := by
  rcases hstep.moves id with ⟨program, answers, requests, hmoves, rfl⟩ |
    ⟨program, requests, answers, hmoves, rfl⟩
  · rcases Nat.lt_or_eq_of_le hj with hlt | rfl
    · obtain ⟨n, hn, hle, rfl, rfl, rfl⟩ :=
        listening_step hreply hlt (Nat.le_refl _) (fun _ => hlt) hmoves
      exact ⟨_, by omega, .leaving (j + n) hle⟩
    · dsimp only at hmoves
      rw [listening_all] at hmoves
      cases hmoves
  · cases hmoves

/-- Every step comes nearer to the end. -/
theorem stage_step {n : Nat} {m m' : Meeting} (hstage : Stage client server answer n m)
    (hstep : Step answer m m') : ∃ n' < n, Stage client server answer n' m' := by
  cases hstage with
  | asking k j hjk hk hj => exact step_asking hrequest hreply hjk hk hj hstep
  | attaching => exact step_attaching hreply hstep
  | replying k j hjk hk => exact step_replying hreply hjk hk hstep
  | keeping a ha j hj => exact step_keeping hreply ha hj hstep
  | leaving j hj => exact step_leaving hreply hj hstep

end

/-! ### The end -/

/-- The conversation is over, and both sides know the same. -/
structure Agreed (answer : Except SessionError Attachment) (m : Meeting) : Prop where
  client : m.client = done (told answer)
  server : m.server = done (answer.map fun _ => ())
  asked : m.asked = .attach :: settled answer
  /-- No descriptor but that of the attachment was sent, and it was received. -/
  descriptors : m.answers.sent.descriptors = carried answer
  received : m.answers.received = m.answers.sent.length

section

variable {client server : EndpointConfig} {answer : Except SessionError Attachment}
  (hhandle : ∀ a, answer = .ok a → a.handle = 0) (hrequest : request.length ≤ server.maxMessage)
  (hreply : (reply answer).length ≤ client.maxMessage)

include hhandle in
theorem agreed_leaving : Agreed answer ⟨listening client answer (replyLength answer),
    done (answer.map fun _ => ()), questions requestLength requestLength,
    answering answer (replyLength answer) (replyLength answer), .attach :: settled answer⟩ where
  client := by
    rw [listening_all]
    exact congrArg done (conclude_reply hhandle)
  server := rfl
  asked := rfl
  descriptors := by
    have hall : (answering answer (replyLength answer) (replyLength answer)).sent =
        spoken (reply answer) (carried answer) :=
      List.take_of_length_le (Nat.le_of_eq length_spoken)
    rw [hall]
    exact Stretch.descriptors_ofMessage (by simp [asLine])
  received := by
    have hlength : (answering answer (replyLength answer) (replyLength answer)).sent.length =
        replyLength answer := by
      rw [answering, List.length_take, length_spoken]
      exact Nat.min_self _
    exact hlength.symm

include hhandle hrequest hreply

/-- There is a step to take, or both sides agree. -/
theorem stage_progress {n : Nat} {m : Meeting} (hstage : Stage client server answer n m) :
    (∃ m', Step answer m m') ∨ Agreed answer m := by
  cases hstage with
  | asking k j hjk hk hj =>
    rcases Nat.lt_or_eq_of_le hk with hlt | rfl
    · obtain ⟨program, answers, requests, hmoves⟩ :=
        writing_moves (attending server j).IsDone client.timeout (requested client) hlt {}
          (questions k j)
      exact .inl ⟨_, .client _ program answers requests hmoves⟩
    · obtain ⟨program, requests, answers, hmoves⟩ :=
        hearing_moves newline_not_mem_request hrequest (asking client requestLength).IsDone
          server.timeout (heard server) hj (Nat.le_refl _) {}
      exact .inl ⟨_, .server _ program requests answers hmoves⟩
  | attaching => exact .inl ⟨_, .attach _ _ attending_all⟩
  | replying k j hjk hk =>
    obtain ⟨program, requests, answers, hmoves⟩ :=
      writing_moves (listening client answer j).IsDone server.timeout (replied answer) hk
        (questions requestLength requestLength) (answering answer k j)
    exact .inl ⟨_, .server _ program requests answers hmoves⟩
  | keeping a ha j hj => exact .inl ⟨_, .keep _ a _ rfl⟩
  | leaving j hj =>
    rcases Nat.lt_or_eq_of_le hj with hlt | rfl
    · obtain ⟨program, answers, requests, hmoves⟩ :=
        hearing_moves (newline_not_mem_reply answer) hreply True client.replyTimeout concluded hlt
          (Nat.le_refl _) (questions requestLength requestLength)
      exact .inl ⟨_, .client _ program answers requests hmoves⟩
    · exact .inr (agreed_leaving hhandle)

omit hhandle in

/-- Every run comes nearer to the end by its length. -/
theorem stage_run {n steps : Nat} {m m' : Meeting} (hstage : Stage client server answer n m)
    (hrun : Run answer steps m m') : ∃ n', n' + steps ≤ n ∧ Stage client server answer n' m' := by
  induction hrun generalizing n with
  | refl m => exact ⟨n, Nat.le_refl _, hstage⟩
  | step hfirst hrest ih =>
    obtain ⟨n₁, hlt, hstage₁⟩ := stage_step hrequest hreply hstage hfirst
    obtain ⟨n₂, hle, hstage₂⟩ := ih hstage₁
    exact ⟨n₂, by omega, hstage₂⟩

end

theorem stage_opening (client server : EndpointConfig) (answer : Except SessionError Attachment) :
    ∃ n, Stage client server answer n (opening client server) := by
  have hlength : 0 < requestLength := by
    unfold requestLength
    rw [length_asLine]
    exact Nat.succ_pos _
  have hstage : Stage client server answer _ _ :=
    .asking 0 0 (Nat.le_refl _) (Nat.zero_le _) hlength
  unfold opening
  rw [ask_eq, handle_eq]
  exact ⟨_, hstage⟩

/-- A client and a server understand each other, and every message is one line. -/
structure Agreement (client server : EndpointConfig) (answer : Except SessionError Attachment) :
    Prop where
  /-- However the two go on, it is not for ever, and they go on until they agree. -/
  ends : ∃ bound, ∀ steps m, Run answer steps (opening client server) m →
    steps ≤ bound ∧ ((∃ m', Step answer m m') ∨ Agreed answer m)
  requests : ∀ r : AttachRequest, IsLine (asLine r.encode) ∧
    AttachRequest.decode ((asLine r.encode).takeWhile (· ≠ newline)) = .ok r
  answers : ∀ a : AttachAnswer, (∀ n ∈ a.handle, n < 0x100000000) → IsLine (asLine a.encode) ∧
    AttachAnswer.decode ((asLine a.encode).takeWhile (· ≠ newline)) = .ok a

/-- A client and a server that were started on one connection come to agree, if the messages are
short enough for whoever reads them. -/
theorem agreement (client server : EndpointConfig) (answer : Except SessionError Attachment)
    (hhandle : ∀ a, answer = .ok a → a.handle = 0) (hrequest : request.length ≤ server.maxMessage)
    (hreply : (reply answer).length ≤ client.maxMessage) : Agreement client server answer where
  ends := by
    obtain ⟨bound, hopening⟩ := stage_opening client server answer
    refine ⟨bound, ?_⟩
    intro steps m hrun
    obtain ⟨n, hle, hstage⟩ := stage_run hrequest hreply hopening hrun
    exact ⟨by omega, stage_progress hhandle hrequest hreply hstage⟩
  requests := by
    intro r
    have hline := r.newline_not_mem_encode
    rw [takeWhile_asLine hline]
    exact ⟨isLine_asLine hline, r.decode_encode⟩
  answers := by
    intro a ha
    have hline := a.newline_not_mem_encode
    rw [takeWhile_asLine hline]
    exact ⟨isLine_asLine hline, AttachAnswer.decode_encode ha⟩

/-- A socket whose capabilities hold all that is escaped. -/
def quoted : Attachment :=
  { channel := .socket 7, caps := "format=\"A\\B\"\n\t\u0001" }

theorem agreement_quoted : (∀ a, (.ok quoted : Except SessionError Attachment) = .ok a →
    a.handle = 0) ∧ request.length ≤ 4096 ∧ (reply (.ok quoted)).length ≤ 4096 ∧
      Agreement {} {} (.ok quoted) := by
  have hhandle : ∀ a, (.ok quoted : Except SessionError Attachment) = .ok a → a.handle = 0 := by
    intro a ha
    cases ha
    rfl
  have hrequest : request.length ≤ 4096 := by decide +kernel
  have hreply : (reply (.ok quoted)).length ≤ 4096 := by decide +kernel
  exact ⟨hhandle, hrequest, hreply, agreement {} {} (.ok quoted) hhandle hrequest hreply⟩

end Meeting

end Framecast
