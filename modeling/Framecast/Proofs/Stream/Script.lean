import Framecast.Frame.Writer
import Framecast.Proofs.Stream.Stretch

/-!
# What a scripted socket accepted

The calls that a scripted socket was asked make up a stream: of every call the bytes that were
taken, with the call's descriptors on the first of them. `sent_sender` says what one call adds,
`sendAll_accepted` and `write_accepted` what a whole write adds, whatever pieces the socket takes it
in. A socket that is willing takes at least one byte of whatever it is offered, so that writing to
it does not fail.
-/

namespace Framecast

/-- What one call put on the stream. -/
def SendRecord.accepted (r : SendRecord) : Stretch :=
  match r.answer with
  | .ok taken => Stretch.ofMessage r.call.descriptors (r.call.data.take taken)
  | .error _ => []

/-- The bytes of a packet on the wire, with its descriptors on the first one. -/
def Packet.stretch (p : Packet) : Stretch :=
  Stretch.ofMessage p.descriptors p.header.encode ++ Stretch.plain p.body

namespace SendScript

/-- What a scripted socket took, byte for byte. -/
def accepted (s : SendScript) : Stretch :=
  s.calls.reverse.flatMap SendRecord.accepted

/-- Every answer to come takes at least one byte, or asks to try again. -/
def Willing (s : SendScript) : Prop :=
  ∀ answer ∈ s.answers, (∃ bound, answer = .ok bound ∧ 0 < bound) ∨ interrupted answer = true

/-- What a call comes to: how many bytes were taken, and the script afterwards. -/
structure Sent (call : SendCall) (s : SendScript) (reply : Except IoError Nat) (s' : SendScript) :
    Prop where
  accepted : s'.accepted = s.accepted ++ (SendRecord.mk call reply).accepted
  willing : s.Willing → s'.Willing
  took : s.Willing → ∃ n, reply = .ok n ∧ (call.data ≠ [] → 0 < n)

/-- What was taken so far, and what this call took. -/
theorem accepted_answer (call : SendCall) (s : SendScript) :
    (s.answer call).2.accepted = s.accepted ++ (SendRecord.mk call (s.answer call).1).accepted := by
  unfold accepted answer
  dsimp only
  rw [List.reverse_cons, List.flatMap_append, List.flatMap_singleton]
  rfl

theorem answers_answer (call : SendCall) (s : SendScript) :
    (s.answer call).2.answers = s.answers.tail := by
  unfold answer
  match s.answers with
  | [] => rfl
  | .ok _ :: _ => rfl
  | .error _ :: _ => rfl

theorem Willing.answer {s : SendScript} (hs : s.Willing) (call : SendCall) :
    (s.answer call).2.Willing := by
  intro answer hmem
  rw [answers_answer] at hmem
  exact hs answer (List.mem_of_mem_tail hmem)

/-- A willing socket takes something of every call in the end. -/
theorem Willing.took {s : SendScript} (hs : s.Willing) (call : SendCall)
    (hdone : interrupted (s.answer call).1 = false) :
    ∃ n, (s.answer call).1 = .ok n ∧ (call.data ≠ [] → 0 < n) := by
  unfold SendScript.answer at hdone ⊢
  match heq : s.answers with
  | [] => exact ⟨call.data.length, rfl, List.length_pos_iff.mpr⟩
  | .ok bound :: rest =>
    refine ⟨min bound call.data.length, rfl, ?_⟩
    intro hne
    have hlen := List.length_pos_iff.mpr hne
    rcases hs (.ok bound) (heq ▸ List.mem_cons_self ..) with ⟨b, hb, hpos⟩ | hint
    · cases hb
      omega
    · cases hint
  | .error e :: rest =>
    rw [heq] at hdone
    rcases hs (.error e) (heq ▸ List.mem_cons_self ..) with ⟨b, hb, -⟩ | hint
    · cases hb
    · rw [hint] at hdone
      cases hdone

/-- What was interrupted put nothing on the stream. -/
theorem sent_sender (call : SendCall) (s : SendScript) :
    Sent call s (sender call s).1 (sender call s).2 := by
  unfold sender
  fun_induction uninterrupted (answer call) (·.answers.length) _ s with
  | case1 s h hlt ih =>
    have haccepted := accepted_answer call s
    have hnothing : (SendRecord.mk call (s.answer call).1).accepted = [] := by
      match hreply : (s.answer call).1 with
      | .error _ => rfl
      | .ok _ =>
        rw [hreply] at h
        cases h
    rw [hnothing, List.append_nil] at haccepted
    exact ⟨haccepted ▸ ih.accepted, fun hs => ih.willing (hs.answer call),
      fun hs => ih.took (hs.answer call)⟩
  | case2 s h =>
    have hdone := Bool.eq_false_iff.mpr h
    exact ⟨accepted_answer call s, fun hs => hs.answer call, fun hs => hs.took call hdone⟩

end SendScript

/-! ### Writing -/

namespace Packet

open SendScript

theorem sendAll_nil (s : SendScript) : sendAll sender [] s = (.ok (), s) := by
  rw [sendAll]
  rfl

theorem sendAll_of_ne_nil {data : Bytes} (hne : data ≠ []) (s : SendScript) :
    sendAll sender data s =
      match sender { data := data } s with
      | (.error e, s) => (.error (.ofIo e), s)
      | (.ok taken, s) =>
        if taken = 0 then (.error .closed, s) else sendAll sender (data.drop taken) s := by
  have hempty : data.isEmpty = false := List.isEmpty_eq_false_iff.mpr hne
  rw [sendAll, hempty, if_neg Bool.false_ne_true, bind_apply]
  rcases sender { data := data } s with ⟨_ | taken, s'⟩
  · rfl
  · by_cases htaken : taken = 0
    · dsimp only
      rw [dif_pos (.inl htaken), if_pos htaken]
      rfl
    · dsimp only
      rw [dif_neg (by simp [htaken, hne]), if_neg htaken]

/-- What was sent with success was taken, and a willing socket takes all. -/
theorem sendAll_accepted (data : Bytes) (s : SendScript) :
    ((sendAll sender data s).1 = .ok () →
      (sendAll sender data s).2.accepted = s.accepted ++ Stretch.plain data) ∧
    (s.Willing → (sendAll sender data s).1 = .ok () ∧ (sendAll sender data s).2.Willing) := by
  by_cases hne : data = []
  · rw [hne, sendAll_nil]
    exact ⟨fun _ => (List.append_nil _).symm, fun hs => ⟨rfl, hs⟩⟩
  · obtain ⟨haccepted, hwilling, htook⟩ := sent_sender { data := data } s
    rw [sendAll_of_ne_nil hne]
    generalize sender { data := data } s = sent at haccepted hwilling htook ⊢
    obtain ⟨_ | taken, s'⟩ := sent
    · refine ⟨nofun, ?_⟩
      intro hs
      obtain ⟨n, hn, -⟩ := htook hs
      cases hn
    · dsimp only
      by_cases htaken : taken = 0
      · rw [if_pos htaken]
        refine ⟨nofun, ?_⟩
        intro hs
        obtain ⟨n, hn, hpos⟩ := htook hs
        cases hn
        exact absurd htaken (Nat.pos_iff_ne_zero.mp (hpos hne))
      · rw [if_neg htaken]
        obtain ⟨hrest, hgood⟩ := sendAll_accepted (data.drop taken) s'
        refine ⟨?_, fun hs => hgood (hwilling hs)⟩
        intro hok
        rw [hrest hok, haccepted]
        simp only [SendRecord.accepted, Stretch.ofMessage_nil]
        rw [List.append_assoc, ← Stretch.plain_append, List.take_append_drop]
termination_by data.length
decreasing_by exact Bytes.length_drop_lt (by simp [htaken, hne])

theorem write_eq (blocking : Bool) (p : Packet) (s : SendScript) :
    p.write sender blocking s =
      match sender ⟨p.header.encode, p.descriptors, blocking⟩ s with
      | (.error e, s) =>
        if !blocking && e.kind == .wouldBlock then (.ok .wouldBlock, s)
        else (.error (p.firstSendError e), s)
      | (.ok taken, s) =>
        if taken = 0 then (.error .closed, s)
        else
          match sendAll sender (p.header.encode.drop taken) s with
          | (.error e, s) => (.error e, s)
          | (.ok (), s) =>
            match sendAll sender p.body s with
            | (.error e, s) => (.error e, s)
            | (.ok (), s) => (.ok .written, s) := by
  rw [write, bind_apply]
  rcases sender ⟨p.header.encode, p.descriptors, blocking⟩ s with ⟨e | taken, s₁⟩
  · dsimp only
    split <;> rfl
  · dsimp only
    split
    · rfl
    · rw [bind_apply]
      rcases sendAll sender (p.header.encode.drop taken) s₁ with ⟨_ | _, s₂⟩
      · rfl
      · dsimp only
        rw [bind_apply]
        rcases sendAll sender p.body s₂ with ⟨_ | _, s₃⟩ <;> rfl

/-- What a write put on the stream: the whole packet, or nothing if it gave up. -/
theorem write_accepted (blocking : Bool) (p : Packet) (s : SendScript) :
    ((p.write sender blocking s).1 = .ok .written →
      (p.write sender blocking s).2.accepted = s.accepted ++ p.stretch) ∧
    ((p.write sender blocking s).1 = .ok .wouldBlock →
      (p.write sender blocking s).2.accepted = s.accepted) := by
  obtain ⟨haccepted, -, -⟩ := sent_sender ⟨p.header.encode, p.descriptors, blocking⟩ s
  rw [write_eq]
  generalize sender ⟨p.header.encode, p.descriptors, blocking⟩ s = sent at haccepted ⊢
  obtain ⟨e | taken, s₁⟩ := sent
  · dsimp only
    split
    · refine ⟨nofun, ?_⟩
      intro _
      rw [haccepted]
      exact List.append_nil _
    · exact ⟨nofun, nofun⟩
  · dsimp only
    split
    · exact ⟨nofun, nofun⟩
    · rename_i htaken
      have hrest := (sendAll_accepted (p.header.encode.drop taken) s₁).1
      generalize sendAll sender (p.header.encode.drop taken) s₁ = sent at hrest ⊢
      obtain ⟨_ | _, s₂⟩ := sent
      · exact ⟨nofun, nofun⟩
      · have hbody := (sendAll_accepted p.body s₂).1
        dsimp only
        generalize sendAll sender p.body s₂ = sent at hbody ⊢
        obtain ⟨_ | _, s₃⟩ := sent
        · exact ⟨nofun, nofun⟩
        · refine ⟨?_, nofun⟩
          intro _
          dsimp only at hrest hbody ⊢
          rw [hbody rfl, hrest rfl, haccepted, List.append_assoc, List.append_assoc, stretch,
            ← Stretch.ofMessage_take_append_plain_drop p.descriptors (Nat.pos_of_ne_zero htaken),
            List.append_assoc]
          rfl

/-- A write that may wait does not give up. -/
theorem write_blocking (p : Packet) (s : SendScript) :
    (p.write sender true s).1 ≠ .ok .wouldBlock := by
  rw [write_eq]
  rcases sender ⟨p.header.encode, p.descriptors, true⟩ s with ⟨e | taken, s₁⟩
  · exact nofun
  · dsimp only
    split
    · exact nofun
    · rcases sendAll sender (p.header.encode.drop taken) s₁ with ⟨_ | _, s₂⟩
      · exact nofun
      · dsimp only
        rcases sendAll sender p.body s₂ with ⟨_ | _, s₃⟩
        · exact nofun
        · exact nofun

/-- On a willing socket, a packet is written whole. -/
theorem write_of_willing (blocking : Bool) (p : Packet) {s : SendScript} (hs : s.Willing) :
    (p.write sender blocking s).1 = .ok .written ∧ (p.write sender blocking s).2.Willing := by
  obtain ⟨-, hwilling, htook⟩ := sent_sender ⟨p.header.encode, p.descriptors, blocking⟩ s
  obtain ⟨n, hn, hpos⟩ := htook hs
  have hs₁ := hwilling hs
  rw [write_eq]
  generalize sender ⟨p.header.encode, p.descriptors, blocking⟩ s = sent at hn hs₁ ⊢
  obtain ⟨reply, s₁⟩ := sent
  dsimp only at hn hs₁ ⊢
  rw [hn]
  dsimp only
  rw [if_neg (Nat.pos_iff_ne_zero.mp (hpos p.header.encode_ne_nil))]
  obtain ⟨hok, hs₂⟩ := (sendAll_accepted (p.header.encode.drop n) s₁).2 hs₁
  generalize sendAll sender (p.header.encode.drop n) s₁ = sent at hok hs₂ ⊢
  obtain ⟨reply, s₂⟩ := sent
  dsimp only at hok hs₂ ⊢
  rw [hok]
  dsimp only
  obtain ⟨hok, hs₃⟩ := (sendAll_accepted p.body s₂).2 hs₂
  generalize sendAll sender p.body s₂ = sent at hok hs₃ ⊢
  obtain ⟨reply, s₃⟩ := sent
  dsimp only at hok hs₃ ⊢
  rw [hok]
  exact ⟨rfl, hs₃⟩

/-! ### Writes that fail -/

/-- What was sent without success was taken in part at most. -/
theorem sendAll_torn (data : Bytes) (s : SendScript) (e : FrameError)
    (h : (sendAll sender data s).1 = .error e) :
    ∃ torn, torn.IsTorn (Stretch.plain data) ∧
      (sendAll sender data s).2.accepted = s.accepted ++ torn := by
  by_cases hne : data = []
  · rw [hne, sendAll_nil] at h
    cases h
  · have hwhole : Stretch.plain data ≠ [] := by simpa [Stretch.plain] using hne
    obtain ⟨haccepted, -, -⟩ := sent_sender { data := data } s
    rw [sendAll_of_ne_nil hne] at h ⊢
    generalize sender { data := data } s = sent at haccepted h ⊢
    obtain ⟨e' | taken, s'⟩ := sent
    · exact ⟨[], Stretch.isTorn_nil hwhole, haccepted⟩
    · simp only [SendRecord.accepted, Stretch.ofMessage_nil] at haccepted
      dsimp only at h ⊢
      by_cases htaken : taken = 0
      · rw [if_pos htaken]
        rw [htaken] at haccepted
        exact ⟨[], Stretch.isTorn_nil hwhole, haccepted⟩
      · rw [if_neg htaken] at h ⊢
        obtain ⟨torn, htorn, hlater⟩ := sendAll_torn (data.drop taken) s' e h
        refine ⟨Stretch.plain (data.take taken) ++ torn, ?_, ?_⟩
        · have hsplit : Stretch.plain data =
              Stretch.plain (data.take taken) ++ Stretch.plain (data.drop taken) := by
            rw [← Stretch.plain_append, List.take_append_drop]
          rw [hsplit]
          exact htorn.append_left _
        · rw [hlater, haccepted, List.append_assoc]
termination_by data.length
decreasing_by exact Bytes.length_drop_lt (by simp [htaken, hne])

theorem stretch_ne_nil (p : Packet) : p.stretch ≠ [] := by
  have hheader : Stretch.bytes (Stretch.ofMessage p.descriptors p.header.encode) ≠ [] := by
    rw [Stretch.bytes_ofMessage]
    exact p.header.encode_ne_nil
  intro hnil
  apply hheader
  rw [(List.append_eq_nil_iff.mp hnil).1]
  rfl

/-- A write that fails leaves the packet torn. -/
theorem write_torn {blocking : Bool} {p : Packet} {s : SendScript} {e : FrameError}
    (h : (p.write sender blocking s).1 = .error e) :
    ∃ torn, torn.IsTorn p.stretch ∧
      (p.write sender blocking s).2.accepted = s.accepted ++ torn := by
  obtain ⟨haccepted, -, -⟩ := sent_sender ⟨p.header.encode, p.descriptors, blocking⟩ s
  rw [write_eq] at h ⊢
  generalize sender ⟨p.header.encode, p.descriptors, blocking⟩ s = sent at haccepted h ⊢
  obtain ⟨e' | taken, s₁⟩ := sent
  · refine ⟨[], Stretch.isTorn_nil p.stretch_ne_nil, ?_⟩
    dsimp only at h ⊢
    split
    · exact haccepted
    · exact haccepted
  · dsimp only at h ⊢
    by_cases htaken : taken = 0
    · rw [if_pos htaken]
      rw [htaken] at haccepted
      exact ⟨[], Stretch.isTorn_nil p.stretch_ne_nil, haccepted⟩
    · rw [if_neg htaken] at h ⊢
      have hsplit : p.stretch = Stretch.ofMessage p.descriptors (p.header.encode.take taken) ++
          (Stretch.plain (p.header.encode.drop taken) ++ Stretch.plain p.body) := by
        rw [stretch,
          ← Stretch.ofMessage_take_append_plain_drop p.descriptors (Nat.pos_of_ne_zero htaken),
          List.append_assoc]
      simp only [SendRecord.accepted] at haccepted
      have hheader := sendAll_accepted (p.header.encode.drop taken) s₁
      have hheader' := sendAll_torn (p.header.encode.drop taken) s₁
      generalize sendAll sender (p.header.encode.drop taken) s₁ = sent at hheader hheader' h ⊢
      obtain ⟨e₁ | _, s₂⟩ := sent
      · obtain ⟨torn, htorn, hlater⟩ := hheader' e₁ rfl
        refine ⟨Stretch.ofMessage p.descriptors (p.header.encode.take taken) ++ torn, ?_, ?_⟩
        · rw [hsplit]
          exact (htorn.append_right _).append_left _
        · rw [hlater, haccepted, List.append_assoc]
      · have hwhole := hheader.1 rfl
        have hbody' := sendAll_torn p.body s₂
        dsimp only at h hwhole ⊢
        generalize sendAll sender p.body s₂ = sent at hbody' h ⊢
        obtain ⟨e₂ | _, s₃⟩ := sent
        · obtain ⟨torn, htorn, hlater⟩ := hbody' e₂ rfl
          refine ⟨Stretch.ofMessage p.descriptors (p.header.encode.take taken) ++
            (Stretch.plain (p.header.encode.drop taken) ++ torn), ?_, ?_⟩
          · rw [hsplit]
            exact (htorn.append_left _).append_left _
          · rw [hlater, hwhole, haccepted, List.append_assoc, List.append_assoc]
        · cases h

end Packet

end Framecast
