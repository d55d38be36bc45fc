import Framecast.Proofs.Frame.Packets

/-!
# Frames are written whole

However a socket takes a packet, it has taken a beginning of it by every moment of the write. Each
call offers exactly what follows the bytes that were taken before (`Packet.callAfter`): the first
byte with the descriptors, the others without. A write succeeds if everything was taken, gives up
only if nothing was, and fails otherwise (`write_atomic`).
-/

namespace Framecast

/-- How many bytes some calls put on the stream. -/
def taken : List SendRecord → Nat
  | [] => 0
  | r :: earlier => r.accepted.length + taken earlier

namespace SendScript

/-! ### The calls of one send -/

variable {call : SendCall} {s : SendScript}

/-- A call that was interrupted, and was then made again. -/
def IsRetry (call : SendCall) (r : SendRecord) : Prop :=
  r.call = call ∧ interrupted r.answer = true

theorem IsRetry.accepted_eq {r : SendRecord} (h : IsRetry call r) : r.accepted = [] := by
  obtain ⟨call, answer⟩ := r
  cases answer with
  | error e => rfl
  | ok n => cases h.2

theorem le_of_answer {n : Nat} (h : (s.answer call).1 = .ok n) : n ≤ call.data.length := by
  unfold answer at h
  match hs : s.answers with
  | [] =>
    rw [hs] at h
    cases h
    exact Nat.le_refl _
  | .ok bound :: _ =>
    rw [hs] at h
    cases h
    exact Nat.min_le_right ..
  | .error _ :: _ =>
    rw [hs] at h
    cases h

/-- A send makes one call again and again, until it is not interrupted. -/
theorem calls_sender (call : SendCall) (s : SendScript) :
    ∃ retries : List SendRecord, (∀ r ∈ retries, IsRetry (s.seen call) r) ∧
      (sender call s).2.calls = ⟨s.seen call, (sender call s).1⟩ :: (retries ++ s.calls) ∧
      (sender call s).2.plain = s.plain ∧
      ∀ n, (sender call s).1 = .ok n → n ≤ call.data.length := by
  unfold sender
  fun_induction uninterrupted (answer call) (·.answers.length) _ s with
  | case1 s h hlt ih =>
    obtain ⟨retries, hretries, hcalls, hplain, hle⟩ := ih
    have hseen : (s.answer call).2.seen call = s.seen call := rfl
    rw [hseen] at hretries hcalls
    refine ⟨retries ++ [⟨s.seen call, (s.answer call).1⟩], ?_, ?_, hplain, hle⟩
    · rw [List.forall_mem_append, List.forall_mem_singleton]
      exact ⟨hretries, rfl, h⟩
    · rw [hcalls, List.append_assoc]
      rfl
  | case2 s h => exact ⟨[], List.forall_mem_nil _, rfl, rfl, fun n hn => le_of_answer hn⟩

end SendScript

namespace Packet

open SendScript

/-- The call that is due when so many bytes of the packet were taken. -/
def callAfter (p : Packet) (blocking : Bool) (count : Nat) : SendCall :=
  if count = 0 then ⟨p.header.encode, p.descriptors, blocking⟩
  else if count < Header.length then { data := p.header.encode.drop count }
  else { data := p.body.drop (count - Header.length) }

/-- Calls, last first, each of which is the one that was due. -/
def Orderly (p : Packet) (blocking : Bool) (s : SendScript) : List SendRecord → Prop
  | [] => True
  | r :: earlier =>
    r.call = s.seen (p.callAfter blocking (taken earlier)) ∧ Orderly p blocking s earlier

variable {p : Packet} {blocking : Bool} {s start : SendScript} {calls : List SendRecord}

/-- Every call was the one to be made after what had been taken before it. -/
theorem Orderly.of_suffix (h : p.Orderly blocking start calls) {r : SendRecord}
    {earlier : List SendRecord} (hsuffix : r :: earlier <:+ calls) :
    r.call = start.seen (p.callAfter blocking (taken earlier)) := by
  induction calls with
  | nil => cases List.suffix_nil.mp hsuffix
  | cons last rest ih =>
    rcases List.suffix_cons_iff.mp hsuffix with heq | hlater
    · cases heq
      exact h.1
    · exact ih h.2 hlater

/-- Calls that take nothing keep the order. -/
theorem Orderly.retries (h : p.Orderly blocking start calls) {retries : List SendRecord}
    (hretries : ∀ r ∈ retries,
      IsRetry (start.seen (p.callAfter blocking (taken calls))) r) :
    p.Orderly blocking start (retries ++ calls) ∧ taken (retries ++ calls) = taken calls := by
  induction retries with
  | nil => exact ⟨h, rfl⟩
  | cons r rest ih =>
    rw [List.forall_mem_cons] at hretries
    obtain ⟨hr, hrest⟩ := hretries
    obtain ⟨horderly, htaken⟩ := ih hrest
    rw [List.cons_append, taken, hr.accepted_eq, htaken, List.length_nil, Nat.zero_add]
    exact ⟨⟨htaken ▸ hr.1, horderly⟩, rfl⟩

/-- How far a write has come in the script that it began with. -/
structure Along (p : Packet) (blocking : Bool) (start : SendScript) (count : Nat)
    (s : SendScript) : Prop where
  orderly : p.Orderly blocking start s.calls
  plain : s.plain = start.plain
  count : taken s.calls = count

/-- A send of what is due brings the write as far as the socket took it. -/
theorem Along.of_sent {call : SendCall} {count : Nat} (h : p.Along blocking start count s)
    (hcall : call = p.callAfter blocking count) :
    ∃ count', p.Along blocking start count' (sender call s).2 ∧
      ∀ n, (sender call s).1 = .ok n → n ≤ call.data.length ∧ count' = count + n := by
  obtain ⟨retries, hretries, hcalls, hplain, hle⟩ := calls_sender call s
  have hseen : s.seen call = start.seen (p.callAfter blocking (taken s.calls)) := by
    rw [h.count, ← hcall, seen, seen, h.plain]
  rw [hseen] at hretries hcalls
  obtain ⟨horderly, htaken⟩ := h.orderly.retries hretries
  rw [h.count] at htaken hcalls
  generalize sender call s = sent at hcalls hplain hle ⊢
  obtain ⟨reply, s'⟩ := sent
  dsimp only at hcalls hplain hle ⊢
  have hdue : p.Orderly blocking start s'.calls := by
    rw [hcalls]
    exact ⟨by rw [htaken], horderly⟩
  refine ⟨taken s'.calls, ⟨hdue, hplain.trans h.plain, rfl⟩, ?_⟩
  intro n hn
  subst hn
  have hn := hle n rfl
  refine ⟨hn, ?_⟩
  rw [hcalls, taken, htaken, ← hcall]
  simp only [SendRecord.accepted, seen, Stretch.length_ofMessage, List.length_take]
  omega

/-- Sending a part of the packet, of which every call is due when it is made. -/
theorem Along.of_sendAll {data : Bytes} {count : Nat} {s : SendScript}
    (h : p.Along blocking start count s)
    (hdue : ∀ n < data.length, p.callAfter blocking (count + n) = { data := data.drop n }) :
    ∃ count', p.Along blocking start count' (sendAll sender data s).2 ∧
      ((sendAll sender data s).1 = .ok () → count' = count + data.length) := by
  by_cases hne : data = []
  · subst hne
    rw [sendAll_nil]
    exact ⟨count, h, fun _ => rfl⟩
  · have hpos : 0 < data.length := List.length_pos_iff.mpr hne
    have hcall : { data := data } = p.callAfter blocking count := (hdue 0 hpos).symm
    obtain ⟨count₁, h₁, hcount₁⟩ := h.of_sent hcall
    rw [sendAll_of_ne_nil hne]
    generalize sender { data := data } s = sent at h₁ hcount₁ ⊢
    obtain ⟨_ | n, s₁⟩ := sent
    · exact ⟨count₁, h₁, nofun⟩
    · dsimp only at h₁ hcount₁ ⊢
      obtain ⟨hle, rfl⟩ := hcount₁ n rfl
      by_cases hn : n = 0
      · rw [if_pos hn]
        exact ⟨count + n, h₁, nofun⟩
      · rw [if_neg hn]
        have hlater : ∀ k < (data.drop n).length,
            p.callAfter blocking (count + n + k) = { data := (data.drop n).drop k } := by
          intro k hk
          rw [List.length_drop] at hk
          rw [Nat.add_assoc, hdue (n + k) (by omega), List.drop_drop]
        obtain ⟨count₂, h₂, hcount₂⟩ := h₁.of_sendAll hlater
        refine ⟨count₂, h₂, ?_⟩
        intro hok
        rw [hcount₂ hok, List.length_drop]
        omega
termination_by data.length
decreasing_by exact Bytes.length_drop_lt (by simp [hn, hne])

theorem callAfter_header {k : Nat} (hpos : 0 < k) {n : Nat}
    (hn : n < (p.header.encode.drop k).length) :
    p.callAfter blocking (k + n) = { data := (p.header.encode.drop k).drop n } := by
  rw [List.length_drop, Header.length_encode] at hn
  rw [callAfter, if_neg (by omega), if_pos (by omega), List.drop_drop]

theorem callAfter_body (n : Nat) :
    p.callAfter blocking (Header.length + n) = { data := p.body.drop n } := by
  have hlength : Header.length ≠ 0 := by decide
  rw [callAfter, if_neg (by omega), if_neg (by omega), Nat.add_sub_cancel_left]

/-- Every call of a write is due when it is made. -/
theorem Along.of_write (h : p.Along blocking start 0 s) :
    ∃ count, p.Along blocking start count (p.write sender blocking s).2 := by
  have hfirst : (⟨p.header.encode, p.descriptors, blocking⟩ : SendCall) =
      p.callAfter blocking 0 := rfl
  obtain ⟨count₁, h₁, hcount₁⟩ := h.of_sent hfirst
  rw [write_eq]
  generalize sender ⟨p.header.encode, p.descriptors, blocking⟩ s = sent at h₁ hcount₁ ⊢
  obtain ⟨e | n, s₁⟩ := sent
  · dsimp only
    split
    · exact ⟨count₁, h₁⟩
    · exact ⟨count₁, h₁⟩
  · dsimp only at h₁ hcount₁ ⊢
    obtain ⟨hle, rfl⟩ := hcount₁ n rfl
    rw [Nat.zero_add] at h₁
    split
    · exact ⟨n, h₁⟩
    · rename_i hn
      have hpos := Nat.pos_of_ne_zero hn
      obtain ⟨count₂, h₂, hcount₂⟩ := h₁.of_sendAll fun k hk => callAfter_header hpos hk
      generalize sendAll sender (p.header.encode.drop n) s₁ = sent at h₂ hcount₂ ⊢
      obtain ⟨_ | _, s₂⟩ := sent
      · exact ⟨count₂, h₂⟩
      · dsimp only at h₂ hcount₂ ⊢
        have hwhole : count₂ = Header.length := by
          rw [hcount₂ rfl, List.length_drop, Header.length_encode]
          rw [Header.length_encode] at hle
          omega
        subst hwhole
        obtain ⟨count₃, h₃, -⟩ := h₂.of_sendAll fun k _ => callAfter_body k
        generalize sendAll sender p.body s₂ = sent at h₃ ⊢
        obtain ⟨_ | _, s₃⟩ := sent
        · exact ⟨count₃, h₃⟩
        · exact ⟨count₃, h₃⟩

end Packet

/-! ### Sending -/

namespace Framer

open SendScript

variable {f : Framer} {now : Readings} {buffer : Buffer} {names : Arena.NameSpace}
  {s : SendScript} {e : FrameError}

/-- Only a frame that was sent is counted. -/
theorem framesSent_sendFrame (f : Framer) (now : Readings) (buffer : Buffer)
    (names : Arena.NameSpace) (s : SendScript) :
    (f.sendFrame now sender buffer names s).1.2.1.framesSent =
      match (f.sendFrame now sender buffer names s).1.1 with
      | .ok () => f.framesSent + 1
      | .error _ => f.framesSent := by
  have hcheck := f.framesSent_runCheckpoint
  unfold sendFrame
  generalize f.runCheckpoint = checked at hcheck ⊢
  obtain ⟨sleeps, _ | _, f₁⟩ := checked
  · exact hcheck
  · have hprepare := f₁.framesSent_prepare now buffer names
    dsimp only at hcheck ⊢
    generalize f₁.prepare now buffer names = prepared at hprepare ⊢
    obtain ⟨_ | packet, f₂, names₂⟩ := prepared
    · exact hprepare.trans hcheck
    · have hsame : f₂.framesSent = f.framesSent := hprepare.trans hcheck
      dsimp only
      rw [bind_apply]
      rcases packet.write sender true s with ⟨_ | _, s₁⟩
      · exact hsame
      · exact congrArg (· + 1) hsame

theorem sendFrame_of_failed_checkpoint (h : f.runCheckpoint.2.1 = .error e) :
    ∃ checkpoint, f.sendFrame now sender buffer names s =
      ((.error e, { f with checkpoint := checkpoint }, names), s) := by
  unfold sendFrame
  unfold runCheckpoint at h ⊢
  generalize f.checkpoint.check = checked at h ⊢
  obtain ⟨sleeps, verdict, checkpoint⟩ := checked
  cases verdict with
  | passed => cases h
  | failed | aborted =>
    cases h
    exact ⟨checkpoint, rfl⟩

end Framer

namespace Packet

open SendScript

/-! ### What was taken in the end -/

theorem stretch_eq (p : Packet) : p.stretch = Stretch.ofMessage p.descriptors p.wire := by
  have hpos : 0 < p.header.encode.length := by
    rw [Header.length_encode]
    decide
  rw [← Stretch.ofMessage_take_append_plain_drop p.descriptors hpos, wire, List.take_left,
    List.drop_left, stretch]

theorem wire_ne_nil (p : Packet) : p.wire ≠ [] :=
  List.append_ne_nil_of_left_ne_nil p.header.encode_ne_nil _

/-- A write brings a beginning of the packet on the stream, with the descriptors on its first byte.
It is the whole packet if the write succeeds and only then, and nothing if the write gave up. -/
theorem write_beginning (p : Packet) (blocking : Bool) (s : SendScript) :
    ∃ count ≤ p.wire.length,
      (p.write sender blocking s).2.accepted =
        s.accepted ++ Stretch.ofMessage p.descriptors (p.wire.take count) ∧
      ((p.write sender blocking s).1 = .ok .written ↔ count = p.wire.length) ∧
      ((p.write sender blocking s).1 = .ok .wouldBlock → blocking = false ∧ count = 0) := by
  have hpos := List.length_pos_iff.mpr p.wire_ne_nil
  cases hresult : (p.write sender blocking s).1 with
  | ok outcome =>
    cases outcome with
    | written =>
      refine ⟨p.wire.length, Nat.le_refl _, ?_, by simp, by simp⟩
      rw [List.take_length, ← stretch_eq]
      exact (p.write_accepted blocking s).1 hresult
    | wouldBlock =>
      refine ⟨0, Nat.zero_le _, ?_, by simp; omega, ?_⟩
      · rw [List.take_zero, Stretch.ofMessage, List.append_nil]
        exact (p.write_accepted blocking s).2 hresult
      · intro _
        cases blocking with
        | false => exact ⟨rfl, rfl⟩
        | true => exact absurd hresult (p.write_blocking s)
  | error e =>
    obtain ⟨torn, ⟨rest, hrest, hwhole⟩, haccepted⟩ := write_torn hresult
    have hlength : p.wire.length = torn.length + rest.length := by
      rw [← List.length_append, ← hwhole, stretch_eq, Stretch.length_ofMessage]
    have hshort := List.length_pos_iff.mpr hrest
    refine ⟨torn.length, by omega, ?_, by simp; omega, by simp⟩
    rw [haccepted, ← Stretch.take_ofMessage, ← stretch_eq, hwhole, List.take_left]

/-- **Writes are atomic.** Whatever a socket answers, it has taken a beginning of the packet, and
all of it exactly if the write succeeds. The write gives up only if it may and nothing was taken,
and after an error something is missing. Every call offers what follows the bytes taken before it:
the descriptors as long as nothing was taken, so that they are transferred with the first byte and
with no other, and after that byte only calls that wait for room. A frame is counted if it was sent
and only then; if the checkpoint fails, nothing is called, allocated or sampled. -/
theorem write_atomic (p : Packet) (blocking plain : Bool) (answers : List (Except IoError Nat)) :
    let start : SendScript := { answers, plain }
    let written := p.write sender blocking start
    let accepted := written.2.accepted
    accepted.bytes <+: p.wire ∧
    (written.1 = .ok .written ↔ accepted.bytes = p.wire) ∧
    (written.1 = .ok .wouldBlock → blocking = false ∧ accepted.bytes = []) ∧
    (∀ e, written.1 = .error e → accepted.bytes.length < p.wire.length) ∧
    accepted.descriptors = (if accepted.bytes = [] then [] else p.descriptors) ∧
    (∀ r earlier, r :: earlier <:+ written.2.calls →
      r.call = start.seen (p.callAfter blocking (taken earlier)) ∧
      (0 < taken earlier → r.call.descriptors = [] ∧ r.call.blocking = true)) ∧
    ∀ (f : Framer) (now : Readings) (buffer : Buffer) (names : Arena.NameSpace),
      let sent := f.sendFrame now sender buffer names start
      (sent.1.1 = .ok () → sent.1.2.1.framesSent = f.framesSent + 1) ∧
      (∀ e, sent.1.1 = .error e → sent.1.2.1.framesSent = f.framesSent) ∧
      ∀ e, f.runCheckpoint.2.1 = .error e → ∃ checkpoint,
        sent = ((.error e, { f with checkpoint := checkpoint }, names), start) := by
  intro start written accepted
  obtain ⟨count, hcount, haccepted, hwritten, hblocked⟩ := p.write_beginning blocking start
  obtain ⟨done, halong⟩ : ∃ done, p.Along blocking start done written.2 :=
    Along.of_write ⟨trivial, rfl, rfl⟩
  have hbytes : accepted.bytes = p.wire.take count := by
    rw [show accepted = _ from haccepted]
    exact Stretch.bytes_ofMessage ..
  have hlength : accepted.bytes.length = count := by
    rw [hbytes, List.length_take, Nat.min_eq_left hcount]
  refine ⟨hbytes ▸ List.take_prefix .., ?_, ?_, ?_, ?_, ?_, ?_⟩
  · rw [hwritten, hbytes]
    refine ⟨fun hall => hall ▸ List.take_length, ?_⟩
    intro hall
    rw [← hlength, hbytes, hall]
  · intro h
    obtain ⟨hblocking, rfl⟩ := hblocked h
    exact ⟨hblocking, hbytes⟩
  · intro e he
    rw [he] at hwritten
    have hne : count ≠ p.wire.length := fun heq => nomatch hwritten.mpr heq
    omega
  · split
    · rename_i hnone
      rw [Stretch.bytes_eq_nil_iff.mp hnone]
      rfl
    · rename_i hsome
      rw [show accepted = _ from haccepted]
      exact Stretch.descriptors_ofMessage (hbytes ▸ hsome)
  · intro r earlier hsuffix
    have hcall := halong.orderly.of_suffix hsuffix
    refine ⟨hcall, ?_⟩
    intro hpos
    rw [hcall, callAfter, if_neg (Nat.pos_iff_ne_zero.mp hpos)]
    split <;> exact ⟨rfl, rfl⟩
  · intro f now buffer names
    have hcounted := f.framesSent_sendFrame now buffer names start
    refine ⟨?_, ?_, fun e => Framer.sendFrame_of_failed_checkpoint⟩
    · intro hok
      rw [hcounted, hok]
    · intro e he
      rw [hcounted, he]

end Packet

end Framecast
