import Framecast.Proofs.Frame.Holding

/-!
# Frames that are refused over and over

An inline frame that is too large is not taken from a deframer: its header stays at the front, and
every later look at it comes to the same error, or to the same panic. Any other look either finds
too little for a frame, and changes nothing, or takes some of what is held (`looked_parse`).
-/

namespace Framecast

/-- Whether the next frame on the same stream is unaffected by what a call came to. -/
def Result.isLocal {α : Type} : Result FrameError α → Bool
  | ok _ => true
  | error e => e.isLocal
  | panic _ => false

namespace Deframer

/-- What every look for a frame comes to, if the current frame can never be completed: an error, or
a panic where no word says how long the frame is. -/
def refusal? (d : Deframer) : Option (Result FrameError FrameOutcome) :=
  match d.header? with
  | none => none
  | some h =>
    if h.isInline then
      if d.config.maxInline < h.payloadSize then
        some (.error (.payloadTooLarge h.payloadSize d.config.maxInline))
      else if (Word.add? 24 h.payloadSize).isNone then some (.panic Word.addOverflow)
      else none
    else none

/-- What looking for a frame can come to. -/
inductive Looked (d : Deframer) : Parsed → Prop
  | waits (hfree : d.refusal? = none) : Looked d ⟨.ok none, d, []⟩
  | refused (e : FrameError) (hrefused : d.refusal? = some (.error e)) : Looked d ⟨.error e, d, []⟩
  | panicked (message : String) (hrefused : d.refusal? = some (.panic message)) :
      Looked d ⟨.panic message, d, []⟩
  /-- There was a frame, or a corrupt one, and it is no longer held. -/
  | took (p : Parsed) (hfree : d.refusal? = none) (hsome : p.result ≠ .ok none)
      (hlocal : p.result.isLocal = true)
      (hless : p.deframer.backlog.length < d.backlog.length) : Looked d p

variable {d : Deframer} {limit : Word} {held : Stretch}

theorem length_le_of_header? {h : Header} (hheader : d.header? = some h) :
    Header.length ≤ d.backlog.length := by
  have hlen := Header.length_le_of_decode? hheader
  rw [Backlog.take_eq, List.length_take, Backlog.length_toBytes] at hlen
  omega

/-- There is no header as long as fewer bytes than one takes are held. -/
theorem header?_eq_none_iff : d.header? = none ↔ d.backlog.length < Header.length := by
  rw [header?, Backlog.take_eq, Header.decode?_take, Header.decode?_eq_none_iff,
    Backlog.length_toBytes]

theorem backlog_finish (now : Readings) (h : Header) (memory : Memory) (d : Deframer) :
    (d.finish now h memory).deframer.backlog = d.backlog :=
  (presentation_keeps now h.captureTimestamp d).2.1

/-- An inline frame is taken off the backlog, corrupt or not. -/
theorem backlog_finishInline (now : Readings) (h : Header) (size : Nat) (d : Deframer) :
    (d.finishInline now h size).deframer.backlog = d.backlog.drop (Header.length + size) := by
  unfold finishInline
  dsimp only
  split
  · exact backlog_finish ..
  · rfl

theorem backlog_finishReferenced (now : Readings) (h : Header) (d : Deframer) :
    (d.finishReferenced now h).deframer.backlog = .empty := by
  unfold finishReferenced
  dsimp only
  split
  · rfl
  · split
    · rfl
    · exact backlog_finish ..

theorem result_finishInline_ne (now : Readings) (h : Header) (size : Nat) (d : Deframer) :
    (d.finishInline now h size).result ≠ .ok none := by
  unfold finishInline
  dsimp only
  split
  · nofun
  · nofun

theorem result_finishReferenced_ne (now : Readings) (h : Header) (d : Deframer) :
    (d.finishReferenced now h).result ≠ .ok none := by
  unfold finishReferenced
  dsimp only
  split
  · nofun
  · split
    · nofun
    · nofun

theorem looked_finishInline (hfree : d.refusal? = none) (now : Readings) {h : Header}
    (hheader : d.header? = some h) (size : Nat) : Looked d (d.finishInline now h size) := by
  have hlen := length_le_of_header? hheader
  have hless : d.backlog.length - (Header.length + size) < d.backlog.length := by
    simp only [Header.length] at hlen ⊢
    omega
  unfold finishInline
  dsimp only
  split
  · refine .took _ hfree (by simp [finish]) rfl ?_
    rw [backlog_finish]
    exact hless
  · exact .took _ hfree (by simp) rfl hless

theorem looked_finishReferenced (hfree : d.refusal? = none) (now : Readings) {h : Header}
    (hheader : d.header? = some h) : Looked d (d.finishReferenced now h) := by
  have hlen := length_le_of_header? hheader
  have hless : Backlog.empty.length < d.backlog.length := by
    simp only [Header.length] at hlen
    simp only [Backlog.empty]
    omega
  unfold finishReferenced
  dsimp only
  split
  · exact .took _ hfree (by simp) rfl hless
  · split
    · exact .took _ hfree (by simp) rfl hless
    · refine .took _ hfree (by simp [finish]) rfl ?_
      rw [backlog_finish]
      exact hless

/-- A parse either fails at the refusal, or consumes what it tells of. -/
theorem looked_parse (now : Readings) (d : Deframer) : Looked d (d.parse now) := by
  unfold parse
  cases hheader : d.header? with
  | none => exact .waits (by rw [refusal?, hheader])
  | some h =>
    have hrefusal : d.refusal? =
        if h.isInline then
          if d.config.maxInline < h.payloadSize then
            some (.error (.payloadTooLarge h.payloadSize d.config.maxInline))
          else if (Word.add? 24 h.payloadSize).isNone then some (.panic Word.addOverflow)
          else none
        else none := by
      rw [refusal?, hheader]
    dsimp only
    by_cases hinl : h.isInline = true
    · rw [if_pos hinl] at hrefusal ⊢
      by_cases hlarge : d.config.maxInline < h.payloadSize
      · rw [if_pos hlarge] at hrefusal ⊢
        exact .refused _ hrefusal
      · rw [if_neg hlarge] at hrefusal ⊢
        cases htotal : Word.add? 24 h.payloadSize with
        | none =>
          rw [htotal] at hrefusal
          exact .panicked _ hrefusal
        | some total =>
          rw [htotal] at hrefusal
          dsimp only
          split
          · exact .waits hrefusal
          · exact looked_finishInline hrefusal now hheader _
    · rw [if_neg hinl] at hrefusal ⊢
      exact looked_finishReferenced hrefusal now hheader

/-- Every look comes to the refusal, and nothing changes. -/
theorem toStep_of_refusal? {r : Result FrameError FrameOutcome} (h : d.refusal? = some r)
    (now : Readings) :
    (d.parse now).result ≠ .ok none ∧ (d.parse now).toStep = ⟨r, d, []⟩ := by
  have hlooked := looked_parse now d
  generalize d.parse now = p at hlooked ⊢
  cases hlooked with
  | waits hfree =>
    rw [h] at hfree
    cases hfree
  | refused e hrefused =>
    rw [h] at hrefused
    cases hrefused
    exact ⟨nofun, rfl⟩
  | panicked message hrefused =>
    rw [h] at hrefused
    cases hrefused
    exact ⟨nofun, rfl⟩
  | took _ hfree =>
    rw [h] at hfree
    cases hfree

/-- A refusal is not over with its frame. -/
theorem isLocal_of_refusal? {r : Result FrameError FrameOutcome} (h : d.refusal? = some r) :
    r.isLocal = false := by
  unfold refusal? at h
  split at h
  · cases h
  · split at h
    · split at h
      · cases h
        rfl
      · split at h
        · cases h
          rfl
        · cases h
    · cases h

/-- Nothing changes as long as there is no frame. -/
theorem parse_of_result {now : Readings} (hnone : (d.parse now).result = .ok none) :
    d.parse now = ⟨.ok none, d, []⟩ := by
  have hlooked := looked_parse now d
  generalize d.parse now = p at hlooked hnone ⊢
  cases hlooked with
  | waits => rfl
  | refused | panicked => cases hnone
  | took _ _ hsome => exact absurd hnone hsome

theorem Parsed.isLocal_toStep (p : Parsed) : p.toStep.result.isLocal = p.result.isLocal := by
  unfold Parsed.toStep
  cases p.result <;> rfl

/-- What is not only about its frame is a refusal, and the frame is still held. -/
theorem refusal?_of_parse {now : Readings} (hspoils : (d.parse now).result.isLocal = false) :
    d.refusal? = some (d.parse now).toStep.result ∧ (d.parse now).deframer = d := by
  have hlooked := looked_parse now d
  generalize d.parse now = p at hlooked hspoils ⊢
  cases hlooked with
  | waits => cases hspoils
  | refused _ hrefused | panicked _ hrefused => exact ⟨hrefused, rfl⟩
  | took _ _ _ hlocal =>
    rw [hlocal] at hspoils
    cases hspoils

end Deframer

end Framecast
