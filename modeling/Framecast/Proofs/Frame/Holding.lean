import Framecast.Proofs.Frame.Grammar

/-!
# What a deframer holds

A deframer holds a stretch of a stream if its bytes and its pending descriptors are those of the
stretch. `parse` then does what the grammar says of the stretch, and what `wanted` asks for never
goes beyond the end of the current frame.
-/

namespace Framecast

namespace Deframer

/-- The deframer holds exactly this stretch, and accepts inline payloads up to the limit. -/
structure Holds (limit : Word) (held : Stretch) (d : Deframer) : Prop where
  limit : d.config.maxInline = limit
  bytes : d.buffered = held.bytes
  pending : d.pending = held.descriptors

variable {limit : Word} {held : Stretch} {d : Deframer}

namespace Holds

theorem length_eq (hd : d.Holds limit held) : d.backlog.length = held.length := by
  rw [← Backlog.length_toBytes, ← Stretch.length_bytes, ← hd.bytes, buffered]

theorem header?_eq (hd : d.Holds limit held) : d.header? = Header.decode? held.bytes := by
  rw [header?, Backlog.take_eq, Header.decode?_take, ← hd.bytes, buffered]

theorem hasPartial_eq_false (hd : d.Holds limit []) : d.hasPartial = false := by
  simp [hasPartial, Backlog.isEmpty, hd.length_eq, hd.pending]

/-- What is received comes behind what is held. -/
theorem push (hd : d.Holds limit held) (chunk : Stretch) :
    (d.push chunk.bytes chunk.descriptors).Holds limit (held ++ chunk) := by
  refine ⟨hd.limit, ?_, ?_⟩
  · rw [Stretch.bytes_append, ← hd.bytes, buffered, buffered, Deframer.push,
      Backlog.toBytes_push]
  · rw [Stretch.descriptors_append, ← hd.pending, Deframer.push]

theorem reset (hd : d.Holds limit held) : d.reset.1.Holds limit [] :=
  ⟨hd.limit, rfl, rfl⟩

end Holds

/-- A deframer that holds no part of a frame. -/
theorem holds_nil (h : d.hasPartial = false) : d.Holds d.config.maxInline [] := by
  simp only [hasPartial, Backlog.isEmpty, Bool.or_eq_false_iff, Bool.not_eq_false',
    decide_eq_true_eq, List.isEmpty_iff] at h
  obtain ⟨hlength, hpending⟩ := h
  refine ⟨rfl, ?_, hpending⟩
  rw [buffered, Stretch.bytes_nil, ← List.length_eq_zero_iff, Backlog.length_toBytes, hlength]

/-! ### Completing a frame -/

/-- Telling the time of a frame changes nothing that is held. -/
theorem presentation_keeps (now : Readings) (timestamp : Word) (d : Deframer) :
    (d.presentation now timestamp).2.config = d.config ∧
      (d.presentation now timestamp).2.backlog = d.backlog ∧
      (d.presentation now timestamp).2.pending = d.pending ∧
      (d.presentation now timestamp).2.stream = d.stream := by
  unfold presentation
  split
  · exact ⟨rfl, rfl, rfl, rfl⟩
  · dsimp only
    split
    · exact ⟨rfl, rfl, rfl, rfl⟩
    · split <;> exact ⟨rfl, rfl, rfl, rfl⟩

theorem Holds.finish (hd : d.Holds limit held) (now : Readings) (h : Header) (memory : Memory) :
    (d.finish now h memory).deframer.Holds limit held := by
  obtain ⟨hconfig, hbacklog, hpending, -⟩ := presentation_keeps now h.captureTimestamp d
  refine ⟨?_, ?_, ?_⟩
  · exact (congrArg (·.maxInline) hconfig).trans hd.limit
  · exact (congrArg Backlog.toBytes hbacklog).trans hd.bytes
  · exact hpending.trans hd.pending

/-- A whole inline frame is told as the grammar says, and what is behind it is held. -/
theorem finishInline_event (hd : d.Holds limit held) (now : Readings) (h : Header) (size : Nat)
    (hclean : Stretch.descriptors (held.drop (Header.length + size)) = []) :
    Event.ofResult? (d.finishInline now h size).toStep.result =
        some (Grammar.inlineEvent h (held.take (Header.length + size))) ∧
      (d.finishInline now h size).deframer.Holds limit (held.drop (Header.length + size)) := by
  have hstrays : d.pending = Stretch.descriptors (held.take (Header.length + size)) := by
    have hall := Stretch.descriptors_take_append_drop (Header.length + size) held
    rw [hd.pending, ← hall, hclean, List.append_nil]
  have hpayload : d.backlog.slice Header.length size =
      (Stretch.bytes (held.take (Header.length + size))).drop Header.length := by
    have hbytes : d.backlog.toBytes = held.bytes := hd.bytes
    rw [Backlog.slice_eq, hbytes, Bytes.slice, Stretch.bytes_take, List.drop_take]
    congr 1
    omega
  have hrest : Holds limit (held.drop (Header.length + size))
      { d with backlog := d.backlog.drop (Header.length + size), pending := [] } := by
    refine ⟨hd.limit, ?_, hclean.symm⟩
    have hbytes : d.backlog.toBytes = held.bytes := hd.bytes
    rw [buffered, Backlog.toBytes_drop, Stretch.bytes_drop, hbytes]
  unfold finishInline Grammar.inlineEvent
  rw [← hstrays, ← hpayload]
  dsimp only
  by_cases hempty : d.pending = []
  · rw [if_pos (by simp [hempty]), if_pos hempty]
    exact ⟨rfl, hrest.finish now h _⟩
  · rw [if_neg (by simpa using hempty), if_neg hempty]
    exact ⟨rfl, hrest⟩

/-- The event of a referenced frame, by what became of its region. -/
def regionEvent (h : Header) : Except Corruption Region → Event
  | .error c => .corrupt c
  | .ok r => .frame h (.region r)

theorem regionEvent_region (h : Header) (frame : Stretch) :
    regionEvent h (region h frame.descriptors) = Grammar.referencedEvent h frame := by
  unfold region Grammar.referencedEvent
  match frame.descriptors with
  | [] => rfl
  | _ :: _ :: _ => rfl
  | [d] =>
    dsimp only
    cases hend : h.payloadEnd? with
    | none =>
      have hge : ¬ h.payloadOffset.toNat + h.payloadSize.toNat < 0x10000000000000000 := by
        intro hlt
        rw [Header.payloadEnd?, Word.add?, if_pos hlt] at hend
        cases hend
      rw [if_pos (by omega)]
      rfl
    | some finish =>
      have hsum := Word.add?_eq_some_iff.mp hend
      have hfin := finish.toNat_lt
      have hword : UInt64.ofNat (h.payloadOffset.toNat + h.payloadSize.toNat) = finish := by
        rw [hsum, UInt64.ofNat_toNat]
      rw [if_neg (by omega), hword]
      dsimp only
      by_cases hshort : d.fileSize < finish
      · have := UInt64.lt_iff_toNat_lt.mp hshort
        rw [if_pos hshort, if_pos (by omega)]
        rfl
      · have hle : ¬ d.fileSize.toNat < finish.toNat := fun hlt =>
          hshort (UInt64.lt_iff_toNat_lt.mpr hlt)
        rw [if_neg hshort, if_neg (by omega)]
        rfl

theorem eq_of_region {h : Header} {ds : List Descriptor} {r : Region} (hr : region h ds = .ok r) :
    ds = [r.descriptor] := by
  unfold region at hr
  split at hr
  · split at hr
    · cases hr
    · dsimp only at hr
      split at hr
      · cases hr
      · cases hr
        rfl
  · cases hr

/-- A referenced frame is told as the grammar says, and nothing is left. -/
theorem finishReferenced_event (hd : d.Holds limit held) (now : Readings) (h : Header)
    (hlen : held.length = Header.length) :
    Event.ofResult? (d.finishReferenced now h).toStep.result =
        some (Grammar.referencedEvent h held) ∧
      (d.finishReferenced now h).deframer.Holds limit [] := by
  have htrailing : d.backlog.length - Header.length = 0 := by
    rw [hd.length_eq, hlen, Nat.sub_self]
  have hrest : Holds limit [] { d with backlog := .empty, pending := [] } := ⟨hd.limit, rfl, rfl⟩
  unfold finishReferenced
  rw [← regionEvent_region, ← hd.pending]
  dsimp only
  rw [if_neg (by simp [htrailing])]
  cases region h d.pending with
  | error c => exact ⟨rfl, hrest⟩
  | ok r => exact ⟨rfl, hrest.finish now h _⟩

/-! ### Looking for a frame -/

theorem add?_length {h : Header}
    (hsize : Header.length + h.payloadSize.toNat < 0x10000000000000000) :
    ∃ total, Word.add? 24 h.payloadSize = some total ∧
      total.toNat = Header.length + h.payloadSize.toNat := by
  have h24 : (24 : Word).toNat = 24 := rfl
  simp only [Header.length] at hsize ⊢
  refine ⟨24 + h.payloadSize, ?_, ?_⟩
  · rw [Word.add?, if_pos (by omega)]
  · rw [UInt64.toNat_add]
    omega

/-- Where the grammar sees a fragment, nothing is found. -/
theorem parse_fragment (hd : d.Holds limit held) (hsized : Grammar.Sized limit held)
    (hlead : Grammar.lead limit held = .fragment) (now : Readings) :
    d.parse now = ⟨.ok none, d, []⟩ := by
  unfold Grammar.lead at hlead
  unfold parse
  rw [hd.header?_eq]
  cases heq : Header.decode? held.bytes with
  | none => rfl
  | some h =>
    rw [heq] at hlead
    dsimp only at hlead ⊢
    split at hlead
    · rename_i hinl
      rw [if_pos hinl, hd.limit]
      split at hlead
      · cases hlead
      · rename_i hle
        obtain ⟨total, hadd, htotal⟩ := add?_length (hsized h heq hinl hle)
        rw [if_neg hle, hadd]
        dsimp only
        split at hlead
        · rw [if_pos (by rw [hd.length_eq, htotal]; assumption)]
        · cases hlead
    · cases hlead

/-- Where the grammar sees a header that is too large, the parse fails and keeps it. -/
theorem parse_oversized (hd : d.Holds limit held) {size : Word}
    (hlead : Grammar.lead limit held = .oversized size) (now : Readings) :
    d.parse now = ⟨.error (.payloadTooLarge size limit), d, []⟩ := by
  unfold Grammar.lead at hlead
  unfold parse
  rw [hd.header?_eq]
  cases heq : Header.decode? held.bytes with
  | none =>
    rw [heq] at hlead
    cases hlead
  | some h =>
    rw [heq] at hlead
    dsimp only at hlead ⊢
    split at hlead
    · rename_i hinl
      rw [if_pos hinl, hd.limit]
      split at hlead
      · rename_i hlt
        cases hlead
        rw [if_pos hlt]
      · split at hlead <;> cases hlead
    · cases hlead

/-- The first frame is whole. Nothing rides on the bytes behind it, and a header that refers to a
descriptor is the last that is held. -/
theorem parse_whole (hd : d.Holds limit held) (hsized : Grammar.Sized limit held)
    {e : Event} {n : Nat} (hlead : Grammar.lead limit held = .whole e n)
    (hclean : Stretch.descriptors (held.drop n) = [])
    (hsole : held.length = n ∨ ∃ h, Header.decode? held.bytes = some h ∧ h.isInline = true)
    (now : Readings) :
    Event.ofResult? (d.parse now).toStep.result = some e ∧
      (d.parse now).deframer.Holds limit (held.drop n) := by
  unfold Grammar.lead at hlead
  unfold parse
  rw [hd.header?_eq]
  cases heq : Header.decode? held.bytes with
  | none =>
    rw [heq] at hlead
    cases hlead
  | some h =>
    rw [heq] at hlead
    dsimp only at hlead ⊢
    split at hlead
    · rename_i hinl
      rw [if_pos hinl, hd.limit]
      split at hlead
      · cases hlead
      · rename_i hle
        obtain ⟨total, hadd, htotal⟩ := add?_length (hsized h heq hinl hle)
        rw [if_neg hle, hadd]
        dsimp only
        split at hlead
        · cases hlead
        · rename_i hge
          cases hlead
          rw [if_neg (by rw [hd.length_eq, htotal]; exact hge)]
          exact finishInline_event hd now h _ hclean
    · rename_i hinl
      cases hlead
      have hlen : held.length = Header.length := by
        rcases hsole with hlen | ⟨h', heq', hinl'⟩
        · exact hlen
        · rw [heq] at heq'
          cases heq'
          exact absurd hinl' hinl
      rw [if_neg hinl, List.take_of_length_le (Nat.le_of_eq hlen),
        List.drop_of_length_le (Nat.le_of_eq hlen)]
      exact finishReferenced_event hd now h hlen

/-- All that looking for a frame can do. -/
inductive Found (now : Readings) (d : Deframer) : Parsed → Prop
  | nothing : Found now d ⟨.ok none, d, []⟩
  | refused (e : FrameError) (hlasting : ∀ c, e ≠ .corrupt c) : Found now d ⟨.error e, d, []⟩
  | panicked (message : String) : Found now d ⟨.panic message, d, []⟩
  | corrupt (c : Corruption) (backlog : Backlog) :
      Found now d ⟨.error (.corrupt c), { d with backlog := backlog, pending := [] }, d.pending⟩
  | inlined (h : Header) (payload : Bytes) (backlog : Backlog) (hinline : h.isInline = true)
      (hempty : d.pending = []) :
      Found now d (finish now h (.heap payload) { d with backlog := backlog, pending := [] })
  | referenced (h : Header) (r : Region) (backlog : Backlog) (hinline : h.isInline = false)
      (hone : d.pending = [r.descriptor]) :
      Found now d (finish now h (.region r) { d with backlog := backlog, pending := [] })

theorem found_finishInline (now : Readings) {h : Header} (hinline : h.isInline = true) (size : Nat)
    (d : Deframer) : Found now d (d.finishInline now h size) := by
  unfold finishInline
  dsimp only
  split
  · rename_i hnone
    exact .inlined h _ _ hinline (List.isEmpty_iff.mp hnone)
  · exact .corrupt _ _

theorem found_finishReferenced (now : Readings) {h : Header} (hinline : ¬h.isInline = true)
    (d : Deframer) : Found now d (d.finishReferenced now h) := by
  unfold finishReferenced
  dsimp only
  split
  · exact .corrupt _ _
  · split
    · exact .corrupt _ _
    · rename_i r hregion
      exact .referenced h r _ (by simpa using hinline) (eq_of_region hregion)

/-- Whatever is held, a parse finds one of the things that `Found` lists. -/
theorem found_parse (now : Readings) (d : Deframer) : Found now d (d.parse now) := by
  unfold parse
  cases d.header? with
  | none => exact .nothing
  | some h =>
    dsimp only
    split
    · rename_i hinline
      split
      · exact .refused _ nofun
      · split
        · exact .panicked _
        · split
          · exact .nothing
          · exact found_finishInline now hinline _ d
    · rename_i hinline
      exact found_finishReferenced now hinline d

/-- A parse changes neither the limits nor the stream. -/
theorem parse_keeps (now : Readings) (d : Deframer) :
    (d.parse now).deframer.config = d.config ∧ (d.parse now).deframer.stream = d.stream := by
  have hfinish (h : Header) (memory : Memory) (d' : Deframer) :
      (d'.finish now h memory).deframer.config = d'.config ∧
        (d'.finish now h memory).deframer.stream = d'.stream := by
    obtain ⟨hconfig, -, -, hstream⟩ := presentation_keeps now h.captureTimestamp d'
    exact ⟨hconfig, hstream⟩
  have hfound := found_parse now d
  generalize d.parse now = parsed at hfound ⊢
  cases hfound with
  | nothing | refused | panicked | corrupt => exact ⟨rfl, rfl⟩
  | inlined | referenced => exact hfinish ..

theorem stream_parse (now : Readings) (d : Deframer) :
    (d.parse now).deframer.stream = d.stream :=
  (parse_keeps now d).2

/-! ### Asking for bytes -/

/-- Without a whole header, the rest of it is wanted. -/
theorem wanted_of_short (hd : d.Holds limit held) (heq : Header.decode? held.bytes = none) :
    d.wanted = Header.length - held.length := by
  rw [wanted, hd.header?_eq, heq]
  dsimp only
  rw [hd.length_eq]

/-- Of an inline frame everything that is missing is asked for, in exact numbers but for the clipped
end of the frame. -/
theorem wanted_clipped {h : Header} (hheader : d.header? = some h) (hinl : h.isInline = true)
    (hlen : d.backlog.length < 0x10000000000000000) :
    d.wanted = min (min h.span 0xffffffffffffffff - d.backlog.length) readChunk := by
  have h24 : (24 : Word).toNat = Header.length := rfl
  have hspan : h.span = Header.length + h.payloadSize.toNat := if_pos hinl
  rw [wanted, hheader]
  dsimp only
  rw [if_pos hinl, Word.toNat_satSub, Word.toNat_satAdd, UInt64.toNat_ofNat_of_lt' hlen, h24, hspan]

/-- Behind an inline header, the rest of its payload is wanted, one chunk at most. -/
theorem wanted_of_inline (hd : d.Holds limit held) {h : Header}
    (heq : Header.decode? held.bytes = some h) (hinl : h.isInline = true)
    (hsize : Header.length + h.payloadSize.toNat < 0x10000000000000000)
    (hlen : held.length < 0x10000000000000000) :
    d.wanted = min (Header.length + h.payloadSize.toNat - held.length) readChunk := by
  have hspan : h.span = Header.length + h.payloadSize.toNat := if_pos hinl
  rw [← hd.length_eq] at hlen
  rw [wanted_clipped (hd.header?_eq.trans heq) hinl hlen, hspan, hd.length_eq]
  omega

/-- As long as the current frame is not whole, at least one byte is asked for, and never more than
the frame lacks. -/
theorem wanted_of_fragment (hd : d.Holds limit held) (hsized : Grammar.Sized limit held)
    (hlead : Grammar.lead limit held = .fragment) :
    0 < d.wanted ∧ ∀ chunk : Stretch, chunk.length ≤ d.wanted →
      Grammar.WithinFrame limit (held ++ chunk) := by
  cases heq : Header.decode? held.bytes with
  | none =>
    have hlt := Header.decode?_eq_none_iff.mp heq
    rw [Stretch.length_bytes] at hlt
    rw [wanted_of_short hd heq]
    refine ⟨by omega, ?_⟩
    intro chunk hchunk e n hwhole
    obtain ⟨hge, hle⟩ := Grammar.length_of_lead hwhole
    rw [List.length_append] at hle ⊢
    omega
  | some h =>
    rw [Grammar.lead, heq] at hlead
    dsimp only at hlead
    split at hlead
    · rename_i hinl
      split at hlead
      · cases hlead
      · rename_i hle
        split at hlead
        · rename_i hshort
          obtain ⟨total, -, htotal⟩ := add?_length (hsized h heq hinl hle)
          have hword := total.toNat_lt
          rw [htotal] at hword
          rw [wanted_of_inline hd heq hinl hword (Nat.lt_trans hshort hword)]
          refine ⟨by simp only [readChunk]; omega, ?_⟩
          intro chunk hchunk e n hwhole
          have hn := (Grammar.length_of_lead hwhole).2
          rw [Grammar.lead, Stretch.bytes_append, Header.decode?_append heq] at hwhole
          dsimp only at hwhole
          rw [if_pos hinl, if_neg hle] at hwhole
          split at hwhole
          · cases hwhole
          · cases hwhole
            rw [List.length_append] at hn ⊢
            omega
        · cases hlead
    · cases hlead

end Deframer

end Framecast
